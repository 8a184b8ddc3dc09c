import Mathlib.Algebra.Group.Nat.Defs
import Mathlib.Data.List.Basic
import TableFlow.Decimal.Text

namespace TableFlow

def IsDigits (text : List Char) : Prop := text ≠ [] ∧ ∀ c ∈ text, c.isDigit = true

-- Digits, and more of them behind a point or no point at all.
def IsUnsigned (text : List Char) : Prop :=
  ∃ whole fraction, IsDigits whole ∧ text = whole ++ fraction ∧
    (fraction = [] ∨ ∃ digits, IsDigits digits ∧ fraction = '.' :: digits)

def IsNumeral (text : List Char) : Prop :=
  IsUnsigned text ∨ ∃ rest, IsUnsigned rest ∧ text = '-' :: rest

theorem IsDigits.isUnsigned {text : List Char} (h : IsDigits text) : IsUnsigned text :=
  ⟨text, [], h, (List.append_nil text).symm, .inl rfl⟩

theorem IsUnsigned.exists_digit {text : List Char} (h : IsUnsigned text) :
    ∃ c rest, text = c :: rest ∧ c.isDigit = true := by
  obtain ⟨whole, fraction, hwhole, rfl, -⟩ := h
  obtain ⟨c, rest, rfl⟩ := List.exists_cons_of_ne_nil hwhole.1
  exact ⟨c, rest ++ fraction, rfl, hwhole.2 c (List.mem_cons_self ..)⟩

theorem isDigits_repr (n : Nat) : IsDigits (toString n).toList := by
  rw [Nat.toString_eq_repr, Nat.toList_repr]
  exact ⟨Nat.toDigits_ne_nil, fun c hc => Nat.isDigit_of_mem_toDigits (by decide) (by decide) hc⟩

theorem toList_pushn (text : String) (c : Char) (n : Nat) :
    (text.pushn c n).toList = text.toList ++ List.replicate n c := by
  rw [String.pushn_eq_repeat_push]
  induction n with
  | zero => simp [Nat.repeat]
  | succ n ih =>
      rw [Nat.repeat, String.toList_push, ih, List.append_assoc, List.replicate_succ']

theorem Integer.text_eq (a : Int64) :
    text a = (if decide (a.toInt < 0) then "-" else "") ++ toString a.toInt.natAbs := by
  rw [text]
  cases a.toInt with
  | ofNat n =>
      have hsign : ¬ Int.ofNat n < 0 := Int.not_lt.mpr (Int.natCast_nonneg n)
      rw [decide_eq_false hsign]
      exact (String.empty_append).symm
  | negSucc n =>
      rw [decide_eq_true (Int.negSucc_lt_zero n)]
      rfl

theorem Integer.isNumeral_text (a : Int64) : IsNumeral (Integer.text a).toList := by
  have hdigits := (isDigits_repr a.toInt.natAbs).isUnsigned
  rw [text_eq]
  split
  next => exact .inr ⟨_, hdigits, String.toList_append⟩
  next =>
    rw [String.empty_append]
    exact .inl hdigits

namespace Decimal

theorem ofDigits_append (a b : List Char) : Integer.ofDigits (a ++ b) =
    Integer.ofDigits a * 10 ^ b.length + Integer.ofDigits b := by
  have happend : Integer.ofDigits (a ++ b) = Nat.ofDigitChars 10 b (Integer.ofDigits a) :=
    Nat.ofDigitChars_append 0
  rw [happend, Nat.ofDigitChars_eq_ofDigitChars_zero, Nat.mul_comm]
  rfl

theorem ofDigits_zeros (n : Nat) : Integer.ofDigits (List.replicate n '0') = 0 :=
  Nat.ofDigitChars_replicate_zero

theorem ofDigits_repr (n : Nat) : Integer.ofDigits (toString n).toList = n := by
  rw [Nat.toString_eq_repr, Nat.toList_repr]
  exact Nat.ofDigitChars_ten_toDigits

-- The digits in front of the point and those behind it, where there is a place for every power of
-- ten that the exponent is below zero. Read together they are the digits, and zeros for an exponent
-- above zero.
theorem exists_positional (d : Digits) : ∃ whole fraction : List Char, IsDigits whole ∧
    (∀ c ∈ fraction, c.isDigit = true) ∧
    d.positional.toList = whole ++ (if fraction = [] then [] else '.' :: fraction) ∧
    fraction.length = (-d.exponent).toNat ∧
    Integer.ofDigits (whole ++ fraction) = d.digits * 10 ^ d.exponent.toNat := by
  have hdigits := isDigits_repr d.digits
  have hzeros (n : Nat) : ∀ c ∈ List.replicate n '0', c.isDigit = true := by
    intro c hc
    obtain ⟨-, rfl⟩ := List.mem_replicate.mp hc
    decide
  rw [Digits.positional]
  dsimp only
  split
  next hexponent =>
    refine ⟨(toString d.digits).toList ++ List.replicate d.exponent.toNat '0', [],
      ⟨by simp, fun c hc => ?_⟩, by simp, ?_, ?_, ?_⟩
    · exact (List.mem_append.mp hc).elim (hdigits.2 c) (hzeros _ c)
    · rw [String.toList_append, toList_pushn]
      simp
    · rw [List.length_nil]
      omega
    · rw [List.append_nil, ofDigits_append, ofDigits_repr, ofDigits_zeros, List.length_replicate,
        Nat.add_zero]
  next hexponent =>
    -- There are more digits than places behind the point, which are at least one.
    generalize hplaces : (-d.exponent).toNat = places
    generalize hpadded : "".pushn '0' (places + 1 - (toString d.digits).length) ++
      toString d.digits = padded
    have hlist : padded.toList =
        List.replicate (places + 1 - (toString d.digits).length) '0' ++
          (toString d.digits).toList := by
      rw [← hpadded, String.toList_append, toList_pushn, String.toList_empty, List.nil_append]
    have hlength : places < padded.toList.length := by
      rw [hlist, List.length_append, List.length_replicate, String.length_toList]
      omega
    have hall : ∀ c ∈ padded.toList, c.isDigit = true := by
      rw [hlist]
      intro c hc
      exact (List.mem_append.mp hc).elim (hzeros _ c) (hdigits.2 c)
    rw [← String.length_toList]
    have hfraction : (padded.toList.drop (padded.toList.length - places)).length = places := by
      rw [List.length_drop]
      omega
    refine ⟨padded.toList.take (padded.toList.length - places),
      padded.toList.drop (padded.toList.length - places),
      ⟨?_, fun c hc => hall c (List.mem_of_mem_take hc)⟩,
      fun c hc => hall c (List.mem_of_mem_drop hc), ?_, hfraction, ?_⟩
    · rw [Ne, List.take_eq_nil_iff]
      rintro (h | h)
      · omega
      · simp [h] at hlength
    · rw [if_neg]
      · simp only [String.toList_append, String.toList_ofList, List.append_assoc]
        rfl
      · intro h
        rw [h, List.length_nil] at hfraction
        omega
    · have hzero : d.exponent.toNat = 0 := by omega
      rw [List.take_append_drop, hlist, ofDigits_append, ofDigits_zeros, ofDigits_repr, hzero]
      simp

theorem isUnsigned_positional (d : Digits) : IsUnsigned d.positional.toList := by
  obtain ⟨whole, fraction, hwhole, hfraction, htext, -, -⟩ := exists_positional d
  refine ⟨whole, _, hwhole, htext, ?_⟩
  split
  next => exact .inl rfl
  next hne => exact .inr ⟨fraction, ⟨hne, hfraction⟩, rfl⟩

-- The text of a decimal is a number exactly if the decimal is finite.
theorem isNumeral_text_iff (d : Decimal) : IsNumeral d.text.toList ↔ d.isFinite = true := by
  have hletters {text : List Char} {c : Char} (h : text.head? = some c) (hminus : c ≠ '-')
      (hdigit : c.isDigit = false) : ¬ IsNumeral text := by
    rintro (hunsigned | ⟨rest, -, rfl⟩)
    · obtain ⟨c', rest, rfl, hc'⟩ := hunsigned.exists_digit
      obtain rfl : c' = c := by simpa using h
      simp [hc'] at hdigit
    · exact hminus (by simpa using h.symm)
  cases d with
  | nan =>
      refine iff_of_false ?_ (by simp [isFinite])
      have hnan : ¬ IsNumeral "NaN".toList :=
        hletters (c := 'N') (by decide) (by decide) (by decide)
      exact hnan
  | infinite negative =>
      refine iff_of_false ?_ (by simp [isFinite])
      have hinf : ¬ IsNumeral "inf".toList :=
        hletters (c := 'i') (by decide) (by decide) (by decide)
      cases negative with
      | false => exact hinf
      | true =>
          rintro (hunsigned | ⟨rest, hunsigned, htext⟩)
          · obtain ⟨c, rest, htext, hc⟩ := hunsigned.exists_digit
            obtain rfl : '-' = c := (List.cons.inj htext).1
            exact absurd hc (by decide)
          · obtain rfl : "inf".toList = rest := (List.cons.inj htext).2
            exact hinf (.inl hunsigned)
  | finite negative m e h =>
      refine iff_of_true ?_ rfl
      have hunsigned : IsUnsigned
          (if m = 0 then "0" else (shortest double .greater m e).positional).toList := by
        split
        · exact (isDigits_repr 0).isUnsigned
        · exact isUnsigned_positional _
      cases negative with
      | false => exact .inl (by simpa [text, render, Style.plain] using hunsigned)
      | true => exact .inr ⟨_, hunsigned, by simp [text, render, Style.plain]⟩

end Decimal

end TableFlow

import TableFlow.Proofs.Decimal.Notation
import TableFlow.Proofs.Decimal.Shortest
import TableFlow.Proofs.Text.Runs

namespace TableFlow

-- The digits in front of a point, and whatever follows them, can be told from the text.
theorem append_inj_of_digits {whole whole' tail tail' : List Char} (h : IsDigits whole)
    (h' : IsDigits whole') (htail : ∀ c ∈ tail.head?, c.isDigit = false)
    (htail' : ∀ c ∈ tail'.head?, c.isDigit = false) (heq : whole ++ tail = whole' ++ tail') :
    whole = whole' ∧ tail = tail' := by
  have hwhole : whole = whole' := by
    rw [← Text.takeWhile_append_of_head? h.2 htail, heq,
      Text.takeWhile_append_of_head? h'.2 htail']
  exact ⟨hwhole, List.append_cancel_left (hwhole ▸ heq)⟩

-- A sign is not a digit, so the text says whether there is one.
theorem sign_inj {negative negative' : Bool} {text text' : String} (h : IsUnsigned text.toList)
    (h' : IsUnsigned text'.toList)
    (heq : (if negative then "-" else "") ++ text = (if negative' then "-" else "") ++ text') :
    negative = negative' ∧ text = text' := by
  have hsign {text text' : String} (h' : IsUnsigned text'.toList) : "-" ++ text ≠ "" ++ text' := by
    intro h
    obtain ⟨c, rest, hc, hdigit⟩ := h'.exists_digit
    rw [String.empty_append] at h
    rw [← h, String.toList_append] at hc
    obtain rfl : '-' = c := (List.cons.inj hc).1
    exact absurd hdigit (by decide)
  cases negative <;> cases negative'
  · exact ⟨rfl, (String.append_right_inj "").mp heq⟩
  · exact absurd heq.symm (hsign h)
  · exact absurd heq (hsign h')
  · exact ⟨rfl, (String.append_right_inj "-").mp heq⟩

-- Words are told apart by their texts.
theorem Integer.text_inj {a b : Int64} : text a = text b ↔ a = b := by
  refine ⟨fun h => ?_, congrArg text⟩
  rw [text_eq, text_eq] at h
  obtain ⟨hsign, habs⟩ := sign_inj (isDigits_repr _).isUnsigned (isDigits_repr _).isUnsigned h
  have hdigits := congrArg (fun text => Integer.ofDigits text.toList) habs
  simp only [Decimal.ofDigits_repr] at hdigits
  rw [decide_eq_decide] at hsign
  exact Int64.toInt_inj.mp (by omega)

namespace Decimal

theorem Digits.value_eq (d : Digits) : d.value =
    (d.digits * 10 ^ d.exponent.toNat : Nat) / (10 : ℚ) ^ (-d.exponent).toNat := by
  rw [value, zpow_eq_div (by norm_num)]
  push_cast
  ring

theorem value_eq_of_positional {d d' : Digits} (h : d.positional = d'.positional) :
    d.value = d'.value := by
  obtain ⟨whole, fraction, hwhole, -, htext, hlength, hdigits⟩ := exists_positional d
  obtain ⟨whole', fraction', hwhole', -, htext', hlength', hdigits'⟩ := exists_positional d'
  have hhead (fraction : List Char) :
      ∀ c ∈ (if fraction = [] then [] else '.' :: fraction).head?, c.isDigit = false := by
    intro c hc
    split at hc <;> cases hc
    decide
  rw [h, htext'] at htext
  obtain ⟨rfl, htail⟩ := append_inj_of_digits hwhole' hwhole (hhead _) (hhead _) htext
  have hfraction : fraction' = fraction := by
    split at htail <;> split at htail <;> simp_all
  rw [Digits.value_eq, Digits.value_eq, ← hdigits, ← hdigits', ← hlength, ← hlength', hfraction]

-- The digits with which a finite decimal is written.
def shown (m : Nat) (e : Int) : Digits := if m = 0 then ⟨0, 0⟩ else shortest double .greater m e

theorem text_finite (negative : Bool) (m : Nat) (e : Int) (h : Canonical m e) :
    (finite negative m e h).text = (if negative then "-" else "") ++ (shown m e).positional := by
  rw [text, render, shown]
  by_cases hm : m = 0
  · rw [if_pos hm, if_pos hm]
    rfl
  · rw [if_neg hm, if_neg hm]
    rfl

theorem holds_shown {m : Nat} {e : Int} (hc : Canonical m e) :
    (neighbourhood double m e).Holds (shown m e).value := by
  rw [shown]
  split
  next hm =>
    subst hm
    refine ⟨?_, ?_, fun hopen => ?_⟩
    · simp [neighbourhood, Digits.value]
    · simp [neighbourhood, Digits.value]
    · simp [neighbourhood] at hopen
  next hm => exact holds_shortest .greater hc hm

-- Finite decimals are told apart by their texts.
theorem text_inj {d d' : Decimal} (hd : d.isFinite = true) (hd' : d'.isFinite = true) :
    d.text = d'.text ↔ d = d' := by
  refine ⟨fun h => ?_, congrArg text⟩
  cases d with
  | nan => cases hd
  | infinite => cases hd
  | finite negative m e hc =>
      cases d' with
      | nan => cases hd'
      | infinite => cases hd'
      | finite negative' m' e' hc' =>
          rw [text_finite, text_finite] at h
          obtain ⟨rfl, hpositional⟩ :=
            sign_inj (isUnsigned_positional _) (isUnsigned_positional _) h
          obtain ⟨rfl, rfl⟩ := eq_of_holds hc hc' (holds_shown hc)
            (value_eq_of_positional hpositional ▸ holds_shown hc')
          rfl

end Decimal

end TableFlow

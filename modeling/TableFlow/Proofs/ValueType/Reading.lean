import TableFlow.Evaluation.Basic
import TableFlow.Proofs.Decimal.Reading
import TableFlow.Proofs.Expression.Outcome
import TableFlow.Proofs.ValueType

namespace TableFlow

open Decimal (RoundsTo Spelling signed)

namespace ValueType

variable {text : String} {v : Value}

-- Numbers are read without a violation.
theorem ofText?_eq_ok_some_iff {p : Primitive} (hp : p ≠ .cellRange) :
    (primitive p).ofText? text = .ok (some v) ↔ p.literal? text = some v := by
  rw [ofText?, Primitive.ofText?_of_ne hp]
  exact ⟨Except.ok.inj, congrArg Except.ok⟩

theorem ofText?_integer_iff : (primitive .integer).ofText? text = .ok (some v) ↔
    ∃ n sign digits, v = .integer n ∧ text.toList = sign ++ digits ∧ IsSign sign ∧ IsDigits digits ∧
      n.toInt = signed (decide (sign = ['-'])) (Integer.ofDigits digits) := by
  rw [ofText?_eq_ok_some_iff (by decide), Primitive.literal?, Option.map_eq_some_iff]
  constructor
  · rintro ⟨n, hn, rfl⟩
    obtain ⟨sign, digits, hread⟩ := Integer.ofText?_eq_some_iff.mp hn
    exact ⟨n, sign, digits, rfl, hread⟩
  · rintro ⟨n, sign, digits, rfl, hread⟩
    exact ⟨n, Integer.ofText?_eq_some_iff.mpr ⟨sign, digits, hread⟩, rfl⟩

theorem ofText?_decimal_iff : (primitive .decimal).ofText? text = .ok (some v) ↔
    ∃ d w, v = .decimal d ∧ text.toList = Spelling.chars w ∧ RoundsTo w.value d ∧
      d.isNegative = w.negative := by
  rw [ofText?_eq_ok_some_iff (by decide), Primitive.literal?, Option.map_eq_some_iff]
  constructor
  · rintro ⟨d, hd, rfl⟩
    obtain ⟨w, hread⟩ := Decimal.ofText?_eq_some_iff.mp hd
    exact ⟨d, w, rfl, hread⟩
  · rintro ⟨d, w, rfl, hread⟩
    exact ⟨d, Decimal.ofText?_eq_some_iff.mpr ⟨w, hread⟩, rfl⟩

theorem exists_ofText?_decimal_iff : (∃ v, (primitive .decimal).ofText? text = .ok (some v)) ↔
    ∃ w : Spelling, text.toList = w.chars ∧ |w.value| < Decimal.overflow := by
  rw [← Decimal.exists_ofText?_iff]
  constructor
  · rintro ⟨v, hv⟩
    obtain ⟨d, hd, -⟩ := Option.map_eq_some_iff.mp ((ofText?_eq_ok_some_iff (by decide)).mp hv)
    exact ⟨d, hd⟩
  · rintro ⟨d, hd⟩
    exact ⟨_, (ofText?_eq_ok_some_iff (by decide)).mpr (Option.map_eq_some_iff.mpr ⟨d, hd, rfl⟩)⟩

end ValueType

-- An operand that is an integer is written and read back; nothing is reported on the way.
theorem Expr.evaluate_asInteger_asText {strategy : Strategy} {scope : Scope} {e : Expr} {n : Int64}
    (inner outer : Location) (h : (e.evaluate strategy scope).value = some (.integer n)) :
    (unary .asInteger (unary .asText e inner) outer).evaluate strategy scope =
      e.evaluate strategy scope := by
  have htext : UnaryOp.apply .asText (.integer n) = .ok (.text (Integer.text n)) := by
    rw [UnaryOp.apply, Value.render]
  have hread : UnaryOp.apply .asInteger (.text (Integer.text n)) = .ok (.integer n) := by
    simp [UnaryOp.apply, Operator.readAs, Primitive.literal?, Integer.ofText?_text]
  rw [evaluate, evaluate]
  generalize e.evaluate strategy scope = operand at *
  obtain ⟨value, diagnostics⟩ := operand
  obtain rfl : value = some (.integer n) := h
  simp [Outcome.bind_eq, Outcome.bind, htext, hread, Outcome.report]

-- Integers and decimals are read exactly from their spellings, decimals as the nearest ones, with a
-- comma as with a point. Integers are read from their own texts, and what any type reads has the form
-- of the type, in which it stays. Reading is aborted for ranges only.
theorem ValueType.ofText?_denotes :
    (∀ text v, (primitive .integer).ofText? text = .ok (some v) ↔
      ∃ n sign digits, v = .integer n ∧ text.toList = sign ++ digits ∧ IsSign sign ∧
        IsDigits digits ∧ n.toInt = signed (decide (sign = ['-'])) (Integer.ofDigits digits)) ∧
    (∀ text v, (primitive .decimal).ofText? text = .ok (some v) ↔
      ∃ d w, v = .decimal d ∧ text.toList = Spelling.chars w ∧ RoundsTo w.value d ∧
        d.isNegative = w.negative) ∧
    (∀ text, (∃ v, (primitive .decimal).ofText? text = .ok (some v)) ↔
      ∃ w : Spelling, text.toList = w.chars ∧ |w.value| < 2 ^ 1024 - 2 ^ 970) ∧
    (∀ x d, RoundsTo x d → ∀ q : Decimal, q.isFinite = true → |x - d.value| ≤ |x - q.value|) ∧
    (∀ before after : String, (primitive .decimal).ofText? (before ++ "," ++ after) =
      (primitive .decimal).ofText? (before ++ "." ++ after)) ∧
    (∀ strategy scope e n inner outer, (Expr.evaluate strategy scope e).value = some (.integer n) →
      (Expr.unary .asInteger (.unary .asText e inner) outer).evaluate strategy scope =
        e.evaluate strategy scope) ∧
    (∀ (t : ValueType) text v, t.ofText? text = .ok (some v) →
      t.represents v = true ∧ t.normalize v = v) ∧
    (∀ (t : ValueType) text, t.primitive? ≠ some .cellRange → ∃ v?, t.ofText? text = .ok v?) := by
  refine ⟨fun text v => ofText?_integer_iff, fun text v => ofText?_decimal_iff,
    fun text => exists_ofText?_decimal_iff, fun x d h q hq => h.abs_sub_le hq,
    fun before after => ?_,
    fun strategy scope e n inner outer h => Expr.evaluate_asInteger_asText inner outer h,
    fun t text v h => ?_, fun t text h => exists_ofText? h text⟩
  · rw [ofText?, ofText?, Primitive.ofText?_of_ne (by decide), Primitive.ofText?_of_ne (by decide),
      Primitive.literal?, Primitive.literal?, Decimal.ofText?_comma]
  · have hv := represents_of_ofText? h
    exact ⟨hv, t.normalize_of_represents v hv⟩

-- One tenth is no decimal, so the nearest one is read.
theorem ValueType.ofText?_denotes_tenth :
    (primitive .decimal).ofText? "0,1" =
      .ok (some (.decimal (.finite false 7205759403792794 (-56) (by decide)))) ∧
    (∃ w, "0,1".toList = Spelling.chars w ∧ ∀ q : Decimal, q.isFinite = true →
      |w.value - (Decimal.finite false 7205759403792794 (-56) (by decide)).value| ≤
        |w.value - q.value|) ∧
    (primitive .integer).normalize (.integer (-17)) = .integer (-17) ∧
    (Expr.unary .asInteger (.unary .asText (.literal (.integer 7) .unknown) .unknown) .unknown).evaluate
      .lazy .empty = (Expr.literal (.integer 7) .unknown).evaluate .lazy .empty ∧
    ∃ v?, (primitive .decimal).ofText? "0,1,2" = .ok v? := by
  obtain ⟨-, hdecimal, -, hnearest, -, hwritten, hrepresents, hreads⟩ := ofText?_denotes
  have htenth : (primitive .decimal).ofText? "0,1" =
      .ok (some (.decimal (.finite false 7205759403792794 (-56) (by decide)))) := by
    have hd : Decimal.ofText? "0,1" = some (.finite false 7205759403792794 (-56) (by decide)) := by
      decide +kernel
    exact (ofText?_eq_ok_some_iff (by decide)).mpr (congrArg (Option.map Value.decimal) hd)
  refine ⟨htenth, ?_, ?_, ?_, hreads (primitive .decimal) "0,1,2" (by decide)⟩
  · obtain ⟨d, w, hd, hw, hrounds, -⟩ := (hdecimal "0,1" _).mp htenth
    cases hd
    exact ⟨w, hw, hnearest w.value _ hrounds⟩
  · exact (hrepresents (primitive .integer) "-17" (.integer (-17)) rfl).2
  · exact hwritten .lazy .empty (.literal (.integer 7) .unknown) 7 .unknown .unknown rfl

end TableFlow

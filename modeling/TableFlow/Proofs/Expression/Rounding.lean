import TableFlow.Proofs.Decimal.Round
import TableFlow.Proofs.Except
import TableFlow.Evaluation.Operator
import TableFlow.Table.Frame

namespace TableFlow

open Decimal (Misrounds)

namespace UnaryOp

-- The integer that an operator takes for a decimal.
def whole? : UnaryOp → Option (Decimal → Option Int)
  | .floor => some Decimal.floor?
  | .ceil => some Decimal.ceil?
  | .round => some Decimal.round?
  | _ => none

variable {op : UnaryOp} {whole : Decimal → Option Int} {d : Decimal}

theorem apply_eq_ok_iff (h : op.whole? = some whole) {n : Int64} :
    op.apply (.decimal d) = .ok (.integer n) ↔ whole d = some n.toInt ∧ n ≠ Int64.minValue := by
  rw [← Formula.roundedInteger?_eq_some_iff]
  have happly : op.apply (.decimal d) =
      Operator.integerResult (Formula.roundedInteger? (whole d)) := by
    cases op <;> cases h <;> rfl
  rw [happly]
  cases Formula.roundedInteger? (whole d) <;> simp [Operator.integerResult, Operator.fail]

-- On a column of decimals an operator takes the same integers, and null where there is none.
theorem evaluateSeries_whole (h : op.whole? = some whole) {f : Frame} {formula : Formula}
    {cells : List (Option Decimal)} (hcells : f.evaluateSeries formula = .ok ⟨.float64, cells⟩) :
    ∃ result, op.applySymbolic (.column formula) = .ok (.column result) ∧
      f.evaluateSeries result =
        .ok ⟨.int64, cells.map (·.bind fun d => Formula.roundedInteger? (whole d))⟩ := by
  obtain ⟨⟨type, datum⟩, hoperand, hseries⟩ := exists_of_bind hcells
  cases hseries
  have hunary (form : Formula.UnaryOp)
      (hform : Formula.evaluateUnary form ⟨.float64, datum⟩ =
        .ok (Formula.rounded whole (.decimals datum))) :
      f.evaluateSeries (.unary form formula) = .ok ⟨.int64, (datum.expand f.rowCount).map
        (·.bind fun d => Formula.roundedInteger? (whole d))⟩ := by
    rw [Frame.evaluate] at hoperand
    rw [Frame.evaluateSeries, Frame.evaluate, Formula.evaluate, hoperand,
      ← Formula.Datum.expand_map]
    exact congrArg (fun x => x.map (·.toSeries f.rowCount)) hform
  cases op <;> cases h
  · exact ⟨.unary .floor formula, rfl, hunary .floor rfl⟩
  · exact ⟨.unary .ceil formula, rfl, hunary .ceil rfl⟩
  · exact ⟨.unary .round formula, rfl, hunary .round rfl⟩

variable {f : Frame} {formula : Formula} {cells : List (Option Decimal)} {row : Nat}

theorem exists_series_whole (h : op.whole? = some whole)
    (hcells : f.evaluateSeries formula = .ok ⟨.float64, cells⟩)
    (hrow : cells[row]? = some (some d)) :
    ∃ result series, op.applySymbolic (.column formula) = .ok (.column result) ∧
      f.evaluateSeries result = .ok series ∧ ∀ n : Int64, series.value? row = some (.integer n) ↔
        whole d = some n.toInt ∧ n ≠ Int64.minValue := by
  obtain ⟨result, hresult, hseries⟩ := evaluateSeries_whole h hcells
  refine ⟨result, _, hresult, hseries, fun n => ?_⟩
  have hcell : Series.value? ⟨.int64, cells.map
      (·.bind fun d => Formula.roundedInteger? (whole d))⟩ row =
        (Formula.roundedInteger? (whole d)).map .integer := by
    rw [Series.value?, List.getElem?_map, hrow, Option.map_some, Option.join_some,
      Option.bind_some]
    cases Formula.roundedInteger? (whole d) <;> rfl
  rw [hcell, Option.map_eq_some_iff, ← Formula.roundedInteger?_eq_some_iff]
  simp

-- Where an operator misses the word that a decimal denotes.
def Misses (op : UnaryOp) (n : Int64) : Prop :=
  n = Int64.minValue ∨ (op = .round ∧ Misrounds n.toInt)

theorem whole_eq_iff (h : op.whole? = some whole) (hd : d.isFinite = true) {n : Int64}
    (hn : d.value = n.toInt) :
    whole d = some n.toInt ∧ n ≠ Int64.minValue ↔ ¬ op.Misses n := by
  rw [Misses, not_or, and_comm]
  refine and_congr_right fun _ => ?_
  have hexact (k : Int) (hop : op ≠ .round) (hk : whole d = some k) (heq : k = n.toInt) :
      whole d = some n.toInt ↔ ¬ (op = .round ∧ Misrounds n.toInt) := by
    rw [hk, heq]
    simp [hop]
  cases op <;> cases h
  · exact hexact _ (by decide) (Decimal.floor?_eq hd) (by rw [hn, Int.floor_intCast])
  · exact hexact _ (by decide) (Decimal.ceil?_eq hd) (by rw [hn, Int.ceil_intCast])
  · obtain ⟨k, hk, hrounded⟩ := Decimal.exists_round? hd
    have hwhole := hrounded.nearest_iff.2.2 ⟨_, hn⟩
    rw [hn, Int.cast_inj] at hwhole
    rw [hk, Option.some.injEq, hwhole]
    simp

-- The nearest integer, on values and on columns alike: the exact one, halves upwards, unless the
-- sum with one half is rounded up to the next.
theorem round_nearest_iff (hd : d.isFinite = true) (hlow : -2 ^ 63 < ⌊d.value + 1 / 2⌋)
    (hhigh : ⌊d.value + 1 / 2⌋ < 2 ^ 63)
    (hcells : f.evaluateSeries formula = .ok ⟨.float64, cells⟩)
    (hrow : cells[row]? = some (some d)) :
    ∃ (n : Int64) (result : Formula) (series : Series),
      UnaryOp.round.apply (.decimal d) = .ok (.integer n) ∧
      UnaryOp.round.applySymbolic (.column formula) = .ok (.column result) ∧
      f.evaluateSeries result = .ok series ∧ series.value? row = some (.integer n) ∧
      (n.toInt = ⌊d.value + 1 / 2⌋ ↔ ¬ Misrounds d.value) ∧
      (|n.toInt - d.value| ≤ 1 / 2 ↔ ¬ Misrounds d.value) ∧
      ((∃ k : Int, d.value = k) → (n.toInt = d.value ↔ ¬ Misrounds d.value)) ∧
      (Misrounds d.value → n.toInt = ⌊d.value + 1 / 2⌋ + 1) := by
  obtain ⟨k, hk, hrounded⟩ := Decimal.exists_round? hd
  obtain ⟨n, rfl⟩ : ∃ n : Int64, n.toInt = k := by
    refine Integer.exists_toInt ?_ ?_ <;> rcases hrounded with ⟨h, rfl⟩ | ⟨-, rfl⟩
    · omega
    · omega
    · have := Decimal.floor_of_misrounds h
      omega
    · omega
  have hn : n ≠ Int64.minValue := by
    rintro rfl
    rcases hrounded with ⟨-, h⟩ | ⟨-, h⟩ <;> rw [Int64.toInt_minValue] at h <;> omega
  obtain ⟨hexact, hnear, hwhole⟩ := hrounded.nearest_iff
  have hround : UnaryOp.round.whole? = some Decimal.round? := rfl
  obtain ⟨result, series, hresult, hseries, hcell⟩ := exists_series_whole hround hcells hrow
  exact ⟨n, result, series, (apply_eq_ok_iff rfl).mpr ⟨hk, hn⟩, hresult, hseries,
    (hcell n).mpr ⟨hk, hn⟩, hexact, hnear, hwhole,
    fun h => (hrounded.resolve_right fun hnot => hnot.1 h).2⟩

def fiveHalves : Decimal := .finite false (5 * 2 ^ 50) (-51) (by decide)

-- The integer `2 ^ 52 + 1`.
def oddWhole : Decimal := .finite false (2 ^ 52 + 1) 0 (by decide)

def lengths : Frame := ⟨[⟨"length", .float64, [some fiveHalves, none, some oddWhole]⟩], 3⟩

theorem round_nearest_iff_lengths :
    (∃ (n : Int64) (result : Formula) (series : Series),
      UnaryOp.round.apply (.decimal fiveHalves) = .ok (.integer n) ∧
      UnaryOp.round.applySymbolic (.column (.column "length")) = .ok (.column result) ∧
      lengths.evaluateSeries result = .ok series ∧ series.value? 0 = some (.integer n) ∧
      n.toInt = 3) ∧
    ∃ (n : Int64) (result : Formula) (series : Series),
      UnaryOp.round.apply (.decimal oddWhole) = .ok (.integer n) ∧
      UnaryOp.round.applySymbolic (.column (.column "length")) = .ok (.column result) ∧
      lengths.evaluateSeries result = .ok series ∧ series.value? 2 = some (.integer n) ∧
      n.toInt ≠ 2 ^ 52 + 1 := by
  have hcells : lengths.evaluateSeries (.column "length") =
    .ok ⟨.float64, [some fiveHalves, none, some oddWhole]⟩ := rfl
  have hfirst : [some fiveHalves, none, some oddWhole][0]? = some (some fiveHalves) := rfl
  have hlast : [some fiveHalves, none, some oddWhole][2]? = some (some oddWhole) := rfl
  constructor
  · have hvalue : fiveHalves.value = 5 / 2 := by
      rw [fiveHalves, Decimal.value_finite]
      norm_num
    have hfloor : ⌊(5 / 2 + 1 / 2 : ℚ)⌋ = 3 := by norm_num
    obtain ⟨n, result, series, happly, hresult, hseries, hcell, hexact, -, -, -⟩ :=
      round_nearest_iff rfl (by rw [hvalue, hfloor]; decide)
        (by rw [hvalue, hfloor]; decide) hcells hfirst
    rw [hvalue, hfloor] at hexact
    refine ⟨n, result, series, happly, hresult, hseries, hcell, hexact.mpr ?_⟩
    rintro (h | ⟨k, h, -⟩)
    · norm_num at h
    · have hdouble : (5 : ℚ) = 2 * k := by linarith
      have hparity : (5 : Int) = 2 * k := by exact_mod_cast hdouble
      omega
  · have hvalue : oddWhole.value = (2 ^ 52 + 1 : Int) := by
      rw [oddWhole, Decimal.value_finite]
      norm_num
    have hmisrounds : Misrounds (2 ^ 52 + 1 : Int) :=
      .inr ⟨_, rfl, by decide, by decide, by decide⟩
    obtain ⟨n, result, series, happly, hresult, hseries, hcell, -, -, hwhole, -⟩ :=
      round_nearest_iff rfl (by rw [hvalue, Decimal.floor_add_half]; decide)
        (by rw [hvalue, Decimal.floor_add_half]; decide) hcells hlast
    rw [hvalue] at hwhole
    refine ⟨n, result, series, happly, hresult, hseries, hcell, fun h => ?_⟩
    exact (hwhole ⟨_, rfl⟩).mp (by rw [h]) hmisrounds

-- The greatest decimal below one half becomes one, and an odd integer its successor.
theorem round_passes_nearest :
    UnaryOp.round.apply (.decimal (.finite false (2 ^ 53 - 1) (-54) (by decide))) =
        .ok (.integer 1) ∧
      ⌊(Decimal.finite false (2 ^ 53 - 1) (-54) (by decide)).value + 1 / 2⌋ = 0 ∧
    UnaryOp.round.apply (.decimal oddWhole) = .ok (.integer (2 ^ 52 + 2)) ∧
      oddWhole.value = 2 ^ 52 + 1 := by
  refine ⟨rfl, ?_, rfl, ?_⟩
  · rw [Decimal.value_finite, Int.floor_eq_iff]
    norm_num
  · rw [oddWhole, Decimal.value_finite]
    norm_num

end UnaryOp

end TableFlow

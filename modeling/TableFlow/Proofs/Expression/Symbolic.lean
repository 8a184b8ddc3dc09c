import TableFlow.Proofs.Expression.Carried

namespace TableFlow

open Formula Operand

-- A result of evaluation over columns beside what is carried in each row.
inductive Symbolic.Carries (column? : String → Option Series) (rows : Nat) (σ : ScalarType)
    (κ : Nat → Carried) : Option Symbolic → Prop where
  | failed (h : ∀ row < rows, κ row = .failed) : Carries column? rows σ κ none
  | constant {v} (hv : v.scalarType? = some σ) (hfinite : v.isFinite = true)
      (h : ∀ row < rows, κ row = .constant v) : Carries column? rows σ κ (some (.scalar v))
  | column {formula z} (hz : formula.evaluate column? = .ok z) (hfits : z.Fits rows σ)
      (h : ∀ row < rows, κ row = .cell (z.value? row)) :
      Carries column? rows σ κ (some (.column formula))

-- Variables stand for columns of their types, with the given cells.
def Scope.Covers (column? : String → Option Series) (rows : Nat)
    (Γ : String → Option ScalarType) (cells : Nat → String → Option Value) (scope : Scope) : Prop :=
  ∀ name σ, Γ name = some σ → ∃ formula z, scope.lookup? name = some (.column formula) ∧
    formula.evaluate column? = .ok z ∧ z.Fits rows σ ∧
    ∀ row < rows, z.value? row = cells row name

variable {column? : String → Option Series} {rows : Nat} {σ τ ρ : ScalarType}

theorem UnaryOp.onColumn?_eq {op : UnaryOp} (hop : op ≠ .plus) (formula : Formula) :
    op.onColumn? formula = op.form?.map (Formula.unary · formula) := by
  cases op <;> first | rfl | exact absurd rfl hop

theorem UnaryOp.exists_onColumn? {op : UnaryOp} (htype : op.type? σ = some τ) {formula : Formula}
    {z : Operand} (hz : formula.evaluate column? = .ok z) (hfits : z.Fits rows σ) :
    ∃ result w, op.onColumn? formula = some result ∧ result.evaluate column? = .ok w ∧
      w.Fits rows τ ∧ ∀ row, w.value? row = (z.value? row).bind op.onCell := by
  by_cases hop : op = .plus
  · subst hop
    obtain rfl : σ = τ := by cases σ <;> cases htype <;> rfl
    refine ⟨formula, z, rfl, hz, hfits, fun row => ?_⟩
    cases z.value? row <;> rfl
  · simp only [type?, if_neg hop] at htype
    obtain ⟨form, hform, htype⟩ := Option.bind_eq_some_iff.mp htype
    obtain ⟨w, hw, hwfits, hvalue⟩ := evaluateUnary_of_type? htype hfits
    refine ⟨.unary form formula, w, by rw [onColumn?_eq hop, hform]; rfl, ?_, hwfits,
      fun row => ?_⟩
    · rw [Formula.evaluate, hz]
      exact hw
    · rw [hvalue]
      congr 1
      funext v
      simp only [onCell, if_neg hop, hform, Option.bind_some]

-- What an operator makes of an operand that is a value or a column.
theorem UnaryOp.applySymbolic_carries {op : UnaryOp} (htype : op.type? σ = some τ)
    {κ : Nat → Carried} {a : Symbolic} (ha : Symbolic.Carries column? rows σ κ (some a)) :
    (∀ e, op.applySymbolic a = .error e → e.code = .arithmetic) ∧
      Symbolic.Carries column? rows τ (fun row => op.carry (κ row))
        (op.applySymbolic a).toOption := by
  cases ha with
  | @constant v hv hfinite h =>
    have hagrees := op.apply_agrees htype hv hfinite
    simp only [applySymbolic]
    cases hr : op.apply v with
    | ok w =>
      obtain ⟨hwτ, hwfinite⟩ := hagrees.typed hr
      refine ⟨fun e he => (by cases he), .constant hwτ hwfinite fun row hrow => ?_⟩
      simp only [h row hrow, carry, hr, Carried.ofResult]
    | error e =>
      refine ⟨fun e' he => ?_, .failed fun row hrow => ?_⟩
      · cases he
        exact hagrees.code_eq hr
      · simp only [h row hrow, carry, hr, Carried.ofResult]
  | @column formula z hz hfits h =>
    obtain ⟨result, w, hresult, hw, hwfits, hvalue⟩ := op.exists_onColumn? htype hz hfits
    simp only [applySymbolic, hresult]
    refine ⟨fun e he => (by cases he), .column hw hwfits fun row hrow => ?_⟩
    simp only [h row hrow, carry, hvalue]

theorem Symbolic.Carries.congr {κ μ : Nat → Carried} {a : Option Symbolic}
    (ha : Symbolic.Carries column? rows σ κ a) (h : ∀ row < rows, μ row = κ row) :
    Symbolic.Carries column? rows σ μ a := by
  cases ha with
  | failed hκ => exact .failed fun row hrow => (h row hrow).trans (hκ row hrow)
  | constant hv hfinite hκ =>
    exact .constant hv hfinite fun row hrow => (h row hrow).trans (hκ row hrow)
  | column hz hfits hκ => exact .column hz hfits fun row hrow => (h row hrow).trans (hκ row hrow)

-- Values beside columns are used as literals.
theorem Symbolic.Carries.exists_formula {κ : Nat → Carried} {a : Symbolic}
    (ha : Symbolic.Carries column? rows σ κ (some a)) :
    ∃ z, a.formula.evaluate column? = .ok z ∧ z.Fits rows σ ∧
      ∀ row < rows, z.value? row = (κ row).content := by
  cases ha with
  | @constant v hv hfinite h =>
    cases v <;> cases hv <;>
      exact ⟨_, rfl, ⟨rfl, List.length_replicate⟩, fun row hrow => by rw [h row hrow]; rfl⟩
  | @column formula z hz hfits h =>
    exact ⟨z, hz, hfits, fun row hrow => by rw [h row hrow]; rfl⟩

theorem BinaryOp.accepts_of_type? {op : BinaryOp} {form : Formula.BinaryOp} {accepts : Value → Bool}
    (hform : op.columnForm = .elementwise form accepts) (htype : form.type? σ τ = some ρ)
    {v : Value} (hv : v.scalarType? = some σ ∨ v.scalarType? = some τ) : accepts v = true := by
  have hnumeric (h : σ.isNumeric = true ∧ τ.isNumeric = true) : v.isNumeric = true := by
    rcases hv with hv | hv <;> cases v <;> cases hv <;>
      simp_all [ScalarType.isNumeric, Value.isNumeric]
  have hcomparable : isComparable v = true := by
    rcases hv with hv | hv <;> cases v <;> cases hv <;> rfl
  have htruth (h : σ = .boolean ∧ τ = .boolean) : isTruth v = true := by
    obtain ⟨rfl, rfl⟩ := h
    rcases hv with hv | hv <;> cases v <;> cases hv <;> rfl
  cases op <;> cases hform
  case multiply => exact hnumeric (isNumeric_of_numberType? htype)
  case add => exact hnumeric (isNumeric_of_numberType? htype)
  case subtract => exact hnumeric (isNumeric_of_numberType? htype)
  case modulo => exact hnumeric (isNumeric_of_numberType? htype)
  case divide => exact hnumeric (Option.ite_none_right_eq_some.mp htype).1
  case xor => exact htruth (Option.ite_none_right_eq_some.mp htype).1
  case and => exact htruth (Option.ite_none_right_eq_some.mp htype).1
  case or => exact htruth (Option.ite_none_right_eq_some.mp htype).1
  all_goals exact hcomparable

-- Operands of suitable types are not refused.
theorem BinaryOp.onColumns_elementwise {op : BinaryOp} (hop : op.takesExponent = false)
    (htype : op.type? σ τ = some ρ) {κ μ : Nat → Carried} {a b : Symbolic}
    (ha : Symbolic.Carries column? rows σ κ (some a))
    (hb : Symbolic.Carries column? rows τ μ (some b)) :
    ∃ form, op.form? = some form ∧
      op.onColumns a b = .ok (.column (.binary form a.formula b.formula)) := by
  obtain ⟨form, hform, hformtype⟩ := Option.bind_eq_some_iff.mp htype
  refine ⟨form, hform, ?_⟩
  cases hcolumn : op.columnForm with
  | elementwise form' accepts =>
    obtain rfl : form' = form := by simpa [form?, hcolumn] using hform
    have haccepts {v : Value} := op.accepts_of_type? hcolumn hformtype (v := v)
    cases ha with
    | constant hv =>
      cases hb with
      | constant hw => simp [onColumns, hcolumn, haccepts (.inl hv), haccepts (.inr hw)]
      | column => simp [onColumns, hcolumn, haccepts (.inl hv)]
    | column =>
      cases hb with
      | constant hw => simp [onColumns, hcolumn, haccepts (.inr hw)]
      | column => simp [onColumns, hcolumn]
  | exponent => cases op <;> cases hcolumn <;> cases hop
  | unsupported => simp [form?, hcolumn] at hform

theorem BinaryOp.applySymbolic_constants {op : BinaryOp} (htype : op.type? σ τ = some ρ)
    {κ μ : Nat → Carried} {v w : Value} (hv : v.scalarType? = some σ) (hw : w.scalarType? = some τ)
    (hfinite : v.isFinite = true) (hfinite' : w.isFinite = true)
    (hκ : ∀ row < rows, κ row = .constant v) (hμ : ∀ row < rows, μ row = .constant w) :
    (∀ e, op.applySymbolic (.scalar v) (.scalar w) = .error e → e.code = .arithmetic) ∧
      Symbolic.Carries column? rows ρ (fun row => op.carry (κ row) (μ row))
        (op.applySymbolic (.scalar v) (.scalar w)).toOption := by
  have hsound := op.apply_sound htype hv hw hfinite hfinite'
  have hcarry (row : Nat) (hrow : row < rows) :
      op.carry (κ row) (μ row) = .ofResult (op.apply v w) := by rw [hκ row hrow, hμ row hrow]; rfl
  simp only [applySymbolic]
  cases hr : op.apply v w with
  | ok u =>
    obtain ⟨hu, hufinite⟩ := hsound.1 u hr
    refine ⟨fun e he => (by cases he), .constant hu hufinite fun row hrow => ?_⟩
    rw [hcarry row hrow, hr]
    rfl
  | error e =>
    refine ⟨fun e' he => ?_, .failed fun row hrow => ?_⟩
    · cases he
      exact hsound.2 e hr
    · rw [hcarry row hrow, hr]
      rfl

-- A formula over both operands, at least one of which is a column.
theorem BinaryOp.binary_carries {op : BinaryOp} {form : Formula.BinaryOp}
    (hform : op.form? = some form) (htype : op.type? σ τ = some ρ) {κ μ : Nat → Carried}
    {a b : Symbolic} (ha : Symbolic.Carries column? rows σ κ (some a))
    (hb : Symbolic.Carries column? rows τ μ (some b))
    (hcarry : ∀ row < rows,
      op.carry (κ row) (μ row) = .cell (Datum.lift op.onCells (κ row).content (μ row).content)) :
    Symbolic.Carries column? rows ρ (fun row => op.carry (κ row) (μ row))
      (some (.column (.binary form a.formula b.formula))) := by
  obtain ⟨x, hx, hxfits, hxvalue⟩ := ha.exists_formula
  obtain ⟨y, hy, hyfits, hyvalue⟩ := hb.exists_formula
  have hformtype : form.type? σ τ = some ρ := by simpa [type?, hform] using htype
  obtain ⟨z, hz, hzfits, hzvalue⟩ := evaluateBinary_of_type? hformtype hxfits hyfits
  refine .column (z := z) ?_ hzfits fun row hrow => ?_
  · rw [Formula.evaluate, hx, hy]
    exact hz
  · have hcells : op.onCells = form.onCells := by
      funext v w
      simp only [onCells, hform, Option.bind_some]
    rw [hcarry row hrow, hzvalue, hxvalue row hrow, hyvalue row hrow, hcells]

theorem BinaryOp.carry_failed (op : BinaryOp) (κ : Carried) : op.carry κ .failed = .failed := by
  cases κ <;> rfl

theorem BinaryOp.carry_of_ne_root {op : BinaryOp} (hop : op ≠ .root) {κ μ : Carried}
    (hκ : κ ≠ .failed) (hμ : μ ≠ .failed)
    (hconstant : ¬ ∃ v w, κ = .constant v ∧ μ = .constant w) :
    op.carry κ μ = .cell (Datum.lift op.onCells κ.content μ.content) := by
  cases κ <;> cases μ <;> simp_all [carry, carryCells]

theorem Symbolic.Carries.ne_failed {κ : Nat → Carried} {a : Symbolic}
    (ha : Symbolic.Carries column? rows σ κ (some a)) {row : Nat} (hrow : row < rows) :
    κ row ≠ .failed := by
  cases ha with
  | constant hv hfinite h => rw [h row hrow]; exact fun h => by cases h
  | column hz hfits h => rw [h row hrow]; exact fun h => by cases h

theorem BinaryOp.applySymbolic_carries {op : BinaryOp} (hop : op.takesExponent = false)
    (htype : op.type? σ τ = some ρ) {κ μ : Nat → Carried} {a b : Symbolic}
    (ha : Symbolic.Carries column? rows σ κ (some a))
    (hb : Symbolic.Carries column? rows τ μ (some b)) :
    (∀ e, op.applySymbolic a b = .error e → e.code = .arithmetic) ∧
      Symbolic.Carries column? rows ρ (fun row => op.carry (κ row) (μ row))
        (op.applySymbolic a b).toOption := by
  have hroot : op ≠ .root := fun h => by cases h; cases hop
  obtain ⟨form, hform, hcolumns⟩ := op.onColumns_elementwise hop htype ha hb
  have hcolumn (happly : op.applySymbolic a b = op.onColumns a b)
      (hcells : ∀ row < rows, ¬ ∃ v w, κ row = .constant v ∧ μ row = .constant w) :
      (∀ e, op.applySymbolic a b = .error e → e.code = .arithmetic) ∧
        Symbolic.Carries column? rows ρ (fun row => op.carry (κ row) (μ row))
          (op.applySymbolic a b).toOption := by
    rw [happly, hcolumns]
    refine ⟨fun e he => (by cases he), op.binary_carries hform htype ha hb fun row hrow => ?_⟩
    exact op.carry_of_ne_root hroot (ha.ne_failed hrow) (hb.ne_failed hrow) (hcells row hrow)
  cases ha with
  | constant hv hfinite hκ =>
    cases hb with
    | constant hw hfinite' hμ =>
      exact op.applySymbolic_constants htype hv hw hfinite hfinite' hκ hμ
    | column hz hfits hμ =>
      exact hcolumn rfl fun row hrow ⟨v, w, _, hw⟩ => by rw [hμ row hrow] at hw; cases hw
  | column hz hfits hκ =>
    exact hcolumn rfl fun row hrow ⟨v, w, hv, _⟩ => by rw [hκ row hrow] at hv; cases hv

-- The right operand of a power or a root is a value.
theorem BinaryOp.applySymbolic_exponent_carries {op : BinaryOp} (hop : op.takesExponent = true)
    (htype : op.type? σ τ = some ρ) {κ μ : Nat → Carried} {a : Symbolic} {w : Value}
    (ha : Symbolic.Carries column? rows σ κ (some a))
    (hb : Symbolic.Carries column? rows τ μ (some (.scalar w))) :
    (∀ e, op.applySymbolic a (.scalar w) = .error e → e.code = .arithmetic) ∧
      Symbolic.Carries column? rows ρ (fun row => op.carry (κ row) (μ row))
        (op.applySymbolic a (.scalar w)).toOption := by
  obtain ⟨hw, hfinite', hμ⟩ : w.scalarType? = some τ ∧ w.isFinite = true ∧
      ∀ row < rows, μ row = .constant w := by
    cases hb with
    | constant hw hfinite' hμ => exact ⟨hw, hfinite', hμ⟩
  cases id ha with
  | constant hv hfinite hκ => exact op.applySymbolic_constants htype hv hw hfinite hfinite' hκ hμ
  | @column formula z hz hfits hκ =>
    obtain ⟨form, hform, hcolumns⟩ : ∃ form, op.form? = some form ∧
        op.columnForm = .exponent form ∧ (form = .root ↔ op = .root) := by
      cases op <;> cases hop <;> exact ⟨_, rfl, rfl, by simp⟩
    obtain ⟨hcolumns, hroot⟩ := hcolumns
    have hnumeric : τ.isNumeric = true := by
      cases op <;> cases hop <;> exact (Option.ite_none_right_eq_some.mp htype).1.2
    obtain ⟨d, hd, -⟩ := Operator.exists_number hw hfinite' hnumeric
    have hcarry (row : Nat) (hrow : row < rows) :
        op.carry (κ row) (μ row) = op.carryCells (κ row).content (μ row).content := by
      rw [hκ row hrow, hμ row hrow]
      rfl
    have hzero : w.isZero = d.isZero := by rw [Value.isZero, hd]; rfl
    by_cases hdegree : op = .root ∧ d.isZero = true
    · have happly : op.applySymbolic (.column formula) (.scalar w) = Operator.fail .degreeZero := by
        simp only [applySymbolic, onColumns, hcolumns, hd]
        rw [if_pos ⟨hroot.mpr hdegree.1, hdegree.2⟩]
      rw [happly]
      refine ⟨fun e he => by cases he; rfl, .failed fun row hrow => ?_⟩
      rw [hcarry row hrow, carryCells, hμ row hrow, if_pos ⟨hdegree.1, hzero.trans hdegree.2⟩]
    · have happly : op.applySymbolic (.column formula) (.scalar w) =
          .ok (.column (.binary form formula (.literal w))) := by
        simp only [applySymbolic, onColumns, hcolumns, hd]
        rw [if_neg fun h => hdegree ⟨hroot.mp h.1, h.2⟩]
      rw [happly]
      refine ⟨fun e he => (by cases he), op.binary_carries hform htype ha hb fun row hrow => ?_⟩
      rw [hcarry row hrow, carryCells, hμ row hrow,
        if_neg fun h => hdegree ⟨h.1, hzero.symm.trans h.2⟩]

-- Evaluation that goes on after its first part.
private theorem bind_carries {x : Outcome Symbolic} {f : Symbolic → Outcome Symbolic}
    {κ μ : Nat → Carried} (hx : x.IsArithmetic)
    (hvalue : Symbolic.Carries column? rows σ κ x.value)
    (hfailed : (∀ row < rows, κ row = .failed) → ∀ row < rows, μ row = .failed)
    (hf : ∀ a, x.value = some a → Symbolic.Carries column? rows σ κ (some a) →
      (f a).IsArithmetic ∧ Symbolic.Carries column? rows ρ μ (f a).value) :
    (x.bind f).IsArithmetic ∧ Symbolic.Carries column? rows ρ μ (x.bind f).value := by
  rw [Outcome.value_bind]
  refine ⟨hx.bind fun a ha => (hf a ha (ha ▸ hvalue)).1, ?_⟩
  cases ha : x.value with
  | none =>
    rw [ha] at hvalue
    cases hvalue with
    | failed h => exact .failed (hfailed h)
  | some a => exact (hf a ha (ha ▸ hvalue)).2

-- The result of an operator, reported at an expression.
private theorem report_carries (e : Expr) {r : Except EvalError Symbolic} {κ : Nat → Carried}
    (hr : (∀ error, r = .error error → error.code = .arithmetic) ∧
      Symbolic.Carries column? rows σ κ r.toOption) :
    (Outcome.report e r).IsArithmetic ∧
      Symbolic.Carries column? rows σ κ (Outcome.report e r).value := by
  rw [Outcome.value_report]
  exact ⟨Outcome.isArithmetic_report e hr.1, hr.2⟩

namespace Expr

variable {Γ : String → Option ScalarType} {cells : Nat → String → Option Value} {scope : Scope}

theorem evaluateSymbolic_binary (op : BinaryOp) (left right : Expr) (location : Location) :
    (Expr.binary op left right location).evaluateSymbolic .lazy scope =
      (left.evaluateSymbolic .lazy scope).bind fun a =>
        match (match a with | .scalar v => op.shortCircuit? v | .column _ => none) with
        | some result => Outcome.pure (.scalar result)
        | none => (right.evaluateSymbolic .lazy scope).bind fun b =>
            .report (.binary op left right location) (op.applySymbolic a b) := by
  rw [Expr.evaluateSymbolic]
  rfl

-- An operand that decides alone, or both operands.
private theorem binary_carries {op : BinaryOp} {left right : Expr} {location : Location}
    (htype : op.type? σ τ = some ρ) (hleft : (left.evaluateSymbolic .lazy scope).IsArithmetic ∧
      Symbolic.Carries column? rows σ (fun row => left.carried (cells row))
        (left.evaluateSymbolic .lazy scope).value)
    (hright : (right.evaluateSymbolic .lazy scope).IsArithmetic ∧
      Symbolic.Carries column? rows τ (fun row => right.carried (cells row))
        (right.evaluateSymbolic .lazy scope).value)
    (happly : ∀ a b,
      Symbolic.Carries column? rows σ (fun row => left.carried (cells row)) (some a) →
      (right.evaluateSymbolic .lazy scope).value = some b →
      (∀ e, op.applySymbolic a b = .error e → e.code = .arithmetic) ∧
        Symbolic.Carries column? rows ρ
          (fun row => op.carry (left.carried (cells row)) (right.carried (cells row)))
          (op.applySymbolic a b).toOption) :
    ((Expr.binary op left right location).evaluateSymbolic .lazy scope).IsArithmetic ∧
      Symbolic.Carries column? rows ρ
        (fun row => (Expr.binary op left right location).carried (cells row))
        ((Expr.binary op left right location).evaluateSymbolic .lazy scope).value := by
  rw [evaluateSymbolic_binary]
  refine bind_carries hleft.1 hleft.2 (fun h row hrow => ?_) fun a _ ha => ?_
  · rw [carried_binary fun v hv => (by rw [h row hrow] at hv; cases hv), h row hrow]
    rfl
  -- Unless the left operand decides, the right one is evaluated as well.
  have hboth (hundecided : ∀ row < rows, ∀ v, left.carried (cells row) = .constant v →
      op.shortCircuit? v = none) :
      ((right.evaluateSymbolic .lazy scope).bind fun b =>
        .report (.binary op left right location) (op.applySymbolic a b)).IsArithmetic ∧
      Symbolic.Carries column? rows ρ
        (fun row => (Expr.binary op left right location).carried (cells row))
        ((right.evaluateSymbolic .lazy scope).bind fun b =>
          .report (.binary op left right location) (op.applySymbolic a b)).value := by
    refine bind_carries hright.1 hright.2 (fun h row hrow => ?_) fun b hb _ => ?_
    · rw [carried_binary (hundecided row hrow), h row hrow, op.carry_failed]
    · refine report_carries _ ⟨(happly a b ha hb).1, ?_⟩
      exact (happly a b ha hb).2.congr fun row hrow => carried_binary (hundecided row hrow)
  cases id ha with
  | @constant v hv hfinite h =>
    cases hdecided : op.shortCircuit? v with
    | some result =>
      obtain ⟨-, -, rfl, b, rfl, rfl, -⟩ := op.shortCircuit?_boolean hdecided htype
      simp only [hdecided]
      refine ⟨fun d hd => (by cases hd), .constant rfl rfl fun row hrow => ?_⟩
      exact carried_binary_of_decided (h row hrow) hdecided
    | none =>
      simp only [hdecided]
      exact hboth fun row hrow w hw => by rw [h row hrow] at hw; cases hw; exact hdecided
  | column hz hfits h => exact hboth fun row hrow w hw => by rw [h row hrow] at hw; cases hw

private theorem binary_ne_column {op : BinaryOp} {left right : Expr} {location : Location}
    (hleft : ∀ formula, (left.evaluateSymbolic .lazy scope).value ≠ some (.column formula))
    (hright : ∀ formula, (right.evaluateSymbolic .lazy scope).value ≠ some (.column formula))
    (formula : Formula) :
    ((Expr.binary op left right location).evaluateSymbolic .lazy scope).value ≠
      some (.column formula) := by
  rw [evaluateSymbolic_binary, Outcome.value_bind]
  intro hvalue
  obtain ⟨a, ha, hresult⟩ := Option.bind_eq_some_iff.mp hvalue
  cases a with
  | column formula' => exact hleft formula' ha
  | scalar v =>
    cases hdecided : op.shortCircuit? v with
    | some result =>
      simp only [hdecided] at hresult
      cases hresult
    | none =>
      simp only [hdecided, Outcome.value_bind] at hresult
      obtain ⟨b, hb, hresult⟩ := Option.bind_eq_some_iff.mp hresult
      cases b with
      | column formula' => exact hright formula' hb
      | scalar w =>
        simp only [BinaryOp.applySymbolic, Outcome.value_report] at hresult
        cases hr : op.apply v w <;> rw [hr] at hresult <;> cases hresult

-- What an expression without variables stands for is no column.
theorem Typed.evaluateSymbolic_ne_column {e : Expr} (h : Typed (fun _ => none) e σ)
    (formula : Formula) : (e.evaluateSymbolic .lazy scope).value ≠ some (.column formula) := by
  generalize hΓ : (fun _ : String => (none : Option ScalarType)) = Γ at h
  induction h generalizing formula with
  | literal hl hv hfinite =>
    rw [evaluateSymbolic, evaluate_literal hl]
    exact fun h => by cases h
  | var h =>
    subst hΓ
    cases h
  | @unary Γ op operand location σ τ h htype ih =>
    rw [evaluateSymbolic, Outcome.bind_eq, Outcome.value_bind]
    intro hvalue
    obtain ⟨a, ha, hresult⟩ := Option.bind_eq_some_iff.mp hvalue
    cases a with
    | column formula' => exact ih formula' hΓ ha
    | scalar v =>
      simp only [UnaryOp.applySymbolic, Outcome.value_report] at hresult
      cases hr : op.apply v <;> rw [hr] at hresult <;> cases hresult
  | binary h h' hop htype ih ih' => exact binary_ne_column (ih · hΓ) (ih' · hΓ) formula
  | exponent h h' hop htype ih ih' => exact binary_ne_column (ih · hΓ) (ih' · rfl) formula

-- What evaluation over columns returns, in every row.
theorem Typed.evaluateSymbolic_carries {e : Expr} (h : Typed Γ e σ)
    (hscope : scope.Covers column? rows Γ cells) :
    (e.evaluateSymbolic .lazy scope).IsArithmetic ∧
      Symbolic.Carries column? rows σ (fun row => e.carried (cells row))
        (e.evaluateSymbolic .lazy scope).value := by
  induction h with
  | literal hl hv hfinite =>
    rw [evaluateSymbolic, evaluate_literal hl]
    refine ⟨fun d hd => (by cases hd), .constant hv hfinite fun row hrow => ?_⟩
    simp only [carried, hl]
  | var h =>
    obtain ⟨formula, z, hlookup, hz, hfits, hcells⟩ := hscope _ _ h
    rw [evaluateSymbolic, Scope.meaning, hlookup]
    refine ⟨fun d hd => (by cases hd), .column hz hfits fun row hrow => ?_⟩
    rw [carried, hcells row hrow]
  | @unary Γ op operand location σ τ h htype ih =>
    rw [evaluateSymbolic]
    refine bind_carries (ih hscope).1 (ih hscope).2 (fun h row hrow => ?_) fun a _ ha => ?_
    · rw [carried, h row hrow]
      rfl
    · simpa only [carried] using report_carries _ (op.applySymbolic_carries htype ha)
  | binary h h' hop htype ih ih' =>
    exact binary_carries htype (ih hscope) (ih' hscope) fun a b ha hb =>
      BinaryOp.applySymbolic_carries hop htype ha (hb ▸ (ih' hscope).2)
  | @exponent Γ op left right location σ τ ρ h h' hop htype ih ih' =>
    have hright := ih' fun name σ h => by cases h
    refine binary_carries htype (ih hscope) hright fun a b ha hb => ?_
    cases b with
    | scalar w => exact BinaryOp.applySymbolic_exponent_carries hop htype ha (hb ▸ hright.2)
    | column formula => exact absurd hb (h'.evaluateSymbolic_ne_column formula)

end Expr

end TableFlow

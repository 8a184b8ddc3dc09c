import TableFlow.Proofs.Expression.Carried

namespace TableFlow

-- The result of lazy evaluation, if there is one, beside what is carried. The propositions say that
-- something was absorbed, that a null was skipped, and that zeros were compared.
structure Follows (σ : ScalarType) (result : Option Value) (κ : Carried)
    (Absorbed Skipped Zeros : Prop) : Prop where
  typed : ∀ v, result = some v → v.scalarType? = some σ ∧ v.isFinite = true
  content : ∀ w, κ.content = some w → w.scalarType? = some σ
  constant : ∀ v, κ = .constant v → result = some v
  lost : result = none → isLost κ.content = true ∨ Absorbed
  kept : ∀ v, result = some v → κ = .failed ∨ (κ = .cell none ∧ Skipped) ∨
    ∃ w, κ.content = some w ∧ (w = v ∨ (σ = .boolean ∧ Zeros))

variable {σ τ ρ : ScalarType} {A S Z : Prop}

namespace Follows

theorem of_value {v : Value} (hv : v.scalarType? = some σ) (hfinite : v.isFinite = true)
    {κ : Carried} (hκ : κ.content = some v) : Follows σ (some v) κ A S Z where
  typed w hw := by cases hw; exact ⟨hv, hfinite⟩
  content w hw := by rw [hκ] at hw; cases hw; exact hv
  constant w hw := by rw [hw] at hκ; exact hκ.symm
  lost h := by cases h
  kept w hw := by cases hw; exact .inr (.inr ⟨v, hκ, .inl rfl⟩)

theorem of_failed {result : Option Value}
    (htyped : ∀ v, result = some v → v.scalarType? = some σ ∧ v.isFinite = true) :
    Follows σ result .failed A S Z where
  typed := htyped
  content w hw := by cases hw
  constant v hv := by cases hv
  lost _ := .inl rfl
  kept v _ := .inl rfl

theorem of_cell {result c : Option Value}
    (htyped : ∀ v, result = some v → v.scalarType? = some σ ∧ v.isFinite = true)
    (hcontent : ∀ w, c = some w → w.scalarType? = some σ)
    (hlost : result = none → isLost c = true ∨ A)
    (hkept : ∀ v, result = some v →
      (c = none ∧ S) ∨ ∃ w, c = some w ∧ (w = v ∨ (σ = .boolean ∧ Z))) :
    Follows σ result (.cell c) A S Z where
  typed := htyped
  content := hcontent
  constant v hv := by cases hv
  lost := hlost
  kept v hv := by
    rcases hkept v hv with ⟨rfl, hs⟩ | ⟨w, hw, heq⟩
    · exact .inr (.inl ⟨rfl, hs⟩)
    · exact .inr (.inr ⟨w, hw, heq⟩)

-- A result that was computed for all rows.
theorem of_result {r : Except EvalError Value}
    (hr : ∀ v, r = .ok v → v.scalarType? = some σ ∧ v.isFinite = true) :
    Follows σ r.toOption (.ofResult r) A S Z := by
  cases r with
  | ok v => exact of_value (hr v rfl).1 (hr v rfl).2 rfl
  | error e => exact of_failed fun v hv => by cases hv

theorem imp {A' S' Z' : Prop} {result : Option Value} {κ : Carried}
    (h : Follows σ result κ A S Z) (hA : A → A') (hS : S → S') (hZ : Z → Z') :
    Follows σ result κ A' S' Z' where
  typed := h.typed
  content := h.content
  constant := h.constant
  lost hnone := (h.lost hnone).imp_right hA
  kept v hv := by
    rcases h.kept v hv with hfailed | ⟨hcell, hs⟩ | ⟨w, hw, heq | ⟨hσ, hz⟩⟩
    · exact .inl hfailed
    · exact .inr (.inl ⟨hcell, hS hs⟩)
    · exact .inr (.inr ⟨w, hw, .inl heq⟩)
    · exact .inr (.inr ⟨w, hw, .inr ⟨hσ, hZ hz⟩⟩)

end Follows

theorem exists_boolean {v : Value} (hv : v.scalarType? = some .boolean) : ∃ b, v = .boolean b := by
  cases v <;> cases hv
  exact ⟨_, rfl⟩

namespace Follows

-- A cell that is not null is the value of the row, or both are truth values.
theorem eq_of_content {result : Option Value} {κ : Carried} {v w : Value}
    (h : Follows σ result κ A S Z) (hv : result = some v) (hw : κ.content = some w) :
    w = v ∨ (σ = .boolean ∧ Z) := by
  rcases h.kept v hv with rfl | ⟨rfl, -⟩ | ⟨w', hw', heq⟩
  · cases hw
  · cases hw
  · cases hw'.symm.trans hw
    exact heq

theorem skipped_of_content {result : Option Value} {κ : Carried} {v : Value}
    (h : Follows σ result κ A S Z) (hv : result = some v) (hκ : κ ≠ .failed)
    (hw : κ.content = none) : S := by
  rcases h.kept v hv with hfailed | ⟨-, hs⟩ | ⟨w', hw', -⟩
  · exact absurd hfailed hκ
  · exact hs
  · cases hw'.symm.trans hw

-- A finite cell in a row without a value is the work of an operator that absorbs.
theorem absorbed_of_content {κ : Carried} {w : Value} (h : Follows σ none κ A S Z)
    (hw : κ.content = some w) (hfinite : w.isFinite = true) : A := by
  refine (h.lost rfl).resolve_left fun hlost => ?_
  rw [hw] at hlost
  simp [isLost, hfinite] at hlost

end Follows

-- An operator on a cell, beside the operator on the value of the row.
theorem UnaryOp.carry_follows {op : UnaryOp} (htype : op.type? σ = some τ) {result : Option Value}
    {κ : Carried} (h : Follows σ result κ A S Z) :
    Follows τ (result.bind fun v => (op.apply v).toOption) (op.carry κ) A S Z := by
  have hagrees {v : Value} (hv : result = some v) : Agrees τ (op.apply v) (op.onCell v) :=
    op.apply_agrees htype (h.typed v hv).1 (h.typed v hv).2
  have htyped (w : Value) (hw : (result.bind fun v => (op.apply v).toOption) = some w) :
      w.scalarType? = some τ ∧ w.isFinite = true := by
    obtain ⟨v, hv, hr⟩ := Option.bind_eq_some_iff.mp hw
    exact (hagrees hv).typed (Outcome.toOption_eq_some hr)
  cases κ with
  | failed => exact .of_failed htyped
  | constant v =>
    obtain rfl := h.constant v rfl
    exact .of_result fun w hw => (hagrees rfl).typed hw
  | cell c =>
    cases c with
    | none =>
      refine .of_cell htyped (fun w hw => by cases hw) (fun _ => .inl rfl) fun w hw =>
        .inl ⟨rfl, ?_⟩
      obtain ⟨v, hv, -⟩ := Option.bind_eq_some_iff.mp hw
      exact h.skipped_of_content hv (fun h => by cases h) rfl
    | some p =>
      have hp : p.scalarType? = some σ := h.content p rfl
      refine .of_cell htyped (fun w hw => op.scalarType?_onCell htype hp hw) (fun hnone => ?_)
        fun w hw => .inr ?_
      · cases result with
        | none =>
          cases hfinite : p.isFinite with
          | true => exact .inr (h.absorbed_of_content rfl hfinite)
          | false => exact .inl (op.isLost_onCell htype hp hfinite)
        | some v =>
          rcases h.eq_of_content rfl rfl with rfl | ⟨rfl, -⟩
          · exact .inl ((hagrees rfl).isLost_cell hnone)
          · obtain ⟨b, rfl⟩ := exists_boolean (h.typed v rfl).1
            obtain ⟨-, ⟨r, hr⟩, -⟩ := op.onCell_boolean htype b
            rw [Option.bind_some, hr] at hnone
            cases hnone
      · obtain ⟨v, hv, hr⟩ := Option.bind_eq_some_iff.mp hw
        rcases h.eq_of_content hv rfl with rfl | ⟨rfl, hz⟩
        · exact ⟨w, (hagrees hv).cell_eq (Outcome.toOption_eq_some hr), .inl rfl⟩
        · obtain ⟨b, rfl⟩ := exists_boolean hp
          obtain ⟨hτ, -, s, hs⟩ := op.onCell_boolean htype b
          exact ⟨_, hs, .inr ⟨hτ, hz⟩⟩

theorem BinaryOp.type?_boolean_left {op : BinaryOp} (htype : op.type? .boolean τ = some ρ) :
    τ = .boolean := by
  cases op <;> cases τ <;> first | rfl | cases htype

theorem BinaryOp.type?_boolean_right {op : BinaryOp} (htype : op.type? σ .boolean = some ρ) :
    σ = .boolean := by
  cases op <;> cases σ <;> first | rfl | cases htype

-- Both operands are truth values as soon as one of them is.
private theorem boolean_operands {op : BinaryOp} (htype : op.type? σ τ = some ρ)
    (h : σ = .boolean ∨ τ = .boolean) : σ = .boolean ∧ τ = .boolean := by
  rcases h with rfl | rfl
  · exact ⟨rfl, op.type?_boolean_left htype⟩
  · exact ⟨op.type?_boolean_right htype, rfl⟩

variable {x y : Option Value} {κ μ : Carried}

-- In a row without a value the cell is null or not finite, or something was absorbed.
private theorem onCells_lost {op : BinaryOp} (htype : op.type? σ τ = some ρ)
    (h : Follows σ x κ A S Z) (h' : Follows τ y μ A S Z) {p q : Value}
    (hp : κ.content = some p) (hq : μ.content = some q)
    (hdegree : op = .root → q.isZero = false)
    (hA : op.absorbs = true → p.isFinite = false ∨ q.isFinite = false →
      isLost (op.onCells p q) = false → A)
    (hnone : (x.bind fun a => y.bind fun b => (op.apply a b).toOption) = none) :
    isLost (op.onCells p q) = true ∨ A := by
  have hpσ := h.content p hp
  have hqτ := h'.content q hq
  by_cases hinfinite : p.isFinite = false ∨ q.isFinite = false
  · cases hlost : isLost (op.onCells p q) with
    | true => exact .inl rfl
    | false =>
      cases habsorbs : op.absorbs with
      | true => exact .inr (hA habsorbs hinfinite hlost)
      | false =>
        rw [op.isLost_onCells htype hpσ hqτ habsorbs hinfinite] at hlost
        cases hlost
  simp only [not_or, Bool.not_eq_false] at hinfinite
  obtain ⟨hpfinite, hqfinite⟩ := hinfinite
  cases x with
  | none => exact .inr (h.absorbed_of_content hp hpfinite)
  | some a =>
    cases y with
    | none => exact .inr (h'.absorbed_of_content hq hqfinite)
    | some b =>
      simp only [Option.bind_some] at hnone
      have hboolean (hσ : σ = .boolean ∨ τ = .boolean) : isLost (op.onCells p q) = true ∨ A := by
        obtain ⟨rfl, rfl⟩ := boolean_operands htype hσ
        obtain ⟨a, rfl⟩ := exists_boolean (h.typed a rfl).1
        obtain ⟨b, rfl⟩ := exists_boolean (h'.typed b rfl).1
        obtain ⟨-, ⟨r, hr⟩, -⟩ := op.onCells_boolean htype a b
        rw [hr] at hnone
        cases hnone
      rcases h.eq_of_content rfl hp with rfl | ⟨hσ, -⟩
      · rcases h'.eq_of_content rfl hq with rfl | ⟨hτ, -⟩
        · cases hcomparison : op.isComparison with
          | true =>
            obtain ⟨-, r, hr⟩ :=
              op.exists_apply_of_isComparison hcomparison htype hpσ hqτ hpfinite hqfinite
            rw [hr] at hnone
            cases hnone
          | false =>
            have hagrees := op.apply_agrees htype hpσ hqτ hpfinite hqfinite
              (fun h => by rw [hcomparison] at h; cases h) hdegree
            exact .inl (hagrees.isLost_cell hnone)
        · exact hboolean (.inr hτ)
      · exact hboolean (.inl hσ)

-- In a row with a value the cell is that value, or both are truth values.
private theorem onCells_kept {op : BinaryOp} (htype : op.type? σ τ = some ρ)
    (h : Follows σ x κ A S Z) (h' : Follows τ y μ A S Z) {p q a b w : Value}
    (hp : κ.content = some p) (hq : μ.content = some q)
    (hdegree : op = .root → q.isZero = false)
    (hZ : op.isComparison = true → p.OppositeZeros q → Z)
    (ha : x = some a) (hb : y = some b) (hw : op.apply a b = .ok w) :
    ∃ u, op.onCells p q = some u ∧ (u = w ∨ (ρ = .boolean ∧ Z)) := by
  have hpσ := h.content p hp
  have hqτ := h'.content q hq
  have hboolean (hσ : σ = .boolean ∨ τ = .boolean) (hz : Z) :
      ∃ u, op.onCells p q = some u ∧ (u = w ∨ (ρ = .boolean ∧ Z)) := by
    obtain ⟨rfl, rfl⟩ := boolean_operands htype hσ
    obtain ⟨p, rfl⟩ := exists_boolean hpσ
    obtain ⟨q, rfl⟩ := exists_boolean hqτ
    obtain ⟨hρ, -, s, hs⟩ := op.onCells_boolean htype p q
    exact ⟨_, hs, .inr ⟨hρ, hz⟩⟩
  rcases h.eq_of_content ha hp with rfl | ⟨hσ, hz⟩
  · rcases h'.eq_of_content hb hq with rfl | ⟨hτ, hz⟩
    · obtain ⟨-, hpfinite⟩ := h.typed p ha
      obtain ⟨-, hqfinite⟩ := h'.typed q hb
      by_cases hzeros : op.isComparison = true ∧ p.OppositeZeros q
      · obtain ⟨hρ, -⟩ :=
          op.exists_apply_of_isComparison hzeros.1 htype hpσ hqτ hpfinite hqfinite
        obtain ⟨s, hs⟩ := op.exists_onCells_of_isComparison hzeros.1 htype hpσ hqτ
        exact ⟨_, hs, .inr ⟨hρ, hZ hzeros.1 hzeros.2⟩⟩
      · have hagrees := op.apply_agrees htype hpσ hqτ hpfinite hqfinite
          (fun hop hz => hzeros ⟨hop, hz⟩) hdegree
        exact ⟨w, hagrees.cell_eq hw, .inl rfl⟩
    · exact hboolean (.inr hτ) hz
  · exact hboolean (.inl hσ) hz

private theorem carryCells_cases (op : BinaryOp) (c d : Option Value) :
    op.carryCells c d = .failed ∨ ((op = .root → d.any Value.isZero = false) ∧
      op.carryCells c d = .cell (Formula.Datum.lift op.onCells c d)) := by
  unfold BinaryOp.carryCells
  split
  next => exact .inl rfl
  next h => exact .inr ⟨fun hop => by simpa [hop] using h, rfl⟩

-- A failure, a value for all rows, or a cell.
private theorem carry_cases (op : BinaryOp) (κ μ : Carried) :
    op.carry κ μ = .failed ∨
    (∃ v w, κ = .constant v ∧ μ = .constant w ∧ op.carry κ μ = .ofResult (op.apply v w)) ∨
    (κ ≠ .failed ∧ μ ≠ .failed ∧ (op = .root → μ.content.any Value.isZero = false) ∧
      op.carry κ μ = .cell (Formula.Datum.lift op.onCells κ.content μ.content)) := by
  have hcells (hκ : κ ≠ .failed) (hμ : μ ≠ .failed)
      (hcarry : op.carry κ μ = op.carryCells κ.content μ.content) :
      op.carry κ μ = .failed ∨ (κ ≠ .failed ∧ μ ≠ .failed ∧
        (op = .root → μ.content.any Value.isZero = false) ∧
        op.carry κ μ = .cell (Formula.Datum.lift op.onCells κ.content μ.content)) := by
    rw [hcarry]
    exact (carryCells_cases op κ.content μ.content).imp_right fun h => ⟨hκ, hμ, h⟩
  cases κ with
  | failed => exact .inl rfl
  | constant v =>
    cases μ with
    | failed => exact .inl rfl
    | constant w => exact .inr (.inl ⟨v, w, rfl, rfl, rfl⟩)
    | cell d => exact (hcells (by simp) (by simp) rfl).imp_right .inr
  | cell c =>
    cases μ with
    | failed => exact .inl rfl
    | constant w => exact (hcells (by simp) (by simp) rfl).imp_right .inr
    | cell d => exact (hcells (by simp) (by simp) rfl).imp_right .inr

-- An operator on two cells, beside the operator on the values of the row.
theorem BinaryOp.carry_follows {op : BinaryOp} (htype : op.type? σ τ = some ρ)
    (h : Follows σ x κ A S Z) (h' : Follows τ y μ A S Z)
    (hA : op.absorbs = true → κ.isNonFinite = true ∨ μ.isNonFinite = true →
      isLost (op.carry κ μ).content = false → A)
    (hZ : op.isComparison = true → ∀ p q, κ.content = some p → μ.content = some q →
      p.OppositeZeros q → Z) :
    Follows ρ (x.bind fun a => y.bind fun b => (op.apply a b).toOption) (op.carry κ μ) A S Z := by
  have hvalues (w : Value)
      (hw : (x.bind fun a => y.bind fun b => (op.apply a b).toOption) = some w) :
      ∃ a b, x = some a ∧ y = some b ∧ op.apply a b = .ok w := by
    obtain ⟨a, ha, hw⟩ := Option.bind_eq_some_iff.mp hw
    obtain ⟨b, hb, hw⟩ := Option.bind_eq_some_iff.mp hw
    exact ⟨a, b, ha, hb, Outcome.toOption_eq_some hw⟩
  have hsound {a b : Value} (ha : x = some a) (hb : y = some b) :=
    op.apply_sound htype (h.typed a ha).1 (h'.typed b hb).1 (h.typed a ha).2 (h'.typed b hb).2
  have htyped (w : Value)
      (hw : (x.bind fun a => y.bind fun b => (op.apply a b).toOption) = some w) :
      w.scalarType? = some ρ ∧ w.isFinite = true := by
    obtain ⟨a, b, ha, hb, happly⟩ := hvalues w hw
    exact (hsound ha hb).1 w happly
  rcases carry_cases op κ μ with hcarry | ⟨v, w, rfl, rfl, hcarry⟩ | ⟨hκ, hμ, hdegree, hcarry⟩
  · rw [hcarry]
    exact .of_failed htyped
  · have hx := h.constant v rfl
    have hy := h'.constant w rfl
    rw [hcarry, hx, hy]
    exact .of_result fun u hu => (hsound hx hy).1 u hu
  · rw [hcarry] at hA ⊢
    -- Unless both cells have a content, the result is null.
    have hnull (hlift : Formula.Datum.lift op.onCells κ.content μ.content = none)
        (hS : ∀ a b, x = some a → y = some b → S) :
        Follows ρ (x.bind fun a => y.bind fun b => (op.apply a b).toOption)
          (.cell (Formula.Datum.lift op.onCells κ.content μ.content)) A S Z := by
      rw [hlift]
      refine .of_cell htyped (fun w hw => by cases hw) (fun _ => .inl rfl) fun w hw =>
        .inl ⟨rfl, ?_⟩
      obtain ⟨a, b, ha, hb, -⟩ := hvalues w hw
      exact hS a b ha hb
    cases hp : κ.content with
    | none =>
      rw [hp] at hnull
      exact hnull rfl fun a b ha hb => h.skipped_of_content ha hκ hp
    | some p =>
      cases hq : μ.content with
      | none =>
        rw [hp, hq] at hnull
        exact hnull rfl fun a b ha hb => h'.skipped_of_content hb hμ hq
      | some q =>
        have hdegree' (hop : op = .root) : q.isZero = false := by simpa [hq] using hdegree hop
        have hA' (habsorbs : op.absorbs = true) (hpq : p.isFinite = false ∨ q.isFinite = false)
            (hlost : isLost (op.onCells p q) = false) : A := by
          refine hA habsorbs ?_ (by rw [hp, hq]; exact hlost)
          simpa [Carried.isNonFinite, hp, hq] using hpq
        refine .of_cell htyped
          (fun w hw => op.scalarType?_onCells htype (h.content p hp) (h'.content q hq) hw)
          (onCells_lost htype h h' hp hq hdegree' hA') fun w hw => .inr ?_
        obtain ⟨a, b, ha, hb, happly⟩ := hvalues w hw
        exact onCells_kept htype h h' hp hq hdegree' (fun hop => hZ hop p q hp hq) ha hb happly

-- An operand that decides alone, beside an operator on both cells.
theorem BinaryOp.carry_follows_of_decided {op : BinaryOp} (htype : op.type? σ τ = some ρ)
    (h : Follows σ x κ A S Z) (h' : Follows τ y μ A S Z) {a result : Value} (ha : x = some a)
    (hdecided : op.shortCircuit? a = some result) (hκ : ∀ v, κ ≠ .constant v)
    (hS : μ = .cell none → S) : Follows ρ (some result) (op.carry κ μ) A S Z := by
  obtain ⟨rfl, rfl, rfl, b, rfl, rfl, honcells⟩ := op.shortCircuit?_boolean hdecided htype
  have htyped (w : Value) (hw : some (Value.boolean b) = some w) :
      w.scalarType? = some .boolean ∧ w.isFinite = true := by
    cases hw
    exact ⟨rfl, rfl⟩
  rcases carry_cases op κ μ with hcarry | ⟨v, w, rfl, -, -⟩ | ⟨hfailed, hfailed', -, hcarry⟩
  · rw [hcarry]
    exact .of_failed htyped
  · exact absurd rfl (hκ v)
  · rw [hcarry]
    have hnull (hlift : Formula.Datum.lift op.onCells κ.content μ.content = none) (hs : S) :
        Follows .boolean (some (.boolean b))
          (.cell (Formula.Datum.lift op.onCells κ.content μ.content)) A S Z := by
      rw [hlift]
      exact .of_cell htyped (fun w hw => by cases hw) (fun _ => .inl rfl) fun w hw => .inl ⟨rfl, hs⟩
    cases hp : κ.content with
    | none =>
      rw [hp] at hnull
      exact hnull rfl (h.skipped_of_content ha hfailed hp)
    | some p =>
      cases hq : μ.content with
      | none =>
        rw [hp, hq] at hnull
        refine hnull rfl (hS ?_)
        cases μ with
        | failed => exact absurd rfl hfailed'
        | constant w => cases hq
        | cell d => exact congrArg Carried.cell hq
      | some q =>
        have hpσ := h.content p hp
        have hqτ := h'.content q hq
        refine .of_cell htyped (fun w hw => op.scalarType?_onCells htype hpσ hqτ hw)
          (fun hnone => by cases hnone) fun w hw => .inr ?_
        cases hw
        obtain ⟨q, rfl⟩ := exists_boolean hqτ
        rcases h.eq_of_content ha hp with rfl | ⟨-, hz⟩
        · exact ⟨_, honcells q, .inl rfl⟩
        · obtain ⟨p, rfl⟩ := exists_boolean hpσ
          obtain ⟨-, -, s, hs⟩ := op.onCells_boolean htype p q
          exact ⟨_, hs, .inr ⟨rfl, hz⟩⟩

-- Variables stand for finite values of their types.
def Scope.Holds (Γ : String → Option ScalarType) (cells : String → Option Value) (scope : Scope) :
    Prop :=
  ∀ name σ, Γ name = some σ → ∃ v, cells name = some v ∧ scope.lookup? name = some (.scalar v) ∧
    v.scalarType? = some σ ∧ v.isFinite = true

namespace Expr

variable {Γ : String → Option ScalarType} {cells : String → Option Value} {scope : Scope}

theorem value_unary (op : UnaryOp) (operand : Expr) (location : Location) :
    ((Expr.unary op operand location).evaluate .lazy scope).value =
      (operand.evaluate .lazy scope).value.bind fun v => (op.apply v).toOption := by
  rw [Expr.evaluate, Outcome.bind_eq, Outcome.value_bind]
  simp only [Outcome.value_report]

theorem value_binary (op : BinaryOp) (left right : Expr) (location : Location) :
    ((Expr.binary op left right location).evaluate .lazy scope).value =
      (left.evaluate .lazy scope).value.bind fun a =>
        match op.shortCircuit? a with
        | some result => some result
        | none => (right.evaluate .lazy scope).value.bind fun b => (op.apply a b).toOption := by
  rw [Expr.evaluate]
  simp only [Outcome.bind_eq, Outcome.value_bind]
  congr 1
  funext a
  cases op.shortCircuit? a with
  | some result => rfl
  | none => simp only [Outcome.value_bind, Outcome.value_report]

-- What the parts of the operands have done, the expression has done in a part.
private theorem Follows.of_left (op : BinaryOp) {left : Expr} (right : Expr) (location : Location)
    {result : Option Value} {κ : Carried}
    (h : Follows σ result κ (left.HasPart (Absorbs cells)) (left.HasPart (SkipsNull scope cells))
      (left.HasPart (ComparesZeros cells))) :
    Follows σ result κ ((binary op left right location).HasPart (Absorbs cells))
      ((binary op left right location).HasPart (SkipsNull scope cells))
      ((binary op left right location).HasPart (ComparesZeros cells)) :=
  h.imp .left .left .left

private theorem Follows.of_right (op : BinaryOp) (left : Expr) {right : Expr} (location : Location)
    {result : Option Value} {κ : Carried}
    (h : Follows σ result κ (right.HasPart (Absorbs cells)) (right.HasPart (SkipsNull scope cells))
      (right.HasPart (ComparesZeros cells))) :
    Follows σ result κ ((binary op left right location).HasPart (Absorbs cells))
      ((binary op left right location).HasPart (SkipsNull scope cells))
      ((binary op left right location).HasPart (ComparesZeros cells)) :=
  h.imp .right .right .right

private theorem binary_follows {op : BinaryOp} {left right : Expr} {location : Location}
    (htype : op.type? σ τ = some ρ)
    (ih : Follows σ (left.evaluate .lazy scope).value (left.carried cells)
      (left.HasPart (Absorbs cells)) (left.HasPart (SkipsNull scope cells))
      (left.HasPart (ComparesZeros cells)))
    (ih' : Follows τ (right.evaluate .lazy scope).value (right.carried cells)
      (right.HasPart (Absorbs cells)) (right.HasPart (SkipsNull scope cells))
      (right.HasPart (ComparesZeros cells))) :
    Follows ρ ((binary op left right location).evaluate .lazy scope).value
      ((binary op left right location).carried cells)
      ((binary op left right location).HasPart (Absorbs cells))
      ((binary op left right location).HasPart (SkipsNull scope cells))
      ((binary op left right location).HasPart (ComparesZeros cells)) := by
  have hleft := Follows.of_left op right location ih
  have hright := Follows.of_right op left location ih'
  rw [value_binary]
  by_cases hdecided : ∃ a result, (left.evaluate .lazy scope).value = some a ∧
      op.shortCircuit? a = some result
  · obtain ⟨a, result, ha, hresult⟩ := hdecided
    simp only [ha, Option.bind_some, hresult]
    by_cases hconstant : ∃ v, left.carried cells = .constant v
    · obtain ⟨v, hv⟩ := hconstant
      obtain rfl : v = a := Option.some.inj ((ih.constant v hv).symm.trans ha)
      obtain ⟨-, -, rfl, b, rfl, rfl, -⟩ := op.shortCircuit?_boolean hresult htype
      rw [carried_binary_of_decided hv hresult]
      exact .of_value rfl rfl rfl
    · rw [carried_binary fun v hv => absurd ⟨v, hv⟩ hconstant]
      refine op.carry_follows_of_decided htype hleft hright ha hresult
        (fun v hv => hconstant ⟨v, hv⟩) fun hnull => .here ⟨⟨a, ha, ?_⟩, hnull⟩
      rw [hresult]
      rfl
  · have hundecided (a : Value) (ha : (left.evaluate .lazy scope).value = some a) :
        op.shortCircuit? a = none := by
      cases hresult : op.shortCircuit? a with
      | none => rfl
      | some result => exact absurd ⟨a, result, ha, hresult⟩ hdecided
    have hcarried : (binary op left right location).carried cells =
        op.carry (left.carried cells) (right.carried cells) :=
      carried_binary fun v hv => hundecided v (ih.constant v hv)
    have hvalue : ((left.evaluate .lazy scope).value.bind fun a =>
        match op.shortCircuit? a with
        | some result => some result
        | none => (right.evaluate .lazy scope).value.bind fun b => (op.apply a b).toOption) =
        (left.evaluate .lazy scope).value.bind fun a =>
          (right.evaluate .lazy scope).value.bind fun b => (op.apply a b).toOption := by
      cases ha : (left.evaluate .lazy scope).value with
      | none => rfl
      | some a => simp only [Option.bind_some, hundecided a ha]
    rw [hvalue, hcarried]
    refine op.carry_follows htype hleft hright (fun habsorbs hinfinite hlost => ?_)
      fun hop p q hp hq hzeros => .here ⟨hop, p, q, hp, hq, hzeros⟩
    exact .here ⟨habsorbs, hinfinite, hcarried ▸ hlost⟩

-- By induction on the typing: what is carried follows lazy evaluation.
theorem Typed.follows {e : Expr} (h : Typed Γ e σ) (hscope : scope.Holds Γ cells) :
    Follows σ (e.evaluate .lazy scope).value (e.carried cells) (e.HasPart (Absorbs cells))
      (e.HasPart (SkipsNull scope cells)) (e.HasPart (ComparesZeros cells)) := by
  induction h with
  | @literal Γ l location v σ hl hv hfinite =>
    rw [evaluate_literal hl]
    exact .of_value hv hfinite (by rw [carried, hl]; rfl)
  | var h =>
    obtain ⟨v, hcell, hlookup, hv, hfinite⟩ := hscope _ _ h
    rw [Expr.evaluate, Scope.value, hlookup]
    exact .of_value hv hfinite (by rw [carried, hcell]; rfl)
  | unary h htype ih =>
    rw [value_unary, carried]
    exact (UnaryOp.carry_follows htype (ih hscope)).imp .operand .operand .operand
  | binary h h' hop htype ih ih' => exact binary_follows htype (ih hscope) (ih' hscope)
  | exponent h h' hop htype ih ih' =>
    exact binary_follows htype (ih hscope) (ih' fun name σ h => by cases h)

end Expr

end TableFlow

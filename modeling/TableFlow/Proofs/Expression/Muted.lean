import TableFlow.Proofs.Expression.Strategies

namespace TableFlow

namespace Outcome

variable {α β : Type} {d : Diagnostic}

theorem mem_diagnostics_pure (a : α) : d ∈ (pure a : Outcome α).diagnostics ↔ False :=
  ⟨fun h => (nomatch h), False.elim⟩

theorem mem_diagnostics_bind (x : Outcome α) (f : α → Outcome β) :
    d ∈ (x >>= f).diagnostics ↔
      d ∈ x.diagnostics ∨ ∃ a, x.value = some a ∧ d ∈ (f a).diagnostics := by
  rw [bind_eq, Outcome.bind]
  cases x.value <;> simp

theorem value_both (x : Outcome α) (y : Outcome β) :
    (x.both y).value = x.value.bind fun a => y.value.map fun b => (a, b) := rfl

theorem mem_diagnostics_both (x : Outcome α) (y : Outcome β) :
    d ∈ (x.both y).diagnostics ↔ d ∈ x.diagnostics ∨ d ∈ y.diagnostics := by
  simp [both]

theorem mem_diagnostics_report (e : Expr) (r : Except EvalError α) :
    d ∈ (report e r).diagnostics ↔ ∃ error, r = .error error ∧ d = error.diagnostic e := by
  cases r <;> simp [report]

end Outcome

open Outcome

namespace Expr

variable (strategy : Strategy) (scope : Scope)

-- The operands of an operator and the items of a collection.
def parts : Expr → List Expr
  | .literal (.collection items) _ => items
  | .literal _ _ => []
  | .var _ _ => []
  | .unary _ operand _ => [operand]
  | .binary _ left right _ => [left, right]
  | .ternary _ first second third _ => [first, second, third]

theorem sizeOf_lt_of_mem_parts {e p : Expr} (h : p ∈ e.parts) : sizeOf p < sizeOf e := by
  cases e with
  | literal value _ =>
      cases value with
      | collection items =>
          have hitem := List.sizeOf_lt_of_mem (show p ∈ items from h)
          simp only [literal.sizeOf_spec, Literal.collection.sizeOf_spec]
          omega
      | _ => simp [parts] at h
  | var => simp [parts] at h
  | unary => simp_all [parts]; omega
  | binary =>
      simp only [parts, List.mem_cons, List.not_mem_nil, or_false] at h
      rcases h with rfl | rfl <;> simp only [binary.sizeOf_spec] <;> omega
  | ternary =>
      simp only [parts, List.mem_cons, List.not_mem_nil, or_false] at h
      rcases h with rfl | rfl | rfl <;> simp only [ternary.sizeOf_spec] <;> omega

-- What holds of an expression if it holds of its parts holds of all expressions.
theorem induction_on_parts {motive : Expr → Prop}
    (h : ∀ e : Expr, (∀ p ∈ e.parts, motive p) → motive e) (e : Expr) : motive e :=
  h e fun p _ => induction_on_parts h p
termination_by sizeOf e
decreasing_by exact sizeOf_lt_of_mem_parts ‹_›

-- The left operand decides without the right one.
def Decided : Expr → Prop
  | .binary op left _ _ =>
    ∃ a, (left.evaluate .lazy scope).value = some a ∧ (op.shortCircuit? a).isSome = true
  | _ => False

-- The parts that are evaluated together with an expression.
def evaluated : Expr → List Expr
  | .binary op left right _ =>
    match strategy, (left.evaluate .lazy scope).value with
    | .exhaustive, _ => [left, right]
    | .lazy, none => [left]
    | .lazy, some a => if (op.shortCircuit? a).isSome then [left] else [left, right]
  | .ternary _ first second third _ =>
    match strategy, (first.evaluate .lazy scope).value with
    | .lazy, none => [first]
    | _, _ => [first, second, third]
  | e => e.parts

theorem evaluated_subset (e : Expr) : e.evaluated strategy scope ⊆ e.parts := by
  unfold evaluated
  split
  · split <;> try split
    all_goals simp [parts]
  · split <;> simp [parts]
  · simp

-- An expression is evaluated in the course of the evaluation of another one.
inductive Visits : Expr → Expr → Prop
  | self (e : Expr) : Visits e e
  | part {e p s : Expr} : p ∈ e.evaluated strategy scope → Visits p s → Visits e s

theorem visits_iff {e s : Expr} : Visits strategy scope e s ↔
    s = e ∨ ∃ p ∈ e.evaluated strategy scope, Visits strategy scope p s := by
  constructor
  · intro h
    cases h with
    | self => exact .inl rfl
    | part hp h => exact .inr ⟨_, hp, h⟩
  · rintro (rfl | ⟨p, hp, h⟩)
    · exact .self _
    · exact .part hp h

-- What an expression makes of the values of its parts, if all of them have one.
def applied (e : Expr) : Option (Except EvalError Value) :=
  match e with
  | .literal (.regex pattern) _ =>
    some (((Regex.compile pattern).map Value.regex).mapError (.invalidRegex pattern))
  | .literal value _ => (value.evaluate strategy scope e).value.map .ok
  | .var name _ => some (scope.value name)
  | .unary op operand _ => (operand.evaluate strategy scope).value.map op.apply
  | .binary op left right _ =>
    (left.evaluate strategy scope).value.bind fun a =>
      (right.evaluate strategy scope).value.map (op.apply a)
  | .ternary op first second third _ =>
    (first.evaluate strategy scope).value.bind fun a =>
      (second.evaluate strategy scope).value.bind fun b =>
        (third.evaluate strategy scope).value.map (op.apply a b)

-- What there is to say about an expression itself, and not about its parts.
def Reports (e : Expr) (d : Diagnostic) : Prop :=
  ∃ error, e.applied strategy scope = some (.error error) ∧ d = error.diagnostic e

variable {strategy scope} {e p s : Expr} {d : Diagnostic}

theorem mem_diagnostics_evaluateAll (items : List Expr) :
    d ∈ (evaluateAll strategy scope items).diagnostics ↔
      ∃ p ∈ items, d ∈ (p.evaluate strategy scope).diagnostics := by
  induction items with
  | nil => simp [evaluateAll, mem_diagnostics_pure]
  | cons p items ih =>
      simp [evaluateAll, mem_diagnostics_bind, mem_diagnostics_both, mem_diagnostics_pure, ih,
        -bind_pure_comp]

-- One step: what is reported about an expression is reported about a part that is evaluated, or
-- there is something to say about the expression itself and nothing has been decided before.
theorem mem_diagnostics_step : d ∈ (e.evaluate strategy scope).diagnostics ↔
    (∃ p ∈ e.evaluated strategy scope, d ∈ (p.evaluate strategy scope).diagnostics) ∨
      (strategy = .lazy → ¬ e.Decided scope) ∧ e.Reports strategy scope d := by
  cases e with
  | literal value _ =>
      cases value with
      | collection items =>
          simp [evaluate, Literal.evaluate, evaluated, parts, Reports, applied,
            mem_diagnostics_bind, mem_diagnostics_pure, mem_diagnostics_evaluateAll,
            -bind_pure_comp]
      | _ =>
          simp [evaluate, Literal.evaluate, evaluated, parts, Decided, Reports, applied,
            mem_diagnostics_pure, mem_diagnostics_report]
  | var => simp [evaluate, evaluated, parts, Decided, Reports, applied, mem_diagnostics_report]
  | unary op operand _ =>
      cases hvalue : (operand.evaluate strategy scope).value <;>
        simp [evaluate, evaluated, parts, Decided, Reports, applied, mem_diagnostics_bind,
          mem_diagnostics_report, hvalue]
  | binary op left right _ =>
      cases strategy with
      | exhaustive =>
          cases hleft : (left.evaluate .exhaustive scope).value <;>
            cases hright : (right.evaluate .exhaustive scope).value <;>
              simp [evaluate, evaluated, Reports, applied, mem_diagnostics_bind,
                mem_diagnostics_both, mem_diagnostics_report, value_both, hleft, hright, or_assoc]
      | lazy =>
          cases hleft : (left.evaluate .lazy scope).value with
          | none =>
              simp [evaluate, evaluated, Decided, Reports, applied, mem_diagnostics_bind, hleft]
          | some a =>
              cases hdecided : op.shortCircuit? a with
              | some result =>
                  simp [evaluate, evaluated, Decided, mem_diagnostics_bind, mem_diagnostics_pure,
                    hleft, hdecided]
              | none =>
                  cases hright : (right.evaluate .lazy scope).value <;>
                    simp [evaluate, evaluated, Decided, Reports, applied, mem_diagnostics_bind,
                      mem_diagnostics_report, hleft, hdecided, hright, or_assoc]
  | ternary op first second third _ =>
      cases strategy with
      | exhaustive =>
          cases hfirst : (first.evaluate .exhaustive scope).value <;>
            cases hsecond : (second.evaluate .exhaustive scope).value <;>
              cases hthird : (third.evaluate .exhaustive scope).value <;>
                simp [evaluate, evaluated, Reports, applied, mem_diagnostics_bind,
                  mem_diagnostics_both, mem_diagnostics_report, value_both, hfirst, hsecond, hthird,
                  or_assoc]
      | lazy =>
          cases hfirst : (first.evaluate .lazy scope).value <;>
            cases hsecond : (second.evaluate .lazy scope).value <;>
              cases hthird : (third.evaluate .lazy scope).value <;>
                simp [evaluate, evaluated, Decided, Reports, applied, mem_diagnostics_bind,
                  mem_diagnostics_both, mem_diagnostics_report, value_both, hfirst, hsecond, hthird,
                  or_assoc]

-- All that is reported is said about an expression that is evaluated. By induction on the parts.
theorem mem_diagnostics_iff : d ∈ (e.evaluate strategy scope).diagnostics ↔
    ∃ s, Visits strategy scope e s ∧ (strategy = .lazy → ¬ s.Decided scope) ∧
      s.Reports strategy scope d := by
  induction e using induction_on_parts with
  | h e ih =>
      rw [mem_diagnostics_step]
      constructor
      · rintro (⟨p, hp, hd⟩ | hown)
        · obtain ⟨s, hs, hown⟩ := (ih p (evaluated_subset _ _ e hp)).mp hd
          exact ⟨s, .part hp hs, hown⟩
        · exact ⟨e, .self e, hown⟩
      · rintro ⟨s, hs, hown⟩
        rcases (visits_iff strategy scope).mp hs with rfl | ⟨p, hp, hs⟩
        · exact .inr hown
        · exact .inl ⟨p, hp, (ih p (evaluated_subset _ _ e hp)).mpr ⟨s, hs, hown⟩⟩

theorem value_evaluateAll (items : List Expr) :
    (evaluateAll strategy scope items).value.isSome = true ↔
      ∀ p ∈ items, (p.evaluate strategy scope).value.isSome = true := by
  induction items with
  | nil => simp [evaluateAll, pure, Outcome.pure]
  | cons p items ih =>
      rw [List.forall_mem_cons, ← ih, evaluateAll, bind_eq, value_bind, value_both]
      cases (p.evaluate strategy scope).value <;>
        cases (evaluateAll strategy scope items).value <;> simp [pure, Outcome.pure]

-- Without a decision the value is what is made of the values of the parts.
theorem value_eq_applied (h : strategy = .lazy → ¬ e.Decided scope) :
    (e.evaluate strategy scope).value = (e.applied strategy scope).bind Except.toOption := by
  cases e with
  | literal value _ =>
      cases value with
      | regex => simp [evaluate, Literal.evaluate, applied, value_report]
      | _ =>
          rw [evaluate, applied]
          · cases (Literal.evaluate strategy scope _ _).value <;> simp [Except.toOption]
          · simp
  | var => simp [evaluate, applied, value_report]
  | unary op operand _ =>
      rw [evaluate, applied, bind_eq, value_bind]
      cases (operand.evaluate strategy scope).value <;> simp [value_report]
  | binary op left right _ =>
      cases strategy with
      | exhaustive =>
          rw [evaluate, applied, bind_eq, value_bind, value_both]
          cases (left.evaluate .exhaustive scope).value <;>
            cases (right.evaluate .exhaustive scope).value <;> simp [value_report]
      | lazy =>
          rw [evaluate, applied, bind_eq, value_bind]
          cases hleft : (left.evaluate .lazy scope).value with
          | none => rfl
          | some a =>
              have hdecided : op.shortCircuit? a = none := by simpa [Decided, hleft] using h rfl
              simp only [Option.bind_some, hdecided, bind_eq, value_bind]
              cases (right.evaluate .lazy scope).value <;> simp [value_report]
  | ternary op first second third _ =>
      cases strategy <;>
        simp only [evaluate, applied, bind_eq, value_bind, value_both] <;>
        cases (first.evaluate _ scope).value <;> cases (second.evaluate _ scope).value <;>
          cases (third.evaluate _ scope).value <;> simp [value_report]

-- The exhaustive strategy makes the same of the parts if they have all kept their values.
theorem applied_exhaustive_iff {result : Except EvalError Value} :
    e.applied .exhaustive scope = some result ↔ e.applied .lazy scope = some result ∧
      ∀ p ∈ e.parts, (p.evaluate .exhaustive scope).value.isSome = true := by
  cases e with
  | literal value _ =>
      cases value with
      | collection items =>
          have hitems : (evaluateAll .exhaustive scope items).value.isSome = true ↔ _ :=
            value_evaluateAll items
          have hwithin := Expr.evaluateAll_within scope items
          simp only [applied, Literal.evaluate, bind_eq, value_bind, parts, ← hitems]
          cases hvalue : (evaluateAll .exhaustive scope items).value with
          | none => simp
          | some values => simp [hwithin values hvalue]
      | _ => simp [applied, Literal.evaluate, parts]
  | var => simp [applied, parts]
  | unary op operand _ =>
      have hoperand := operand.evaluate_within scope
      simp only [applied, parts, List.forall_mem_singleton]
      cases hvalue : (operand.evaluate .exhaustive scope).value with
      | none => simp
      | some a => simp [hoperand a hvalue]
  | binary op left right _ =>
      have hleft := left.evaluate_within scope
      have hright := right.evaluate_within scope
      simp only [applied, parts, List.forall_mem_cons]
      cases ha : (left.evaluate .exhaustive scope).value with
      | none => simp
      | some a =>
          cases hb : (right.evaluate .exhaustive scope).value with
          | none => simp
          | some b => simp [hleft a ha, hright b hb]
  | ternary op first second third _ =>
      have hfirst := first.evaluate_within scope
      have hsecond := second.evaluate_within scope
      have hthird := third.evaluate_within scope
      simp only [applied, parts, List.forall_mem_cons]
      cases ha : (first.evaluate .exhaustive scope).value with
      | none => simp
      | some a =>
          cases hb : (second.evaluate .exhaustive scope).value with
          | none => simp
          | some b =>
              cases hc : (third.evaluate .exhaustive scope).value with
              | none => simp
              | some c => simp [hfirst a ha, hsecond b hb, hthird c hc]

-- A right operand is skipped that has no boolean value.
def SkipsFault (scope : Scope) : Expr → Prop
  | .binary op left right location =>
    (binary op left right location).Decided scope ∧
      ¬ ∃ b, (right.evaluate .exhaustive scope).value = some (.boolean b)
  | _ => False

theorem isSome_apply_of_decided {op : BinaryOp} {a b : Value}
    (h : (op.shortCircuit? a).isSome = true) :
    (op.apply a b).toOption.isSome = true ↔ ∃ x, b = .boolean x := by
  unfold BinaryOp.shortCircuit? at h
  split at h
  · cases b <;> simp [BinaryOp.apply, Operator.truths, Operator.mismatch, bind, Except.bind,
      Except.toOption, pure, Except.pure]
  · cases b <;> simp [BinaryOp.apply, Operator.truths, Operator.mismatch, bind, Except.bind,
      Except.toOption, pure, Except.pure]
  · cases h

theorem evaluated_of_decided {op : BinaryOp} {left right : Expr} {location : Location}
    (h : (binary op left right location).Decided scope) :
    (binary op left right location).evaluated .lazy scope = [left] := by
  obtain ⟨a, ha, hdecided⟩ := h
  simp [evaluated, ha, hdecided]

-- What is made of all parts has been made of parts that have values, and all of them are evaluated.
theorem evaluated_of_applied {result : Except EvalError Value} (h : ¬ e.Decided scope)
    (happlied : e.applied .lazy scope = some result) : e.evaluated .lazy scope = e.parts := by
  cases e with
  | binary op left right _ =>
      cases hleft : (left.evaluate .lazy scope).value with
      | none => simp [applied, hleft] at happlied
      | some a =>
          have hdecided : op.shortCircuit? a = none := by simpa [Decided, hleft] using h
          simp [evaluated, hleft, hdecided, parts]
  | ternary op first second third _ =>
      cases hfirst : (first.evaluate .lazy scope).value with
      | none => simp [applied, hfirst] at happlied
      | some a => simp [evaluated, hfirst, parts]
  | _ => rfl

theorem isSome_of_applied {result : Except EvalError Value}
    (h : e.applied .lazy scope = some result) (hp : p ∈ e.parts) :
    (p.evaluate .lazy scope).value.isSome = true := by
  cases e with
  | literal value _ =>
      cases value with
      | collection items =>
          have hitems : (evaluateAll .lazy scope items).value.isSome = true ↔ _ :=
            value_evaluateAll items
          refine hitems.mp ?_ p hp
          simp only [applied, Literal.evaluate, bind_eq, value_bind] at h
          cases hvalue : (evaluateAll .lazy scope items).value with
          | none => simp [hvalue] at h
          | some => rfl
      | _ => simp [parts] at hp
  | var => simp [parts] at hp
  | unary op operand _ =>
      obtain rfl : p = operand := by simpa [parts] using hp
      obtain ⟨a, ha, -⟩ := Option.map_eq_some_iff.mp h
      rw [ha]
      rfl
  | binary op left right _ =>
      obtain ⟨a, ha, h⟩ := Option.bind_eq_some_iff.mp h
      obtain ⟨b, hb, -⟩ := Option.map_eq_some_iff.mp h
      simp only [parts, List.mem_cons, List.not_mem_nil, or_false] at hp
      rcases hp with rfl | rfl <;> simp [ha, hb]
  | ternary op first second third _ =>
      obtain ⟨a, ha, h⟩ := Option.bind_eq_some_iff.mp h
      obtain ⟨b, hb, h⟩ := Option.bind_eq_some_iff.mp h
      obtain ⟨c, hc, -⟩ := Option.map_eq_some_iff.mp h
      simp only [parts, List.mem_cons, List.not_mem_nil, or_false] at hp
      rcases hp with rfl | rfl | rfl <;> simp [ha, hb, hc]

-- One step: a value of the lazy strategy is found by the exhaustive one if no right operand is
-- skipped that is needed now, and if all parts that are evaluated have kept their values.
theorem isSome_exhaustive_step (h : (e.evaluate .lazy scope).value.isSome = true) :
    (e.evaluate .exhaustive scope).value.isSome = true ↔
      ¬ e.SkipsFault scope ∧
        ∀ p ∈ e.evaluated .lazy scope, (p.evaluate .exhaustive scope).value.isSome = true := by
  by_cases hdecided : e.Decided scope
  · cases e with
    | binary op left right location =>
        rw [evaluated_of_decided hdecided, List.forall_mem_singleton, SkipsFault]
        obtain ⟨a, ha, hshort⟩ := id hdecided
        rw [value_eq_applied (by simp), applied]
        cases hleft : (left.evaluate .exhaustive scope).value with
        | none => simp
        | some a' =>
            obtain rfl : a' = a := by
              have ha' := left.evaluate_within scope a' hleft
              exact Option.some.inj (ha'.symm.trans ha)
            cases hright : (right.evaluate .exhaustive scope).value with
            | none => simp [hdecided]
            | some b =>
                show (op.apply a' b).toOption.isSome = true ↔ _
                rw [isSome_apply_of_decided hshort]
                simp only [hdecided, true_and, Option.some.injEq, Classical.not_not,
                  Option.isSome_some, and_true]
    | _ => exact False.elim hdecided
  · have hskips : ¬ e.SkipsFault scope := by
      cases e with
      | binary => exact fun h => hdecided h.1
      | _ => exact id
    rw [value_eq_applied fun _ => hdecided] at h
    obtain ⟨v, hv⟩ := Option.isSome_iff_exists.mp h
    obtain ⟨result, hresult, hok⟩ := Option.bind_eq_some_iff.mp hv
    rw [value_eq_applied (by simp), evaluated_of_applied hdecided hresult]
    constructor
    · intro hsome
      obtain ⟨w, hw⟩ := Option.isSome_iff_exists.mp hsome
      obtain ⟨result', hresult', -⟩ := Option.bind_eq_some_iff.mp hw
      exact ⟨hskips, (applied_exhaustive_iff.mp hresult').2⟩
    · rintro ⟨-, hparts⟩
      rw [applied_exhaustive_iff.mpr ⟨hresult, hparts⟩, Option.bind_some, hok]
      rfl

theorem isSome_of_mem_evaluated (h : (e.evaluate .lazy scope).value.isSome = true)
    (hp : p ∈ e.evaluated .lazy scope) : (p.evaluate .lazy scope).value.isSome = true := by
  by_cases hdecided : e.Decided scope
  · cases e with
    | binary op left right _ =>
        rw [evaluated_of_decided hdecided, List.mem_singleton] at hp
        obtain ⟨a, ha, -⟩ := hdecided
        rw [hp, ha]
        rfl
    | _ => exact False.elim hdecided
  · rw [value_eq_applied fun _ => hdecided] at h
    obtain ⟨v, hv⟩ := Option.isSome_iff_exists.mp h
    obtain ⟨result, hresult, -⟩ := Option.bind_eq_some_iff.mp hv
    rw [evaluated_of_applied hdecided hresult] at hp
    exact isSome_of_applied hresult hp

-- By induction on the parts: a value of the lazy strategy is lost exactly if somewhere on its way a
-- right operand is skipped that has no boolean value.
theorem isSome_exhaustive_iff (h : (e.evaluate .lazy scope).value.isSome = true) :
    (e.evaluate .exhaustive scope).value.isSome = true ↔
      ∀ s, Visits .lazy scope e s → ¬ s.SkipsFault scope := by
  induction e using induction_on_parts with
  | h e ih =>
      have hparts (p : Expr) (hp : p ∈ e.evaluated .lazy scope) :=
        ih p (evaluated_subset _ _ e hp) (isSome_of_mem_evaluated h hp)
      rw [isSome_exhaustive_step h, forall₂_congr hparts]
      constructor
      · rintro ⟨hself, hevaluated⟩ s hs
        rcases (visits_iff .lazy scope).mp hs with rfl | ⟨p, hp, hs⟩
        · exact hself
        · exact hevaluated p hp s hs
      · intro hall
        exact ⟨hall e (.self e), fun p hp s hs => hall s (.part hp hs)⟩

-- An operand has a value that it loses for a fault of a right operand that is skipped.
def Muted (scope : Scope) (e : Expr) : Prop :=
  ∃ p ∈ e.parts, ∃ s, Visits .lazy scope p s ∧ s.SkipsFault scope

theorem reports_exhaustive_iff :
    e.Reports .exhaustive scope d ↔ e.Reports .lazy scope d ∧ ¬ e.Muted scope := by
  have hmuted {result : Except EvalError Value} (h : e.applied .lazy scope = some result) :
      ¬ e.Muted scope ↔ ∀ p ∈ e.parts, (p.evaluate .exhaustive scope).value.isSome = true := by
    simp only [Muted, not_exists, not_and]
    exact forall₂_congr fun p hp => (isSome_exhaustive_iff (isSome_of_applied h hp)).symm
  simp only [Reports, applied_exhaustive_iff]
  constructor
  · rintro ⟨error, ⟨happlied, hparts⟩, hd⟩
    exact ⟨⟨error, happlied, hd⟩, (hmuted happlied).mpr hparts⟩
  · rintro ⟨⟨error, happlied, hd⟩, hnot⟩
    exact ⟨error, ⟨happlied, (hmuted happlied).mp hnot⟩, hd⟩

-- A diagnostic of the lazy strategy is not reported by the exhaustive one exactly if whatever has
-- it to report is muted.
theorem lost_diagnostic_iff (scope : Scope) (e : Expr) (d : Diagnostic) :
    (d ∈ (e.evaluate .lazy scope).diagnostics ∧ d ∉ (e.evaluate .exhaustive scope).diagnostics) ↔
      (∃ s, Visits .lazy scope e s ∧ ¬ s.Decided scope ∧ s.Reports .lazy scope d) ∧
        ∀ s, Visits .exhaustive scope e s → s.Reports .lazy scope d → s.Muted scope := by
  have hexhaustive : d ∉ (e.evaluate .exhaustive scope).diagnostics ↔
      ∀ s, Visits .exhaustive scope e s → s.Reports .lazy scope d → s.Muted scope := by
    simp [mem_diagnostics_iff, reports_exhaustive_iff]
  rw [hexhaustive, mem_diagnostics_iff]
  simp

-- The integer that the text of `false and 1 / 0 == 1` denotes. The text is `false` if the division
-- is skipped, which cannot be read; otherwise there is no text, and only the division is reported.
def unreadableGuard : Expr :=
  let number (n : Int64) : Expr := .literal (.integer n) .unknown
  let division : Expr := .binary .divide (number 1) (number 0) .unknown
  let guarded : Expr := .binary .and (.literal (.boolean false) .unknown)
    (.binary .equal division (number 1) .unknown) .unknown
  .unary .asInteger (.unary .asText guarded .unknown) .unknown

theorem unreadable_guard_lost :
    let d := (EvalError.unreadable "false" .integer).diagnostic unreadableGuard
    d ∈ (unreadableGuard.evaluate .lazy .empty).diagnostics ∧
      d ∉ (unreadableGuard.evaluate .exhaustive .empty).diagnostics := by
  intro d
  have hlazy : (unreadableGuard.evaluate .lazy .empty).diagnostics = [d] := by rfl
  have hcodes : (unreadableGuard.evaluate .exhaustive .empty).diagnostics.map (·.code) =
      [.arithmetic] := by rfl
  refine ⟨by simp [hlazy], fun hd => ?_⟩
  have hcode : d.code ∈ [DiagnosticCode.arithmetic] := hcodes ▸ List.mem_map_of_mem hd
  exact absurd hcode (by decide)

end Expr

end TableFlow

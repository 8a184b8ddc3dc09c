import TableFlow.Proofs.Expression.Reports

namespace TableFlow

namespace Outcome

variable {α β γ δ : Type}

theorem pure_bind (a : α) (f : α → Outcome β) : (pure a : Outcome α) >>= f = f a := by
  show Outcome.bind (Outcome.pure a) f = f a
  simp [Outcome.bind, Outcome.pure]

theorem bind_pure (x : Outcome α) : x >>= pure = x := by
  show Outcome.bind x Outcome.pure = x
  obtain ⟨value, diagnostics⟩ := x
  cases value <;> simp [Outcome.bind, Outcome.pure]

theorem bind_assoc (x : Outcome α) (f : α → Outcome β) (g : β → Outcome γ) :
    x >>= f >>= g = x >>= fun a => f a >>= g := by
  show Outcome.bind (Outcome.bind x f) g = Outcome.bind x fun a => Outcome.bind (f a) g
  obtain ⟨value, diagnostics⟩ := x
  cases value with
  | none => rfl
  | some a =>
      simp only [Outcome.bind]
      cases (f a).value <;> simp [List.append_assoc]

instance : LawfulMonad Outcome :=
  LawfulMonad.mk' Outcome (fun x => bind_pure x) pure_bind bind_assoc

-- Another form of the value changes nothing about what is reported.
theorem map_eq (f : α → β) (x : Outcome α) : f <$> x = ⟨x.value.map f, x.diagnostics⟩ := by
  rw [← bind_pure_comp]
  show Outcome.bind x (fun a => Outcome.pure (f a)) = _
  obtain ⟨value, diagnostics⟩ := x
  cases value <;> simp [Outcome.bind, Outcome.pure]

theorem onto_map (f : α → β) (x : Outcome α) (sink : List Diagnostic) :
    (f <$> x).onto sink = ((x.onto sink).1.map f, (x.onto sink).2) := by
  rw [map_eq]
  rfl

theorem map_both (f : α → γ) (g : β → δ) (x : Outcome α) (y : Outcome β) :
    (f <$> x).both (g <$> y) = Prod.map f g <$> x.both y := by
  simp only [map_eq, both]
  cases x.value <;> cases y.value <;> rfl

theorem map_report (f : α → β) (e : Expr) (r : Except EvalError α) :
    f <$> report e r = report e (r.map f) := by
  rw [map_eq]
  cases r <;> rfl

end Outcome

mutual

-- The variables that occur in an expression, also in the items of collections.
def Expr.variableNames : Expr → List String
  | .literal value _ => value.variableNames
  | .var name _ => [name]
  | .unary _ operand _ => operand.variableNames
  | .binary _ left right _ => left.variableNames ++ right.variableNames
  | .ternary _ first second third _ =>
    first.variableNames ++ (second.variableNames ++ third.variableNames)

def Literal.variableNames : Literal → List String
  | .collection items => Expr.variableNamesOfAll items
  | _ => []

def Expr.variableNamesOfAll : List Expr → List String
  | [] => []
  | e :: es => e.variableNames ++ Expr.variableNamesOfAll es

end

-- Whether a variable stands for a column.
def Scope.isColumn (s : Scope) (name : String) : Bool :=
  match s.lookup? name with
  | some (.column _) => true
  | _ => false

theorem Scope.meaning_of_not_isColumn {s : Scope} {name : String} (h : s.isColumn name = false) :
    s.meaning name = (s.value name).map .scalar := by
  unfold isColumn at h
  unfold meaning value
  split at h
  · cases h
  next hscalar =>
    cases hname : s.lookup? name with
    | none => rfl
    | some meaning =>
        cases meaning with
        | scalar v => rfl
        | column formula => exact absurd hname (hscalar formula)

namespace Expr

open Outcome

variable {strategy : Strategy} {scope : Scope}

-- By induction on the expression. A literal is evaluated to a value in either case, whatever occurs
-- in it, and operators have no form of their own for values.
theorem evaluateSymbolic_eq_map {e : Expr}
    (h : ∀ name ∈ e.variableNames, scope.isColumn name = false) :
    e.evaluateSymbolic strategy scope = Symbolic.scalar <$> e.evaluate strategy scope := by
  cases e with
  | literal value location =>
      rw [evaluateSymbolic, bind_pure_comp]
  | var name location =>
      rw [evaluateSymbolic, evaluate, map_report,
        Scope.meaning_of_not_isColumn (h name (List.mem_singleton.mpr rfl))]
  | unary op operand location =>
      rw [evaluateSymbolic, evaluate, evaluateSymbolic_eq_map (e := operand) h, bind_map_left,
        map_bind]
      refine bind_congr fun a => ?_
      rw [map_report]
      rfl
  | binary op left right location =>
      rw [variableNames] at h
      have hleft := evaluateSymbolic_eq_map (e := left)
        fun name hname => h name (List.mem_append_left _ hname)
      have hright := evaluateSymbolic_eq_map (e := right)
        fun name hname => h name (List.mem_append_right _ hname)
      cases strategy with
      | lazy =>
          rw [evaluateSymbolic, evaluate, hleft, bind_map_left, map_bind]
          refine bind_congr fun a => ?_
          dsimp only
          cases op.shortCircuit? a with
          | some result => exact (map_pure _ _).symm
          | none =>
              rw [hright, bind_map_left, map_bind]
              refine bind_congr fun b => ?_
              rw [map_report]
              rfl
      | exhaustive =>
          rw [evaluateSymbolic, evaluate, hleft, hright, map_both, bind_map_left, map_bind]
          refine bind_congr fun operands => ?_
          rw [map_report]
          rfl
  | ternary op first second third location =>
      rw [variableNames] at h
      have hfirst := evaluateSymbolic_eq_map (e := first)
        fun name hname => h name (List.mem_append_left _ hname)
      have hsecond := evaluateSymbolic_eq_map (e := second)
        fun name hname => h name (List.mem_append_right _ (List.mem_append_left _ hname))
      have hthird := evaluateSymbolic_eq_map (e := third)
        fun name hname => h name (List.mem_append_right _ (List.mem_append_right _ hname))
      cases strategy with
      | lazy =>
          rw [evaluateSymbolic, evaluate, hfirst, bind_map_left, map_bind]
          refine bind_congr fun a => ?_
          rw [hsecond, hthird, map_both, bind_map_left, map_bind]
          refine bind_congr fun operands => ?_
          rw [map_report]
          rfl
      | exhaustive =>
          rw [evaluateSymbolic, evaluate, hfirst, hsecond, hthird, map_both, map_both,
            bind_map_left, map_bind]
          refine bind_congr fun operands => ?_
          rw [map_report]
          rfl

-- Without columns nothing tells the two evaluations apart: the value of the one is the value of the
-- other, and the diagnostics are the same, whatever has been reported before.
theorem evaluateSymbolic_onto_eq (e : Expr)
    (h : ∀ name ∈ e.variableNames, scope.isColumn name = false) (sink : List Diagnostic) :
    (e.evaluateSymbolic strategy scope).onto sink =
      (((e.evaluate strategy scope).onto sink).1.map .scalar,
        ((e.evaluate strategy scope).onto sink).2) := by
  rw [evaluateSymbolic_eq_map h, onto_map]

-- The expression `n in [m, n / 0] or undefined`, in a scope that also holds a column `c`.
def searched : Expr :=
  let var (name : String) : Expr := .var name .unknown
  let zero : Expr := .literal (.integer 0) .unknown
  let items : Literal := .collection [var "m", .binary .divide (var "n") zero .unknown]
  .binary .or (.binary .isIn (var "n") (.literal items .unknown) .unknown) (var "undefined")
    .unknown

def besideColumn : Scope :=
  ⟨[("n", .scalar (.integer 1)), ("m", .scalar (.integer 2)), ("c", .column (.column "c"))]⟩

theorem evaluateSymbolic_onto_eq_searched :
    (∀ name ∈ searched.variableNames, besideColumn.isColumn name = false) ∧
    (searched.evaluateSymbolic .exhaustive besideColumn).onto [] =
      (((searched.evaluate .exhaustive besideColumn).onto []).1.map .scalar,
        ((searched.evaluate .exhaustive besideColumn).onto []).2) ∧
    ((searched.evaluate .exhaustive besideColumn).onto []).2.length = 2 := by
  have hscalars : ∀ name ∈ searched.variableNames, besideColumn.isColumn name = false := by decide
  exact ⟨hscalars, evaluateSymbolic_onto_eq searched hscalars [], by decide +kernel⟩

end Expr

end TableFlow

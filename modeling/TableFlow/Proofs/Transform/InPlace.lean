import TableFlow.Proofs.Except
import TableFlow.Execution.Transform

namespace TableFlow

namespace Scope

-- What is bound to other names stays as it was.
theorem filter_insertAll (s : Scope) (bindings : List (String × Symbolic)) (p : String → Bool)
    (hp : ∀ b ∈ bindings, p b.1 = false) :
    (s.insertAll bindings).bindings.filter (p ·.1) = s.bindings.filter (p ·.1) := by
  induction bindings generalizing s with
  | nil => rfl
  | cons b bs ih =>
      have hb : p b.1 = false := hp b (List.mem_cons_self ..)
      refine (ih (s.insert b.1 b.2) fun b' hb' => hp b' (List.mem_cons_of_mem b hb')).trans ?_
      rw [insert, erase, List.filter_cons_of_neg (by simp [hb]), List.filter_filter]
      refine List.filter_congr fun x _ => ?_
      by_cases hx : x.1 = b.1
      · simp [hx, hb]
      · simp [hx]

theorem bindings_eraseAll (s : Scope) (bindings : List (String × Symbolic)) :
    (s.eraseAll bindings).bindings = s.bindings.filter fun x => x.1 ∉ bindings.map Prod.fst := by
  induction bindings generalizing s with
  | nil => simp [eraseAll]
  | cons b bs ih =>
      refine (ih (s.erase b.1)).trans ?_
      rw [erase, List.filter_filter, List.map_cons]
      refine List.filter_congr fun x _ => ?_
      simp [bne, Bool.and_comm]

-- Bindings that are made and left unbound again leave an empty scope empty.
theorem eraseAll_insertAll_empty (bindings : List (String × Symbolic)) :
    (empty.insertAll bindings).eraseAll bindings = empty := by
  have hbindings : ((empty.insertAll bindings).eraseAll bindings).bindings = [] := by
    rw [bindings_eraseAll]
    refine (filter_insertAll empty bindings (fun name => name ∉ bindings.map Prod.fst)
      fun b hb => ?_).trans rfl
    simpa using ⟨b.2, hb⟩
  generalize (empty.insertAll bindings).eraseAll bindings = s at hbindings
  obtain ⟨_⟩ := s
  cases hbindings
  rfl

end Scope

section State

variable {α β σ : Type} {m : Type → Type} [Monad m] [LawfulMonad m]

-- What has no access to the state leaves it to what follows.
theorem run_monadLift_bind (x : m α) (f : α → StateT σ m β) (s : σ) :
    ((monadLift x : StateT σ m α) >>= f).run s = x >>= fun a => (f a).run s := by
  simp

-- Where every item leaves the state as it was, so does the run over all of them, by induction.
theorem run_mapM_of_run {f : α → StateT σ m β} {g : α → m β} {s : σ}
    (h : ∀ a, (f a).run s = (·, s) <$> g a) (as : List α) :
    (as.mapM f).run s = (·, s) <$> as.mapM g := by
  induction as with
  | nil => simp
  | cons a as ih =>
      simp only [List.mapM_cons, StateT.run_bind, h, bind_map_left, ih, map_bind]
      simp

end State

namespace Transform

variable (t : Transform)

-- Evaluates the transform in one row, in a scope that is used for other rows as well.
def runRowInPlace (columns : List ValueColumn) (type : ValueType) (c : Context) (row : Nat) :
    StateT Scope Execution (Option Value) := do
  let bindings := rowBindings t.inputs columns row
  modify (·.insertAll bindings)
  let outcome := t.value.evaluate .lazy (← get)
  modify (·.eraseAll bindings)
  match ← Execution.ofOutcome c.logger outcome with
  | none =>
    Execution.write [c.logger.debug ("Dropping row " ++ toString (row + 1) ++
      ": Could not evaluate transform expression")]
    return none
  | some value =>
    let value := type.normalize value
    if ← c.isValid value type then return some value
    else
      Execution.write [c.logger.debug ("Invalid value in row " ++ toString (row + 1) ++ ": \"" ++
        value.render ++ "\" does not match the type " ++ type.name)]
      return none

def runRowsInPlace (table : ValueTable) (names : List String) (type : ValueType) (c : Context) :
    StateT Scope Execution TransformOutput := do
  let columns ← inputColumns table.column? names
  let results ← (List.range table.rowCount).mapM (t.runRowInPlace columns type c)
  return .rows results

-- Evaluates the transform over a table, beginning in the scope that is given.
def executeInPlace (table : Table) (names : List String) (c : Context) :
    StateT Scope Execution TransformOutput := do
  let c := c.enter (.transform t)
  if t.inputs.length ≠ names.length then
    Execution.violate (α := TransformOutput) (.portCount t.name t.inputs.length names.length)
  else
    let output ← t.output
    match table with
    | .array table => t.runRowsInPlace table names output.type c
    | .columnar frame => t.runColumns frame names output.type c

variable {t}

-- A row leaves nothing behind, whether it has a value or not.
theorem run_runRowInPlace (columns : List ValueColumn) (type : ValueType) (c : Context)
    (row : Nat) : (t.runRowInPlace columns type c row).run .empty =
      (·, Scope.empty) <$> t.runRow columns type c row := by
  have hscope := Scope.eraseAll_insertAll_empty (rowBindings t.inputs columns row)
  simp only [runRowInPlace, runRow, StateT.run_bind, StateT.run_modify, StateT.run_get, pure_bind,
    hscope, map_bind, StateT.run_monadLift, monadLift_self, bind_assoc]
  refine bind_congr fun result => ?_
  cases result with
  | none => simp
  | some v =>
      simp only [run_monadLift_bind, map_bind]
      refine bind_congr fun valid => ?_
      cases valid <;> simp

theorem run_runRowsInPlace (table : ValueTable) (names : List String) (type : ValueType)
    (c : Context) : (t.runRowsInPlace table names type c).run .empty =
      (·, Scope.empty) <$> t.runRows table names type c := by
  rw [runRowsInPlace, runRows, run_monadLift_bind, map_bind]
  refine bind_congr fun columns => ?_
  have hrows := run_mapM_of_run (run_runRowInPlace (t := t) columns type c)
    (List.range table.rowCount)
  simp [hrows]

theorem run_executeInPlace (table : Table) (names : List String) (c : Context) :
    (t.executeInPlace table names c).run .empty = (·, Scope.empty) <$> t.execute table names c := by
  rw [executeInPlace, execute]
  split
  · rfl
  · rw [run_monadLift_bind, map_bind]
    refine bind_congr fun port => ?_
    cases table with
    | array vt => exact run_runRowsInPlace vt names port.type _
    | columnar frame => simp

end Transform

end TableFlow

import TableFlow.Execution.Constraint

namespace TableFlow

namespace Execution

variable {α β : Type}

theorem result_bind_ok {x : Execution α} {a : α} (h : x.result = .ok a) (f : α → Execution β) :
    (x >>= f).result = (f a).result := by
  show (Execution.bind x f).result = _
  rw [Execution.bind, h]

theorem result_bind_error {x : Execution α} {failure : Failure} (h : x.result = .error failure)
    (f : α → Execution β) : (x >>= f).result = .error failure := by
  show (Execution.bind x f).result = _
  rw [Execution.bind, h]

theorem exists_of_result_bind {x : Execution α} {f : α → Execution β} {b : β}
    (h : (x >>= f).result = .ok b) : ∃ a, x.result = .ok a ∧ (f a).result = .ok b := by
  cases hx : x.result with
  | error failure =>
      rw [result_bind_error hx] at h
      cases h
  | ok a =>
      rw [result_bind_ok hx] at h
      exact ⟨a, rfl, h⟩

-- What is logged does not matter for the result.
theorem result_bind (x : Execution α) (f : α → Execution β) :
    (x >>= f).result = x.result >>= fun a => (f a).result := by
  cases hx : x.result with
  | error failure => exact result_bind_error hx f
  | ok a => exact result_bind_ok hx f

theorem result_map (f : α → β) (x : Execution α) : (f <$> x).result = f <$> x.result := by
  rw [map_eq_pure_bind, map_eq_pure_bind, result_bind]
  rfl

-- What has the same result in every case has the same result.
theorem result_bind_congr {x : Execution α} {f g : α → Execution β}
    (h : ∀ a, (f a).result = (g a).result) : (x >>= f).result = (x >>= g).result := by
  cases hx : x.result with
  | error failure => rw [result_bind_error hx, result_bind_error hx]
  | ok a => rw [result_bind_ok hx, result_bind_ok hx, h a]

theorem result_ofFormula {x : Except FormulaError α} {a : α} (h : (ofFormula x).result = .ok a) :
    x = .ok a := by
  cases x with
  | error error => cases h
  | ok b =>
      cases h
      rfl

theorem result_mapM_eq (f : α → Execution β) (as : List α) :
    (as.mapM f).result = as.mapM fun a => (f a).result := by
  induction as with
  | nil => rfl
  | cons a as ih =>
      rw [List.mapM_cons, List.mapM_cons, result_bind]
      refine bind_congr fun b => ?_
      rw [result_bind, ih]
      rfl

-- A run over a list has a result for every item, or ends with the failure of one.
theorem result_mapM (f : α → Execution β) (as : List α) :
    (∃ bs, (as.mapM f).result = .ok bs ∧ bs.length = as.length ∧
      ∀ (i : Nat) (a : α), as[i]? = some a →
        ∃ b, bs[i]? = some b ∧ (f a).result = .ok b) ∨
    ∃ a ∈ as, ∃ failure, (f a).result = .error failure ∧ (as.mapM f).result = .error failure := by
  induction as with
  | nil => exact .inl ⟨[], rfl, rfl, fun i a h => by simp at h⟩
  | cons a as ih =>
      rw [List.mapM_cons]
      cases ha : (f a).result with
      | error failure =>
          exact .inr ⟨a, List.mem_cons_self .., failure, ha, result_bind_error ha _⟩
      | ok b =>
          rw [result_bind_ok ha]
          rcases ih with ⟨bs, hbs, hlength, hall⟩ | ⟨a', ha', failure, hfailure, hbs⟩
          · refine .inl ⟨b :: bs, by rw [result_bind_ok hbs]; rfl, by simp [hlength], ?_⟩
            intro i a' h
            cases i with
            | zero =>
                cases h
                exact ⟨b, rfl, ha⟩
            | succ i => exact hall i a' h
          · exact .inr ⟨a', List.mem_cons_of_mem a ha', failure, hfailure, result_bind_error hbs _⟩

theorem exists_of_result_mapM {f : α → Execution β} {as : List α} {bs : List β}
    (h : (as.mapM f).result = .ok bs) :
    bs.length = as.length ∧ ∀ (i : Nat) (a : α), as[i]? = some a →
      ∃ b, bs[i]? = some b ∧ (f a).result = .ok b := by
  rcases result_mapM f as with ⟨bs', hbs, hlength, hall⟩ | ⟨a, -, failure, -, hfailure⟩
  · cases h.symm.trans hbs
    exact ⟨hlength, hall⟩
  · cases h.symm.trans hfailure

-- A run over a list whose items all have a result returns these results.
theorem result_mapM_of_ok {f : α → Execution β} {g : α → β} {as : List α}
    (h : ∀ a ∈ as, (f a).result = .ok (g a)) : (as.mapM f).result = .ok (as.map g) := by
  induction as with
  | nil => rfl
  | cons a as ih =>
      have htail := ih fun b hb => h b (List.mem_cons_of_mem a hb)
      rw [List.mapM_cons, result_bind_ok (h a (List.mem_cons_self ..)), result_bind_ok htail]
      rfl

end Execution

namespace Context

variable {c : Context} {v : Value} {type : ValueType}

theorem represents_of_isValid (h : (c.isValid v type).result = .ok true) :
    type.represents v = true := by
  rw [isValid] at h
  split at h
  next hv => exact hv
  next => cases h

-- Whether a constraint has been tested with success.
def accepts (c : Context) (v : Value) (constraint : Constraint) : Bool :=
  (c.satisfies v constraint).result matches .ok true

-- By induction on the constraints: the first that is not satisfied decides, and so does the last.
theorem result_satisfiesAll {constraints : List Constraint} {valid : Bool}
    (h : (c.satisfiesAll v constraints).result = .ok valid) :
    valid = constraints.all (c.accepts v) := by
  induction constraints with
  | nil =>
      cases h
      rfl
  | cons constraint constraints ih =>
      obtain ⟨satisfied, hfirst, h⟩ := Execution.exists_of_result_bind h
      rw [List.all_cons, accepts, hfirst]
      cases satisfied with
      | true => exact ih h
      | false =>
          cases h
          rfl

theorem result_isValid {valid : Bool} (hv : type.represents v = true)
    (h : (c.isValid v type).result = .ok valid) : valid = type.constraints.all (c.accepts v) := by
  rw [isValid, if_pos hv] at h
  exact result_satisfiesAll h

-- The check of a value comes to an end if the tests of all constraints do.
theorem exists_result_isValid
    (h : ∀ k ∈ type.constraints, ∃ satisfied, (c.satisfies v k).result = .ok satisfied) :
    ∃ valid, (c.isValid v type).result = .ok valid := by
  rw [isValid]
  split
  next =>
    generalize type.constraints = constraints at h
    induction constraints with
    | nil => exact ⟨true, rfl⟩
    | cons k constraints ih =>
        obtain ⟨satisfied, hk⟩ := h k (List.mem_cons_self ..)
        rw [satisfiesAll, Execution.result_bind_ok hk]
        cases satisfied with
        | true => exact ih fun k' hk' => h k' (List.mem_cons_of_mem k hk')
        | false => exact ⟨false, rfl⟩
  next => exact ⟨false, rfl⟩

-- A type without constraints asks for no more than the form.
theorem isValid_of_constraints (hv : type.represents v = true) (h : type.constraints = []) :
    c.isValid v type = pure true := by
  rw [isValid, if_pos hv, h]
  rfl

-- An expression that has no value, or one that is not a boolean, is not satisfied.
theorem exists_result_satisfies (c : Context) (v : Value) (name : String) (condition : Expr)
    (location : Location) :
    ∃ satisfied, (c.satisfies v (.expression name condition location)).result = .ok satisfied := by
  rw [satisfies, test, Execution.result_bind_ok rfl]
  split <;> exact ⟨_, rfl⟩

-- A context without blocks.
def bare : Context where
  pipeline := ⟨"Example", [], [], .unknown⟩
  settings := .standard
  blocks := []
  constraints := ConstraintKind.standard.map (·.toConstraintSpec)
  nodes := []
  kinds := ConstraintKind.standard

end Context

end TableFlow

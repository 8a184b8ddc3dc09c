import TableFlow.ValueType.Registry

namespace TableFlow.TypeRegistry

variable {r : TypeRegistry} {visited : List String} {name : String} {d : TypeDeclaration}

theorem name_of_declaration? (h : r.declaration? name = some d) : d.name = name := by
  simpa using List.find?_some h

-- The declarations that can still be visited.
def unvisited (r : TypeRegistry) (visited : List String) : List TypeDeclaration :=
  r.declarations.filter (·.name ∉ visited)

theorem length_unvisited_lt (hd : r.declaration? name = some d) (hfresh : name ∉ visited) :
    (r.unvisited (name :: visited)).length < (r.unvisited visited).length := by
  have hname := name_of_declaration? hd
  have hsplit : r.unvisited (name :: visited) = (r.unvisited visited).filter (·.name ≠ name) := by
    simp [unvisited, List.filter_filter, not_or]
  have hmem : d ∈ r.unvisited visited :=
    List.mem_filter.mpr ⟨List.mem_of_find?_eq_some hd, by simpa [hname] using hfresh⟩
  rw [hsplit, List.length_filter_lt_length_iff_exists]
  exact ⟨d, hmem, by simp [hname]⟩

-- What is left by a call that either succeeds or changes nothing, behind its result.
def settle {α : Type} (r : TypeRegistry) :
    Except TypeError (α × TypeRegistry) → Except TypeError α × TypeRegistry
  | .ok (a, r') => (.ok a, r')
  | .error error => (.error error, r)

namespace InPlace

def declare (r : TypeRegistry) (d : TypeDeclaration) : Except TypeError Unit × TypeRegistry :=
  if (r.declaration? d.name).isSome ∨ (Primitive.ofName? d.name).isSome then
    (.error (.duplicateType d.name), r)
  else (.ok (), { r with declarations := r.declarations ++ [d] })

-- Looks at the name, at what has been resolved and at the declarations, and resolves the supertype
-- before anything is recorded.
def resolveFrom (r : TypeRegistry) (visited : List String) (name : String) :
    Except TypeError ValueType × TypeRegistry :=
  match Primitive.ofName? name with
  | some p => (if p.isReferenceable then .ok (.primitive p) else .error (.notReferenceable name), r)
  | none =>
    match r.resolved? name with
    | some type => (.ok type, r)
    | none =>
      match _ : r.declaration? name with
      | none => (.error (.unknownType name), r)
      | some d =>
        if _ : name ∈ visited then (.error (.supertypeCycle name), r)
        else
          match resolveFrom r (name :: visited) d.supertype with
          | (.ok supertype, r) => (.ok (r.add d supertype).1, (r.add d supertype).2)
          | (.error error, r) => (.error (blame d error), r)
termination_by (r.unvisited visited).length
decreasing_by exact length_unvisited_lt ‹_› ‹_›

def resolve (r : TypeRegistry) (name : String) : Except TypeError ValueType × TypeRegistry :=
  resolveFrom r [] name

def resolveNames : TypeRegistry → List String → Except TypeError (List ValueType) × TypeRegistry
  | r, [] => (.ok [], r)
  | r, name :: names =>
    match resolve r name with
    | (.error error, r) => (.error error, r)
    | (.ok type, r) =>
      let (types, r) := resolveNames r names
      (types.map (type :: ·), r)

def resolveAll (r : TypeRegistry) : Except TypeError (List ValueType) × TypeRegistry :=
  resolveNames r (sortNames (r.declarations.map (·.name)))

theorem declare_eq (r : TypeRegistry) (d : TypeDeclaration) :
    declare r d = r.settle ((r.declare d).map ((), ·)) := by
  rw [declare, TypeRegistry.declare]
  split <;> rfl

-- By induction on the declarations that can still be visited. A round visits one of them, so a
-- bound that allows for all of them is never met.
theorem resolveFrom_eq (r : TypeRegistry) (visited : List String) (name : String) (fuel : Nat)
    (hfuel : (r.unvisited visited).length ≤ fuel) :
    resolveFrom r visited name = r.settle (TypeRegistry.resolveFrom fuel r visited name) := by
  rw [resolveFrom.eq_def, TypeRegistry.resolveFrom.eq_def]
  cases hp : Primitive.ofName? name with
  | some p =>
      simp only [hp]
      split <;> rfl
  | none =>
      cases htype : r.resolved? name with
      | some type =>
          simp only [hp, htype]
          rfl
      | none =>
          cases hd : r.declaration? name with
          | none =>
              simp only [hp, htype, hd]
              rfl
          | some d =>
              simp only [hp, htype, hd]
              by_cases hvisited : name ∈ visited
              · simp only [if_pos hvisited, dif_pos hvisited]
                rfl
              · have hlt := length_unvisited_lt hd hvisited
                obtain ⟨fuel, rfl⟩ : ∃ k, fuel = k + 1 := ⟨fuel - 1, by omega⟩
                have hnext := resolveFrom_eq r (name :: visited) d.supertype fuel (by omega)
                simp only [if_neg hvisited, dif_neg hvisited, hnext]
                cases TypeRegistry.resolveFrom fuel r (name :: visited) d.supertype <;> rfl
termination_by (r.unvisited visited).length

-- The bound is the number of declarations.
theorem resolve_eq (r : TypeRegistry) (name : String) :
    resolve r name = r.settle (r.resolve name) :=
  resolveFrom_eq r [] name _ (List.length_filter_le _ _)

theorem resolveNames_eq (r : TypeRegistry) (names : List String) :
    resolveNames r names = r.resolveNames names := by
  induction names generalizing r with
  | nil => rfl
  | cons name names ih =>
      rw [resolveNames, TypeRegistry.resolveNames, resolve_eq]
      cases r.resolve name with
      | ok result => simp only [settle, ih]
      | error error => rfl

end InPlace

end TableFlow.TypeRegistry

import Mathlib.Data.List.Nodup
import TableFlow.Proofs.TypeRegistry.InPlace

namespace TableFlow.TypeRegistry

variable {r : TypeRegistry} {visited : List String} {name last last' : String}
  {d : TypeDeclaration} {ds ds' : List TypeDeclaration}

-- Following supertypes from a name: the declarations on the way, and the name that they lead to.
inductive Follows (r : TypeRegistry) : String → List TypeDeclaration → String → Prop where
  | refl (name : String) : Follows r name [] name
  | step {name last : String} {d : TypeDeclaration} {ds : List TypeDeclaration}
      (hd : r.declaration? name = some d) (h : Follows r d.supertype ds last) :
      Follows r name (d :: ds) last

namespace Follows

-- Of two ways from a name, one goes on where the other ends.
theorem linear (h : r.Follows name ds last) (h' : r.Follows name ds' last') :
    (∃ rest, ds' = ds ++ rest ∧ r.Follows last rest last') ∨
      ∃ rest, ds = ds' ++ rest ∧ r.Follows last' rest last := by
  induction h generalizing ds' with
  | refl name => exact .inl ⟨ds', rfl, h'⟩
  | @step name last d ds hd h ih =>
      cases h' with
      | refl => exact .inr ⟨d :: ds, rfl, .step hd h⟩
      | step hd' h' =>
          cases hd.symm.trans hd'
          rcases ih h' with ⟨rest, rfl, hrest⟩ | ⟨rest, rfl, hrest⟩
          · exact .inl ⟨rest, rfl, hrest⟩
          · exact .inr ⟨rest, rfl, hrest⟩

theorem eq_of_undeclared (h : r.Follows name ds last) (hlast : r.declaration? last = none)
    (h' : r.Follows name ds' last') (hlast' : r.declaration? last' = none) : ds = ds' := by
  rcases h.linear h' with ⟨rest, rfl, hrest⟩ | ⟨rest, rfl, hrest⟩
  · cases hrest with
    | refl => exact (List.append_nil ds).symm
    | step hd => cases hlast.symm.trans hd
  · cases hrest with
    | refl => exact List.append_nil ds'
    | step hd => cases hlast'.symm.trans hd

theorem declared (h : r.Follows name ds last) (hd : d ∈ ds) : r.declaration? d.name = some d := by
  induction h with
  | refl => cases hd
  | step hfirst _ ih =>
      rcases List.mem_cons.mp hd with rfl | hd
      · rw [name_of_declaration? hfirst, hfirst]
      · exact ih hd

theorem drop (h : r.Follows name (ds ++ d :: ds') last) : r.Follows d.name (d :: ds') last := by
  induction ds generalizing name with
  | nil =>
      cases h with
      | step hd h => exact .step (name_of_declaration? hd ▸ hd) h
  | cons first ds ih =>
      cases h with
      | step _ h => exact ih h

-- A way that ends never comes back: from there it would go the same way again.
theorem distinct (h : r.Follows name ds last) (hlast : r.declaration? last = none) :
    (ds.map (·.name)).Nodup := by
  induction h with
  | refl => exact .nil
  | @step name last d ds hd h ih =>
      rw [List.map_cons, List.nodup_cons]
      refine ⟨fun hmem => ?_, ih hlast⟩
      obtain ⟨e, he, hname⟩ := List.mem_map.mp hmem
      obtain rfl : e = d := by
        have hdeclared := h.declared he
        rw [hname, name_of_declaration? hd, hd] at hdeclared
        exact (Option.some.inj hdeclared).symm
      obtain ⟨before, after, rfl⟩ := List.append_of_mem he
      have hsame : e :: after = e :: (before ++ e :: after) :=
        h.drop.eq_of_undeclared hlast (.step (name_of_declaration? hd ▸ hd) h) hlast
      have hlength := congrArg List.length hsame
      simp only [List.length_cons, List.length_append] at hlength
      omega

end Follows

-- Following supertypes for as long as there are declarations that have not been visited.
structure Walk (r : TypeRegistry) (visited : List String) (name : String)
    (ds : List TypeDeclaration) (last : String) : Prop where
  follows : r.Follows name ds last
  distinct : (visited ++ ds.map (·.name)).Nodup
  ends : r.declaration? last = none ∨ last ∈ visited ++ ds.map (·.name)

-- What is wrong with the name at the end of a walk, if anything is: it has been visited, or it is
-- that of a type that programs may not name, or it is unknown. An unknown name is reported together
-- with the declaration that extends it, if there is one.
def fault? (visited : List String) (extending : Option TypeDeclaration) (last : String) :
    Option TypeError :=
  if last ∈ visited then some (.supertypeCycle last)
  else
    match Primitive.ofName? last, extending with
    | some p, _ => if p.isReferenceable then none else some (.notReferenceable last)
    | none, none => some (.unknownType last)
    | none, some d => some (.unknownSupertype d.name last)

namespace Walk

theorem cons (h : r.Walk (name :: visited) d.supertype ds last)
    (hd : r.declaration? name = some d) : r.Walk visited name (d :: ds) last := by
  have hname := name_of_declaration? hd
  refine ⟨.step hd h.follows, ?_, ?_⟩
  · rw [List.map_cons, List.nodup_middle, hname]
    exact h.distinct
  · simpa [hname, or_left_comm] using h.ends

-- Nothing can be followed behind the end of a walk, unless it leads to what has been visited.
theorem eq_nil_of_follows (h : r.Walk [] name ds last) {rest : List TypeDeclaration}
    (hrest : r.Follows last rest last') (hdistinct : ((ds ++ rest).map (·.name)).Nodup) :
    rest = [] := by
  cases hrest with
  | refl => rfl
  | @step _ _ d rest hd hrest =>
      rcases h.ends with hlast | hlast
      · cases hlast.symm.trans hd
      · rw [List.map_append, List.map_cons, List.nodup_middle, name_of_declaration? hd,
          List.nodup_cons] at hdistinct
        exact absurd (List.mem_append_left _ hlast) hdistinct.1

-- Where nothing has been visited before, there is one walk from a name.
theorem unique (h : r.Walk [] name ds last) (h' : r.Walk [] name ds' last') :
    ds = ds' ∧ last = last' := by
  rcases h.follows.linear h'.follows with ⟨rest, rfl, hrest⟩ | ⟨rest, rfl, hrest⟩
  · obtain rfl := h.eq_nil_of_follows hrest h'.distinct
    cases hrest
    exact ⟨(List.append_nil ds).symm, rfl⟩
  · obtain rfl := h'.eq_nil_of_follows hrest h.distinct
    cases hrest
    exact ⟨List.append_nil ds', rfl⟩

end Walk

-- What is wrong further on is what is wrong here, except that the declaration here is to blame for
-- a supertype that is unknown.
theorem fault?_cons (hname : d.name = name) :
    fault? (visited ++ (d :: ds).map (·.name)) (d :: ds).getLast? last =
      (fault? (name :: visited ++ ds.map (·.name)) ds.getLast? last).map (blame d) := by
  have hvisited : last ∈ visited ++ (d :: ds).map (·.name) ↔
      last ∈ name :: visited ++ ds.map (·.name) := by simp [hname, or_left_comm]
  unfold fault?
  by_cases hlast : last ∈ name :: visited ++ ds.map (·.name)
  · rw [if_pos hlast, if_pos (hvisited.mpr hlast)]
    rfl
  · rw [if_neg hlast, if_neg (fun h => hlast (hvisited.mp h))]
    cases Primitive.ofName? last with
    | some p =>
        simp only []
        split <;> rfl
    | none =>
        cases ds with
        | nil => rfl
        | cons next ds =>
            rw [List.getLast?_cons_cons]
            obtain ⟨child, hchild⟩ : ∃ child, (next :: ds).getLast? = some child :=
              ⟨_, List.getLast?_eq_some_getLast (List.cons_ne_nil next ds)⟩
            rw [hchild]
            rfl

end TableFlow.TypeRegistry

import TableFlow.Proofs.Except
import TableFlow.Proofs.TypeRegistry.Walk
import TableFlow.Proofs.ValueType.Interned

namespace TableFlow

theorem Primitive.name_of_ofName? {name : String} {p : Primitive} (h : ofName? name = some p) :
    p.name = name := by
  simpa using List.find?_some h

-- The identity of an atomic type.
def ValueType.identity? : ValueType → Option Nat
  | .atomic identity _ _ _ => some identity
  | _ => none

namespace TypeRegistry

variable {r r' : TypeRegistry} {visited : List String} {name name' : String} {t t' : ValueType}
  {d : TypeDeclaration}

-- What a name stands for: a primitive type that programs may name, or the type that has been
-- recorded for its declaration. The supertype of that is what the name of the supertype stands for.
inductive StandsFor (r : TypeRegistry) : String → ValueType → Prop where
  | primitive {name : String} {p : Primitive} (hp : Primitive.ofName? name = some p)
      (hreferenceable : p.isReferenceable = true) : StandsFor r name (.primitive p)
  | declared {name : String} {d : TypeDeclaration} {identity : Nat} {supertype : ValueType}
      (hp : Primitive.ofName? name = none) (hd : r.declaration? name = some d)
      (ht : r.resolved? name = some (.atomic identity name supertype d.constraints))
      (hs : StandsFor r d.supertype supertype) :
      StandsFor r name (.atomic identity name supertype d.constraints)

-- A registry that has all that another has.
structure Extends (r r' : TypeRegistry) : Prop where
  declaration : ∀ name d, r.declaration? name = some d → r'.declaration? name = some d
  resolved : ∀ name t, r.resolved? name = some t → r'.resolved? name = some t

theorem Extends.refl (r : TypeRegistry) : r.Extends r := ⟨fun _ _ h => h, fun _ _ h => h⟩

theorem Extends.trans {r₁ r₂ r₃ : TypeRegistry} (h : r₁.Extends r₂) (h' : r₂.Extends r₃) :
    r₁.Extends r₃ :=
  ⟨fun name d hd => h'.declaration name d (h.declaration name d hd),
    fun name t ht => h'.resolved name t (h.resolved name t ht)⟩

-- No declaration has the name of a primitive type, what has been recorded for a name is what the
-- name stands for, and no identity has been given twice or is still to be given.
structure Sound (r : TypeRegistry) : Prop where
  fresh : ∀ {name d}, r.declaration? name = some d → Primitive.ofName? name = none
  stands : ∀ {name t}, r.resolved? name = some t → r.StandsFor name t
  given : ∀ {name t identity}, r.resolved? name = some t → t.identity? = some identity →
    identity < r.next
  distinct : ∀ {name name' t t' identity}, r.resolved? name = some t →
    r.resolved? name' = some t' → t.identity? = some identity → t'.identity? = some identity →
    name = name'

namespace StandsFor

theorem mono (h : r.StandsFor name t) (hr : r.Extends r') : r'.StandsFor name t := by
  induction h with
  | primitive hp hreferenceable => exact .primitive hp hreferenceable
  | declared hp hd ht _ ih =>
      exact .declared hp (hr.declaration _ _ hd) (hr.resolved _ _ ht) ih

-- Resolving the name returns the type and records nothing.
theorem resolveFrom (h : r.StandsFor name t) (visited : List String) :
    InPlace.resolveFrom r visited name = (.ok t, r) := by
  rw [InPlace.resolveFrom]
  cases h with
  | primitive hp hreferenceable => simp only [hp, if_pos hreferenceable]
  | declared hp hd ht hs => simp only [hp, ht]

theorem eq (h : r.StandsFor name t) (h' : r.StandsFor name t') : t = t' := by
  have hresolve := h.resolveFrom []
  rw [h'.resolveFrom []] at hresolve
  cases hresolve
  rfl

-- The supertypes of the type lead to a primitive type that programs may name, and so does following
-- the supertypes of the name, past declarations that have been resolved.
theorem exists_follows (h : r.StandsFor name t) :
    ∃ ds last p, r.Follows name ds last ∧ (∀ d ∈ ds, r.resolved? d.name ≠ none) ∧
      Primitive.ofName? last = some p ∧ p.isReferenceable = true ∧ t.primitive? = some p := by
  induction h with
  | @primitive name p hp hreferenceable =>
      exact ⟨[], name, p, .refl name, fun d hd => (nomatch hd), hp, hreferenceable, rfl⟩
  | @declared name d identity supertype hp hd ht _ ih =>
      obtain ⟨ds, last, p, hfollows, hresolved, hlast, hreferenceable, hprimitive⟩ := ih
      refine ⟨d :: ds, last, p, .step hd hfollows, fun e he => ?_, hlast, hreferenceable,
        hprimitive⟩
      rcases List.mem_cons.mp he with rfl | he
      · rw [name_of_declaration? hd, ht]
        exact Option.some_ne_none _
      · exact hresolved e he

-- Names that stand for the same type are equal.
theorem eq_of_same (hr : r.Sound) (h : r.StandsFor name t) (h' : r.StandsFor name' t')
    (hsame : t.same t' = true) : name = name' := by
  cases h with
  | primitive hp _ =>
      cases h' with
      | primitive hp' _ =>
          obtain rfl := of_decide_eq_true hsame
          rw [← Primitive.name_of_ofName? hp, Primitive.name_of_ofName? hp']
      | declared => cases hsame
  | declared hp hd ht hs =>
      cases h' with
      | primitive => cases hsame
      | declared hp' hd' ht' hs' =>
          obtain rfl := of_decide_eq_true hsame
          exact hr.distinct ht ht' rfl rfl

end StandsFor

theorem resolved?_add (r : TypeRegistry) (d : TypeDeclaration) (supertype : ValueType)
    (name : String) :
    (r.add d supertype).2.resolved? name =
      if d.name = name then some (r.add d supertype).1 else r.resolved? name := by
  simp only [add, resolved?, List.find?_cons]
  by_cases h : d.name = name
  · rw [if_pos h, beq_iff_eq.mpr h]
    rfl
  · rw [if_neg h, beq_eq_false_iff_ne.mpr h]

-- What is added changes nothing for other names, and what has been recorded stays.
theorem extends_add {supertype : ValueType} (hnew : r.resolved? d.name = none) :
    r.Extends (r.add d supertype).2 where
  declaration _ _ h := h
  resolved name t ht := by
    rw [resolved?_add, if_neg, ht]
    rintro rfl
    cases hnew.symm.trans ht

theorem Sound.add {supertype : ValueType} (h : r.Sound) (hd : r.declaration? d.name = some d)
    (hnew : r.resolved? d.name = none) (hs : r.StandsFor d.supertype supertype) :
    (r.add d supertype).2.Sound ∧ (r.add d supertype).2.StandsFor d.name (r.add d supertype).1 := by
  have hextends : r.Extends (r.add d supertype).2 := extends_add hnew
  have hadded : (r.add d supertype).2.StandsFor d.name (r.add d supertype).1 := by
    refine .declared (h.fresh hd) hd ?_ (hs.mono hextends)
    rw [resolved?_add, if_pos rfl]
    rfl
  have hcases {name : String} {t : ValueType} {identity : Nat}
      (ht : (r.add d supertype).2.resolved? name = some t)
      (hidentity : t.identity? = some identity) :
      (d.name = name ∧ identity = r.next) ∨ (r.resolved? name = some t ∧ identity < r.next) := by
    rw [resolved?_add] at ht
    split at ht
    next heq =>
      cases ht
      exact .inl ⟨heq, (Option.some.inj hidentity).symm⟩
    next => exact .inr ⟨ht, h.given ht hidentity⟩
  refine ⟨⟨h.fresh, fun {name t} ht => ?_, fun ht hidentity => ?_, fun ht ht' hi hi' => ?_⟩, hadded⟩
  · rw [resolved?_add] at ht
    split at ht
    next heq =>
      cases ht
      exact heq ▸ hadded
    next => exact (h.stands ht).mono hextends
  · show _ < r.next + 1
    rcases hcases ht hidentity with ⟨-, rfl⟩ | ⟨-, hlt⟩ <;> omega
  · rcases hcases ht hi with ⟨heq, hnext⟩ | ⟨hold, hlt⟩ <;>
      rcases hcases ht' hi' with ⟨heq', hnext'⟩ | ⟨hold', hlt'⟩
    · exact heq.symm.trans heq'
    · omega
    · omega
    · exact h.distinct hold hold' hi hi'

-- The names on the way to a name that is being resolved: they are different, and each has been
-- declared but not resolved yet.
structure Visiting (r : TypeRegistry) (visited : List String) : Prop where
  distinct : visited.Nodup
  declared : ∀ name ∈ visited, ∃ d, r.declaration? name = some d
  unresolved : ∀ name ∈ visited, r.resolved? name = none

theorem Visiting.nil (r : TypeRegistry) : r.Visiting [] :=
  ⟨.nil, fun _ h => (nomatch h), fun _ h => nomatch h⟩

theorem Visiting.cons (h : r.Visiting visited) (hd : r.declaration? name = some d)
    (hnew : r.resolved? name = none) (hfresh : name ∉ visited) : r.Visiting (name :: visited) := by
  refine ⟨List.nodup_cons.mpr ⟨hfresh, h.distinct⟩, fun n hn => ?_, fun n hn => ?_⟩
  · rcases List.mem_cons.mp hn with rfl | hn
    · exact ⟨d, hd⟩
    · exact h.declared n hn
  · rcases List.mem_cons.mp hn with rfl | hn
    · exact hnew
    · exact h.unresolved n hn

-- On success the name stands for the type, and the names on the way to it are as they were.
theorem Sound.resolveFrom (h : r.Sound) (hvisited : ∀ n ∈ visited, r.resolved? n = none)
    (hok : InPlace.resolveFrom r visited name = (.ok t, r')) :
    r'.Sound ∧ r.Extends r' ∧ r'.StandsFor name t ∧ ∀ n ∈ visited, r'.resolved? n = none := by
  fun_induction InPlace.resolveFrom r visited name generalizing t r' with
  | case1 visited name p hp =>
      split at hok
      · next hreferenceable =>
        cases hok
        exact ⟨h, .refl r, .primitive hp hreferenceable, hvisited⟩
      · cases hok
  | case2 visited name hp type htype =>
      cases hok
      exact ⟨h, .refl r, h.stands htype, hvisited⟩
  | case3 => cases hok
  | case4 => cases hok
  | case5 visited name hp htype d hd hfresh supertype r₁ hresolve ih =>
      cases hok
      have hunresolved : ∀ n ∈ name :: visited, r.resolved? n = none := by
        intro n hn
        rcases List.mem_cons.mp hn with rfl | hn
        · exact htype
        · exact hvisited n hn
      obtain ⟨hsound, hextends, hs, hkept⟩ := ih hunresolved hresolve
      obtain rfl := name_of_declaration? hd
      have hnew := hkept d.name (List.mem_cons_self ..)
      obtain ⟨hadded, hstands⟩ := hsound.add (hextends.declaration _ _ hd) hnew hs
      refine ⟨hadded, hextends.trans (extends_add hnew), hstands, fun n hn => ?_⟩
      rw [resolved?_add, if_neg fun heq => hfresh (by rwa [heq])]
      exact hkept n (List.mem_cons_of_mem _ hn)
  | case6 => cases hok

theorem Sound.undeclared (h : r.Sound) {p : Primitive} (hp : Primitive.ofName? name = some p) :
    r.declaration? name = none := by
  cases hd : r.declaration? name with
  | none => rfl
  | some d => cases hp.symm.trans (h.fresh hd)

theorem Visiting.not_mem (h : r.Visiting visited) (hd : r.declaration? name = none) :
    name ∉ visited := by
  intro hmem
  obtain ⟨d, hd'⟩ := h.declared name hmem
  cases hd.symm.trans hd'

-- A walk that ends at once.
theorem Visiting.walk (h : r.Visiting visited)
    (hends : r.declaration? name = none ∨ name ∈ visited) : r.Walk visited name [] name where
  follows := .refl name
  distinct := by simpa using h.distinct
  ends := by simpa using hends

-- The walk from a name that stands for a type leads past names that have been resolved.
theorem Visiting.walk_of_follows (h : r.Visiting visited) {ds : List TypeDeclaration}
    {last : String} (hfollows : r.Follows name ds last)
    (hresolved : ∀ d ∈ ds, r.resolved? d.name ≠ none) (hlast : r.declaration? last = none) :
    r.Walk visited name ds last := by
  refine ⟨hfollows, ?_, .inl hlast⟩
  rw [List.nodup_append]
  refine ⟨h.distinct, hfollows.distinct hlast, fun n hn n' hn' heq => ?_⟩
  obtain ⟨d, hd, rfl⟩ := List.mem_map.mp hn'
  exact hresolved d hd (h.unresolved _ (heq ▸ hn))

-- Whether resolving a name fails, and why, is told by a walk from it.
theorem Sound.exists_walk (h : r.Sound) (hvisited : r.Visiting visited) (name : String) :
    ∃ ds last, r.Walk visited name ds last ∧
      error? (InPlace.resolveFrom r visited name).1 =
        fault? (visited ++ ds.map (·.name)) ds.getLast? last := by
  fun_induction InPlace.resolveFrom r visited name with
  | case1 visited name p hp =>
      have hd := h.undeclared hp
      refine ⟨[], name, hvisited.walk (.inl hd), ?_⟩
      simp only [fault?, List.map_nil, List.append_nil, if_neg (hvisited.not_mem hd), hp]
      split <;> rfl
  | case2 visited name hp type htype =>
      obtain ⟨ds, last, p, hfollows, hresolved, hlast, hreferenceable, -⟩ :=
        (h.stands htype).exists_follows
      have hwalk := hvisited.walk_of_follows hfollows hresolved (h.undeclared hlast)
      refine ⟨ds, last, hwalk, ?_⟩
      have hfresh : last ∉ visited ++ ds.map (·.name) := by
        rw [List.mem_append, not_or]
        refine ⟨hvisited.not_mem (h.undeclared hlast), fun hmem => ?_⟩
        obtain ⟨d, hd, rfl⟩ := List.mem_map.mp hmem
        cases (h.undeclared hlast).symm.trans (hfollows.declared hd)
      simp only [fault?, if_neg hfresh, hlast, if_pos hreferenceable]
      rfl
  | case3 visited name hp htype hd =>
      refine ⟨[], name, hvisited.walk (.inl hd), ?_⟩
      simp only [fault?, List.map_nil, List.append_nil, if_neg (hvisited.not_mem hd), hp]
      rfl
  | case4 visited name hp htype d hd hmem =>
      refine ⟨[], name, hvisited.walk (.inr hmem), ?_⟩
      simp only [fault?, List.map_nil, List.append_nil, if_pos hmem]
      rfl
  | case5 visited name hp htype d hd hfresh supertype r₁ hresolve ih =>
      obtain ⟨ds, last, hwalk, hfault⟩ := ih (hvisited.cons hd htype hfresh)
      refine ⟨d :: ds, last, hwalk.cons hd, ?_⟩
      rw [fault?_cons (name_of_declaration? hd), ← hfault, hresolve]
      rfl
  | case6 visited name hp htype d hd hfresh error r₁ hresolve ih =>
      obtain ⟨ds, last, hwalk, hfault⟩ := ih (hvisited.cons hd htype hfresh)
      refine ⟨d :: ds, last, hwalk.cons hd, ?_⟩
      rw [fault?_cons (name_of_declaration? hd), ← hfault, hresolve]
      rfl

end TypeRegistry

end TableFlow

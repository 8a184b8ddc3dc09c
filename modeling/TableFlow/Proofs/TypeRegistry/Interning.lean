import TableFlow.Proofs.TypeRegistry.Resolution

namespace TableFlow

theorem Primitive.mem_of_isReferenceable {p : Primitive} (h : p.isReferenceable = true) :
    p ∈ [boolean, integer, decimal, text] := by
  revert h
  cases p <;> decide

namespace TypeRegistry

variable {r : TypeRegistry} {name : String} {t : ValueType}

inductive Call where
  | declare (d : TypeDeclaration)
  | resolve (name : String)
  | resolveAll

-- The error if there was one, and the registry that is left.
def Call.execute (c : Call) (r : TypeRegistry) : Option TypeError × TypeRegistry :=
  match c with
  | .declare d => (error? (InPlace.declare r d).1, (InPlace.declare r d).2)
  | .resolve name => (error? (InPlace.resolve r name).1, (InPlace.resolve r name).2)
  | .resolveAll => (error? (InPlace.resolveAll r).1, (InPlace.resolveAll r).2)

-- The registry that is left by one call after another.
def after (r : TypeRegistry) (calls : List Call) : TypeRegistry :=
  calls.foldl (fun r c => (c.execute r).2) r

theorem snd_settle_of_error {α : Type} {error : TypeError}
    {result : Except TypeError (α × TypeRegistry)} (h : error? (r.settle result).1 = some error) :
    (r.settle result).2 = r := by
  cases result with
  | ok result => cases h
  | error => rfl

-- A call that fails leaves the registry, unless it is made of several.
theorem Call.execute_of_error {c : Call} (hc : c ≠ .resolveAll) {error : TypeError}
    (h : (c.execute r).1 = some error) : (c.execute r).2 = r := by
  cases c with
  | declare d =>
      simp only [execute, InPlace.declare_eq] at h ⊢
      exact snd_settle_of_error h
  | resolve name =>
      simp only [execute, InPlace.resolve_eq] at h ⊢
      exact snd_settle_of_error h
  | resolveAll => exact absurd rfl hc

theorem sound_empty : empty.Sound where
  fresh h := nomatch h
  stands h := nomatch h
  given h := nomatch h
  distinct h := nomatch h

namespace Sound

theorem declare (h : r.Sound) (d : TypeDeclaration) :
    (InPlace.declare r d).2.Sound ∧ r.Extends (InPlace.declare r d).2 := by
  rw [InPlace.declare]
  split
  · exact ⟨h, .refl r⟩
  next hnew =>
    obtain ⟨-, hp⟩ := not_or.mp hnew
    have hlookup (name : String) :
        ({ r with declarations := r.declarations ++ [d] } : TypeRegistry).declaration? name =
          (r.declaration? name).or ([d].find? (·.name == name)) := List.find?_append
    have hextends : r.Extends { r with declarations := r.declarations ++ [d] } := by
      refine ⟨fun name d' hd' => ?_, fun _ _ ht => ht⟩
      rw [hlookup, hd', Option.some_or]
    refine ⟨⟨fun {name d'} hd' => ?_, fun ht => (h.stands ht).mono hextends, h.given, h.distinct⟩,
      hextends⟩
    rw [hlookup] at hd'
    rcases Option.or_eq_some_iff.mp hd' with hold | ⟨-, hadded⟩
    · exact h.fresh hold
    · obtain rfl : d' = d := List.mem_singleton.mp (List.mem_of_find?_eq_some hadded)
      obtain rfl : d'.name = name := by simpa using List.find?_some hadded
      simpa using hp

theorem resolve (h : r.Sound) (name : String) :
    (InPlace.resolve r name).2.Sound ∧ r.Extends (InPlace.resolve r name).2 ∧
      ∀ t, (InPlace.resolve r name).1 = .ok t → (InPlace.resolve r name).2.StandsFor name t := by
  rcases hresult : InPlace.resolve r name with ⟨result, r'⟩
  cases result with
  | ok t =>
      have hnone : ∀ n ∈ ([] : List String), r.resolved? n = none := fun n hn => nomatch hn
      obtain ⟨hsound, hextends, hstands, -⟩ := h.resolveFrom hnone hresult
      refine ⟨hsound, hextends, fun t' ht' => ?_⟩
      cases ht'
      exact hstands
  | error error =>
      obtain rfl : r' = r := by
        have hleft : error? (r.settle (r.resolve name)).1 = some error →
            (r.settle (r.resolve name)).2 = r := snd_settle_of_error
        rw [← InPlace.resolve_eq, hresult] at hleft
        exact hleft rfl
      exact ⟨h, .refl r', fun t ht => nomatch ht⟩

-- What has been resolved before a failure is kept.
theorem resolveNames (h : r.Sound) (names : List String) :
    (InPlace.resolveNames r names).2.Sound ∧ r.Extends (InPlace.resolveNames r names).2 ∧
      ∀ types, (InPlace.resolveNames r names).1 = .ok types →
        List.Forall₂ (InPlace.resolveNames r names).2.StandsFor names types := by
  induction names generalizing r with
  | nil =>
      refine ⟨h, .refl r, fun types htypes => ?_⟩
      cases htypes
      exact .nil
  | cons name names ih =>
      obtain ⟨hsound, hextends, hstands⟩ := h.resolve name
      rw [InPlace.resolveNames]
      rcases hresult : InPlace.resolve r name with ⟨result, r₁⟩
      rw [hresult] at hsound hextends hstands
      cases result with
      | error error =>
          refine ⟨hsound, hextends, fun types htypes => ?_⟩
          cases htypes
      | ok t =>
          obtain ⟨hsound', hextends', hstands'⟩ := ih hsound
          refine ⟨hsound', hextends.trans hextends', fun types htypes => ?_⟩
          obtain ⟨types, hrest, rfl⟩ := exists_of_map htypes
          exact .cons ((hstands t rfl).mono hextends') (hstands' types hrest)

-- The step: every call leaves a sound registry that has all that there was.
theorem execute (h : r.Sound) (c : Call) : (c.execute r).2.Sound ∧ r.Extends (c.execute r).2 := by
  cases c with
  | declare d => exact h.declare d
  | resolve name => exact ⟨(h.resolve name).1, (h.resolve name).2.1⟩
  | resolveAll => exact ⟨(h.resolveNames _).1, (h.resolveNames _).2.1⟩

-- By induction on the calls.
theorem after (h : r.Sound) (calls : List Call) :
    (r.after calls).Sound ∧ r.Extends (r.after calls) := by
  induction calls generalizing r with
  | nil => exact ⟨h, .refl r⟩
  | cons c calls ih =>
      obtain ⟨hsound, hextends⟩ := h.execute c
      obtain ⟨hsound', hextends'⟩ := ih hsound
      exact ⟨hsound', hextends.trans hextends'⟩

end Sound

-- What holds of a name that has been resolved to a type, whatever is called afterwards: the type is
-- found again and for no other name, its supertype is what the name of the supertype resolves to,
-- and its supertypes end in a primitive type that programs may name.
structure Keeps (r : TypeRegistry) (name : String) (t : ValueType) : Prop where
  again : ∀ calls, InPlace.resolve (r.after calls) name = (.ok t, r.after calls)
  distinct : ∀ calls name' t', (InPlace.resolve (r.after calls) name').1 = .ok t' →
    (t.same t' = true ↔ name = name')
  supertype : ∀ d, r.declaration? name = some d → ∃ supertype, t.supertype? = some supertype ∧
    ∀ calls, InPlace.resolve (r.after calls) d.supertype = (.ok supertype, r.after calls)
  root : ∃ p ∈ [Primitive.boolean, .integer, .decimal, .text], t.primitive? = some p

theorem StandsFor.keeps (hr : r.Sound) (h : r.StandsFor name t) : r.Keeps name t where
  again calls := (h.mono (hr.after calls).2).resolveFrom []
  distinct calls name' t' ht' := by
    obtain ⟨hsound, hextends⟩ := hr.after calls
    obtain ⟨hsound', hextends', hstands⟩ := hsound.resolve name'
    have hkept := h.mono (hextends.trans hextends')
    refine ⟨fun hsame => hkept.eq_of_same hsound' (hstands t' ht') hsame, ?_⟩
    rintro rfl
    rw [hkept.eq (hstands t' ht')]
    exact t'.same_self
  supertype d hd := by
    cases h with
    | primitive hp => cases (hr.undeclared hp).symm.trans hd
    | declared _ hd' _ hs =>
        cases hd'.symm.trans hd
        exact ⟨_, rfl, fun calls => (hs.mono (hr.after calls).2).resolveFrom []⟩
  root := by
    obtain ⟨-, -, p, -, -, -, hreferenceable, hp⟩ := h.exists_follows
    exact ⟨p, Primitive.mem_of_isReferenceable hreferenceable, hp⟩

-- Of all registries that calls can make: resolution ends without a bound on its rounds, what it
-- returns is kept, calls that fail leave the registry as it was, and the one walk from a name tells
-- whether the name can be resolved.
theorem resolve_interned (calls : List Call) :
    let r := empty.after calls
    (∀ name, InPlace.resolve r name = r.settle (r.resolve name)) ∧
    InPlace.resolveAll r = r.resolveAll ∧
    (∀ name t, (InPlace.resolve r name).1 = .ok t → (r.after [.resolve name]).Keeps name t) ∧
    (∀ types, (InPlace.resolveAll r).1 = .ok types → List.Forall₂ (r.after [.resolveAll]).Keeps
      (sortNames (r.declarations.map (·.name))) types) ∧
    (∀ c : Call, c ≠ .resolveAll → (c.execute r).1 ≠ none → (c.execute r).2 = r) ∧
    (∀ name, ∃ ds last, r.Walk [] name ds last) ∧
    ∀ name ds last, r.Walk [] name ds last → ∀ error,
      ((InPlace.resolve r name).1 = .error error ↔
        fault? (ds.map (·.name)) ds.getLast? last = some error) := by
  intro r
  have hr : r.Sound := (sound_empty.after calls).1
  refine ⟨InPlace.resolve_eq r, InPlace.resolveNames_eq r _, fun name t ht => ?_,
    fun types htypes => ?_, fun c hc herror => ?_, fun name => ?_,
    fun name ds last hwalk error => ?_⟩
  · obtain ⟨hsound, -, hstands⟩ := hr.resolve name
    exact (hstands t ht).keeps hsound
  · obtain ⟨hsound, -, hstands⟩ := hr.resolveNames (sortNames (r.declarations.map (·.name)))
    exact (hstands types htypes).imp fun _ _ h => h.keeps hsound
  · obtain ⟨error, herror⟩ := Option.ne_none_iff_exists'.mp herror
    exact Call.execute_of_error hc herror
  · obtain ⟨ds, last, hwalk, -⟩ := hr.exists_walk (.nil r) name
    exact ⟨ds, last, hwalk⟩
  · obtain ⟨ds', last', hwalk', hfault⟩ := hr.exists_walk (.nil r) name
    obtain ⟨rfl, rfl⟩ := hwalk.unique hwalk'
    rw [← error?_eq_some]
    exact Eq.congr_left hfault

-- A chain that is declared from its end, and a declaration that extends nothing known.
def percents : List Call :=
  [.declare ⟨"SmallPercent", "Percent", []⟩, .declare ⟨"Percent", "decimal", []⟩,
    .declare ⟨"Broken", "Missing", []⟩]

theorem resolve_interned_percents :
    ((empty.after percents).after [.resolve "SmallPercent"]).Keeps "SmallPercent"
      (.atomic 1 "SmallPercent" (.atomic 0 "Percent" (.primitive .decimal) []) []) ∧
    (empty.after percents).Walk [] "Broken" [⟨"Broken", "Missing", []⟩] "Missing" ∧
    (InPlace.resolve (empty.after percents) "Broken").1 =
      .error (.unknownSupertype "Broken" "Missing") := by
  obtain ⟨-, -, hkeeps, -, -, -, hfails⟩ := resolve_interned percents
  have hwalk : (empty.after percents).Walk [] "Broken" [⟨"Broken", "Missing", []⟩] "Missing" :=
    ⟨.step rfl (.refl "Missing"), by decide, .inl rfl⟩
  refine ⟨hkeeps _ _ ?_, hwalk, (hfails _ _ _ hwalk _).mpr rfl⟩
  rw [InPlace.resolve_eq]
  rfl

end TypeRegistry

end TableFlow

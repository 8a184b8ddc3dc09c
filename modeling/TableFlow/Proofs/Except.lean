import Mathlib.Data.List.Forall2

namespace TableFlow

variable {α β ε : Type}

-- The error of a computation that has failed.
def error? : Except ε α → Option ε
  | .ok _ => none
  | .error error => some error

theorem error?_eq_some {x : Except ε α} {error : ε} : error? x = some error ↔ x = .error error := by
  cases x <;> simp [error?]

theorem exists_of_bind {x : Except ε α} {f : α → Except ε β} {b : β} (h : x >>= f = .ok b) :
    ∃ a, x = .ok a ∧ f a = .ok b := by
  cases x with
  | error error => cases h
  | ok a => exact ⟨a, rfl, h⟩

theorem bind_eq_ok_iff {x : Except ε α} {f : α → Except ε β} {b : β} :
    x >>= f = .ok b ↔ ∃ a, x = .ok a ∧ f a = .ok b := by
  refine ⟨exists_of_bind, ?_⟩
  rintro ⟨a, rfl, h⟩
  exact h

-- Two computations that fail with one error, or succeed with results that are related.
inductive Agree (R : α → β → Prop) : Except ε α → Except ε β → Prop where
  | error (error : ε) : Agree R (.error error) (.error error)
  | ok {a : α} {b : β} (h : R a b) : Agree R (.ok a) (.ok b)

theorem Agree.bind {γ δ : Type} {R : α → β → Prop} {S : γ → δ → Prop} {x : Except ε α}
    {y : Except ε β} {f : α → Except ε γ} {g : β → Except ε δ} (h : Agree R x y)
    (hf : ∀ a b, R a b → Agree S (f a) (g b)) : Agree S (x >>= f) (y >>= g) := by
  cases h with
  | error error => exact .error error
  | ok h => exact hf _ _ h

-- What is made of related results is the same, if it does not tell them apart.
theorem Agree.bind_eq {γ : Type} {R : α → β → Prop} {x : Except ε α} {y : Except ε β}
    {f : α → Except ε γ} {g : β → Except ε γ} (h : Agree R x y) (hf : ∀ a b, R a b → f a = g b) :
    x >>= f = y >>= g := by
  cases h with
  | error error => rfl
  | ok h => exact hf _ _ h

-- If the results are related as a function says, so are the computations.
theorem Agree.eq_map {R : α → β → Prop} {x : Except ε α} {y : Except ε β} {f : α → β}
    (h : Agree R x y) (hf : ∀ a b, R a b → b = f a) : y = f <$> x := by
  cases h with
  | error error => rfl
  | ok h => exact congrArg Except.ok (hf _ _ h)

theorem exists_of_map {f : α → β} {x : Except ε α} {b : β} (h : x.map f = .ok b) :
    ∃ a, x = .ok a ∧ f a = b := by
  cases x with
  | error error => cases h
  | ok a => exact ⟨a, rfl, Except.ok.inj h⟩

theorem forM_eq_ok {f : α → Except ε Unit} {as : List α} (h : as.forM f = .ok ()) {a : α}
    (ha : a ∈ as) : f a = .ok () := by
  induction as with
  | nil => cases ha
  | cons first as ih =>
      obtain ⟨⟨⟩, hfirst, h⟩ := exists_of_bind h
      rcases List.mem_cons.mp ha with rfl | ha
      · exact hfirst
      · exact ih h ha

theorem forM_cons_ok {f : α → Except ε Unit} {first : α} (as : List α)
    (h : f first = .ok ()) : (first :: as).forM f = as.forM f := by
  show f first >>= (fun _ => as.forM f) = _
  rw [h]
  rfl

theorem forM_eq_ok_iff {f : α → Except ε Unit} {as : List α} :
    as.forM f = .ok () ↔ ∀ a ∈ as, f a = .ok () := by
  refine ⟨fun h a => forM_eq_ok h, fun h => ?_⟩
  induction as with
  | nil => rfl
  | cons first as ih =>
      rw [List.forall_mem_cons] at h
      rw [forM_cons_ok as h.1]
      exact ih h.2

-- A sequence that has no result ends at the first part that fails.
theorem forM_eq_error_iff {f : α → Except ε Unit} {as : List α} {error : ε} :
    as.forM f = .error error ↔
      ∃ before a after, as = before ++ a :: after ∧ (∀ b ∈ before, f b = .ok ()) ∧
        f a = .error error := by
  constructor
  · intro h
    induction as with
    | nil => cases h
    | cons first as ih =>
        cases hfirst : f first with
        | error error' =>
            have hcons : (first :: as).forM f = f first >>= fun _ => as.forM f := rfl
            rw [hcons, hfirst] at h
            cases h
            exact ⟨[], first, as, rfl, fun b hb => (nomatch hb), hfirst⟩
        | ok done =>
            rw [forM_cons_ok as hfirst] at h
            obtain ⟨before, a, after, rfl, hbefore, ha⟩ := ih h
            exact ⟨first :: before, a, after, rfl, List.forall_mem_cons.mpr ⟨hfirst, hbefore⟩, ha⟩
  · rintro ⟨before, a, after, rfl, hbefore, ha⟩
    induction before with
    | nil =>
        show f a >>= (fun _ => after.forM f) = _
        rw [ha]
        rfl
    | cons first before ih =>
        rw [List.forall_mem_cons] at hbefore
        rw [List.cons_append, forM_cons_ok _ hbefore.1]
        exact ih hbefore.2

theorem forall₂_of_mapM {f : α → Except ε β} {as : List α} {bs : List β}
    (h : as.mapM f = .ok bs) : List.Forall₂ (fun a b => f a = .ok b) as bs := by
  induction as generalizing bs with
  | nil =>
      cases h
      exact .nil
  | cons a as ih =>
      rw [List.mapM_cons] at h
      obtain ⟨b, hb, h⟩ := exists_of_bind h
      obtain ⟨bs', hbs, h⟩ := exists_of_bind h
      cases h
      exact .cons hb (ih hbs)

theorem exists_of_forall₂ {R : α → β → Prop} {as : List α} {bs : List β}
    (h : List.Forall₂ R as bs) {b : β} (hb : b ∈ bs) : ∃ a ∈ as, R a b := by
  induction h with
  | nil => cases hb
  | @cons a b' as bs hab _ ih =>
      rcases List.mem_cons.mp hb with rfl | hb
      · exact ⟨a, List.mem_cons_self .., hab⟩
      · obtain ⟨a', ha', hab'⟩ := ih hb
        exact ⟨a', List.mem_cons_of_mem a ha', hab'⟩

theorem exists_of_mapM {f : α → Except ε β} {as : List α} {bs : List β} (h : as.mapM f = .ok bs)
    {b : β} (hb : b ∈ bs) : ∃ a ∈ as, f a = .ok b :=
  exists_of_forall₂ (forall₂_of_mapM h) hb

theorem exists_map_of_mapM [Inhabited β] {f : α → Except ε β} {as : List α} {bs : List β}
    (h : as.mapM f = .ok bs) : ∃ g : α → β, bs = as.map g ∧ ∀ a ∈ as, f a = .ok (g a) := by
  let g (a : α) : β := (f a).toOption.getD default
  have hg {a : α} {b : β} (hab : f a = .ok b) : g a = b := by simp [g, hab, Except.toOption]
  have hparts := forall₂_of_mapM h
  clear h
  refine ⟨g, ?_⟩
  induction hparts with
  | nil => simp
  | cons hab _ ih =>
      rw [List.forall_mem_cons, List.map_cons, hg hab, ← ih.1]
      exact ⟨rfl, hab, ih.2⟩

-- A sequence fails with the error of one of its parts.
theorem exists_of_mapM_error {f : α → Except ε β} {as : List α} {error : ε}
    (h : as.mapM f = .error error) : ∃ a ∈ as, f a = .error error := by
  induction as with
  | nil => cases h
  | cons a as ih =>
      rw [List.mapM_cons] at h
      cases ha : f a with
      | error error' =>
          rw [ha] at h
          cases h
          exact ⟨a, List.mem_cons_self .., ha⟩
      | ok b =>
          rw [ha] at h
          cases has : as.mapM f with
          | error error' =>
              rw [has] at h
              cases h
              obtain ⟨a', ha', herror⟩ := ih has
              exact ⟨a', List.mem_cons_of_mem a ha', herror⟩
          | ok bs =>
              rw [has] at h
              cases h

-- What every step preserves holds at the end.
theorem foldlM_invariant {motive : β → Prop} {f : β → α → Except ε β} {as : List α} {b b' : β}
    (h : as.foldlM f b = .ok b') (hb : motive b)
    (hstep : ∀ b, motive b → ∀ a ∈ as, ∀ b', f b a = .ok b' → motive b') : motive b' := by
  induction as generalizing b with
  | nil =>
      cases h
      exact hb
  | cons a as ih =>
      rw [List.foldlM_cons] at h
      obtain ⟨s, hs, h⟩ := exists_of_bind h
      exact ih h (hstep b hb a (List.mem_cons_self ..) s hs) fun b hb a' ha' =>
        hstep b hb a' (List.mem_cons_of_mem a ha')

end TableFlow

import Mathlib.Order.Defs.Unbundled
import TableFlow.Proofs.ValueType.Conversion

namespace TableFlow

namespace Primitive

variable {p q r : Primitive}

theorem isConvertibleTo_iff :
    p.isConvertibleTo q = true ↔ p = q ∨ (p = .integer ∧ q = .decimal) := by
  simp [isConvertibleTo]

theorem isConvertibleTo_trans (hpq : p.isConvertibleTo q = true)
    (hqr : q.isConvertibleTo r = true) : p.isConvertibleTo r = true := by
  rw [isConvertibleTo_iff] at *
  rcases hpq with rfl | ⟨rfl, rfl⟩
  · exact hqr
  · rcases hqr with rfl | ⟨hq, -⟩
    · exact .inr ⟨rfl, rfl⟩
    · cases hq

theorem isConvertibleTo_antisymm (hpq : p.isConvertibleTo q = true)
    (hqp : q.isConvertibleTo p = true) : p = q := by
  rw [isConvertibleTo_iff] at *
  rcases hpq with hpq | ⟨rfl, rfl⟩
  · exact hpq
  · rcases hqp with hqp | ⟨hq, -⟩
    · exact hqp.symm
    · cases hq

end Primitive

namespace ValueType

variable {types : Nat → ValueType} {t u v : ValueType}

-- What every type hands on to its nearest supertype holds of all supertypes.
theorem of_mem_supertypes {P : ValueType → Prop}
    (hnearest : ∀ identity name supertype constraints,
      P (.atomic identity name supertype constraints) → P supertype)
    (ht : P t) (h : u ∈ t.supertypes) : P u := by
  fun_induction supertypes t with
  | case1 identity name supertype constraints ih =>
      have hsupertype := hnearest identity name supertype constraints ht
      rcases List.mem_cons.mp h with rfl | h
      · exact hsupertype
      · exact ih hsupertype h
  | case2 => cases h

-- What stands above a supertype stands above the type as well.
theorem mem_supertypes_trans (hu : u ∈ t.supertypes) (hv : v ∈ u.supertypes) :
    v ∈ t.supertypes := by
  have hsubset : u.supertypes ⊆ t.supertypes := by
    refine of_mem_supertypes (P := fun s => s.supertypes ⊆ t.supertypes) ?_ (List.Subset.refl _) hu
    intro identity name supertype constraints hsubset
    exact List.Subset.trans (List.subset_cons_self supertype supertype.supertypes) hsubset
  exact hsubset hv

-- A supertype has fewer supertypes of its own.
theorem length_supertypes_lt (h : u ∈ t.supertypes) :
    u.supertypes.length < t.supertypes.length := by
  fun_induction supertypes t with
  | case1 identity name supertype constraints ih =>
      rw [List.length_cons]
      rcases List.mem_cons.mp h with rfl | h
      · exact Nat.lt_succ_self _
      · exact Nat.lt_succ_of_lt (ih h)
  | case2 => cases h

theorem InternedBy.of_mem_supertypes (ht : t.InternedBy types) (h : u ∈ t.supertypes) :
    u.InternedBy types :=
  ValueType.of_mem_supertypes (fun _ _ _ _ hinterned => hinterned.2) ht h

-- The constraints of a supertype are among those of the type.
theorem constraints_subset (h : u ∈ t.supertypes) : u.constraints ⊆ t.constraints := by
  refine of_mem_supertypes (P := fun v => v.constraints ⊆ t.constraints) ?_ (List.Subset.refl _) h
  intro identity name supertype constraints hsubset
  exact List.Subset.trans (List.subset_append_right constraints supertype.constraints) hsubset

-- Types along a chain of supertypes ask for the same form.
theorem represents_of_mem_supertypes (h : u ∈ t.supertypes) (v : Value) :
    u.represents v = t.represents v := by
  refine of_mem_supertypes (P := fun s => s.represents v = t.represents v) ?_ rfl h
  intro identity name supertype constraints hsame
  rw [← hsame, represents]

-- Supertypes are told apart by their identities, and an identity stands for one type.
theorem isSubtypeOf_iff (ht : t.InternedBy types) (hu : u.InternedBy types) :
    t.isSubtypeOf u = true ↔ u ∈ t.supertypes := by
  rw [isSubtypeOf, List.any_eq_true]
  constructor
  · rintro ⟨w, hw, hsame⟩
    rwa [← (ht.of_mem_supertypes hw).eq_of_same hu hsame]
  · exact fun h => ⟨u, h, same_self u⟩

theorem not_isSubtypeOf_self (ht : t.InternedBy types) : ¬ t.isSubtypeOf t = true := by
  rw [isSubtypeOf_iff ht ht]
  exact fun h => Nat.lt_irrefl _ (length_supertypes_lt h)

theorem isSubtypeOf_trans (ht : t.InternedBy types) (hu : u.InternedBy types)
    (hv : v.InternedBy types) (htu : t.isSubtypeOf u = true) (huv : u.isSubtypeOf v = true) :
    t.isSubtypeOf v = true := by
  rw [isSubtypeOf_iff ht hu] at htu
  rw [isSubtypeOf_iff hu hv] at huv
  rw [isSubtypeOf_iff ht hv]
  exact mem_supertypes_trans htu huv

theorem isConvertibleTo_of_same (h : t.same u = true) : t.isConvertibleTo u = true := by
  fun_induction same t u with
  | case1 p q =>
      rw [isConvertibleTo, Primitive.isConvertibleTo_iff]
      exact .inl (of_decide_eq_true h)
  | case2 => rw [isConvertibleTo, same, h, Bool.true_or]
  | case3 a b ih =>
      rw [isConvertibleTo]
      exact ih h
  | case4 => rfl
  | case5 => cases h

theorem isConvertibleTo_self (t : ValueType) : t.isConvertibleTo t = true :=
  isConvertibleTo_of_same (same_self t)

-- Conversion goes up the chain until it meets the target.
theorem isConvertibleTo_of_isSubtypeOf (h : t.isSubtypeOf u = true) :
    t.isConvertibleTo u = true := by
  rw [isSubtypeOf, List.any_eq_true] at h
  obtain ⟨w, hw, hsame⟩ := h
  fun_induction supertypes t with
  | case1 identity name supertype constraints ih =>
      rw [isConvertibleTo, Bool.or_eq_true]
      rcases List.mem_cons.mp hw with rfl | hw
      · exact .inr (isConvertibleTo_of_same hsame)
      · exact .inr (ih hw)
  | case2 => cases hw

-- There is no other way to a type that has a supertype itself.
theorem eq_or_isSubtypeOf (ht : t.InternedBy types) (hu : u.InternedBy types)
    (hatomic : u.supertype? ≠ none) (h : t.isConvertibleTo u = true) :
    t = u ∨ t.isSubtypeOf u = true := by
  fun_induction isConvertibleTo t u with
  | case2 identity name supertype constraints target ih =>
      rcases Bool.or_eq_true_iff.mp h with hsame | h
      · exact .inl (ht.eq_of_same hu hsame)
      · rw [isSubtypeOf_iff ht hu]
        rcases ih ht.2 hu hatomic h with rfl | hsub
        · exact .inr (List.mem_cons_self ..)
        · exact .inr (List.mem_cons_of_mem _ ((isSubtypeOf_iff ht.2 hu).mp hsub))
  | case6 => cases h
  | _ => exact absurd rfl hatomic

-- By induction along the first conversion. An atomic type is either met on the way, and then the
-- second conversion is all there is, or left behind.
theorem isConvertibleTo_trans (ht : t.InternedBy types) (hu : u.InternedBy types)
    (htu : t.isConvertibleTo u = true) (huv : u.isConvertibleTo v = true) :
    t.isConvertibleTo v = true := by
  fun_induction isConvertibleTo t u generalizing v with
  | case1 p q =>
      cases v with
      | primitive r => exact Primitive.isConvertibleTo_trans htu huv
      | _ => simp [isConvertibleTo] at huv
  | case2 identity name supertype constraints target ih =>
      rcases Bool.or_eq_true_iff.mp htu with hsame | htu
      · rwa [ht.eq_of_same hu hsame]
      · rw [isConvertibleTo, ih ht.2 hu htu huv, Bool.or_true]
  | case3 a b ih =>
      cases v with
      | collection c => exact ih ht hu htu huv
      | _ => simp [isConvertibleTo] at huv
  | case4 element =>
      cases v with
      | collection c => rfl
      | _ => simp [isConvertibleTo] at huv
  | case5 => exact huv
  | case6 => cases htu

-- By induction along the first conversion. The second one leads back to an atomic type only from
-- that type or from below it, and no type stands below itself.
theorem isConvertibleTo_antisymm (ht : t.InternedBy types) (hu : u.InternedBy types)
    (htu : t.isConvertibleTo u = true) (hut : u.isConvertibleTo t = true) : t = u := by
  fun_induction isConvertibleTo t u with
  | case1 p q => rw [Primitive.isConvertibleTo_antisymm htu hut]
  | case2 identity name supertype constraints target ih =>
      rcases eq_or_isSubtypeOf hu ht (Option.some_ne_none _) hut with rfl | hsub
      · rfl
      · have hatomic : target.supertype? ≠ none := by
          cases target with
          | atomic => exact Option.some_ne_none _
          | _ => simp [isSubtypeOf, supertypes] at hsub
        rcases eq_or_isSubtypeOf ht hu hatomic htu with heq | hsub'
        · exact heq
        · exact absurd (isSubtypeOf_trans hu ht hu hsub hsub') (not_isSubtypeOf_self hu)
  | case3 a b ih => rw [ih ht hu htu hut]
  | case4 element => cases hut
  | case5 => rfl
  | case6 => cases htu

-- Value types are ordered by conversion, strictly ordered by their supertypes, and every type can be
-- converted to its supertypes. Types are equal here if the program takes them to be the same.
theorem conversion_order (types : Nat → ValueType) :
    IsPartialOrder {t : ValueType // t.InternedBy types}
      (fun t u => t.val.isConvertibleTo u.val = true) ∧
    IsStrictOrder {t : ValueType // t.InternedBy types}
      (fun t u => t.val.isSubtypeOf u.val = true) ∧
    (∀ t u : {t : ValueType // t.InternedBy types}, t.val.same u.val = true ↔ t = u) ∧
    ∀ t u : ValueType, t.isSubtypeOf u = true → t.isConvertibleTo u = true := by
  refine ⟨?_, ?_, fun t u => ⟨fun h => ?_, fun h => ?_⟩, fun t u => isConvertibleTo_of_isSubtypeOf⟩
  · exact {
      refl := fun t => isConvertibleTo_self t.val
      trans := fun t u _ => isConvertibleTo_trans t.property u.property
      antisymm := fun t u htu hut =>
        Subtype.ext (isConvertibleTo_antisymm t.property u.property htu hut) }
  · exact {
      irrefl := fun t => not_isSubtypeOf_self t.property
      trans := fun t u v => isSubtypeOf_trans t.property u.property v.property }
  · exact Subtype.ext (t.property.eq_of_same u.property h)
  · exact h ▸ same_self t.val

-- Even numbers are whole numbers, and these are integers.
def whole : ValueType := .atomic 0 "Whole" .integer []

def even : ValueType := .atomic 1 "Even" whole []

theorem conversion_order_evens :
    let types := fun identity => if identity = 0 then whole else even
    let evens := ValueType.collection (.collection even)
    let wholes := ValueType.collection (.collection whole)
    let decimals := ValueType.collection (.collection .decimal)
    (evens.InternedBy types ∧ wholes.InternedBy types ∧ decimals.InternedBy types) ∧
    (evens.isConvertibleTo wholes = true ∧ wholes.isConvertibleTo decimals = true ∧
      evens.isConvertibleTo decimals = true ∧ ¬ decimals.isConvertibleTo evens = true) ∧
    (even.isSubtypeOf .integer = true ∧ even.isConvertibleTo .integer = true) := by
  intro types evens wholes decimals
  have hwholes : wholes.InternedBy types := ⟨rfl, trivial⟩
  have hevens : evens.InternedBy types := ⟨rfl, hwholes⟩
  have hdecimals : decimals.InternedBy types := trivial
  obtain ⟨hpartial, -, hsame, hsubtype⟩ := conversion_order types
  have hup : evens.isConvertibleTo decimals = true :=
    hpartial.trans ⟨evens, hevens⟩ ⟨wholes, hwholes⟩ ⟨decimals, hdecimals⟩ rfl rfl
  refine ⟨⟨hevens, hwholes, hdecimals⟩, ⟨rfl, rfl, hup, fun hdown => ?_⟩, rfl, hsubtype _ _ rfl⟩
  have heq := hpartial.antisymm ⟨evens, hevens⟩ ⟨decimals, hdecimals⟩ hup hdown
  exact absurd ((hsame _ _).mpr heq) Bool.false_ne_true

end ValueType

end TableFlow

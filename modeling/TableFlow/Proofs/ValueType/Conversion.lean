import TableFlow.Proofs.Decimal.Rounding
import TableFlow.Proofs.ValueType
import TableFlow.Proofs.ValueType.Interned

namespace TableFlow

-- An integer that is asked for as a decimal becomes a finite one. All other values stay.
theorem Primitive.represents_normalize {p q : Primitive} {v : Value}
    (h : p.isConvertibleTo q = true) (hv : p.represents v = true) :
    q.represents (q.normalize v) = true := by
  rcases Bool.or_eq_true_iff.mp h with heq | hnumeric
  · obtain rfl : p = q := of_decide_eq_true heq
    rwa [normalize_of_represents hv]
  · obtain ⟨hp, hq⟩ := Bool.and_eq_true_iff.mp hnumeric
    obtain rfl := of_decide_eq_true hp
    obtain rfl := of_decide_eq_true hq
    cases v with
    | integer n => exact Decimal.ofInt64_isFinite n
    | _ => cases hv

namespace ValueType

variable {types : Nat → ValueType} {t u : ValueType} {v : Value}

-- By induction along the conversion. A type that is not converted further has the value already, so
-- only integers that are asked for as decimals change, in collections of any depth.
theorem represents_normalize (hu : u.InternedBy types) (ht : t.InternedBy types)
    (h : u.isConvertibleTo t = true) (hv : u.represents v = true) :
    t.represents (t.normalize v) = true := by
  fun_induction isConvertibleTo u t generalizing v with
  | case1 p q =>
      rw [normalize_of_primitive? _ q rfl]
      exact Primitive.represents_normalize h hv
  | case2 identity name supertype constraints target ih =>
      rcases Bool.or_eq_true_iff.mp h with hsame | hsupertype
      · rw [← hu.eq_of_same ht hsame]
        rwa [normalize_of_represents _ v hv]
      · exact ih hu.2 ht hsupertype hv
  | case3 a b ih =>
      cases v with
      | collection items =>
          rw [represents, List.all_eq_true] at hv
          rw [normalize, represents, List.all_map, List.all_eq_true]
          exact fun item hitem => ih hu ht h (hv item hitem)
      | _ => cases hv
  | case4 element =>
      cases v with
      | collection items =>
          obtain rfl := List.isEmpty_iff.mp hv
          rfl
      | _ => cases hv
  | case5 => rwa [normalize_of_represents _ v hv]
  | case6 => cases h

-- What is converted fits, and what is of the type already is not changed.
theorem normalize_converts (hu : u.InternedBy types) (ht : t.InternedBy types)
    (hv : u.represents v = true) :
    (u.isConvertibleTo t = true → t.represents (t.normalize v) = true) ∧
      (u.same t = true → t.normalize v = v) := by
  refine ⟨fun h => represents_normalize hu ht h hv, fun hsame => ?_⟩
  rw [← hu.eq_of_same ht hsame]
  exact normalize_of_represents u v hv

-- Counts are integers, also in collections of collections of them.
def count : ValueType := .atomic 0 "Count" (.primitive .integer) []

theorem normalize_converts_counts :
    let counts := ValueType.collection (.collection count)
    let decimals := ValueType.collection (.collection (.primitive .decimal))
    let v := Value.collection [.collection [.integer 3], .collection []]
    (counts.represents v = true ∧ decimals.represents v = false) ∧
    (counts.isConvertibleTo decimals = true ∧ decimals.represents (decimals.normalize v) = true) ∧
    counts.normalize v = v := by
  intro counts decimals v
  have hcounts : counts.InternedBy fun _ => count := ⟨rfl, trivial⟩
  have hv : counts.represents v = true := by rfl
  have hdecimals : decimals.InternedBy fun _ => count := trivial
  exact ⟨⟨hv, rfl⟩, ⟨rfl, (normalize_converts hcounts hdecimals hv).1 rfl⟩,
    (normalize_converts hcounts hcounts hv).2 rfl⟩

end ValueType

end TableFlow

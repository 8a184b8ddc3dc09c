import TableFlow.Proofs.Scalar

namespace TableFlow

theorem Primitive.normalize_of_represents {p : Primitive} {v : Value} (h : p.represents v = true) :
    p.normalize v = v := by
  cases p <;> cases v <;> first | rfl | cases h

-- By induction on the type. Only collections are looked into; what stands at the end of a chain of
-- supertypes decides for an atomic type.
theorem ValueType.normalize_of_represents (t : ValueType) (v : Value)
    (h : t.represents v = true) : t.normalize v = v := by
  match t with
  | .primitive p =>
      rw [normalize_of_primitive? _ p rfl]
      exact Primitive.normalize_of_represents h
  | .atomic identity name supertype constraints =>
      cases hp : primitive? (.atomic identity name supertype constraints) with
      | some p =>
          rw [normalize_of_primitive? _ p hp]
          rw [represents_of_primitive? _ p hp] at h
          exact Primitive.normalize_of_represents h
      | none => simp only [normalize, hp]
  | .collection element =>
      cases v with
      | collection items =>
          rw [represents, List.all_eq_true] at h
          have hitems (item : Value) (hitem : item ∈ items) : element.normalize item = item :=
            normalize_of_represents element item (h item hitem)
          rw [normalize, List.map_congr_left hitems, List.map_id']
      | _ => simp only [normalize, primitive?]
  | .emptyCollection => simp only [normalize, primitive?]

-- A text that denotes a decimal denotes a finite one.
theorem Decimal.isFinite_of_ofText? {text : String} {d : Decimal} (h : ofText? text = some d) :
    d.isFinite = true := by
  rw [ofText?] at h
  split at h
  next => exact (Option.filter_eq_some_iff.mp h).2
  next => cases h

theorem Primitive.represents_of_literal? {p : Primitive} {text : String} {v : Value}
    (h : p.literal? text = some v) : p.represents v = true := by
  cases p with
  | text =>
      cases h
      rfl
  | decimal =>
      obtain ⟨d, hd, rfl⟩ := Option.map_eq_some_iff.mp h
      exact Decimal.isFinite_of_ofText? hd
  | boolean | integer | regex =>
      obtain ⟨w, -, rfl⟩ := Option.map_eq_some_iff.mp h
      rfl
  | cellRange | constraint | assignment | transform => cases h

-- Only the numbers of columns can exceed the words while a text is read.
theorem Primitive.ofText?_of_ne {p : Primitive} (h : p ≠ .cellRange) (text : String) :
    p.ofText? text = .ok (p.literal? text) := by
  cases p with
  | cellRange => exact absurd rfl h
  | _ => rfl

theorem Primitive.represents_of_ofText? {p : Primitive} {text : String} {v : Value}
    (h : p.ofText? text = .ok (some v)) : p.represents v = true := by
  by_cases hp : p = .cellRange
  · subst hp
    rw [ofText?] at h
    split at h <;> cases h
    rfl
  · rw [ofText?_of_ne hp] at h
    exact represents_of_literal? (Except.ok.inj h)

theorem ValueType.represents_of_ofText? {t : ValueType} {text : String} {v : Value}
    (h : t.ofText? text = .ok (some v)) : t.represents v = true := by
  fun_induction ofText? t text with
  | case1 p text =>
      rw [represents]
      exact Primitive.represents_of_ofText? h
  | case2 identity name supertype constraints text ih =>
      rw [represents]
      exact ih h
  | case3 => cases h
  | case4 => cases h

theorem ValueType.ofText?_of_primitive? (t : ValueType) (p : Primitive) (h : t.primitive? = some p)
    (text : String) : t.ofText? text = p.ofText? text := by
  fun_induction primitive? t with
  | case1 q => rw [Option.some.inj h, ofText?]
  | case2 identity name supertype constraints ih => rw [ofText?, ih h]
  | case3 element => cases h
  | case4 => cases h

-- A text is read without a violation, if it is not to be a range.
theorem ValueType.exists_ofText? {t : ValueType} (h : t.primitive? ≠ some .cellRange)
    (text : String) : ∃ value?, t.ofText? text = .ok value? := by
  fun_induction ofText? t text with
  | case1 p text => exact ⟨_, Primitive.ofText?_of_ne (fun hp => h (congrArg some hp)) text⟩
  | case2 identity name supertype constraints text ih => exact ih h
  | case3 => exact ⟨none, rfl⟩
  | case4 => exact ⟨none, rfl⟩

theorem ValueType.exists_ofText?_of_scalarType? {t : ValueType} (h : t.scalarType?.isSome = true)
    (text : String) : ∃ value?, t.ofText? text = .ok value? := by
  obtain ⟨σ, hσ⟩ := Option.isSome_iff_exists.mp h
  refine exists_ofText? ?_ text
  rw [primitive?_of_scalarType? hσ]
  cases σ <;> decide

end TableFlow

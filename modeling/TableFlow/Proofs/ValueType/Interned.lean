import TableFlow.ValueType.Basic

namespace TableFlow.ValueType

-- The atomic types that a type is made from are those that `types` has for their identities.
def InternedBy (types : Nat → ValueType) : ValueType → Prop
  | .primitive _ => True
  | .atomic identity name supertype constraints =>
    types identity = .atomic identity name supertype constraints ∧ supertype.InternedBy types
  | .collection element => element.InternedBy types
  | .emptyCollection => True

variable {types : Nat → ValueType}

theorem same_self (t : ValueType) : t.same t = true := by
  match t with
  | .primitive p => simp [same]
  | .atomic identity _ _ _ => simp [same]
  | .collection element =>
      rw [same]
      exact same_self element
  | .emptyCollection => rfl

-- Among types that are kept in one place, those that are the same are equal.
theorem InternedBy.eq_of_same {t u : ValueType} (ht : t.InternedBy types)
    (hu : u.InternedBy types) (h : t.same u = true) : t = u := by
  fun_induction same t u with
  | case1 p q => rw [of_decide_eq_true h]
  | case2 identity name supertype constraints identity' name' supertype' constraints' =>
      obtain rfl : identity = identity' := of_decide_eq_true h
      exact ht.1.symm.trans hu.1
  | case3 a b ih => rw [ih ht hu h]
  | case4 => rfl
  | case5 => cases h

end TableFlow.ValueType

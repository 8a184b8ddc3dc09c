import TableFlow.Table.ValueTable
import TableFlow.Proofs.Except
import TableFlow.Proofs.ValueType

namespace TableFlow

namespace ValueColumn

section

variable {c : ValueColumn} {v w : Value}

-- The values have the form that the type asks for.
def Represented (c : ValueColumn) : Prop := ∀ v ∈ c.values, c.type.represents v = true

theorem represents_of_accept (h : c.accept v = .ok w) : c.type.represents w = true := by
  simp only [accept] at h
  split at h
  next hw =>
    cases h
    exact hw
  next => cases h

theorem accept_of_represents (h : c.type.represents v = true) : c.accept v = .ok v := by
  rw [accept, c.type.normalize_of_represents v h, if_pos h]

theorem push_of_represents (h : c.type.represents v = true) :
    c.push v = .ok { c with values := c.values ++ [v] } := by
  rw [push, accept_of_represents h]
  rfl

theorem ofValues_of_represents {name : String} {type : ValueType} {values : List Value}
    (h : ∀ v ∈ values, type.represents v = true) :
    ofValues name type values = .ok ⟨name, type, values⟩ := by
  have haccept : values.mapM (empty name type).accept = .ok values := by
    induction values with
    | nil => rfl
    | cons v values ih =>
        have hv : (empty name type).accept v = .ok v :=
          accept_of_represents (h v (List.mem_cons_self ..))
        rw [List.mapM_cons, hv, ih fun w hw => h w (List.mem_cons_of_mem v hw)]
        rfl
  rw [ofValues, haccept]
  rfl

end

-- The columns that can be made: from nothing or from values, by adding and taking out values and by
-- giving them other names.
inductive Built : ValueColumn → Prop where
  | empty (name : String) (type : ValueType) : Built (.empty name type)
  | ofValues {name type values c} (h : ofValues name type values = .ok c) : Built c
  | push {c v c'} (built : Built c) (h : c.push v = .ok c') : Built c'
  | remove {c index v c'} (built : Built c) (h : c.remove? index = some (v, c')) : Built c'
  | rename {c} (name : String) (built : Built c) : Built { c with name }

theorem Built.represented {c : ValueColumn} (h : c.Built) : c.Represented := by
  induction h with
  | empty name type => exact fun v hv => nomatch hv
  | @ofValues name type values c h =>
      rw [ValueColumn.ofValues] at h
      obtain ⟨ws, hws, h⟩ := exists_of_bind h
      cases h
      intro w hw
      obtain ⟨v, -, hv⟩ := exists_of_mapM hws hw
      exact represents_of_accept hv
  | @push c v c' built h ih =>
      rw [ValueColumn.push] at h
      obtain ⟨w, hw, h⟩ := exists_of_bind h
      cases h
      intro x hx
      rcases List.mem_append.mp hx with hx | hx
      · exact ih x hx
      · rw [List.mem_singleton.mp hx]
        exact represents_of_accept hw
  | @remove c index v c' built h ih =>
      obtain ⟨w, -, heq⟩ := Option.map_eq_some_iff.mp h
      cases heq
      exact fun x hx => ih x (List.mem_of_mem_eraseIdx hx)
  | rename name built ih => exact ih

end ValueColumn

end TableFlow

import TableFlow.Pipeline.Run

namespace TableFlow

namespace Pending

private theorem find?_place {α : Type} (name other : String) (a : α) (entries : List (String × α)) :
    (place Prod.fst (name, a) entries).find? (·.1 == other) =
      if other = name then some (name, a) else entries.find? (·.1 == other) := by
  induction entries with
  | nil =>
      by_cases h : other = name
      · simp [place, h]
      · simp [place, h, Ne.symm h]
  | cons entry entries ih =>
      rw [place]
      by_cases hentry : entry.1 = name
      · rw [if_pos hentry]
        by_cases h : other = name
        · simp [h]
        · simp [h, Ne.symm h, hentry]
      · rw [if_neg hentry, List.find?_cons, List.find?_cons, ih]
        by_cases h : other = name
        · have hne : (entry.1 == name) = false := by simpa using hentry
          simp only [h, hne, if_true]
        · simp [h]

variable (p : Pending) (name other : String)

-- At first every child of a block has yet to take its output.
theorem remaining_ofSchedule (schedule : List Scheduled) :
    (ofSchedule schedule).remaining name = countConsumers schedule name := by
  have hfind (names : List String) :
      ((names.map fun n => (n, countConsumers schedule n)).find? (·.1 == name)).map (·.2) =
        if name ∈ names then some (countConsumers schedule name) else none := by
    induction names with
    | nil => rfl
    | cons n names ih =>
        by_cases hn : n = name
        · simp [hn]
        · rw [List.map_cons, List.find?_cons_of_neg (by simpa using hn), ih]
          simp [Ne.symm hn]
  rw [remaining, ofSchedule, hfind]
  split
  next => rfl
  next hmem =>
    refine (List.countP_eq_zero.mpr fun s hs hparent => hmem ?_).symm
    rw [List.mem_eraseDups, List.mem_filterMap]
    exact ⟨s, hs, by simpa using hparent⟩

theorem output?_ofSchedule (schedule : List Scheduled) :
    (ofSchedule schedule).output? name = none := rfl

theorem countConsumers_cons (s : Scheduled) (rest : List Scheduled) :
    countConsumers (s :: rest) name =
      countConsumers rest name + if s.parent = some name then 1 else 0 := by
  rw [countConsumers, List.countP_cons]
  simp only [beq_iff_eq]
  rfl

theorem countConsumers_pos {rest : List Scheduled} :
    0 < countConsumers rest name ↔ ∃ s ∈ rest, s.parent = some name := by
  simp [countConsumers, List.countP_pos_iff]

theorem remaining_store (output : Artifact) :
    (p.store name output).remaining other = p.remaining other := by
  unfold store
  split <;> rfl

theorem output?_store (output : Artifact) :
    (p.store name output).output? other =
      if other = name ∧ 0 < p.remaining name then some output else p.output? other := by
  unfold store
  by_cases hremaining : 0 < p.remaining name
  · rw [if_pos hremaining, output?, find?_place]
    by_cases h : other = name
    · simp [h, hremaining]
    · simp [h, output?]
  · simp [hremaining]

theorem remaining_take :
    (p.take name).2.remaining other =
      if other = name then p.remaining name - 1 else p.remaining other := by
  have hfind (consumers : List (String × Nat)) (n : Nat) :
      ((consumers.map fun c => if c.1 = name then (name, n) else c).find? (·.1 == other)).map
          (·.2) =
        if other = name then (consumers.find? (·.1 == other)).map fun _ => n
        else (consumers.find? (·.1 == other)).map (·.2) := by
    induction consumers with
    | nil => simp
    | cons c consumers ih =>
        by_cases hc : c.1 = other
        · by_cases h : other = name
          · simp [hc, h]
          · simp [hc, h]
        · rw [List.map_cons, List.find?_cons_of_neg (by split <;> simp_all), ih,
            List.find?_cons_of_neg (by simpa using hc)]
  unfold remaining take
  simp only [hfind]
  by_cases h : other = name
  · subst h
    rw [if_pos rfl, if_pos rfl]
    cases hfound : p.consumers.find? (·.1 == other) <;> simp [remaining, hfound]
  · rw [if_neg h, if_neg h]

-- The last consumer takes an output away.
theorem output?_take :
    (p.take name).2.output? other =
      if other = name ∧ p.remaining name - 1 = 0 then none else p.output? other := by
  have hfind (outputs : List (String × Artifact)) :
      (outputs.filter (·.1 != name)).find? (·.1 == other) =
        if other = name then none else outputs.find? (·.1 == other) := by
    rw [List.find?_filter]
    by_cases h : other = name
    · subst h
      rw [if_pos rfl, List.find?_eq_none]
      simp
    · rw [if_neg h]
      congr 1
      funext o
      by_cases ho : o.1 = other
      · simp [ho, h]
      · simp [ho]
  unfold output? take
  by_cases hremaining : p.remaining name - 1 = 0
  · simp only [hremaining, if_true, hfind, and_true]
    split <;> rfl
  · simp only [hremaining, if_false, and_false]

end Pending

def Step.IsOk (step : Step) : Prop := ∃ output, step.execution.result = .ok output

namespace Run

open Pending

-- The output of the last block of a name that has been run.
def outputOf (steps : List Step) (name : String) : Option Artifact :=
  (steps.reverse.find? (·.block.name == name)).bind (·.execution.result.toOption)

-- Under each name that is the parent of a block still to come, the last output of that name.
structure Waits (steps : List Step) (rest : List Scheduled) (pending : Pending) : Prop where
  remaining : ∀ name, pending.remaining name = countConsumers rest name
  output : ∀ name, pending.output? name =
    if 0 < countConsumers rest name then outputOf steps name else none

theorem outputOf_append (steps : List Step) (step : Step) (name : String) :
    outputOf (steps ++ [step]) name =
      if step.block.name = name then step.execution.result.toOption else outputOf steps name := by
  rw [outputOf, List.reverse_append, List.reverse_singleton, List.singleton_append]
  by_cases h : step.block.name = name
  · rw [if_pos h, List.find?_cons_of_pos (by simpa using h)]
    rfl
  · rw [if_neg h, List.find?_cons_of_neg (by simpa using h)]
    rfl

theorem isSome_outputOf {steps : List Step} (hok : ∀ step ∈ steps, step.IsOk) (name : String) :
    (outputOf steps name).isSome = true ↔ ∃ step ∈ steps, step.block.name = name := by
  unfold outputOf
  cases hfind : steps.reverse.find? (·.block.name == name) with
  | none =>
      have hnone := List.find?_eq_none.mp hfind
      simp only [Option.bind_none, Option.isSome_none, Bool.false_eq_true, false_iff]
      rintro ⟨step, hstep, hname⟩
      exact hnone step (List.mem_reverse.mpr hstep) (by simpa using hname)
  | some step =>
      have hstep := List.mem_reverse.mp (List.mem_of_find?_eq_some hfind)
      obtain ⟨output, houtput⟩ := hok step hstep
      rw [Option.bind_some, houtput]
      have hname := List.find?_some hfind
      exact ⟨fun _ => ⟨step, hstep, by simpa using hname⟩, fun _ => rfl⟩

-- The last step of a name is the one behind which there is none of that name.
theorem outputOf_eq {steps : List Step} {i : Nat} {step : Step} (hstep : steps[i]? = some step)
    (hlast : ∀ j other, steps[j]? = some other → other.block.name = step.block.name → j ≤ i) :
    outputOf steps step.block.name = step.execution.result.toOption := by
  obtain ⟨hlt, hget⟩ := List.getElem?_eq_some_iff.mp hstep
  have hsplit : steps = steps.take i ++ step :: steps.drop (i + 1) := by
    rw [← hget, ← List.drop_eq_getElem_cons hlt, List.take_append_drop]
  have hbehind : (steps.drop (i + 1)).reverse.find? (·.block.name == step.block.name) = none := by
    rw [List.find?_eq_none]
    intro other hother hname
    obtain ⟨j, hj⟩ := List.mem_iff_getElem?.mp (List.mem_reverse.mp hother)
    rw [List.getElem?_drop] at hj
    have := hlast (i + 1 + j) other hj (by simpa using hname)
    omega
  generalize steps.drop (i + 1) = behind at hsplit hbehind
  generalize steps.take i = front at hsplit
  subst hsplit
  rw [outputOf, List.reverse_append, List.reverse_cons, List.find?_append, List.find?_append,
    hbehind]
  simp

namespace Waits

variable {steps : List Step} {rest : List Scheduled} {pending : Pending} {s : Scheduled}

theorem start (schedule : List Scheduled) : Waits [] schedule (.ofSchedule schedule) where
  remaining name := remaining_ofSchedule name schedule
  output name := by
    rw [output?_ofSchedule]
    split <;> rfl

-- A block takes its input, and is no longer to come.
theorem input (h : Waits steps (s :: rest) pending) : Waits steps rest (inputFor pending s).2 := by
  cases hparent : s.parent with
  | none =>
      have hcount (name : String) : countConsumers (s :: rest) name = countConsumers rest name := by
        simp [countConsumers_cons, hparent]
      simp only [inputFor, hparent]
      exact ⟨fun name => (h.remaining name).trans (hcount name),
        fun name => by rw [h.output, hcount]⟩
  | some parent =>
      simp only [inputFor, hparent]
      have hcount (name : String) : countConsumers (s :: rest) name =
          countConsumers rest name + if parent = name then 1 else 0 := by
        simp only [countConsumers_cons, hparent, Option.some.injEq]
      refine ⟨fun name => ?_, fun name => ?_⟩
      · rw [remaining_take, h.remaining, h.remaining, hcount, hcount]
        by_cases hname : name = parent
        · simp [hname]
        · simp [hname, Ne.symm hname]
      · rw [output?_take, h.output, h.remaining, hcount, hcount]
        by_cases hname : name = parent
        · subst hname
          by_cases hzero : countConsumers rest name = 0
          · simp [hzero]
          · simp [hzero, Nat.pos_of_ne_zero hzero]
        · simp [hname, Ne.symm hname]

-- A block has been run.
theorem store (h : Waits steps rest pending) {step : Step} {output : Artifact}
    (hresult : step.execution.result = .ok output) :
    Waits (steps ++ [step]) rest (pending.store step.block.name output) where
  remaining name := (remaining_store pending _ name output).trans (h.remaining name)
  output name := by
    rw [output?_store, outputOf_append, h.output, h.remaining, hresult]
    by_cases hname : name = step.block.name
    · subst hname
      by_cases hpos : 0 < countConsumers rest step.block.name
      · simp [hpos, Except.toOption]
      · simp [hpos]
    · simp [hname, Ne.symm hname]

-- An output is held under a name if a block of that name has been run and one that takes it has
-- not.
theorem isSome_output? (h : Waits steps rest pending) (hok : ∀ step ∈ steps, step.IsOk)
    (name : String) : (pending.output? name).isSome = true ↔
      (∃ step ∈ steps, step.block.name = name) ∧ ∃ s ∈ rest, s.parent = some name := by
  rw [h.output, ← isSome_outputOf hok, ← countConsumers_pos]
  by_cases hpos : 0 < countConsumers rest name <;> simp [hpos]

theorem outputs_eq_nil (h : Waits steps [] pending) : pending.outputs = [] := by
  cases houtputs : pending.outputs with
  | nil => rfl
  | cons entry entries =>
      have hnone : pending.output? entry.1 = none := h.output entry.1
      rw [output?, houtputs, List.find?_cons_of_pos (by simp)] at hnone
      cases hnone

end Waits

end Run

end TableFlow

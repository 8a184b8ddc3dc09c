import Mathlib.Logic.Relation
import TableFlow.Proofs.Pipeline.Order
import TableFlow.Proofs.Pipeline.Pending

namespace TableFlow.Run

open Pending

-- What has been run, the outputs that wait, and the blocks to come.
structure Point where
  steps : List Step
  pending : Pending
  rest : List Scheduled

variable {r : Registry} {c : Context}

-- A kind of block takes what it declares, or whatever there is.
def Accepts (kind : BlockKind) (input : Artifact) : Prop :=
  input.kind = kind.spec.input ∨ kind.spec.input = .none

namespace Point

def start (schedule : List Scheduled) : Point := ⟨[], .ofSchedule schedule, schedule⟩

-- The run that has come to a point.
def run (r : Registry) (c : Context) (x : Point) : Run :=
  let others := runAll r c x.pending x.rest
  ⟨x.steps ++ others.steps, others.ending⟩

-- A block is run and ends well.
inductive Next (r : Registry) (c : Context) : Point → Point → Prop where
  | intro {steps pending s rest kind output} (hkind : r.block? s.block.kind = some kind)
      (haccepts : Accepts kind (inputFor pending s).1)
      (hresult : (runBlock kind c s.block (inputFor pending s).1).result = .ok output) :
      Next r c ⟨steps, pending, s :: rest⟩
        ⟨steps ++
            [⟨s.block, (inputFor pending s).1, runBlock kind c s.block (inputFor pending s).1⟩],
          (inputFor pending s).2.store s.block.name output, rest⟩

-- The points that a run of a schedule comes to.
def Reached (r : Registry) (c : Context) (schedule : List Scheduled) : Point → Prop :=
  Relation.ReflTransGen (Next r c) (start schedule)

theorem not_mismatch {kind : BlockKind} {input : Artifact} (h : Accepts kind input) :
    ¬ (input.kind ≠ kind.spec.input ∧ kind.spec.input ≠ .none) := by
  rintro ⟨hne, hnone⟩
  exact h.elim hne hnone

variable {x y : Point}

theorem Next.run_eq (h : Next r c x y) : y.run r c = x.run r c := by
  cases h with
  | intro hkind haccepts hresult =>
      simp only [run, runAll, hkind, if_neg (not_mismatch haccepts), hresult, after,
        List.append_assoc, List.singleton_append]

theorem Reached.run_eq {schedule : List Scheduled} (h : Reached r c schedule x) :
    x.run r c = runAll r c (.ofSchedule schedule) schedule := by
  induction h with
  | refl => rfl
  | tail _ hnext ih => exact hnext.run_eq.trans ih

-- A run that cannot go on is at its end, or the next block does not take its input, or it fails.
inductive Stops (r : Registry) (c : Context) : Point → Prop where
  | finished {steps pending} (h : run r c ⟨steps, pending, []⟩ = ⟨steps, .ok ()⟩) :
      Stops r c ⟨steps, pending, []⟩
  | refused {steps pending s rest kind} (hkind : r.block? s.block.kind = some kind)
      (haccepts : ¬ Accepts kind (inputFor pending s).1)
      (h : run r c ⟨steps, pending, s :: rest⟩ = ⟨steps, .error (.error (.block
        (.inputMismatch s.block.name kind.spec.input (inputFor pending s).1.kind)
        (Node.block s.block).anchor))⟩) :
      Stops r c ⟨steps, pending, s :: rest⟩
  | failed {steps pending s rest kind failure} (hkind : r.block? s.block.kind = some kind)
      (haccepts : Accepts kind (inputFor pending s).1)
      (hresult : (runBlock kind c s.block (inputFor pending s).1).result = .error failure)
      (h : run r c ⟨steps, pending, s :: rest⟩ = ⟨steps ++ [⟨s.block, (inputFor pending s).1,
        runBlock kind c s.block (inputFor pending s).1⟩], .error failure⟩) :
      Stops r c ⟨steps, pending, s :: rest⟩

-- A run over known kinds of blocks goes on or stops.
theorem next_or_stops (hknown : ∀ s ∈ x.rest, ∃ kind, r.block? s.block.kind = some kind) :
    (∃ y, Next r c x y) ∨ Stops r c x := by
  obtain ⟨steps, pending, rest⟩ := x
  cases rest with
  | nil => exact .inr (.finished (by simp [run, runAll]))
  | cons s rest =>
      obtain ⟨kind, hkind⟩ := hknown s (List.mem_cons_self ..)
      by_cases haccepts : Accepts kind (inputFor pending s).1
      · have hfits := not_mismatch haccepts
        cases hresult : (runBlock kind c s.block (inputFor pending s).1).result with
        | ok output => exact .inl ⟨_, .intro hkind haccepts hresult⟩
        | error failure =>
            refine .inr (.failed hkind haccepts hresult ?_)
            simp only [run, runAll, hkind, if_neg hfits, hresult]
      · have hmismatch : (inputFor pending s).1.kind ≠ kind.spec.input ∧ kind.spec.input ≠ .none :=
          not_or.mp haccepts
        refine .inr (.refused hkind haccepts ?_)
        simp only [run, runAll, hkind, if_pos hmismatch, stop, List.append_nil]

-- From every point a run comes to one at which it stops.
theorem exists_stop (hknown : ∀ s ∈ x.rest, ∃ kind, r.block? s.block.kind = some kind) :
    ∃ y, Relation.ReflTransGen (Next r c) x y ∧ Stops r c y := by
  obtain ⟨steps, pending, rest⟩ := x
  induction rest generalizing steps pending with
  | nil => exact ⟨_, .refl, (next_or_stops hknown).resolve_left fun ⟨y, hy⟩ => (by cases hy)⟩
  | cons s rest ih =>
      rcases next_or_stops hknown with ⟨y, hy⟩ | hstops
      · have hrest : ∀ s' ∈ rest, ∃ kind, r.block? s'.block.kind = some kind :=
          fun s' hs' => hknown s' (List.mem_cons_of_mem s hs')
        have hhead := Relation.ReflTransGen.single hy
        cases hy with
        | intro hkind haccepts hresult =>
            obtain ⟨z, hz, hstops⟩ := ih _ _ hrest
            exact ⟨z, hhead.trans hz, hstops⟩
      · exact ⟨_, .refl, hstops⟩

end Point

-- A block without a parent is given nothing, and any other the output of its parent.
def Receives (p : Pipeline) (links : List Link) (steps : List Step) (i : Nat) (input : Artifact) :
    Prop :=
  ∃ index, (p.order links)[i]? = some index ∧
    match Link.parent? links index with
    | none => input = .none
    | some parent => ∃ j step, j < i ∧ (p.order links)[j]? = some parent ∧ steps[j]? = some step ∧
        step.execution.result = .ok input

theorem Receives.append {p : Pipeline} {links : List Link} {steps : List Step} {i : Nat}
    {input : Artifact} (h : Receives p links steps i input) (others : List Step) :
    Receives p links (steps ++ others) i input := by
  obtain ⟨index, hi, h⟩ := h
  refine ⟨index, hi, ?_⟩
  cases hparent : Link.parent? links index with
  | none => rwa [hparent] at h
  | some parent =>
      rw [hparent] at h
      obtain ⟨j, step, hlt, hj, hstep, hresult⟩ := h
      refine ⟨j, step, hlt, hj, ?_, hresult⟩
      rw [List.getElem?_append_left (List.getElem?_eq_some_iff.mp hstep).1, hstep]

-- The blocks that have been run are the first ones of the schedule, and what each of them made is
-- what its kind makes of the output of its parent.
structure Records (r : Registry) (c : Context) (links : List Link) (schedule : List Scheduled)
    (steps : List Step) : Prop where
  blocks : steps.map (·.block) = (schedule.take steps.length).map (·.block)
  executes : ∀ step ∈ steps, ∃ kind, r.block? step.block.kind = some kind ∧
    step.execution.result = (kind.execute step.input (c.enter (.block step.block))).result
  inputs : ∀ i step, steps[i]? = some step → Receives c.pipeline links steps i step.input

variable {links : List Link} {schedule : List Scheduled} {steps : List Step}

theorem result_runBlock (kind : BlockKind) (c : Context) (block : Block) (input : Artifact) :
    (runBlock kind c block input).result =
      (kind.execute input (c.enter (.block block))).result := by
  show (Execution.bind _ _).result = _
  rw [Execution.bind]
  split
  next output houtput => exact houtput.symm
  next failure hfailure => exact hfailure.symm

namespace Records

theorem nil (r : Registry) (c : Context) (links : List Link) (schedule : List Scheduled) :
    Records r c links schedule [] where
  blocks := rfl
  executes step hstep := by cases hstep
  inputs i step hstep := by cases hstep

-- One more block is run.
theorem append (h : Records r c links schedule steps) {s : Scheduled} {kind : BlockKind}
    {input : Artifact} (hs : schedule[steps.length]? = some s)
    (hkind : r.block? s.block.kind = some kind)
    (hreceives : Receives c.pipeline links steps steps.length input) :
    Records r c links schedule
      (steps ++ [⟨s.block, input, runBlock kind c s.block input⟩]) where
  blocks := by
    rw [List.map_append, h.blocks, List.length_append, List.length_singleton, List.take_add_one, hs,
      List.map_append]
    rfl
  executes step hstep := by
    rcases List.mem_append.mp hstep with hstep | hstep
    · exact h.executes step hstep
    · cases List.mem_singleton.mp hstep
      exact ⟨kind, hkind, result_runBlock kind c s.block input⟩
  inputs i step hstep := by
    by_cases hlt : i < steps.length
    · rw [List.getElem?_append_left hlt] at hstep
      exact (h.inputs i step hstep).append _
    · rw [List.getElem?_append_right (Nat.le_of_not_lt hlt)] at hstep
      obtain rfl : i = steps.length := by
        have := (List.getElem?_eq_some_iff.mp hstep).1
        rw [List.length_singleton] at this
        omega
      cases List.mem_singleton.mp (List.mem_of_getElem? hstep)
      exact hreceives.append _

-- The block of a step stands in its place in the order.
theorem block_eq (h : Records r c links schedule steps) (hlinked : c.pipeline.Linked links)
    (hschedule : schedule = (c.pipeline.order links).filterMap (c.pipeline.scheduled? links))
    {i : Nat} {step : Step} (hstep : steps[i]? = some step) : ∃ index,
      (c.pipeline.order links)[i]? = some index ∧ c.pipeline.blocks[index]? = some step.block := by
  have hlt := (List.getElem?_eq_some_iff.mp hstep).1
  have hblock := congrArg (·[i]?) h.blocks
  simp only [List.getElem?_map, hstep, List.getElem?_take_of_lt hlt, Option.map_some] at hblock
  obtain ⟨s, hs, heq⟩ := Option.map_eq_some_iff.mp hblock.symm
  rw [hschedule, hlinked.scheduled_getElem?] at hs
  obtain ⟨index, hindex, hscheduled⟩ := Option.bind_eq_some_iff.mp hs
  obtain ⟨block, hb, rfl⟩ := Option.map_eq_some_iff.mp hscheduled
  exact ⟨index, hindex, hb.trans (congrArg some heq)⟩

end Records

namespace Point

structure Sound (r : Registry) (c : Context) (links : List Link) (schedule : List Scheduled)
    (x : Point) : Prop where
  records : Records r c links schedule x.steps
  ok : ∀ step ∈ x.steps, step.IsOk
  rest : x.rest = schedule.drop x.steps.length
  waits : Waits x.steps x.rest x.pending

variable {x y : Point}

namespace Sound

theorem start (r : Registry) (c : Context) (links : List Link) (schedule : List Scheduled) :
    Sound r c links schedule (start schedule) where
  records := .nil r c links schedule
  ok step hstep := by cases hstep
  rest := rfl
  waits := .start schedule

theorem getElem?_schedule (h : Sound r c links schedule x) {s : Scheduled} {rest : List Scheduled}
    (hrest : x.rest = s :: rest) : schedule[x.steps.length]? = some s := by
  rw [← List.head?_drop, ← h.rest, hrest]
  rfl

-- The next block is given the output of its parent.
theorem receives (h : Sound r c links schedule x) (hlinked : c.pipeline.Linked links)
    (hschedule : schedule = (c.pipeline.order links).filterMap (c.pipeline.scheduled? links))
    {s : Scheduled} {rest : List Scheduled} (hrest : x.rest = s :: rest) :
    Receives c.pipeline links x.steps x.steps.length (inputFor x.pending s).1 := by
  have hs := h.getElem?_schedule hrest
  rw [hschedule, hlinked.scheduled_getElem?] at hs
  obtain ⟨index, hindex, hscheduled⟩ := Option.bind_eq_some_iff.mp hs
  obtain ⟨own, hown, rfl⟩ := Option.map_eq_some_iff.mp hscheduled
  refine ⟨index, hindex, ?_⟩
  cases hparent : Link.parent? links index with
  | none => simp only [inputFor, Option.bind_none]
  | some parent =>
      obtain ⟨j, block, hlt, hj, hblock, hposition⟩ := hlinked.parent_before hindex hparent
      obtain ⟨step, hstep⟩ : ∃ step, x.steps[j]? = some step := ⟨_, List.getElem?_eq_getElem hlt⟩
      obtain ⟨index', hindex', hblock'⟩ := h.records.block_eq hlinked hschedule hstep
      cases hj.symm.trans hindex'
      cases hblock.symm.trans hblock'
      obtain ⟨output, houtput⟩ := h.ok step (List.mem_of_getElem? hstep)
      -- An earlier block of the name was overwritten when the parent was run.
      have hlast : outputOf x.steps step.block.name = some output := by
        rw [outputOf_eq hstep fun j' other hother hname => ?_, houtput]
        · rfl
        · obtain ⟨index'', hj', hblock''⟩ := h.records.block_eq hlinked hschedule hother
          exact hlinked.le_of_same_name hposition hj hj' hblock'' hname
      have hwaits := h.waits.output step.block.name
      rw [hrest, if_pos, hlast] at hwaits
      · refine ⟨j, step, hlt, hj, hstep, ?_⟩
        simp only [inputFor, Option.bind_some, hblock, Option.map_some, take, hwaits,
          Option.getD_some, houtput]
      · rw [countConsumers_cons]
        simp [hparent, hblock]

theorem next (h : Sound r c links schedule x) (hlinked : c.pipeline.Linked links)
    (hschedule : schedule = (c.pipeline.order links).filterMap (c.pipeline.scheduled? links))
    (hnext : Next r c x y) : Sound r c links schedule y := by
  cases hnext with
  | @intro steps pending s rest kind output hkind haccepts hresult =>
      have hrest : s :: rest = schedule.drop steps.length := h.rest
      constructor
      · exact h.records.append (h.getElem?_schedule rfl) hkind (h.receives hlinked hschedule rfl)
      · intro step hstep
        rcases List.mem_append.mp hstep with hstep | hstep
        · exact h.ok step hstep
        · cases List.mem_singleton.mp hstep
          exact ⟨output, hresult⟩
      · rw [List.length_append, List.length_singleton, ← List.tail_drop, ← hrest]
        rfl
      · exact h.waits.input.store hresult

end Sound

theorem Reached.sound (hlinked : c.pipeline.Linked links)
    (hschedule : schedule = (c.pipeline.order links).filterMap (c.pipeline.scheduled? links))
    (h : Reached r c schedule x) : Sound r c links schedule x := by
  induction h with
  | refl => exact .start r c links schedule
  | tail _ hnext ih => exact ih.next hlinked hschedule hnext

end Point

end TableFlow.Run

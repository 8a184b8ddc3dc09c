import TableFlow.Proofs.Pipeline.Points

namespace TableFlow

namespace Pipeline

variable {p : Pipeline} {r : Registry}

-- The kinds of the blocks of a pipeline that has been checked are known.
theorem exists_kind_of_check (h : p.check r = .ok ()) {block : Block} (hblock : block ∈ p.blocks) :
    ∃ kind, r.block? block.kind = some kind := by
  have hblocks : (p.blocks.forM fun block => discard (specOf r block)) = .ok () := by
    obtain ⟨⟨⟩, hforM, _⟩ := exists_of_bind h
    exact hforM
  have hspec := forM_eq_ok hblocks hblock
  cases hkind : r.block? block.kind with
  | none =>
      rw [specOf, hkind] at hspec
      cases hspec
  | some kind => exact ⟨kind, rfl⟩

end Pipeline

namespace Run

variable {r : Registry} {c : Context} {links : List Link} {schedule : List Scheduled} {run : Run}

-- An output waits under a name if a block of that name has been run and one that takes it has not.
def Holds (pending : Pending) (steps : List Step) (rest : List Scheduled) : Prop :=
  ∀ name, (pending.output? name).isSome = true ↔
    (∃ step ∈ steps, step.block.name = name) ∧ ∃ s ∈ rest, s.parent = some name

-- How a run ends: behind the last block, with the failure of a block, or before one that is given
-- something of another kind than it takes.
inductive Ends (r : Registry) (c : Context) (links : List Link) (schedule : List Scheduled)
    (run : Run) : Prop where
  | finished (hlength : run.steps.length = schedule.length) (hok : ∀ step ∈ run.steps, step.IsOk)
      (h : run.ending = .ok ()) : Ends r c links schedule run
  | failed {before step failure} (hsteps : run.steps = before ++ [step])
      (hok : ∀ step ∈ before, step.IsOk) (hresult : step.execution.result = .error failure)
      (h : run.ending = .error failure) : Ends r c links schedule run
  | refused {s : Scheduled} {kind input} (hok : ∀ step ∈ run.steps, step.IsOk)
      (hs : schedule[run.steps.length]? = some s) (hkind : r.block? s.block.kind = some kind)
      (hinput : Receives c.pipeline links run.steps run.steps.length input)
      (haccepts : ¬ Accepts kind input)
      (h : run.ending = .error (.error (.block
        (.inputMismatch s.block.name kind.spec.input input.kind) (Node.block s.block).anchor))) :
      Ends r c links schedule run

structure Follows (r : Registry) (c : Context) (links : List Link) (schedule : List Scheduled)
    (run : Run) : Prop where
  -- The order has every block once.
  order : (c.pipeline.order links).Perm (List.range c.pipeline.blocks.length)
  scheduled : schedule.map (fun s => some s.block) =
    (c.pipeline.order links).map (c.pipeline.blocks[·]?)
  records : Records r c links schedule run.steps
  ends : Ends r c links schedule run
  success : run.isSuccess = true ↔
    run.steps.length = schedule.length ∧ ∀ step ∈ run.steps, step.IsOk
  -- The points of the run are those before and behind each block that ends well.
  reached : ∀ count ≤ run.steps.length, (∀ step ∈ run.steps.take count, step.IsOk) →
    ∃ x, Point.Reached r c schedule x ∧ x.steps = run.steps.take count
  points : ∀ x, Point.Reached r c schedule x →
    x.run r c = run ∧ x.rest = schedule.drop x.steps.length ∧ Holds x.pending x.steps x.rest ∧
      ∀ s rest, x.rest = s :: rest → Holds (inputFor x.pending s).2 x.steps rest
  released : ∀ x, Point.Reached r c schedule x → x.rest = [] → x.pending.outputs = []

theorem Ends.isSuccess_iff (h : Ends r c links schedule run) :
    run.isSuccess = true ↔
      run.steps.length = schedule.length ∧ ∀ step ∈ run.steps, step.IsOk := by
  cases h with
  | finished hlength hok h =>
      refine ⟨fun _ => ⟨hlength, hok⟩, fun _ => ?_⟩
      rw [isSuccess, h]
  | @failed before step failure hsteps hok hresult h =>
      refine ⟨fun hsuccess => ?_, fun ⟨_, hall⟩ => ?_⟩
      · rw [isSuccess, h] at hsuccess
        cases hsuccess
      · obtain ⟨output, houtput⟩ := hall step (by rw [hsteps]; simp)
        cases hresult.symm.trans houtput
  | refused hok hs hkind hinput haccepts h =>
      refine ⟨fun hsuccess => ?_, fun ⟨hlength, _⟩ => ?_⟩
      · rw [isSuccess, h] at hsuccess
        cases hsuccess
      · have := (List.getElem?_eq_some_iff.mp hs).1
        omega

-- Whatever a point has behind it was reached as well.
theorem Point.Reached.exists_before {x : Point} (h : Point.Reached r c schedule x) (count : Nat)
    (hcount : count ≤ x.steps.length) :
    ∃ y, Point.Reached r c schedule y ∧ y.steps = x.steps.take count := by
  induction h with
  | refl => exact ⟨_, .refl, by simp [Point.start]⟩
  | @tail y z hy hnext ih =>
      by_cases hle : count ≤ y.steps.length
      · obtain ⟨x, hx, hsteps⟩ := ih hle
        refine ⟨x, hx, hsteps.trans ?_⟩
        cases hnext
        exact (List.take_append_of_le_length hle).symm
      · refine ⟨z, hy.tail hnext, (List.take_of_length_le ?_).symm⟩
        cases hnext
        simp only [List.length_append, List.length_singleton] at hle ⊢
        omega

namespace Point

variable {x : Point}

theorem Sound.holds (h : Sound r c links schedule x) : Holds x.pending x.steps x.rest :=
  h.waits.isSome_output? h.ok

theorem Sound.holds_between (h : Sound r c links schedule x) {s : Scheduled}
    {rest : List Scheduled} (hrest : x.rest = s :: rest) :
    Holds (inputFor x.pending s).2 x.steps rest :=
  (hrest ▸ h.waits).input.isSome_output? h.ok

-- What a run has behind it when it stops, and how it ends. The point is behind all blocks that have
-- ended well.
theorem Sound.follows_of_stops (h : Sound r c links schedule x) (hlinked : c.pipeline.Linked links)
    (hschedule : schedule = (c.pipeline.order links).filterMap (c.pipeline.scheduled? links))
    (hstops : Stops r c x) :
    Records r c links schedule (x.run r c).steps ∧ Ends r c links schedule (x.run r c) ∧
      ∀ count ≤ (x.run r c).steps.length,
        (∀ step ∈ (x.run r c).steps.take count, step.IsOk) →
          count ≤ x.steps.length ∧ (x.run r c).steps.take count = x.steps.take count := by
  cases hstops with
  | @finished steps pending hrun =>
      rw [hrun]
      refine ⟨h.records, .finished ?_ h.ok rfl, fun count hcount _ => ⟨hcount, rfl⟩⟩
      have hblocks := congrArg List.length h.records.blocks
      have hrest := congrArg List.length h.rest
      simp only [List.length_map, List.length_take, List.length_drop, List.length_nil]
        at hblocks hrest
      show steps.length = schedule.length
      omega
  | @refused steps pending s rest kind hkind haccepts hrun =>
      rw [hrun]
      exact ⟨h.records, .refused h.ok (h.getElem?_schedule rfl) hkind
        (h.receives hlinked hschedule rfl) haccepts rfl, fun count hcount _ => ⟨hcount, rfl⟩⟩
  | @failed steps pending s rest kind failure hkind haccepts hresult hrun =>
      rw [hrun]
      refine ⟨h.records.append (h.getElem?_schedule rfl) hkind (h.receives hlinked hschedule rfl),
        .failed rfl h.ok hresult rfl, fun count hcount hok => ?_⟩
      by_cases hle : count ≤ steps.length
      · exact ⟨hle, List.take_append_of_le_length hle⟩
      · rw [List.take_of_length_le (by simp; omega)] at hok
        obtain ⟨output, houtput⟩ := hok _ (List.mem_append_right _ (List.mem_singleton_self _))
        cases hresult.symm.trans houtput

end Point

-- A run of blocks of known kinds, in an order that has them all.
theorem runAll_follows (hlinked : c.pipeline.Linked links)
    (hlength : c.pipeline.blocks.length ≤ (c.pipeline.order links).length)
    (hschedule : schedule = (c.pipeline.order links).filterMap (c.pipeline.scheduled? links))
    (hknown : ∀ block ∈ c.pipeline.blocks, ∃ kind, r.block? block.kind = some kind) :
    Follows r c links schedule (runAll r c (.ofSchedule schedule) schedule) := by
  have hkinds : ∀ s ∈ (Point.start schedule).rest, ∃ kind, r.block? s.block.kind = some kind := by
    intro s hs
    rw [Point.start, hschedule] at hs
    obtain ⟨index, -, hscheduled⟩ := List.mem_filterMap.mp hs
    obtain ⟨block, hblock, rfl⟩ := Option.map_eq_some_iff.mp hscheduled
    exact hknown block (List.mem_of_getElem? hblock)
  obtain ⟨y, hreached, hstops⟩ := Point.exists_stop (c := c) hkinds
  have hy : Point.Reached r c schedule y := hreached
  obtain ⟨hrecords, hends, hreach⟩ :=
    (hy.sound hlinked hschedule).follows_of_stops hlinked hschedule hstops
  rw [hy.run_eq] at hrecords hends hreach
  refine ⟨hlinked.order_perm hlength, hschedule ▸ hlinked.map_scheduled, hrecords, hends,
    hends.isSuccess_iff, fun count hcount hok => ?_, fun x hx => ?_, fun x hx hrest => ?_⟩
  · obtain ⟨hle, htake⟩ := hreach count hcount hok
    obtain ⟨x, hx, hsteps⟩ := hy.exists_before count hle
    exact ⟨x, hx, hsteps.trans htake.symm⟩
  · have hsound := hx.sound hlinked hschedule
    exact ⟨hx.run_eq, hsound.rest, hsound.holds, fun s rest hrest => hsound.holds_between hrest⟩
  · exact (hrest ▸ (hx.sound hlinked hschedule).waits).outputs_eq_nil

-- A pipeline that is rejected is not run at all, and the run of any other follows its order.
theorem ofPipeline_follows (r : Registry) (c : Context) :
    (((∃ error, c.pipeline.schedule = .error error) ∨ ∃ error, c.pipeline.check r = .error error) →
      (ofPipeline r c).steps = [] ∧ (ofPipeline r c).isSuccess = false) ∧
    ∀ schedule, c.pipeline.schedule = .ok schedule → c.pipeline.check r = .ok () →
      ∃ links, c.pipeline.links = .ok links ∧ Follows r c links schedule (ofPipeline r c) := by
  refine ⟨fun hrejected => ?_, fun schedule hschedule hcheck => ?_⟩
  · unfold ofPipeline
    cases hschedule : c.pipeline.schedule with
    | error error => exact ⟨rfl, rfl⟩
    | ok schedule =>
        cases hcheck : c.pipeline.check r with
        | error error => exact ⟨rfl, rfl⟩
        | ok _ =>
            rcases hrejected with ⟨error, h⟩ | ⟨error, h⟩
            · cases hschedule.symm.trans h
            · cases hcheck.symm.trans h
  · obtain ⟨links, hlinks, hlength, heq⟩ := Pipeline.schedule_eq_ok hschedule
    refine ⟨links, hlinks, ?_⟩
    have hrun : ofPipeline r c = runAll r c (.ofSchedule schedule) schedule := by
      simp only [ofPipeline, hschedule, hcheck]
    rw [hrun]
    exact runAll_follows (Pipeline.linked_of_links hlinks) hlength heq fun block hblock =>
      Pipeline.exists_kind_of_check hcheck hblock

-- Blocks that make a sheet, and blocks that take one.
def sheetKinds : Registry :=
  ⟨[⟨⟨"Source", .none, .sheet, []⟩, fun _ _ => pure (.sheet ⟨[["a"]]⟩)⟩,
      ⟨⟨"Sink", .sheet, .none, []⟩, fun _ _ => pure .none⟩], []⟩

-- One block whose output two others take.
def fanOut : Pipeline :=
  ⟨"FanOut", [⟨"left", "Sink", [], .unknown⟩, ⟨"source", "Source", [], .unknown⟩,
      ⟨"right", "Sink", [], .unknown⟩],
    [⟨"source", "left"⟩, ⟨"source", "right"⟩], .unknown⟩

theorem ofPipeline_follows_fanOut :
    ∃ links schedule, Follows sheetKinds (sheetKinds.context .standard fanOut) links schedule
      (ofPipeline sheetKinds (sheetKinds.context .standard fanOut)) ∧ schedule.length = 3 ∧
      (ofPipeline sheetKinds (sheetKinds.context .standard fanOut)).isSuccess = true := by
  obtain ⟨links, -, hfollows⟩ :=
    (ofPipeline_follows sheetKinds (sheetKinds.context .standard fanOut)).2 _ rfl rfl
  exact ⟨links, _, hfollows, rfl, rfl⟩

end Run

end TableFlow

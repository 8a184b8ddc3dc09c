import TableFlow.Proofs.Pipeline.Acyclic
import TableFlow.Proofs.Pipeline.Run

namespace TableFlow.Pipeline

variable {p : Pipeline} {r : Registry} {schedule : List Scheduled}

-- The one block makes what the other takes.
def Fits (r : Registry) (source target : Block) : Prop :=
  ∃ made taken, r.block? source.kind = some made ∧ r.block? target.kind = some taken ∧
    made.spec.output = taken.spec.input

-- The block that is meant by a name in the schedule.
def lastBlock? (p : Pipeline) (name : String) : Option Block :=
  (p.position? name).bind (p.blocks[·]?)

-- A pipe leads to a block that takes what its source makes, where `block?` says what names mean.
def PipeFits (r : Registry) (block? : String → Option Block) (pipe : Pipe) : Prop :=
  ∃ source target, block? pipe.source = some source ∧ block? pipe.target = some target ∧
    Fits r source target

-- What the check of a pipeline promises of its schedule.
structure ChecksSchedule (p : Pipeline) (r : Registry) (schedule : List Scheduled) : Prop where
  -- Behind the check, every block fits to its parent.
  accepted : p.check r = .ok () → ∀ s ∈ schedule, ∀ name, s.parent = some name →
    ∃ parent, p.lastBlock? name = some parent ∧ Fits r parent s.block
  -- A pipe that is refused joins blocks that do not fit.
  refused : ∀ pipe expected actual,
    p.check r = .error (.pipeMismatch pipe.source pipe.target expected actual) →
      pipe ∈ p.pipes ∧ ∃ source target, p.lastBlock? pipe.source = some source ∧
        p.lastBlock? pipe.target = some target ∧ ¬ Fits r source target

-- The kinds of all blocks are known.
def Known (p : Pipeline) (r : Registry) : Prop :=
  ∀ block ∈ p.blocks, ∃ kind, r.block? block.kind = some kind

-- Where it is wrong: either all pipes fit between the first blocks of their names, and one of them
-- does not fit between the last, or the first pipe that does not fit between the first blocks of its
-- names fits between the last.
def Misjudges (p : Pipeline) (r : Registry) : Prop :=
  p.Known r ∧
    (((∀ pipe ∈ p.pipes, PipeFits r p.block? pipe) ∧
        ∃ pipe ∈ p.pipes, ¬ PipeFits r p.lastBlock? pipe) ∨
      ∃ before pipe after, p.pipes = before ++ pipe :: after ∧
        (∀ other ∈ before, PipeFits r p.block? other) ∧ ¬ PipeFits r p.block? pipe ∧
          PipeFits r p.lastBlock? pipe)

theorem lastBlock?_eq_some {name : String} {block : Block} (h : p.lastBlock? name = some block) :
    block ∈ p.blocks ∧ block.name = name := by
  obtain ⟨index, hindex, hblock⟩ := Option.bind_eq_some_iff.mp h
  obtain ⟨⟨block', hblock', hname⟩, -⟩ := position?_eq_some hindex
  cases hblock.symm.trans hblock'
  exact ⟨List.mem_of_getElem? hblock, hname⟩

theorem exists_lastBlock? {name : String} (h : ∃ block ∈ p.blocks, block.name = name) :
    ∃ block, p.lastBlock? name = some block := by
  obtain ⟨index, hindex⟩ := exists_position?.mpr h
  obtain ⟨⟨block, hblock, -⟩, -⟩ := position?_eq_some hindex
  exact ⟨block, by rw [lastBlock?, hindex, Option.bind_some, hblock]⟩

theorem block?_eq_some {name : String} {block : Block} (h : p.block? name = some block) :
    block ∈ p.blocks ∧ block.name = name :=
  ⟨List.mem_of_find?_eq_some h, by simpa using List.find?_some h⟩

theorem exists_block? {name : String} (h : ∃ block ∈ p.blocks, block.name = name) :
    ∃ block, p.block? name = some block := by
  obtain ⟨block, hblock, hname⟩ := h
  exact Option.isSome_iff_exists.mp (List.find?_isSome.mpr ⟨block, hblock, by simpa using hname⟩)

-- Whether a pipe fits depends on the kinds of the blocks that its names mean.
theorem PipeFits.of_kinds {block? other? : String → Option Block} {pipe : Pipe}
    (hkinds : ∀ name block, block? name = some block →
      ∃ other, other? name = some other ∧ other.kind = block.kind)
    (h : PipeFits r block? pipe) : PipeFits r other? pipe := by
  obtain ⟨source, target, hsource, htarget, made, taken, hmade, htaken, hfits⟩ := h
  obtain ⟨source', hsource', hkind⟩ := hkinds _ _ hsource
  obtain ⟨target', htarget', hkind'⟩ := hkinds _ _ htarget
  exact ⟨source', target', hsource', htarget', made, taken, hkind ▸ hmade, hkind' ▸ htaken, hfits⟩

theorem pipeFits_iff {pipe : Pipe}
    (h : ∀ a ∈ p.blocks, ∀ b ∈ p.blocks, a.name = b.name → a.kind = b.kind) :
    PipeFits r p.block? pipe ↔ PipeFits r p.lastBlock? pipe := by
  refine ⟨.of_kinds fun name first hfirst => ?_, .of_kinds fun name last hlast => ?_⟩
  · obtain ⟨hmem, hname⟩ := block?_eq_some hfirst
    obtain ⟨last, hlast⟩ := exists_lastBlock? ⟨first, hmem, hname⟩
    obtain ⟨hmem', hname'⟩ := lastBlock?_eq_some hlast
    exact ⟨last, hlast, h last hmem' first hmem (hname'.trans hname.symm)⟩
  · obtain ⟨hmem, hname⟩ := lastBlock?_eq_some hlast
    obtain ⟨first, hfirst⟩ := exists_block? ⟨last, hmem, hname⟩
    obtain ⟨hmem', hname'⟩ := block?_eq_some hfirst
    exact ⟨first, hfirst, h first hmem' last hmem (hname'.trans hname.symm)⟩

theorem wired_of_schedule (h : p.schedule = .ok schedule) : p.Wired := by
  obtain ⟨links, hlinks, -⟩ := schedule_eq_ok h
  exact wired_iff.mpr ⟨links, hlinks⟩

-- A block and its parent are in the schedule where a pipe leads from the one to the other.
theorem exists_scheduled_iff (h : p.schedule = .ok schedule) {name : String} {target : Block} :
    (∃ s ∈ schedule, s.block = target ∧ s.parent = some name) ↔
      ∃ pipe ∈ p.pipes, pipe.source = name ∧ p.lastBlock? pipe.target = some target := by
  obtain ⟨links, hlinks, hlength, rfl⟩ := schedule_eq_ok h
  have hschedules := schedules_order hlinks hlength
  have hblocks (i : Nat) := congrArg (·[i]?) hschedules.blocks
  simp only [List.getElem?_map] at hblocks
  constructor
  · rintro ⟨s, hs, rfl, hparent⟩
    obtain ⟨i, hi⟩ := List.mem_iff_getElem?.mp hs
    have hblock := hblocks i
    rw [hi, Option.map_some] at hblock
    obtain ⟨index, hindex, hblock⟩ := Option.map_eq_some_iff.mp hblock.symm
    obtain ⟨pipe, hpipe, hsource, htarget⟩ :=
      (hschedules.parent i index s hindex hi name).mp hparent
    exact ⟨pipe, hpipe, hsource, by rw [lastBlock?, htarget, Option.bind_some, hblock]⟩
  · rintro ⟨pipe, hpipe, hsource, htarget⟩
    obtain ⟨index, hindex, hblock⟩ := Option.bind_eq_some_iff.mp htarget
    obtain ⟨i, hi⟩ := List.mem_iff_getElem?.mp
      (hschedules.perm.mem_iff.mpr (List.mem_range.mpr (position?_lt hindex)))
    have hscheduled := hblocks i
    rw [hi, Option.map_some, hblock] at hscheduled
    obtain ⟨s, hs, hsblock⟩ := Option.map_eq_some_iff.mp hscheduled
    exact ⟨s, List.mem_of_getElem? hs, Option.some.inj hsblock,
      (hschedules.parent i index s hi hs name).mpr ⟨pipe, hpipe, hsource, hindex⟩⟩

-- The blocks of a schedule fit to their parents if all pipes fit between the last blocks of their
-- names.
theorem scheduled_fit_iff (h : p.schedule = .ok schedule) :
    (∀ s ∈ schedule, ∀ name, s.parent = some name →
        ∃ parent, p.lastBlock? name = some parent ∧ Fits r parent s.block) ↔
      ∀ pipe ∈ p.pipes, PipeFits r p.lastBlock? pipe := by
  have hwired := wired_of_schedule h
  constructor
  · intro hfit pipe hpipe
    obtain ⟨target, htarget⟩ := exists_lastBlock? (hwired.target pipe hpipe)
    obtain ⟨s, hs, rfl, hparent⟩ := (exists_scheduled_iff h).mpr ⟨pipe, hpipe, rfl, htarget⟩
    obtain ⟨source, hsource, hfits⟩ := hfit s hs _ hparent
    exact ⟨source, s.block, hsource, htarget, hfits⟩
  · intro hfit s hs name hparent
    obtain ⟨pipe, hpipe, rfl, htarget⟩ := (exists_scheduled_iff h).mp ⟨s, hs, rfl, hparent⟩
    obtain ⟨source, target, hsource, htarget', hfits⟩ := hfit pipe hpipe
    cases htarget.symm.trans htarget'
    exact ⟨source, hsource, hfits⟩

-- A pipe between blocks of known kinds passes if they fit, and is refused by name if they do not.
theorem checkPipe_eq {pipe : Pipe} (hwired : p.Wired) (hpipe : pipe ∈ p.pipes)
    (hknown : p.Known r) :
    (PipeFits r p.block? pipe ∧ p.checkPipe r pipe = .ok ()) ∨
      (¬ PipeFits r p.block? pipe ∧ ∃ expected actual,
        p.checkPipe r pipe = .error (.pipeMismatch pipe.source pipe.target expected actual)) := by
  obtain ⟨source, hsource⟩ := exists_block? (hwired.source pipe hpipe)
  obtain ⟨target, htarget⟩ := exists_block? (hwired.target pipe hpipe)
  obtain ⟨made, hmade⟩ := hknown source (block?_eq_some hsource).1
  obtain ⟨taken, htaken⟩ := hknown target (block?_eq_some htarget).1
  have hfits : PipeFits r p.block? pipe ↔ made.spec.output = taken.spec.input := by
    simp [PipeFits, Fits, hsource, htarget, hmade, htaken]
  have hcheck : p.checkPipe r pipe = if made.spec.output = taken.spec.input then .ok () else
      .error (.pipeMismatch pipe.source pipe.target taken.spec.input made.spec.output) := by
    simp only [checkPipe, hsource, htarget, specOf, hmade, htaken]
    rfl
  rw [hfits, hcheck]
  split
  next heq => exact .inl ⟨heq, rfl⟩
  next hne => exact .inr ⟨hne, _, _, rfl⟩

-- The kinds of the blocks are looked at first.
theorem check_of_known (h : p.Known r) : p.check r = p.pipes.forM (p.checkPipe r) := by
  have hblocks : (p.blocks.forM fun block => discard (specOf r block)) = .ok () := by
    refine forM_eq_ok_iff.mpr fun block hblock => ?_
    obtain ⟨kind, hkind⟩ := h block hblock
    rw [specOf, hkind]
    rfl
  show (p.blocks.forM fun block => discard (specOf r block)) >>= (fun _ => _) = _
  rw [hblocks]
  rfl

theorem check_of_not_known (h : ¬ p.Known r) :
    ∃ name kind, p.check r = .error (.unknownBlockType name kind) := by
  cases hblocks : p.blocks.forM fun block => discard (specOf r block) with
  | ok done =>
      refine absurd (fun block hblock => ?_) h
      have hspec := forM_eq_ok hblocks hblock
      cases hkind : r.block? block.kind with
      | none =>
          rw [specOf, hkind] at hspec
          cases hspec
      | some kind => exact ⟨kind, rfl⟩
  | error error =>
      obtain ⟨before, block, after, -, -, herror⟩ := forM_eq_error_iff.mp hblocks
      have hcheck : p.check r = .error error := by
        show (p.blocks.forM fun block => discard (specOf r block)) >>= (fun _ => _) = _
        rw [hblocks]
        rfl
      cases hkind : r.block? block.kind with
      | none =>
          rw [specOf, hkind] at herror
          cases herror
          exact ⟨_, _, hcheck⟩
      | some kind =>
          rw [specOf, hkind] at herror
          cases herror

theorem check_eq_ok_iff (hwired : p.Wired) :
    p.check r = .ok () ↔ p.Known r ∧ ∀ pipe ∈ p.pipes, PipeFits r p.block? pipe := by
  by_cases hknown : p.Known r
  · rw [check_of_known hknown, forM_eq_ok_iff, and_iff_right hknown]
    refine forall₂_congr fun pipe hpipe => ?_
    rcases checkPipe_eq hwired hpipe hknown with ⟨hfits, hok⟩ | ⟨hunfit, _, _, herror⟩
    · exact iff_of_true hok hfits
    · rw [herror]
      exact iff_of_false (by simp) hunfit
  · obtain ⟨name, kind, herror⟩ := check_of_not_known hknown
    rw [herror]
    exact iff_of_false (by simp) fun h => hknown h.1

theorem check_eq_mismatch_iff (hwired : p.Wired) {pipe : Pipe} :
    (∃ expected actual,
        p.check r = .error (.pipeMismatch pipe.source pipe.target expected actual)) ↔
      p.Known r ∧ ∃ before after, p.pipes = before ++ pipe :: after ∧
        (∀ other ∈ before, PipeFits r p.block? other) ∧ ¬ PipeFits r p.block? pipe := by
  by_cases hknown : p.Known r
  · have hcheck {other : Pipe} (hother : other ∈ p.pipes) := checkPipe_eq hwired hother hknown
    rw [check_of_known hknown, and_iff_right hknown]
    constructor
    · rintro ⟨expected, actual, herror⟩
      obtain ⟨before, other, after, hpipes, hbefore, hother⟩ := forM_eq_error_iff.mp herror
      have hfits : ∀ q ∈ before, PipeFits r p.block? q := by
        intro q hq
        rcases hcheck (hpipes ▸ List.mem_append_left _ hq) with ⟨hfits, -⟩ | ⟨-, _, _, hunfit⟩
        · exact hfits
        · cases (hbefore q hq).symm.trans hunfit
      rcases hcheck (hpipes ▸ List.mem_append_right _ (List.mem_cons_self ..)) with
        ⟨-, hok⟩ | ⟨hunfit, _, _, herror'⟩
      · cases hok.symm.trans hother
      · cases pipe
        cases other
        cases herror'.symm.trans hother
        exact ⟨before, after, hpipes, hfits, hunfit⟩
    · rintro ⟨before, after, hpipes, hbefore, hunfit⟩
      rcases hcheck (hpipes ▸ List.mem_append_right _ (List.mem_cons_self ..)) with
        ⟨hfits, -⟩ | ⟨-, expected, actual, herror⟩
      · exact absurd hfits hunfit
      · refine ⟨expected, actual, forM_eq_error_iff.mpr
          ⟨before, pipe, after, hpipes, fun q hq => ?_, herror⟩⟩
        rcases hcheck (hpipes ▸ List.mem_append_left _ hq) with ⟨-, hok⟩ | ⟨hq', -⟩
        · exact hok
        · exact absurd (hbefore q hq) hq'
  · obtain ⟨name, kind, herror⟩ := check_of_not_known hknown
    rw [herror]
    exact iff_of_false (by simp) fun h => hknown h.1

theorem not_pipeFits_iff (hwired : p.Wired) {pipe : Pipe} (hpipe : pipe ∈ p.pipes) :
    ¬ PipeFits r p.lastBlock? pipe ↔ ∃ source target, p.lastBlock? pipe.source = some source ∧
      p.lastBlock? pipe.target = some target ∧ ¬ Fits r source target := by
  obtain ⟨source, hsource⟩ := exists_lastBlock? (hwired.source pipe hpipe)
  obtain ⟨target, htarget⟩ := exists_lastBlock? (hwired.target pipe hpipe)
  simp [PipeFits, hsource, htarget]

-- The check can be relied on exactly if it does not misjudge the pipeline, and always where blocks
-- that share a name are of one kind.
theorem checksSchedule_iff (h : p.schedule = .ok schedule) :
    (p.ChecksSchedule r schedule ↔ ¬ p.Misjudges r) ∧
      ((∀ a ∈ p.blocks, ∀ b ∈ p.blocks, a.name = b.name → a.kind = b.kind) →
        p.ChecksSchedule r schedule) := by
  have hwired := wired_of_schedule h
  have hiff : p.ChecksSchedule r schedule ↔ ¬ p.Misjudges r := by
    constructor
    · rintro ⟨haccepted, hrefused⟩ ⟨hknown, ⟨hfits, pipe, hpipe, hunfit⟩ |
        ⟨before, pipe, after, hpipes, hbefore, hunfit, hfits⟩⟩
      · have hok := (check_eq_ok_iff hwired).mpr ⟨hknown, hfits⟩
        exact hunfit ((scheduled_fit_iff h).mp (haccepted hok) pipe hpipe)
      · obtain ⟨expected, actual, herror⟩ :=
          (check_eq_mismatch_iff hwired).mpr ⟨hknown, before, after, hpipes, hbefore, hunfit⟩
        obtain ⟨hpipe, hlast⟩ := hrefused pipe expected actual herror
        exact (not_pipeFits_iff hwired hpipe).mpr hlast hfits
    · intro hjudges
      refine ⟨fun hok => ?_, fun pipe expected actual herror => ?_⟩
      · obtain ⟨hknown, hfits⟩ := (check_eq_ok_iff hwired).mp hok
        refine (scheduled_fit_iff h).mpr fun pipe hpipe => ?_
        by_contra hunfit
        exact hjudges ⟨hknown, .inl ⟨hfits, pipe, hpipe, hunfit⟩⟩
      · obtain ⟨hknown, before, after, hpipes, hbefore, hunfit⟩ :=
          (check_eq_mismatch_iff hwired).mp ⟨expected, actual, herror⟩
        have hpipe : pipe ∈ p.pipes := hpipes ▸ List.mem_append_right _ (List.mem_cons_self ..)
        refine ⟨hpipe, (not_pipeFits_iff hwired hpipe).mp fun hfits => ?_⟩
        exact hjudges ⟨hknown, .inr ⟨before, pipe, after, hpipes, hbefore, hunfit, hfits⟩⟩
  refine ⟨hiff, fun hkinds => hiff.mpr ?_⟩
  rintro ⟨-, ⟨hfits, pipe, hpipe, hunfit⟩ | ⟨_, pipe, _, -, -, hunfit, hfits⟩⟩
  · exact hunfit ((pipeFits_iff hkinds).mp (hfits pipe hpipe))
  · exact hunfit ((pipeFits_iff hkinds).mpr hfits)

theorem checksSchedule_iff_twins :
    ∃ schedule, twins.schedule = .ok schedule ∧
      (∀ a ∈ twins.blocks, ∀ b ∈ twins.blocks, a.name = b.name → a.kind = b.kind) ∧
      twins.check Run.sheetKinds = .ok () ∧ twins.ChecksSchedule Run.sheetKinds schedule ∧
      ¬ twins.Misjudges Run.sheetKinds := by
  obtain ⟨hiff, hchecks⟩ := checksSchedule_iff (p := twins) (r := Run.sheetKinds) rfl
  have hkinds : ∀ a ∈ twins.blocks, ∀ b ∈ twins.blocks, a.name = b.name → a.kind = b.kind := by
    simp [twins]
  exact ⟨_, rfl, hkinds, rfl, hchecks hkinds, hiff.mp (hchecks hkinds)⟩

-- Two blocks that make a sheet and a table, and one that takes a table.
def sourceKinds : Registry :=
  ⟨[⟨⟨"SheetSource", .none, .sheet, []⟩, fun _ _ => pure (.sheet ⟨[["a"]]⟩)⟩,
      ⟨⟨"TableSource", .none, .table, []⟩, fun _ _ => pure (.table (.empty .array))⟩,
      ⟨⟨"TableSink", .table, .none, []⟩, fun _ _ => pure .none⟩], []⟩

-- The sources share a name.
def shared (first last : String) : Pipeline :=
  ⟨"P", [⟨"in", first, [], .unknown⟩, ⟨"in", last, [], .unknown⟩,
      ⟨"out", "TableSink", [], .unknown⟩], [⟨"in", "out"⟩], .unknown⟩

def sharedSchedule (first last : String) : List Scheduled :=
  [⟨⟨"in", first, [], .unknown⟩, none⟩, ⟨⟨"in", last, [], .unknown⟩, none⟩,
    ⟨⟨"out", "TableSink", [], .unknown⟩, some "in"⟩]

-- In the one order a table is on its way to the sink and is refused as a sheet, in the other it is
-- a sheet and passes as a table.
theorem shared_name_misjudged :
    ((shared "SheetSource" "TableSource").schedule =
        .ok (sharedSchedule "SheetSource" "TableSource") ∧
      (shared "SheetSource" "TableSource").check sourceKinds =
        .error (.pipeMismatch "in" "out" .table .sheet) ∧
      ¬ (shared "SheetSource" "TableSource").ChecksSchedule sourceKinds
        (sharedSchedule "SheetSource" "TableSource")) ∧
    (shared "TableSource" "SheetSource").schedule =
        .ok (sharedSchedule "TableSource" "SheetSource") ∧
      (shared "TableSource" "SheetSource").check sourceKinds = .ok () ∧
      ¬ (shared "TableSource" "SheetSource").ChecksSchedule sourceKinds
        (sharedSchedule "TableSource" "SheetSource") := by
  refine ⟨⟨rfl, rfl, fun h => ?_⟩, rfl, rfl, fun h => ?_⟩
  · obtain ⟨-, source, target, hsource, htarget, hunfit⟩ := h.refused ⟨"in", "out"⟩ _ _ rfl
    cases hsource
    cases htarget
    exact hunfit ⟨_, _, rfl, rfl, rfl⟩
  · have hsink : ⟨⟨"out", "TableSink", [], .unknown⟩, some "in"⟩ ∈
        sharedSchedule "TableSource" "SheetSource" := by simp [sharedSchedule]
    obtain ⟨parent, hparent, made, taken, hmade, htaken, hfits⟩ :=
      h.accepted rfl _ hsink "in" rfl
    cases hparent
    cases hmade
    cases htaken
    cases hfits

end TableFlow.Pipeline

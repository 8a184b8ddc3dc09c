import Mathlib.Data.Fintype.EquivFin
import TableFlow.Proofs.Pipeline.Worklist

namespace TableFlow.Pipeline

open Link

variable {p : Pipeline} {links : List Link} {source target : Nat}

-- A pipe leads from the one block to the other.
def Feeds (p : Pipeline) (source target : Nat) : Prop :=
  ∃ pipe ∈ p.pipes, p.position? pipe.source = some source ∧ p.position? pipe.target = some target

-- Pipes between blocks that there are, with at most one to each of them.
structure Wired (p : Pipeline) : Prop where
  source : ∀ pipe ∈ p.pipes, ∃ block ∈ p.blocks, block.name = pipe.source
  target : ∀ pipe ∈ p.pipes, ∃ block ∈ p.blocks, block.name = pipe.target
  single : ∀ index, p.pipes.countP (fun pipe => p.position? pipe.target = some index) ≤ 1

def Acyclic (p : Pipeline) : Prop := ∀ index, ¬ Relation.TransGen p.Feeds index index

-- What is promised of a schedule, where `order` has the positions of its blocks.
structure Schedules (p : Pipeline) (order : List Nat) (schedule : List Scheduled) : Prop where
  -- The order has every block once.
  perm : order.Perm (List.range p.blocks.length)
  blocks : schedule.map (fun s => some s.block) = order.map (p.blocks[·]?)
  -- The parent of a block is the source of the pipe that leads to it.
  parent : ∀ (i index : Nat) (s : Scheduled), order[i]? = some index → schedule[i]? = some s →
    ∀ name, s.parent = some name ↔
      ∃ pipe ∈ p.pipes, pipe.source = name ∧ p.position? pipe.target = some index
  before : ∀ (i source target : Nat), order[i]? = some target → p.Feeds source target →
    ∃ j < i, order[j]? = some source
  -- The blocks that no pipe leads to come first, as they are declared.
  first : ∃ first others, order = first ++ others ∧ first.Pairwise (· < ·) ∧
    (∀ index ∈ first, ∀ source, ¬ p.Feeds source index) ∧
      ∀ index ∈ others, ∃ source, p.Feeds source index

theorem exists_position? {name : String} :
    (∃ index, p.position? name = some index) ↔ ∃ block ∈ p.blocks, block.name = name := by
  constructor
  · rintro ⟨index, hindex⟩
    obtain ⟨⟨block, hblock, hname⟩, -⟩ := position?_eq_some hindex
    exact ⟨block, List.mem_of_getElem? hblock, hname⟩
  · rintro ⟨block, hblock, rfl⟩
    obtain ⟨index, hindex⟩ := List.mem_iff_getElem?.mp hblock
    have hmem : (block, index) ∈ p.blocks.zipIdx.filter (·.1.name == block.name) :=
      List.mem_filter.mpr ⟨List.mk_mem_zipIdx_iff_getElem?.mpr hindex, by simp⟩
    rw [position?, List.getLast?_eq_some_getLast (List.ne_nil_of_mem hmem)]
    exact ⟨_, rfl⟩

-- The pipes that lead to a block are counted by their links.
theorem countP_target {pipes : List Pipe} (h : List.Forall₂ p.Joins pipes links) (index : Nat) :
    pipes.countP (fun pipe => p.position? pipe.target = some index) =
      (links.map (·.target)).count index := by
  induction h with
  | nil => rfl
  | cons hl _ ih => simp [List.countP_cons, List.count_cons, hl.2, ih]

theorem exists_joined {pipes : List Pipe} (h : ∀ pipe ∈ pipes, ∃ l, p.Joins pipe l) :
    ∃ links, List.Forall₂ p.Joins pipes links := by
  induction pipes with
  | nil => exact ⟨[], .nil⟩
  | cons pipe pipes ih =>
      obtain ⟨l, hl⟩ := h pipe (List.mem_cons_self ..)
      obtain ⟨links, hlinks⟩ := ih fun other hother => h other (List.mem_cons_of_mem pipe hother)
      exact ⟨l :: links, .cons hl hlinks⟩

theorem wired_iff : p.Wired ↔ ∃ links, p.links = .ok links := by
  constructor
  · intro h
    obtain ⟨links, hlinks⟩ : ∃ links, List.Forall₂ p.Joins p.pipes links := by
      refine exists_joined fun pipe hpipe => ?_
      obtain ⟨source, hsource⟩ := exists_position?.mpr (h.source pipe hpipe)
      obtain ⟨target, htarget⟩ := exists_position?.mpr (h.target pipe hpipe)
      exact ⟨⟨source, target⟩, hsource, htarget⟩
    refine ⟨links, links_eq_ok.mpr ⟨hlinks, List.nodup_iff_count_le_one.mpr fun index => ?_⟩⟩
    rw [← countP_target hlinks]
    exact h.single index
  · rintro ⟨links, hlinks⟩
    obtain ⟨hjoins, hdistinct⟩ := links_eq_ok.mp hlinks
    have hjoined : ∀ pipe ∈ p.pipes, ∃ l ∈ links, p.Joins pipe l := fun pipe hpipe =>
      exists_of_forall₂ hjoins.flip hpipe
    refine ⟨fun pipe hpipe => ?_, fun pipe hpipe => ?_, fun index => ?_⟩
    · obtain ⟨l, -, hl⟩ := hjoined pipe hpipe
      exact exists_position?.mp ⟨_, hl.1⟩
    · obtain ⟨l, -, hl⟩ := hjoined pipe hpipe
      exact exists_position?.mp ⟨_, hl.2⟩
    · rw [countP_target hjoins]
      exact List.nodup_iff_count_le_one.mp hdistinct index

theorem feeds_iff (h : p.links = .ok links) : p.Feeds source target ↔ ⟨source, target⟩ ∈ links := by
  have hjoins := (links_eq_ok.mp h).1
  constructor
  · rintro ⟨pipe, hpipe, hsource, htarget⟩
    obtain ⟨l, hl, hsource', htarget'⟩ := exists_of_forall₂ hjoins.flip hpipe
    cases hsource.symm.trans hsource'
    cases htarget.symm.trans htarget'
    exact hl
  · intro hl
    obtain ⟨pipe, hpipe, hsource, htarget⟩ := exists_of_forall₂ hjoins hl
    exact ⟨pipe, hpipe, hsource, htarget⟩

-- The parent of a block is what feeds it.
theorem parent?_eq_some_iff (h : p.links = .ok links) :
    parent? links target = some source ↔ p.Feeds source target := by
  rw [feeds_iff h]
  exact ⟨mem_of_parent?, fun hl =>
    parent?_of_mem_children (linked_of_links h).distinct (mem_children.mpr hl)⟩

-- What a block is fed by, directly or not, stands before it.
theorem exists_before (h : p.links = .ok links) {i : Nat} (hi : (p.order links)[i]? = some target)
    (hpath : Relation.TransGen p.Feeds source target) :
    ∃ j < i, (p.order links)[j]? = some source := by
  have hstep {i source target : Nat} (hi : (p.order links)[i]? = some target)
      (hfeeds : p.Feeds source target) : ∃ j < i, (p.order links)[j]? = some source := by
    obtain ⟨j, -, hlt, hj, -⟩ :=
      (linked_of_links h).parent_before hi ((parent?_eq_some_iff h).mpr hfeeds)
    exact ⟨j, hlt, hj⟩
  induction hpath generalizing i with
  | single hfeeds => exact hstep hi hfeeds
  | tail _ hfeeds ih =>
      obtain ⟨k, hk, hmiddle⟩ := hstep hi hfeeds
      obtain ⟨j, hj, hsource⟩ := ih hmiddle
      exact ⟨j, hj.trans hk, hsource⟩

-- By induction along the pipes. A block that no pipe leads to is visited at the start, and any
-- other behind the one that feeds it.
theorem mem_order_of_acyclic (h : p.links = .ok links) (hacyclic : p.Acyclic) {index : Nat}
    (hindex : index < p.blocks.length) : index ∈ p.order links := by
  have hlinked := linked_of_links h
  have hwf : WellFounded fun i j : Fin p.blocks.length => Relation.TransGen p.Feeds i j := by
    have : IsTrans (Fin p.blocks.length) fun i j => Relation.TransGen p.Feeds i j :=
      ⟨fun _ _ _ => .trans⟩
    have : Std.Irrefl fun i j : Fin p.blocks.length => Relation.TransGen p.Feeds i j :=
      ⟨fun i => hacyclic i⟩
    exact Finite.wellFounded_of_trans_of_irrefl _
  suffices hall : ∀ i : Fin p.blocks.length, (i : Nat) ∈ p.order links from hall ⟨index, hindex⟩
  intro i
  induction i using hwf.induction with
  | _ i ih =>
      cases hparent : parent? links i with
      | none =>
          obtain ⟨others, horder⟩ := Linked.order_eq p links
          rw [horder]
          exact List.mem_append_left _ (mem_roots.mpr ⟨i.isLt, hparent⟩)
      | some source =>
          have hl := mem_of_parent? hparent
          obtain ⟨name, hname⟩ := hlinked.source _ hl
          have hsource := ih ⟨source, position?_lt hname⟩
            (.single ((parent?_eq_some_iff h).mp hparent))
          exact hlinked.mem_order_of_mem_children hsource (mem_children.mpr hl)

-- The order falls short if there is a cycle, and only then.
theorem acyclic_iff (h : p.links = .ok links) :
    p.Acyclic ↔ p.blocks.length ≤ (p.order links).length := by
  have hlinked := linked_of_links h
  constructor
  · intro hacyclic
    have hsub := List.subperm_of_subset List.nodup_range fun index hindex =>
      mem_order_of_acyclic h hacyclic (List.mem_range.mp hindex)
    have hle := hsub.length_le
    rwa [List.length_range] at hle
  · intro hlength index hcycle
    have hindex : index ∈ p.order links := by
      obtain ⟨source, -, hfeeds⟩ := Relation.TransGen.tail'_iff.mp hcycle
      obtain ⟨pipe, -, -, htarget⟩ := hfeeds
      exact (hlinked.order_perm hlength).mem_iff.mpr (List.mem_range.mpr (position?_lt htarget))
    obtain ⟨i, hi⟩ := List.mem_iff_getElem?.mp hindex
    obtain ⟨j, hj, hbefore⟩ := exists_before h hi hcycle
    have hlt := (List.getElem?_eq_some_iff.mp hbefore).1
    have heq := (List.getElem?_inj hlt hlinked.nodup_order).mp (hbefore.trans hi.symm)
    omega

theorem exists_schedule_iff (h : p.links = .ok links) :
    (∃ schedule, p.schedule = .ok schedule) ↔ p.Acyclic := by
  rw [acyclic_iff h, schedule_eq h]
  split
  next hlt => exact ⟨fun ⟨_, hok⟩ => (nomatch hok), fun hle => absurd hlt (Nat.not_lt.mpr hle)⟩
  next hle => exact ⟨fun _ => Nat.not_lt.mp hle, fun _ => ⟨_, rfl⟩⟩

theorem schedules_order (h : p.links = .ok links)
    (hlength : p.blocks.length ≤ (p.order links).length) :
    p.Schedules (p.order links) ((p.order links).filterMap (p.scheduled? links)) := by
  have hlinked := linked_of_links h
  have hname {index : Nat} {name : String} (hindex : p.position? name = some index) :
      p.blocks[index]?.map (·.name) = some name := by
    obtain ⟨⟨block, hblock, rfl⟩, -⟩ := position?_eq_some hindex
    rw [hblock, Option.map_some]
  refine ⟨hlinked.order_perm hlength, hlinked.map_scheduled, fun i index s hi hs name => ?_,
    fun i source target hi hfeeds => exists_before h hi (.single hfeeds), ?_⟩
  · rw [hlinked.scheduled_getElem?, hi, Option.bind_some] at hs
    obtain ⟨block, -, rfl⟩ := Option.map_eq_some_iff.mp hs
    constructor
    · intro hparent
      obtain ⟨source, hsource, hparent⟩ := Option.bind_eq_some_iff.mp hparent
      obtain ⟨pipe, hpipe, hposition, htarget⟩ := (parent?_eq_some_iff h).mp hsource
      rw [hname hposition] at hparent
      exact ⟨pipe, hpipe, Option.some.inj hparent, htarget⟩
    · rintro ⟨pipe, hpipe, rfl, htarget⟩
      obtain ⟨source, hsource⟩ :=
        exists_position?.mpr ((wired_iff.mpr ⟨links, h⟩).source pipe hpipe)
      have hparent := (parent?_eq_some_iff h).mpr ⟨pipe, hpipe, hsource, htarget⟩
      show (parent? links index).bind _ = _
      rw [hparent, Option.bind_some, hname hsource]
  · obtain ⟨others, horder⟩ := Linked.order_eq p links
    refine ⟨_, others, horder, List.pairwise_lt_range.filter _,
      fun index hindex source hfeeds => ?_, fun index hindex => ?_⟩
    · rw [← parent?_eq_some_iff h, (mem_roots.mp hindex).2] at hfeeds
      cases hfeeds
    · have hnodup := hlinked.nodup_order
      have hlt := hlinked.lt_of_mem_order (horder ▸ List.mem_append_right _ hindex)
      rw [horder, List.nodup_append] at hnodup
      cases hparent : parent? links index with
      | none => exact absurd rfl (hnodup.2.2 index (mem_roots.mpr ⟨hlt, hparent⟩) index hindex)
      | some source => exact ⟨source, (parent?_eq_some_iff h).mp hparent⟩

-- The loop that counts pipes ends, and the order that it leaves is the one that is used. There is a
-- schedule exactly for pipes that fit together and never come back, it has what is promised, and
-- where the pipes fit together nothing but a cycle is an error.
theorem schedule_complete (p : Pipeline) :
    (∀ links, p.links = .ok links → ∃ x, Worklist.Reaches links (.start links p.blocks.length) x ∧
      x.ready = [] ∧ p.schedule = if x.order.length < p.blocks.length then .error (.cycle p.name)
        else .ok (x.order.filterMap (p.scheduled? links))) ∧
    ((∃ schedule, p.schedule = .ok schedule) ↔ p.Wired ∧ p.Acyclic) ∧
    (∀ schedule, p.schedule = .ok schedule → ∃ order, p.Schedules order schedule) ∧
    (p.Wired → ∀ error, p.schedule = .error error → error = .cycle p.name) := by
  refine ⟨fun links h => ?_, ⟨fun hok => ?_, fun ⟨hwired, hacyclic⟩ => ?_⟩, fun schedule hok => ?_,
    fun hwired error herror => ?_⟩
  · have hlinked := linked_of_links h
    obtain ⟨degrees, hreaches, -⟩ := (Worklist.Sound.start hlinked).exists_end hlinked
    exact ⟨_, hreaches, rfl, schedule_eq h⟩
  · obtain ⟨schedule, hschedule⟩ := hok
    obtain ⟨links, h, -⟩ := schedule_eq_ok hschedule
    exact ⟨wired_iff.mpr ⟨links, h⟩, (exists_schedule_iff h).mp ⟨schedule, hschedule⟩⟩
  · obtain ⟨links, h⟩ := wired_iff.mp hwired
    exact (exists_schedule_iff h).mpr hacyclic
  · obtain ⟨links, h, hlength, rfl⟩ := schedule_eq_ok hok
    exact ⟨p.order links, schedules_order h hlength⟩
  · obtain ⟨links, h⟩ := wired_iff.mp hwired
    rw [schedule_eq h] at herror
    split at herror
    next => exact (Except.error.inj herror).symm
    next => cases herror

-- Two blocks of one name, of which the last is meant, behind another that takes its output.
def twins : Pipeline :=
  ⟨"Twins", [⟨"sink", "Sink", [], .unknown⟩, ⟨"source", "Source", [], .unknown⟩,
      ⟨"source", "Source", [], .unknown⟩], [⟨"source", "sink"⟩], .unknown⟩

-- Two blocks that take the output of each other, and one that hangs below them.
def knot : Pipeline :=
  ⟨"Knot", [⟨"a", "Pass", [], .unknown⟩, ⟨"b", "Pass", [], .unknown⟩, ⟨"c", "Sink", [], .unknown⟩],
    [⟨"a", "b"⟩, ⟨"b", "a"⟩, ⟨"b", "c"⟩], .unknown⟩

theorem schedule_complete_twins :
    (twins.Wired ∧ twins.Acyclic) ∧
    (∃ order schedule, twins.Schedules order schedule ∧
      schedule.map (·.parent) = [none, none, some "source"]) ∧
    knot.Wired ∧ ¬ knot.Acyclic := by
  obtain ⟨-, htwins, hschedules, -⟩ := schedule_complete twins
  obtain ⟨-, hknot, -, -⟩ := schedule_complete knot
  have hwired : knot.Wired := wired_iff.mpr ⟨_, rfl⟩
  obtain ⟨order, horder⟩ := hschedules _ rfl
  refine ⟨htwins.mp ⟨_, rfl⟩, ⟨order, _, horder, rfl⟩, hwired, fun hacyclic => ?_⟩
  obtain ⟨schedule, hschedule⟩ := hknot.mpr ⟨hwired, hacyclic⟩
  cases hschedule

end TableFlow.Pipeline

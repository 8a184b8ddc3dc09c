import Mathlib.Data.List.Sort
import TableFlow.Proofs.Pipeline.Acyclic

namespace TableFlow

namespace Pipeline

-- Blocks with the same parent, or without any, are run in the order in which they are declared; the
-- positions of the blocks of the schedule are those of `order`.
def KeepsDeclared (order : List Nat) (schedule : List Scheduled) : Prop :=
  (order.zip schedule).Pairwise fun x y => x.2.parent = y.2.parent → x.1 < y.1

-- The pipes of every block are listed in the order in which the blocks behind them are declared.
def PipesDeclared (p : Pipeline) : Prop :=
  p.pipes.Pairwise fun a b => a.source = b.source →
    ∀ i j, p.position? a.target = some i → p.position? b.target = some j → i < j

end Pipeline

-- To hold within each kind is to hold between any two of one kind.
theorem pairwise_filter_iff {α κ : Type} [DecidableEq κ] {R : α → α → Prop} {kind : α → κ}
    {as : List α} :
    (∀ k, (as.filter (kind · = k)).Pairwise R) ↔
      as.Pairwise fun a b => kind a = kind b → R a b := by
  simp only [List.pairwise_filter, decide_eq_true_iff]
  refine ⟨fun h => List.pairwise_iff_forall_sublist.mpr fun hab heq => ?_,
    fun h k => h.imp fun hR ha hb => hR (ha.trans hb.symm)⟩
  exact List.pairwise_iff_forall_sublist.mp (h _) hab heq rfl

theorem pairwise_iff_of_forall₂ {α β : Type} {R : α → β → Prop} {S : α → α → Prop}
    {T : β → β → Prop} {as : List α} {bs : List β} (h : List.Forall₂ R as bs)
    (hiff : ∀ {a b a' b'}, R a b → R a' b' → (S a a' ↔ T b b')) :
    as.Pairwise S ↔ bs.Pairwise T := by
  induction h with
  | nil => exact iff_of_true .nil .nil
  | cons hab hs ih =>
      rw [List.pairwise_cons, List.pairwise_cons, ih]
      refine and_congr_left fun _ => ⟨fun hS b' hb' => ?_, fun hT a' ha' => ?_⟩
      · obtain ⟨a', ha', hab'⟩ := exists_of_forall₂ hs hb'
        exact (hiff hab hab').mp (hS a' ha')
      · obtain ⟨b', hb', hab'⟩ := exists_of_forall₂ hs.flip ha'
        exact (hiff hab hab').mpr (hT b' hb')

theorem flatMap_ite {α β : Type} [DecidableEq α] {as : List α} {bs : List β} {a : α}
    (hnodup : as.Nodup) (ha : a ∈ as) : (as.flatMap fun b => if b = a then bs else []) = bs := by
  obtain ⟨before, after, rfl⟩ := List.append_of_mem ha
  rw [List.nodup_append, List.nodup_cons] at hnodup
  obtain ⟨-, ⟨hafter, -⟩, hbefore⟩ := hnodup
  have hnone {others : List α} (hne : a ∉ others) :
      (others.flatMap fun b => if b = a then bs else []) = [] :=
    List.flatMap_eq_nil_iff.mpr fun b hb => if_neg fun heq : b = a => hne (heq ▸ hb)
  rw [List.flatMap_append, List.flatMap_cons, if_pos rfl, hnone hafter,
    hnone fun hmem => hbefore a hmem a (List.mem_cons_self ..) rfl, List.append_nil,
    List.nil_append]

namespace Link

variable {links : List Link}

-- What has been visited and what is left are what was in the queue and, block by block, the
-- children of what has been visited. By induction on the visits.
theorem exists_visit_append (links : List Link) (fuel : Nat) (queue : List Nat) :
    ∃ left, queue ++ (visit links fuel queue).flatMap (children links) =
      visit links fuel queue ++ left := by
  induction fuel generalizing queue with
  | zero => exact ⟨queue, by simp [visit]⟩
  | succ fuel ih =>
      cases queue with
      | nil => exact ⟨[], by simp [visit]⟩
      | cons index queue =>
          obtain ⟨left, hleft⟩ := ih (queue ++ children links index)
          refine ⟨left, ?_⟩
          rw [visit, List.flatMap_cons, List.cons_append, List.cons_append, ← hleft,
            List.append_assoc]

theorem filter_children (h : (links.map (·.target)).Nodup) (other index : Nat) :
    (children links other).filter (parent? links · = some index) =
      if other = index then children links index else [] := by
  split
  next heq =>
    subst heq
    refine List.filter_eq_self.mpr fun child hchild => ?_
    simp [parent?_of_mem_children h hchild]
  next hne =>
    refine List.filter_eq_nil_iff.mpr fun child hchild => ?_
    simp [parent?_of_mem_children h hchild, hne]

theorem nodup_flatMap_children (h : (links.map (·.target)).Nodup) {order : List Nat}
    (horder : order.Nodup) : (order.flatMap (children links)).Nodup := by
  refine List.nodup_flatMap.mpr ⟨fun _ _ => nodup_children h, horder.imp fun hne child hi hj => ?_⟩
  have hparent := parent?_of_mem_children h hi
  rw [parent?_of_mem_children h hj] at hparent
  exact hne (Option.some.inj hparent).symm

end Link

namespace Pipeline

open Link

variable {p : Pipeline} {links : List Link} {order order' : List Nat} {schedule : List Scheduled}

namespace Linked

theorem lt_of_mem_children (h : p.Linked links) {index child : Nat}
    (hchild : child ∈ children links index) : child < p.blocks.length := by
  obtain ⟨name, hname⟩ := h.target _ (mem_children.mp hchild)
  exact position?_lt hname

theorem nodup_roots_append (h : p.Linked links) :
    (roots links p.blocks.length ++ (p.order links).flatMap (children links)).Nodup := by
  refine List.nodup_append.mpr
    ⟨List.nodup_range.filter _, nodup_flatMap_children h.distinct h.nodup_order, ?_⟩
  rintro root hroot _ hchild rfl
  obtain ⟨index, -, hchild⟩ := List.mem_flatMap.mp hchild
  have hparent := parent?_of_mem_children h.distinct hchild
  rw [(mem_roots.mp hroot).2] at hparent
  cases hparent

-- An order that is long enough has the blocks without a parent and then, block by block, the
-- children of its blocks.
theorem order_eq_flatMap (h : p.Linked links) (hlength : p.blocks.length ≤ (p.order links).length) :
    p.order links =
      roots links p.blocks.length ++ (p.order links).flatMap (children links) := by
  obtain ⟨left, hleft⟩ :=
    exists_visit_append links p.blocks.length (roots links p.blocks.length)
  change _ ++ (p.order links).flatMap _ = p.order links ++ left at hleft
  have hnodup := h.nodup_roots_append
  have hlt : ∀ index ∈ roots links p.blocks.length ++ (p.order links).flatMap (children links),
      index < p.blocks.length := by
    intro index hindex
    rcases List.mem_append.mp hindex with hroot | hchild
    · exact (mem_roots.mp hroot).1
    · obtain ⟨source, -, hchild⟩ := List.mem_flatMap.mp hchild
      exact h.lt_of_mem_children hchild
  rw [hleft] at hnodup hlt ⊢
  -- All blocks have been visited, so no block is left.
  have hnil : left = [] := by
    refine List.eq_nil_iff_forall_not_mem.mpr fun index hindex => ?_
    have hrange := List.mem_range.mpr (hlt index (List.mem_append_right _ hindex))
    have hvisited := (h.order_perm hlength).mem_iff.mpr hrange
    exact (List.nodup_append.mp hnodup).2.2 index hvisited index hindex rfl
  rw [hnil, List.append_nil]

theorem mem_order_of_child (h : p.Linked links)
    (hlength : p.blocks.length ≤ (p.order links).length) {index child : Nat}
    (hchild : child ∈ children links index) : index ∈ p.order links := by
  obtain ⟨name, hname⟩ := h.source _ (mem_children.mp hchild)
  exact (h.order_perm hlength).mem_iff.mpr (List.mem_range.mpr (position?_lt hname))

-- The blocks with a given parent are run in the order of its pipes.
theorem filter_parent?_order (h : p.Linked links)
    (hlength : p.blocks.length ≤ (p.order links).length) (index : Nat) :
    (p.order links).filter (parent? links · = some index) = children links index := by
  have hroots : (roots links p.blocks.length).filter (parent? links · = some index) = [] := by
    refine List.filter_eq_nil_iff.mpr fun root hroot => ?_
    simp [(mem_roots.mp hroot).2]
  rw [h.order_eq_flatMap hlength, List.filter_append, hroots, List.nil_append, List.filter_flatMap]
  simp only [filter_children h.distinct]
  by_cases hindex : index ∈ p.order links
  · exact flatMap_ite h.nodup_order hindex
  · have hchildren : children links index = [] := List.eq_nil_iff_forall_not_mem.mpr
      fun _ hchild => hindex (h.mem_order_of_child hlength hchild)
    simp [hchildren]

-- The blocks without a parent come first.
theorem filter_parent?_order_none (h : p.Linked links)
    (hlength : p.blocks.length ≤ (p.order links).length) :
    (p.order links).filter (parent? links · = none) = roots links p.blocks.length := by
  have hroots : (roots links p.blocks.length).filter (parent? links · = none) =
      roots links p.blocks.length := by
    refine List.filter_eq_self.mpr fun root hroot => ?_
    simp [(mem_roots.mp hroot).2]
  have hchildren : ((p.order links).flatMap (children links)).filter
      (parent? links · = none) = [] := by
    refine List.filter_eq_nil_iff.mpr fun child hchild => ?_
    obtain ⟨index, -, hchild⟩ := List.mem_flatMap.mp hchild
    simp [parent?_of_mem_children h.distinct hchild]
  rw [h.order_eq_flatMap hlength, List.filter_append, hroots, hchildren, List.append_nil]

-- Blocks with one parent, or none, are run as they are declared if the links are listed that way.
theorem pairwise_order_iff (h : p.Linked links)
    (hlength : p.blocks.length ≤ (p.order links).length) :
    ((p.order links).Pairwise fun i j => parent? links i = parent? links j → i < j) ↔
      links.Pairwise fun l l' => l.source = l'.source → l.target < l'.target := by
  rw [← pairwise_filter_iff, ← pairwise_filter_iff]
  constructor
  · intro hpairwise index
    have hchildren := hpairwise (some index)
    rw [h.filter_parent?_order hlength, children, List.pairwise_map] at hchildren
    exact hchildren
  · rintro hpairwise (_ | index)
    · rw [h.filter_parent?_order_none hlength]
      exact List.pairwise_lt_range.filter _
    · rw [h.filter_parent?_order hlength, children, List.pairwise_map]
      exact hpairwise index

end Linked

theorem position?_inj {name other : String} {index : Nat} (h : p.position? name = some index)
    (h' : p.position? other = some index) : name = other := by
  obtain ⟨⟨block, hblock, rfl⟩, -⟩ := position?_eq_some h
  obtain ⟨⟨block', hblock', rfl⟩, -⟩ := position?_eq_some h'
  cases hblock.symm.trans hblock'
  rfl

theorem pipesDeclared_iff (h : p.links = .ok links) :
    p.PipesDeclared ↔
      links.Pairwise fun l l' => l.source = l'.source → l.target < l'.target := by
  refine pairwise_iff_of_forall₂ (links_eq_ok.mp h).1 fun {a l b l'} ha hb => ?_
  have hsource : a.source = b.source ↔ l.source = l'.source := by
    refine ⟨fun heq => ?_, fun heq => ?_⟩
    · have hl := ha.1
      rw [heq, hb.1] at hl
      exact (Option.some.inj hl).symm
    · exact position?_inj ha.1 (heq ▸ hb.1)
  rw [hsource, ha.2, hb.2]
  simp

namespace Schedules

theorem length_eq (h : p.Schedules order schedule) : schedule.length = order.length := by
  simpa using congrArg List.length h.blocks

theorem exists_block (h : p.Schedules order schedule) {i index : Nat}
    (hi : order[i]? = some index) :
    ∃ s, schedule[i]? = some s ∧ p.blocks[index]? = some s.block := by
  have hblock := congrArg (·[i]?) h.blocks
  simp only [List.getElem?_map, hi, Option.map_some] at hblock
  obtain ⟨s, hs, hblock⟩ := Option.map_eq_some_iff.mp hblock
  exact ⟨s, hs, hblock.symm⟩

-- A block with a parent is the last one of its name.
theorem position?_of_parent (h : p.Schedules order schedule) {i index : Nat} {s : Scheduled}
    (hi : order[i]? = some index) (hs : schedule[i]? = some s) {name : String}
    (hparent : s.parent = some name) : p.position? s.block.name = some index := by
  obtain ⟨pipe, -, -, htarget⟩ := (h.parent i index s hi hs name).mp hparent
  obtain ⟨⟨block, hblock, hname⟩, -⟩ := position?_eq_some htarget
  obtain ⟨s', hs', hblock'⟩ := h.exists_block hi
  cases hs.symm.trans hs'
  cases hblock.symm.trans hblock'
  rw [hname, htarget]

theorem exists_first (h : p.Schedules order schedule) :
    ∃ first others, order = first ++ others ∧ first.Pairwise (· < ·) ∧
      ∀ index, index ∈ first ↔ index < p.blocks.length ∧ ∀ source, ¬ p.Feeds source index := by
  obtain ⟨first, others, horder, hsorted, hunfed, hfed⟩ := h.first
  refine ⟨first, others, horder, hsorted, fun index => ?_⟩
  rw [← List.mem_range, ← h.perm.mem_iff, horder, List.mem_append]
  refine ⟨fun hindex => ⟨.inl hindex, hunfed index hindex⟩, fun ⟨hindex, hnone⟩ => ?_⟩
  refine hindex.resolve_right fun hothers => ?_
  obtain ⟨source, hsource⟩ := hfed index hothers
  exact hnone source hsource

-- A block without a parent stands in front of all that have one.
theorem getElem?_first (h : p.Schedules order schedule) {first others : List Nat}
    (horder : order = first ++ others)
    (hfirst : ∀ index, index ∈ first ↔
      index < p.blocks.length ∧ ∀ source, ¬ p.Feeds source index)
    {i index : Nat} {s : Scheduled} (hi : order[i]? = some index) (hs : schedule[i]? = some s)
    (hparent : s.parent = none) : first[i]? = some index := by
  have hlt := List.mem_range.mp (h.perm.mem_iff.mp (List.mem_of_getElem? hi))
  have hindex : index ∈ first := by
    refine (hfirst index).mpr ⟨hlt, ?_⟩
    rintro source ⟨pipe, hpipe, -, htarget⟩
    have hsome := (h.parent i index s hi hs pipe.source).mpr ⟨pipe, hpipe, rfl, htarget⟩
    rw [hparent] at hsome
    cases hsome
  obtain ⟨k, hk⟩ := List.mem_iff_getElem?.mp hindex
  have hnodup : order.Nodup := h.perm.nodup_iff.mpr List.nodup_range
  have hk' : order[k]? = some index := by
    rw [horder, List.getElem?_append_left (List.getElem?_eq_some_iff.mp hk).1, hk]
  have heq := (List.getElem?_inj (List.getElem?_eq_some_iff.mp hi).1 hnodup).mp (hi.trans hk'.symm)
  rwa [heq]

-- A schedule tells where its blocks are declared.
theorem unique (h : p.Schedules order schedule) (h' : p.Schedules order' schedule) :
    order = order' := by
  obtain ⟨first, others, horder, hsorted, hfirst⟩ := h.exists_first
  obtain ⟨first', others', horder', hsorted', hfirst'⟩ := h'.exists_first
  obtain rfl : first = first' := hsorted.eq_of_mem_iff hsorted' fun index =>
    (hfirst index).trans (hfirst' index).symm
  refine List.ext_getElem (h.length_eq.symm.trans h'.length_eq) fun i hi hi' => ?_
  have hindex := List.getElem?_eq_getElem hi
  have hindex' := List.getElem?_eq_getElem hi'
  obtain ⟨s, hs, -⟩ := h.exists_block hindex
  cases hparent : s.parent with
  | none =>
      have hroot := h.getElem?_first horder hfirst hindex hs hparent
      exact Option.some.inj
        (hroot.symm.trans (h'.getElem?_first horder' hfirst hindex' hs hparent))
  | some name =>
      have hposition := h.position?_of_parent hindex hs hparent
      exact Option.some.inj (hposition.symm.trans (h'.position?_of_parent hindex' hs hparent))

-- The parent of a block is the name of the block that its link comes from.
theorem parent_eq_some_iff (hlinks : p.links = .ok links) (h : p.Schedules order schedule)
    {i index : Nat} {s : Scheduled} (hi : order[i]? = some index) (hs : schedule[i]? = some s)
    {name : String} :
    s.parent = some name ↔
      ∃ source, parent? links index = some source ∧ p.position? name = some source := by
  rw [h.parent i index s hi hs name]
  constructor
  · rintro ⟨pipe, hpipe, rfl, htarget⟩
    obtain ⟨source, hsource⟩ :=
      exists_position?.mpr ((wired_iff.mpr ⟨links, hlinks⟩).source pipe hpipe)
    exact ⟨source, (parent?_eq_some_iff hlinks).mpr ⟨pipe, hpipe, hsource, htarget⟩, hsource⟩
  · rintro ⟨source, hparent, hname⟩
    obtain ⟨pipe, hpipe, hsource, htarget⟩ := (parent?_eq_some_iff hlinks).mp hparent
    exact ⟨pipe, hpipe, position?_inj hsource hname, htarget⟩

theorem source_eq_some_iff (hlinks : p.links = .ok links) (h : p.Schedules order schedule)
    {i index : Nat} {s : Scheduled} (hi : order[i]? = some index) (hs : schedule[i]? = some s)
    {source : Nat} :
    parent? links index = some source ↔
      ∃ name, s.parent = some name ∧ p.position? name = some source := by
  constructor
  · intro hparent
    obtain ⟨name, hname⟩ := (linked_of_links hlinks).source _ (mem_of_parent? hparent)
    exact ⟨name, (h.parent_eq_some_iff hlinks hi hs).mpr ⟨source, hparent, hname⟩, hname⟩
  · rintro ⟨name, hparent, hname⟩
    obtain ⟨source', hparent', hname'⟩ := (h.parent_eq_some_iff hlinks hi hs).mp hparent
    cases hname.symm.trans hname'
    exact hparent'

-- Blocks have the same parent if their links come from the same block.
theorem parent_eq_iff (hlinks : p.links = .ok links) (h : p.Schedules order schedule)
    {i j index index' : Nat} {s s' : Scheduled} (hi : order[i]? = some index)
    (hs : schedule[i]? = some s) (hj : order[j]? = some index') (hs' : schedule[j]? = some s') :
    s.parent = s'.parent ↔ parent? links index = parent? links index' := by
  refine ⟨fun heq => Option.ext fun source => ?_, fun heq => Option.ext fun name => ?_⟩
  · rw [h.source_eq_some_iff hlinks hi hs, h.source_eq_some_iff hlinks hj hs', heq]
  · rw [h.parent_eq_some_iff hlinks hi hs, h.parent_eq_some_iff hlinks hj hs', heq]

theorem keepsDeclared_iff_pairwise (hlinks : p.links = .ok links)
    (h : p.Schedules order schedule) :
    KeepsDeclared order schedule ↔
      order.Pairwise fun i j => parent? links i = parent? links j → i < j := by
  have horder : (order.zip schedule).map Prod.fst = order := List.map_fst_zip h.length_eq.ge
  conv_rhs => rw [← horder]
  rw [KeepsDeclared, List.pairwise_map]
  refine List.Pairwise.iff_of_mem fun {x y} hx hy => ?_
  obtain ⟨i, hi⟩ := List.mem_iff_getElem?.mp hx
  obtain ⟨j, hj⟩ := List.mem_iff_getElem?.mp hy
  obtain ⟨hi, hs⟩ := List.getElem?_zip_eq_some.mp hi
  obtain ⟨hj, hs'⟩ := List.getElem?_zip_eq_some.mp hj
  rw [h.parent_eq_iff hlinks hi hs hj hs']

end Schedules

-- The targets of pipes are scheduled in the order of the pipes.
theorem map_name_scheduled {pipes : List Pipe} (h : List.Forall₂ p.Joins pipes links)
    (all : List Link) :
    ((links.map (·.target)).filterMap (p.scheduled? all)).map (·.block.name) =
      pipes.map (·.target) := by
  induction h with
  | nil => rfl
  | @cons pipe l _ _ hl _ ih =>
      obtain ⟨⟨block, hblock, hname⟩, -⟩ := position?_eq_some hl.2
      have hscheduled : p.scheduled? all l.target = some
          ⟨block, (parent? all l.target).bind fun parent => p.blocks[parent]?.map (·.name)⟩ := by
        rw [scheduled?, hblock]
        rfl
      rw [List.map_cons, List.filterMap_cons_some hscheduled, List.map_cons, List.map_cons, ih,
        hname]

theorem joins_children (hlinks : p.links = .ok links) {name : String} {source : Nat}
    (hname : p.position? name = some source) :
    List.Forall₂ p.Joins (p.pipes.filter (·.source = name))
      (links.filter (·.source == source)) := by
  refine List.rel_filter (fun pipe l hl => ?_) (links_eq_ok.mp hlinks).1
  simp only [decide_eq_true_iff, beq_iff_eq]
  constructor
  · rintro rfl
    exact Option.some.inj (hl.1.symm.trans hname)
  · rintro rfl
    exact position?_inj hl.1 hname

theorem parent_scheduled_iff (hlinks : p.links = .ok links)
    (hlength : p.blocks.length ≤ (p.order links).length) {index : Nat} {s : Scheduled}
    (hindex : index ∈ p.order links) (hs : p.scheduled? links index = some s) {name : String} :
    s.parent = some name ↔
      ∃ source, parent? links index = some source ∧ p.position? name = some source := by
  obtain ⟨i, hi⟩ := List.mem_iff_getElem?.mp hindex
  refine (schedules_order hlinks hlength).parent_eq_some_iff hlinks hi ?_
  rw [(linked_of_links hlinks).scheduled_getElem?, hi, Option.bind_some, hs]

-- The blocks that have a parent in common are the targets of its pipes, in the order of the pipes.
theorem siblings_eq (h : p.schedule = .ok schedule) (name : String) :
    (schedule.filter (·.parent = some name)).map (·.block.name) =
      (p.pipes.filter (·.source = name)).map (·.target) := by
  obtain ⟨links, hlinks, hlength, rfl⟩ := schedule_eq_ok h
  cases hname : p.position? name with
  | none =>
      have hschedule : ((p.order links).filterMap (p.scheduled? links)).filter
          (·.parent = some name) = [] := by
        refine List.filter_eq_nil_iff.mpr fun s hs => ?_
        obtain ⟨index, hindex, hs⟩ := List.mem_filterMap.mp hs
        simp [parent_scheduled_iff hlinks hlength hindex hs, hname]
      have hpipes : p.pipes.filter (·.source = name) = [] := by
        refine List.filter_eq_nil_iff.mpr fun pipe hpipe hsource => ?_
        obtain ⟨source, hposition⟩ :=
          exists_position?.mpr ((wired_iff.mpr ⟨links, hlinks⟩).source pipe hpipe)
        rw [of_decide_eq_true hsource, hname] at hposition
        cases hposition
      rw [hschedule, hpipes]
      rfl
  | some source =>
      have hschedule : ((p.order links).filterMap (p.scheduled? links)).filter
          (·.parent = some name) =
            ((p.order links).filter (parent? links · = some source)).filterMap
              (p.scheduled? links) := by
        rw [List.filter_filterMap, List.filterMap_filter]
        refine List.filterMap_congr fun index hindex => ?_
        cases hs : p.scheduled? links index with
        | none => simp
        | some s => simp [Option.filter, parent_scheduled_iff hlinks hlength hindex hs, hname]
      rw [hschedule, (linked_of_links hlinks).filter_parent?_order hlength, children,
        map_name_scheduled (joins_children hlinks hname)]

-- Blocks with one parent are run in the order of its pipes. So they are run in the order in which
-- they are declared exactly if the pipes of every block are listed that way.
theorem keepsDeclared_iff (h : p.schedule = .ok schedule) :
    (∀ name, (schedule.filter (·.parent = some name)).map (·.block.name) =
      (p.pipes.filter (·.source = name)).map (·.target)) ∧
    (∃! order, p.Schedules order schedule) ∧
    ∀ order, p.Schedules order schedule → (KeepsDeclared order schedule ↔ p.PipesDeclared) := by
  obtain ⟨links, hlinks, hlength, hschedule⟩ := schedule_eq_ok h
  have hschedules : p.Schedules (p.order links) schedule :=
    hschedule ▸ schedules_order hlinks hlength
  refine ⟨siblings_eq h, ⟨_, hschedules, fun order horder => horder.unique hschedules⟩,
    fun order horder => ?_⟩
  rw [horder.unique hschedules, hschedules.keepsDeclared_iff_pairwise hlinks,
    (linked_of_links hlinks).pairwise_order_iff hlength, pipesDeclared_iff hlinks]

-- A block that feeds two others, the first of which feeds two more. The pipes of the two are listed
-- in turn.
def family : Pipeline :=
  ⟨"Family", [⟨"root", "Source", [], .unknown⟩, ⟨"son", "Pass", [], .unknown⟩,
      ⟨"grandson", "Sink", [], .unknown⟩, ⟨"daughter", "Sink", [], .unknown⟩,
      ⟨"granddaughter", "Sink", [], .unknown⟩],
    [⟨"son", "grandson"⟩, ⟨"root", "son"⟩, ⟨"son", "granddaughter"⟩, ⟨"root", "daughter"⟩],
    .unknown⟩

theorem keepsDeclared_iff_family :
    family.PipesDeclared ∧ ∃ order schedule, family.schedule = .ok schedule ∧
      schedule.map (·.block.name) = ["root", "son", "daughter", "grandson", "granddaughter"] ∧
      (schedule.filter (·.parent = some "son")).map (·.block.name) =
        ["grandson", "granddaughter"] ∧
      family.Schedules order schedule ∧ KeepsDeclared order schedule := by
  obtain ⟨hsiblings, ⟨order, horder, -⟩, hiff⟩ := keepsDeclared_iff (p := family) rfl
  have hdeclared : family.PipesDeclared := (pipesDeclared_iff rfl).mpr (by decide)
  exact ⟨hdeclared, order, _, rfl, rfl, hsiblings "son", horder, (hiff order horder).mpr hdeclared⟩

-- Two sinks of one source, the second of which is the first to have a pipe.
def crossed : Pipeline :=
  ⟨"P", [⟨"source", "SheetSource", [], .unknown⟩, ⟨"left", "SheetSink", [], .unknown⟩,
      ⟨"right", "SheetSink", [], .unknown⟩],
    [⟨"source", "right"⟩, ⟨"source", "left"⟩], .unknown⟩

def crossedSchedule : List Scheduled :=
  [⟨⟨"source", "SheetSource", [], .unknown⟩, none⟩,
    ⟨⟨"right", "SheetSink", [], .unknown⟩, some "source"⟩,
    ⟨⟨"left", "SheetSink", [], .unknown⟩, some "source"⟩]

-- The sink that is declared last is run first.
theorem siblings_run_as_piped :
    crossed.schedule = .ok crossedSchedule ∧ crossed.Schedules [0, 2, 1] crossedSchedule ∧
      ¬ KeepsDeclared [0, 2, 1] crossedSchedule := by
  have hlinks : crossed.links = .ok [⟨0, 2⟩, ⟨0, 1⟩] := rfl
  refine ⟨rfl, schedules_order hlinks (by decide), ?_⟩
  rw [KeepsDeclared]
  decide

end Pipeline

end TableFlow

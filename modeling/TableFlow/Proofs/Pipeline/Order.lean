import Mathlib.Data.List.Nodup
import Mathlib.Data.List.Perm.Subperm
import TableFlow.Pipeline.Schedule
import TableFlow.Proofs.Except

namespace TableFlow

namespace Pipeline

variable {p : Pipeline} {links : List Link}

-- Links between blocks that are meant by their names, with at most one to each of them.
structure Linked (p : Pipeline) (links : List Link) : Prop where
  source : ∀ l ∈ links, ∃ name, p.position? name = some l.source
  target : ∀ l ∈ links, ∃ name, p.position? name = some l.target
  distinct : (links.map (·.target)).Nodup

-- A name means the last block that has it.
theorem position?_eq_some {name : String} {index : Nat} (h : p.position? name = some index) :
    (∃ block, p.blocks[index]? = some block ∧ block.name = name) ∧
      ∀ (other : Nat) (block : Block), p.blocks[other]? = some block → block.name = name →
        other ≤ index := by
  obtain ⟨⟨block, index⟩, hlast, rfl⟩ := Option.map_eq_some_iff.mp h
  obtain ⟨front, hfront⟩ := List.getLast?_eq_some_iff.mp hlast
  have hmem : (block, index) ∈ p.blocks.zipIdx.filter (·.1.name == name) := by
    rw [hfront]
    simp
  obtain ⟨hblock, hname⟩ := List.mem_filter.mp hmem
  refine ⟨⟨block, List.mk_mem_zipIdx_iff_getElem?.mp hblock, by simpa using hname⟩, ?_⟩
  intro other block' hother hname'
  have hsorted : (p.blocks.zipIdx.filter (·.1.name == name)).Pairwise (·.2 < ·.2) := by
    refine List.Pairwise.filter _ (List.pairwise_map.mp ?_)
    rw [List.zipIdx_map_snd]
    exact List.pairwise_lt_range'
  have hmem' : (block', other) ∈ front ++ [(block, index)] := by
    rw [← hfront, List.mem_filter]
    exact ⟨List.mk_mem_zipIdx_iff_getElem?.mpr hother, by simpa using hname'⟩
  rw [hfront, List.pairwise_append] at hsorted
  rcases List.mem_append.mp hmem' with hmem' | hmem'
  · exact Nat.le_of_lt (hsorted.2.2 _ hmem' _ (List.mem_singleton_self _))
  · cases List.mem_singleton.mp hmem'
    exact Nat.le_refl _

theorem position?_lt {name : String} {index : Nat} (h : p.position? name = some index) :
    index < p.blocks.length := by
  obtain ⟨⟨block, hblock, -⟩, -⟩ := position?_eq_some h
  exact (List.getElem?_eq_some_iff.mp hblock).1

theorem resolve_eq_ok {name : String} {index : Nat} :
    p.resolve name = .ok index ↔ p.position? name = some index := by
  rw [resolve]
  cases p.position? name <;> simp

-- A pipe and the link between the blocks that it names.
def Joins (p : Pipeline) (pipe : Pipe) (l : Link) : Prop :=
  p.position? pipe.source = some l.source ∧ p.position? pipe.target = some l.target

theorem addLink_eq_ok {pipe : Pipe} {links' : List Link} :
    p.addLink links pipe = .ok links' ↔
      ∃ l, p.Joins pipe l ∧ l.target ∉ links.map (·.target) ∧ links' = links ++ [l] := by
  have hany (target : Nat) :
      links.any (·.target == target) = true ↔ target ∈ links.map (·.target) := by simp
  constructor
  · intro h
    rw [addLink] at h
    obtain ⟨source, hsource, h⟩ := exists_of_bind h
    obtain ⟨target, htarget, h⟩ := exists_of_bind h
    split at h
    next => cases h
    next hfresh =>
      cases h
      exact ⟨⟨source, target⟩, ⟨resolve_eq_ok.mp hsource, resolve_eq_ok.mp htarget⟩,
        fun hmem => hfresh ((hany target).mpr hmem), rfl⟩
  · rintro ⟨l, ⟨hsource, htarget⟩, hfresh, rfl⟩
    rw [addLink, resolve_eq_ok.mpr hsource, resolve_eq_ok.mpr htarget]
    exact if_neg fun hmem => hfresh ((hany l.target).mp hmem)

-- By induction on the pipes that are still to be looked at.
theorem foldlM_addLink_eq_ok (pipes : List Pipe) (before : List Link)
    (h : (before.map (·.target)).Nodup) :
    pipes.foldlM p.addLink before = .ok links ↔
      ∃ added, links = before ++ added ∧ List.Forall₂ p.Joins pipes added ∧
        (links.map (·.target)).Nodup := by
  induction pipes generalizing before with
  | nil =>
      constructor
      · intro hok
        cases hok
        exact ⟨[], (List.append_nil _).symm, .nil, h⟩
      · rintro ⟨added, rfl, hadded, -⟩
        cases hadded
        rw [List.append_nil]
        rfl
  | cons pipe pipes ih =>
      have hsnoc (l : Link) :
          ((before ++ [l]).map (·.target)).Nodup ↔ l.target ∉ before.map (·.target) := by
        rw [List.map_append, List.map_singleton, ← List.concat_eq_append, List.nodup_concat]
        exact and_iff_left h
      rw [List.foldlM_cons]
      constructor
      · intro hok
        obtain ⟨next, hnext, hok⟩ := exists_of_bind hok
        obtain ⟨l, hl, hfresh, rfl⟩ := addLink_eq_ok.mp hnext
        obtain ⟨added, rfl, hadded, hdistinct⟩ := (ih _ ((hsnoc l).mpr hfresh)).mp hok
        exact ⟨l :: added, (List.append_cons ..).symm, .cons hl hadded, hdistinct⟩
      · rintro ⟨added, hlinks, hadded, hdistinct⟩
        cases hadded with
        | @cons _ l _ added hl hadded =>
            rw [List.append_cons] at hlinks
            have hnext : ((before ++ [l]).map (·.target)).Nodup := by
              rw [hlinks, List.map_append] at hdistinct
              exact hdistinct.of_append_left
            rw [addLink_eq_ok.mpr ⟨l, hl, (hsnoc l).mp hnext, rfl⟩]
            exact (ih _ hnext).mpr ⟨added, hlinks, hadded, hdistinct⟩

-- There is a link for every pipe, in the order of the pipes.
theorem links_eq_ok :
    p.links = .ok links ↔
      List.Forall₂ p.Joins p.pipes links ∧ (links.map (·.target)).Nodup := by
  rw [Pipeline.links, foldlM_addLink_eq_ok p.pipes [] List.nodup_nil]
  simp only [List.nil_append, exists_eq_left']

theorem linked_of_links (h : p.links = .ok links) : p.Linked links := by
  obtain ⟨hjoins, hdistinct⟩ := links_eq_ok.mp h
  refine ⟨fun l hl => ?_, fun l hl => ?_, hdistinct⟩
  · obtain ⟨pipe, -, hsource, -⟩ := exists_of_forall₂ hjoins hl
    exact ⟨pipe.source, hsource⟩
  · obtain ⟨pipe, -, -, htarget⟩ := exists_of_forall₂ hjoins hl
    exact ⟨pipe.target, htarget⟩

end Pipeline

namespace Link

variable {links : List Link} {index parent : Nat}

theorem mem_of_parent? (h : parent? links index = some parent) : ⟨parent, index⟩ ∈ links := by
  obtain ⟨⟨source, target⟩, hfind, rfl⟩ := Option.map_eq_some_iff.mp h
  have htarget := List.find?_some hfind
  obtain rfl : target = index := by simpa using htarget
  exact List.mem_of_find?_eq_some hfind

theorem mem_children {child : Nat} : child ∈ children links index ↔ ⟨index, child⟩ ∈ links := by
  rw [children, List.mem_map]
  constructor
  · rintro ⟨l, hl, rfl⟩
    obtain ⟨hmem, hsource⟩ := List.mem_filter.mp hl
    obtain rfl : l.source = index := by simpa using hsource
    exact hmem
  · intro hl
    exact ⟨_, List.mem_filter.mpr ⟨hl, by simp⟩, rfl⟩

-- The parent of a child.
theorem parent?_of_mem_children (h : (links.map (·.target)).Nodup) {child : Nat}
    (hchild : child ∈ children links index) : parent? links child = some index := by
  have hmem := mem_children.mp hchild
  cases hparent : parent? links child with
  | none =>
      have hnone := List.find?_eq_none.mp (Option.map_eq_none_iff.mp hparent) _ hmem
      simp at hnone
  | some other =>
      have heq : (⟨other, child⟩ : Link) = ⟨index, child⟩ :=
        List.inj_on_of_nodup_map h (mem_of_parent? hparent) hmem rfl
      exact congrArg (some ·.source) heq

theorem nodup_children (h : (links.map (·.target)).Nodup) : (children links index).Nodup :=
  h.sublist (List.filter_sublist.map _)

theorem visit_nil (links : List Link) (fuel : Nat) : visit links fuel [] = [] := by
  cases fuel <;> rfl

-- Every block stands behind the one whose output it takes.
def Ordered (links : List Link) (order : List Nat) : Prop :=
  ∀ before index after, order = before ++ index :: after →
    ∀ parent, parent? links index = some parent → parent ∈ before

-- Blocks that have been visited, and a queue of others that can be visited next.
structure Frontier (links : List Link) (visited queue : List Nat) : Prop where
  nodup : (visited ++ queue).Nodup
  ordered : Ordered links visited
  ready : ∀ index ∈ queue, ∀ parent, parent? links index = some parent → parent ∈ visited

namespace Frontier

variable {visited queue : List Nat}

theorem ordered_append (h : Frontier links visited (index :: queue)) :
    Ordered links (visited ++ [index]) := by
  intro before other after heq parent hparent
  rcases List.eq_nil_or_concat after with rfl | ⟨after, last, rfl⟩
  · obtain ⟨rfl, hother⟩ := List.append_inj' heq rfl
    cases hother
    exact h.ready index (List.mem_cons_self ..) parent hparent
  · have heq' : visited ++ [index] = (before ++ other :: after) ++ [last] := by simp [heq]
    exact h.ordered before other after (List.append_inj' heq' rfl).1 parent hparent

-- No child of a block has been visited before it, or stands in the queue.
theorem children_fresh (hdistinct : (links.map (·.target)).Nodup)
    (h : Frontier links visited (index :: queue)) {child : Nat}
    (hchild : child ∈ children links index) : child ∉ visited ++ index :: queue := by
  have hparent := parent?_of_mem_children hdistinct hchild
  have hindex : index ∉ visited := fun hmem =>
    (List.nodup_append.mp h.nodup).2.2 index hmem index (List.mem_cons_self ..) rfl
  intro hmem
  rcases List.mem_append.mp hmem with hvisited | hqueue
  · obtain ⟨before, after, rfl⟩ := List.append_of_mem hvisited
    exact hindex (List.mem_append_left _ (h.ordered before child after rfl index hparent))
  · exact hindex (h.ready child hqueue index hparent)

theorem next (hdistinct : (links.map (·.target)).Nodup)
    (h : Frontier links visited (index :: queue)) :
    Frontier links (visited ++ [index]) (queue ++ children links index) := by
  refine ⟨?_, h.ordered_append, fun other hother parent hparent => ?_⟩
  · have hsplit : (visited ++ [index]) ++ (queue ++ children links index) =
        (visited ++ index :: queue) ++ children links index := by simp
    rw [hsplit, List.nodup_append]
    refine ⟨h.nodup, nodup_children hdistinct, fun a ha b hb hab => ?_⟩
    subst hab
    exact h.children_fresh hdistinct hb ha
  · rcases List.mem_append.mp hother with hother | hother
    · have hvisited := h.ready other (List.mem_cons_of_mem index hother) parent hparent
      exact List.mem_append_left _ hvisited
    · rw [parent?_of_mem_children hdistinct hother] at hparent
      cases hparent
      simp

theorem visit (hdistinct : (links.map (·.target)).Nodup) (fuel : Nat)
    (h : Frontier links visited queue) :
    (visited ++ Link.visit links fuel queue).Nodup ∧
      Ordered links (visited ++ Link.visit links fuel queue) := by
  induction fuel generalizing visited queue with
  | zero =>
      rw [Link.visit, List.append_nil]
      exact ⟨(List.nodup_append.mp h.nodup).1, h.ordered⟩
  | succ fuel ih =>
      cases queue with
      | nil =>
          rw [visit_nil, List.append_nil]
          exact ⟨(List.nodup_append.mp h.nodup).1, h.ordered⟩
      | cons index queue =>
          have hnext := ih (h.next hdistinct)
          rw [List.append_assoc] at hnext
          exact hnext

end Frontier

theorem mem_visit (fuel : Nat) (queue : List Nat) (h : index ∈ visit links fuel queue) :
    index ∈ queue ∨ ∃ l ∈ links, l.target = index := by
  induction fuel generalizing queue with
  | zero => cases h
  | succ fuel ih =>
      cases queue with
      | nil => cases h
      | cons first queue =>
          rcases List.mem_cons.mp h with rfl | h
          · exact .inl (List.mem_cons_self ..)
          · rcases ih _ h with h | h
            · rcases List.mem_append.mp h with h | h
              · exact .inl (List.mem_cons_of_mem first h)
              · exact .inr ⟨_, mem_children.mp h, rfl⟩
            · exact .inr h

-- What stands in the queue is visited before its children.
theorem visit_append (links : List Link) (fuel : Nat) (queue queue' : List Nat) :
    visit links (queue.length + fuel) (queue ++ queue') =
      queue ++ visit links fuel (queue' ++ queue.flatMap (children links)) := by
  induction queue generalizing queue' with
  | nil => simp
  | cons index queue ih =>
      rw [List.length_cons, Nat.add_right_comm, List.cons_append, visit, List.append_assoc, ih]
      simp

end Link

namespace Pipeline

open Link

variable {p : Pipeline} {links : List Link}

-- The positions of the blocks in the order in which they are run.
def order (p : Pipeline) (links : List Link) : List Nat :=
  visit links p.blocks.length (roots links p.blocks.length)

theorem mem_roots {count index : Nat} :
    index ∈ roots links count ↔ index < count ∧ parent? links index = none := by
  simp [roots, List.mem_filter]

theorem frontier_roots (links : List Link) (count : Nat) :
    Frontier links [] (roots links count) where
  nodup := List.nodup_range.filter _
  ordered before index after heq := by
    cases before <;> cases heq
  ready index hindex parent hparent := by
    rw [(mem_roots.mp hindex).2] at hparent
    cases hparent

namespace Linked

theorem nodup_order (h : p.Linked links) : (p.order links).Nodup :=
  ((frontier_roots links p.blocks.length).visit h.distinct p.blocks.length).1

theorem ordered_order (h : p.Linked links) : Ordered links (p.order links) :=
  ((frontier_roots links p.blocks.length).visit h.distinct p.blocks.length).2

theorem lt_of_mem_order (h : p.Linked links) {index : Nat} (hindex : index ∈ p.order links) :
    index < p.blocks.length := by
  rcases mem_visit _ _ hindex with hroot | ⟨l, hl, rfl⟩
  · exact (mem_roots.mp hroot).1
  · obtain ⟨name, hname⟩ := h.target l hl
    exact position?_lt hname

-- An order that is long enough has every block once.
theorem order_perm (h : p.Linked links) (hlength : p.blocks.length ≤ (p.order links).length) :
    (p.order links).Perm (List.range p.blocks.length) := by
  refine (List.subperm_of_subset h.nodup_order fun index hindex => ?_).perm_of_length_le ?_
  · exact List.mem_range.mpr (h.lt_of_mem_order hindex)
  · rwa [List.length_range]

theorem length_roots_le (links : List Link) (count : Nat) : (roots links count).length ≤ count := by
  have hle : (roots links count).length ≤ (List.range count).length := List.length_filter_le _ _
  rwa [List.length_range] at hle

-- The roots come first.
theorem order_eq (p : Pipeline) (links : List Link) :
    ∃ others, p.order links = roots links p.blocks.length ++ others := by
  have hvisit := visit_append links
    (p.blocks.length - (roots links p.blocks.length).length) (roots links p.blocks.length) []
  rw [Nat.add_sub_cancel' (length_roots_le links _), List.append_nil] at hvisit
  exact ⟨_, hvisit⟩

-- A block of the same name as a block that is meant by it has no parent.
theorem parent?_of_same_name (h : p.Linked links) {name : String} {index other : Nat}
    {block : Block} (hindex : p.position? name = some index)
    (hother : p.blocks[other]? = some block) (hname : block.name = name) (hne : other ≠ index) :
    parent? links other = none := by
  cases hparent : parent? links other with
  | none => rfl
  | some parent =>
      obtain ⟨name', hother'⟩ := h.target _ (mem_of_parent? hparent)
      obtain ⟨⟨block', hblock', rfl⟩, -⟩ := position?_eq_some hother'
      cases hother.symm.trans hblock'
      rw [hname, hindex] at hother'
      exact absurd (Option.some.inj hother').symm hne

-- The block that a name means is the last one of its name in the order.
theorem le_of_same_name (h : p.Linked links) {name : String} {index other i j : Nat} {block : Block}
    (hindex : p.position? name = some index) (hi : (p.order links)[i]? = some index)
    (hj : (p.order links)[j]? = some other) (hother : p.blocks[other]? = some block)
    (hname : block.name = name) : j ≤ i := by
  by_cases hne : other = index
  · subst hne
    have hlt := (List.getElem?_eq_some_iff.mp hj).1
    exact Nat.le_of_eq ((List.getElem?_inj hlt h.nodup_order).mp (hj.trans hi.symm))
  have hroot : other ∈ roots links p.blocks.length :=
    mem_roots.mpr ⟨(List.getElem?_eq_some_iff.mp hother).1,
      h.parent?_of_same_name hindex hother hname hne⟩
  obtain ⟨others, horder⟩ := order_eq p links
  obtain ⟨k, hk⟩ := List.mem_iff_getElem?.mp hroot
  have hklt := (List.getElem?_eq_some_iff.mp hk).1
  obtain rfl : j = k := by
    have hk' : (p.order links)[k]? = some other := by
      rw [horder, List.getElem?_append_left hklt, hk]
    have hlt := (List.getElem?_eq_some_iff.mp hj).1
    exact (List.getElem?_inj hlt h.nodup_order).mp (hj.trans hk'.symm)
  by_contra hlt
  -- Both are roots, which come by their positions.
  have hi' : (roots links p.blocks.length)[i]? = some index := by
    rw [← hi, horder, List.getElem?_append_left (by omega)]
  have hsorted : (roots links p.blocks.length).Pairwise (· < ·) :=
    List.pairwise_lt_range.filter _
  obtain ⟨hilt, hindex'⟩ := List.getElem?_eq_some_iff.mp hi'
  have hother' := (List.getElem?_eq_some_iff.mp hk).2
  have hbefore := List.pairwise_iff_getElem.mp hsorted i j hilt hklt (by omega)
  rw [hindex', hother'] at hbefore
  have hafter := (position?_eq_some hindex).2 other block hother hname
  omega

-- The parent of a block is the block that its name means, and stands before the block.
theorem parent_before (h : p.Linked links) {i index parent : Nat}
    (hi : (p.order links)[i]? = some index) (hparent : parent? links index = some parent) :
    ∃ j block, j < i ∧ (p.order links)[j]? = some parent ∧ p.blocks[parent]? = some block ∧
      p.position? block.name = some parent := by
  obtain ⟨hlt, hindex⟩ := List.getElem?_eq_some_iff.mp hi
  have hsplit : p.order links =
      (p.order links).take i ++ index :: (p.order links).drop (i + 1) := by
    rw [← hindex, ← List.drop_eq_getElem_cons hlt, List.take_append_drop]
  obtain ⟨j, hj⟩ := List.mem_iff_getElem?.mp (h.ordered_order _ _ _ hsplit parent hparent)
  have hji : j < i := by
    have := (List.getElem?_eq_some_iff.mp hj).1
    rw [List.length_take] at this
    omega
  rw [List.getElem?_take_of_lt hji] at hj
  obtain ⟨name, hname⟩ := h.source _ (mem_of_parent? hparent)
  obtain ⟨⟨block, hblock, rfl⟩, -⟩ := position?_eq_some hname
  exact ⟨j, block, hji, hj, hblock, hname⟩

-- The blocks are scheduled in their order.
theorem scheduled_getElem? (h : p.Linked links) (i : Nat) :
    ((p.order links).filterMap (p.scheduled? links))[i]? =
      (p.order links)[i]?.bind (p.scheduled? links) := by
  have hsome : ∀ index ∈ p.order links, (p.scheduled? links index).isSome = true := by
    intro index hindex
    rw [scheduled?, List.getElem?_eq_getElem (h.lt_of_mem_order hindex)]
    rfl
  generalize p.order links = order at hsome
  induction order generalizing i with
  | nil => rfl
  | cons index order ih =>
      obtain ⟨s, hs⟩ := Option.isSome_iff_exists.mp (hsome index (List.mem_cons_self ..))
      rw [List.filterMap_cons_some hs]
      cases i with
      | zero => exact hs.symm
      | succ i => exact ih i fun other hother => hsome other (List.mem_cons_of_mem index hother)

theorem map_scheduled (h : p.Linked links) :
    ((p.order links).filterMap (p.scheduled? links)).map (fun s => some s.block) =
      (p.order links).map (p.blocks[·]?) := by
  refine List.ext_getElem? fun i => ?_
  rw [List.getElem?_map, h.scheduled_getElem?, List.getElem?_map]
  cases hi : (p.order links)[i]? with
  | none => rfl
  | some index =>
      have hlt := h.lt_of_mem_order (List.mem_of_getElem? hi)
      simp only [Option.bind_some, Pipeline.scheduled?, List.getElem?_eq_getElem hlt,
        Option.map_some]

end Linked

theorem schedule_eq (h : p.links = .ok links) :
    p.schedule =
      if (p.order links).length < p.blocks.length then .error (.cycle p.name)
      else .ok ((p.order links).filterMap (p.scheduled? links)) := by
  rw [schedule, h]
  rfl

theorem schedule_eq_ok {schedule : List Scheduled} (h : p.schedule = .ok schedule) :
    ∃ links, p.links = .ok links ∧ p.blocks.length ≤ (p.order links).length ∧
      schedule = (p.order links).filterMap (p.scheduled? links) := by
  obtain ⟨links, hlinks, -⟩ := exists_of_bind h
  rw [schedule_eq hlinks] at h
  split at h
  next => cases h
  next hlength => exact ⟨links, hlinks, Nat.le_of_not_lt hlength, (Except.ok.inj h).symm⟩

end Pipeline

end TableFlow

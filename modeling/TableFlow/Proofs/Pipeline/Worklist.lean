import Mathlib.Logic.Function.Basic
import Mathlib.Logic.Relation
import TableFlow.Proofs.Pipeline.Order

namespace TableFlow

open Link Pipeline

-- How many pipes are left to each block, the blocks that can be visited, and those that have been.
structure Worklist where
  degrees : Nat → Nat
  ready : List Nat
  order : List Nat

namespace Worklist

-- Of blocks with these links between them, those without an incoming one can be visited at once.
def start (links : List Link) (count : Nat) : Worklist :=
  let degrees index := links.countP (·.target == index)
  ⟨degrees, (List.range count).filter (degrees · = 0), []⟩

-- One pipe fewer is left to a child. There was one: no count falls below zero (`Sound.degrees`).
def release (x : Worklist) (child : Nat) : Worklist :=
  let degrees := Function.update x.degrees child (x.degrees child - 1)
  ⟨degrees, if degrees child = 0 then x.ready ++ [child] else x.ready, x.order⟩

-- One round of the loop, unless it has ended.
def next? (links : List Link) : Worklist → Option Worklist
  | ⟨_, [], _⟩ => none
  | ⟨degrees, index :: ready, order⟩ =>
    some ((children links index).foldl release ⟨degrees, ready, order ++ [index]⟩)

def Reaches (links : List Link) : Worklist → Worklist → Prop :=
  Relation.ReflTransGen fun x y => x.next? links = some y

variable {p : Pipeline} {links : List Link} {x : Worklist}

-- Children that nothing else leads to can all be visited next.
theorem foldl_release {children : List Nat} (hnodup : children.Nodup)
    (hdegrees : ∀ child ∈ children, x.degrees child = 1) :
    (children.foldl release x).ready = x.ready ++ children ∧
      (children.foldl release x).order = x.order ∧
      ∀ index ∉ children, (children.foldl release x).degrees index = x.degrees index := by
  induction children generalizing x with
  | nil => exact ⟨(List.append_nil _).symm, rfl, fun _ _ => rfl⟩
  | cons child children ih =>
      obtain ⟨hchild, hnodup⟩ := List.nodup_cons.mp hnodup
      have hone := hdegrees child (List.mem_cons_self ..)
      have hothers : ∀ index ≠ child, (x.release child).degrees index = x.degrees index :=
        fun index hne => Function.update_of_ne hne _ _
      have hready : (x.release child).ready = x.ready ++ [child] := by simp [release, hone]
      obtain ⟨hready', horder, hkept⟩ := ih hnodup (x := x.release child) fun other hother => by
        rw [hothers other fun heq => hchild (heq ▸ hother)]
        exact hdegrees other (List.mem_cons_of_mem child hother)
      refine ⟨?_, horder, fun index hindex => ?_⟩
      · rw [List.foldl_cons, hready', hready, List.append_assoc]
        rfl
      · obtain ⟨hne, hindex⟩ := not_or.mp (List.mem_cons.not.mp hindex)
        rw [List.foldl_cons, hkept index hindex, hothers index hne]

-- What holds in every round. One pipe is left to a child until its parent has been visited, a block
-- that has been visited has made its children ready, and the rest of the order is still to come.
structure Sound (p : Pipeline) (links : List Link) (x : Worklist) : Prop where
  frontier : Frontier links x.order x.ready
  lt : ∀ index ∈ x.order ++ x.ready, index < p.blocks.length
  degrees : ∀ l ∈ links, l.source ∉ x.order → x.degrees l.target = 1
  closed : ∀ index ∈ x.order, ∀ child ∈ children links index, child ∈ x.order ++ x.ready
  visits : x.order ++ visit links (p.blocks.length - x.order.length) x.ready = p.order links

theorem start_ready (links : List Link) (count : Nat) :
    (start links count).ready = roots links count := by
  refine List.filter_congr fun index _ => ?_
  rw [parent?, Option.isNone_map, Bool.eq_iff_iff, Option.isNone_iff_eq_none, decide_eq_true_iff,
    List.countP_eq_zero, List.find?_eq_none]

namespace Sound

theorem start (h : p.Linked links) : Sound p links (start links p.blocks.length) := by
  have hready := start_ready links p.blocks.length
  refine ⟨?_, fun index hindex => ?_, fun l hl _ => ?_, fun index hindex => ?_, ?_⟩
  · rw [hready]
    exact frontier_roots links p.blocks.length
  · rw [hready] at hindex
    exact (mem_roots.mp hindex).1
  · show links.countP ((· == l.target) ∘ (·.target)) = 1
    rw [← List.countP_map]
    exact List.count_eq_one_of_mem h.distinct (List.mem_map_of_mem hl)
  · cases hindex
  · rw [hready]
    rfl

-- There are as many blocks as have been visited or can be, or more.
theorem length_le (h : Sound p links x) : x.order.length + x.ready.length ≤ p.blocks.length := by
  have hsub := List.subperm_of_subset h.frontier.nodup fun index hindex =>
    List.mem_range.mpr (h.lt index hindex)
  have hle := hsub.length_le
  rwa [List.length_append, List.length_range] at hle

-- One round visits the next block.
theorem next (h : Sound p links x) (hlinked : p.Linked links) {index : Nat} {ready : List Nat}
    (hx : x.ready = index :: ready) :
    ∃ y, x.next? links = some y ∧ y.order = x.order ++ [index] ∧ Sound p links y := by
  have hlength := h.length_le
  obtain ⟨degrees, queue, order⟩ := x
  obtain rfl : queue = index :: ready := hx
  have hindex : index ∉ order := fun hmem =>
    (List.nodup_append.mp h.frontier.nodup).2.2 index hmem index (List.mem_cons_self ..) rfl
  have hparent {l : Link} (hl : l ∈ links) (hchild : l.target ∈ children links index) :
      l.source = index := by
    have hown := parent?_of_mem_children hlinked.distinct (mem_children.mpr hl)
    rw [parent?_of_mem_children hlinked.distinct hchild] at hown
    exact (Option.some.inj hown).symm
  have hchildren : (children links index).Nodup := nodup_children hlinked.distinct
  obtain ⟨hready, horder, hkept⟩ := foldl_release (x := ⟨degrees, ready, order ++ [index]⟩)
    hchildren fun child hchild => h.degrees _ (mem_children.mp hchild) hindex
  refine ⟨_, rfl, horder, ?_⟩
  generalize (children links index).foldl release ⟨degrees, ready, order ++ [index]⟩ = y
    at hready horder hkept
  have hsplit : y.order ++ y.ready = (order ++ index :: ready) ++ children links index := by
    simp [hready, horder]
  constructor
  · rw [horder, hready]
    exact h.frontier.next hlinked.distinct
  · intro other hother
    rw [hsplit] at hother
    rcases List.mem_append.mp hother with hother | hother
    · exact h.lt other hother
    · obtain ⟨name, hname⟩ := hlinked.target _ (mem_children.mp hother)
      exact position?_lt hname
  · intro l hl hsource
    rw [horder, List.mem_append, List.mem_singleton, not_or] at hsource
    rw [hkept l.target fun hchild => hsource.2 (hparent hl hchild)]
    exact h.degrees l hl hsource.1
  · intro other hother child hchild
    rw [hsplit, List.mem_append]
    rw [horder, List.mem_append, List.mem_singleton] at hother
    rcases hother with hother | rfl
    · exact .inl (h.closed other hother child hchild)
    · exact .inr hchild
  · have hvisits := h.visits
    simp only [List.length_cons] at hlength hvisits
    obtain ⟨fuel, hfuel⟩ : ∃ fuel, p.blocks.length - order.length = fuel + 1 :=
      ⟨p.blocks.length - order.length - 1, by omega⟩
    rw [hfuel, visit] at hvisits
    rw [horder, hready, List.length_append, List.length_singleton, ← hvisits, Nat.sub_add_eq, hfuel]
    simp

-- By induction on the blocks that have not been visited.
theorem exists_end {x : Worklist} (h : Sound p links x) (hlinked : p.Linked links) :
    ∃ degrees, Reaches links x ⟨degrees, [], p.order links⟩ ∧
      Sound p links ⟨degrees, [], p.order links⟩ := by
  cases hready : x.ready with
  | nil =>
      obtain ⟨degrees, ready, order⟩ := x
      obtain rfl : ready = [] := hready
      obtain rfl : order = p.order links := by
        have hvisits := h.visits
        simp only [visit_nil, List.append_nil] at hvisits
        exact hvisits
      exact ⟨degrees, .refl, h⟩
  | cons index ready =>
      obtain ⟨y, hnext, horder, hy⟩ := h.next hlinked hready
      obtain ⟨degrees, hreaches, hend⟩ := hy.exists_end hlinked
      exact ⟨degrees, .head hnext hreaches, hend⟩
termination_by p.blocks.length - x.order.length
decreasing_by
  have hle := h.length_le
  rw [hready, List.length_cons] at hle
  rw [horder, List.length_append, List.length_singleton]
  omega

end Sound

end Worklist

-- A block that is run is followed by all that its pipes lead to.
theorem Pipeline.Linked.mem_order_of_mem_children {p : Pipeline} {links : List Link}
    (h : p.Linked links) {index child : Nat} (hindex : index ∈ p.order links)
    (hchild : child ∈ children links index) : child ∈ p.order links := by
  obtain ⟨degrees, -, hend⟩ := (Worklist.Sound.start h).exists_end h
  simpa using hend.closed index hindex child hchild

end TableFlow

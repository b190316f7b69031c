import Mathlib.Data.List.Nodup
import Mathlib.Tactic.Common

/-!
Contract: rings of doubly linked elements, given by a `next` and a `prev`
function on element names.

A ring is named by the element it is entered at and the list of the others in
`next` order. Taking the entry element out and putting an element in behind the
entry element are described by what the links are afterwards; how the links are
stored is left to the user of this module.

Owns: `Path`, `LinkedRing`, the rules `LinkedRing.unlink`, `LinkedRing.link` and
`LinkedRing.congr`, rings made of a sequence, and that `next` and `prev` are
inverse to each other on a ring.
-/

namespace MidWay.Lib

variable {α : Type}

/-- The links lead from `first` through `inner` to `last`, in both directions. -/
def Path (next prev : α → α) (first : α) : List α → α → Prop
  | [], last => next first = last ∧ prev last = first
  | element :: inner, last =>
      (next first = element ∧ prev element = first) ∧ Path next prev element inner last

/-- The elements `root :: others` in a circle. -/
structure LinkedRing (next prev : α → α) (root : α) (others : List α) : Prop where
  path : Path next prev root others root
  nodup : (root :: others).Nodup

variable {next prev next' prev' : α → α}

/-- A path uses the `next` link of every element but the last and the `prev` link
of every element but the first. -/
theorem Path.congr {first last : α} {inner : List α} (path : Path next prev first inner last)
    (sameNext : ∀ element ∈ first :: inner, next' element = next element)
    (samePrev : ∀ element ∈ inner ++ [last], prev' element = prev element) :
    Path next' prev' first inner last := by
  induction inner generalizing first with
  | nil =>
      refine ⟨?_, ?_⟩
      · rw [sameNext first (by simp)]
        exact path.1
      · rw [samePrev last (by simp)]
        exact path.2
  | cons element inner ih =>
      refine ⟨⟨?_, ?_⟩, ?_⟩
      · rw [sameNext first (by simp)]
        exact path.1.1
      · rw [samePrev element (by simp)]
        exact path.1.2
      · apply ih path.2
        · simp_all
        · simp_all

/-- The end of a path can be moved by changing the last link. -/
theorem Path.redirect {first last target : α} {inner : List α}
    (path : Path next prev first inner last) (distinct : (first :: inner).Nodup)
    (lastNext : next' ((first :: inner).getLast (by simp)) = target)
    (lastPrev : prev' target = (first :: inner).getLast (by simp))
    (sameNext : ∀ element ∈ first :: inner, element ≠ (first :: inner).getLast (by simp) →
      next' element = next element)
    (samePrev : ∀ element ∈ inner, prev' element = prev element) :
    Path next' prev' first inner target := by
  induction inner generalizing first with
  | nil => exact ⟨lastNext, lastPrev⟩
  | cons element inner ih =>
      have innerDistinct : (element :: inner).Nodup := (List.nodup_cons.mp distinct).2
      have sameLast : (first :: element :: inner).getLast (by simp) =
          (element :: inner).getLast (by simp) := List.getLast_cons (by simp)
      rw [sameLast] at lastNext lastPrev sameNext
      have firstInner : first ≠ (element :: inner).getLast (by simp) := by
        grind
      refine ⟨⟨?_, ?_⟩, ?_⟩
      · rw [sameNext first (by simp) firstInner]
        exact path.1.1
      · rw [samePrev element (by simp)]
        exact path.1.2
      · apply ih path.2 innerDistinct lastNext lastPrev
        · simp_all
        · simp_all

/-- The element in front of the end of a path. -/
theorem Path.prev_last {first last : α} {inner : List α}
    (path : Path next prev first inner last) :
    prev last = (first :: inner).getLast (by simp) := by
  induction inner generalizing first with
  | nil => exact path.2
  | cons element inner ih =>
      rw [ih path.2]
      exact (List.getLast_cons (by simp)).symm

theorem Path.next_mem {first last element : α} {inner : List α}
    (path : Path next prev first inner last) (member : element ∈ first :: inner) :
    next element ∈ inner ++ [last] ∧ prev (next element) = element := by
  induction inner generalizing first with
  | nil =>
      rcases List.mem_singleton.mp member with rfl
      rw [path.1]
      exact ⟨by simp, path.2⟩
  | cons second inner ih =>
      rcases List.mem_cons.mp member with rfl | later
      · rw [path.1.1]
        exact ⟨by simp, path.1.2⟩
      · rcases ih path.2 later with ⟨inside, back⟩
        exact ⟨List.mem_cons_of_mem second inside, back⟩

theorem Path.prev_mem {first last element : α} {inner : List α}
    (path : Path next prev first inner last) (member : element ∈ inner ++ [last]) :
    prev element ∈ first :: inner ∧ next (prev element) = element := by
  induction inner generalizing first with
  | nil =>
      rcases List.mem_singleton.mp (by simpa using member) with rfl
      rw [path.2]
      exact ⟨by simp, path.1⟩
  | cons second inner ih =>
      rcases List.mem_cons.mp member with rfl | later
      · rw [path.1.2]
        exact ⟨by simp, path.1.1⟩
      · rcases ih path.2 later with ⟨inside, forth⟩
        exact ⟨List.mem_cons_of_mem first inside, forth⟩

/-- A sequence whose members are linked one to the next is a path. -/
theorem Path.of_sequence (sequence : Nat → α) (start count : Nat) {last : α}
    (links : ∀ i, start ≤ i → i < start + count →
      next (sequence i) = sequence (i + 1) ∧ prev (sequence (i + 1)) = sequence i)
    (closing : next (sequence (start + count)) = last ∧
      prev last = sequence (start + count)) :
    Path next prev (sequence start) ((List.range' (start + 1) count).map sequence) last := by
  induction count generalizing start with
  | zero => exact closing
  | succ count ih =>
      rw [List.range'_succ, List.map_cons]
      refine ⟨links start (Nat.le_refl start) (by omega), ?_⟩
      apply ih
      · grind
      · grind

variable {root : α} {others : List α}

theorem LinkedRing.congr (ring : LinkedRing next prev root others)
    (sameNext : ∀ element ∈ root :: others, next' element = next element)
    (samePrev : ∀ element ∈ root :: others, prev' element = prev element) :
    LinkedRing next' prev' root others := by
  refine ⟨ring.path.congr sameNext ?_, ring.nodup⟩
  intro element member
  apply samePrev
  simpa [or_comm] using member

/-- On a ring the links stay inside and are inverse to each other. -/
theorem LinkedRing.inverse (ring : LinkedRing next prev root others) {element : α}
    (member : element ∈ root :: others) :
    (next element ∈ root :: others ∧ prev (next element) = element) ∧
      prev element ∈ root :: others ∧ next (prev element) = element := by
  constructor
  · rcases ring.path.next_mem member with ⟨inside, back⟩
    exact ⟨by simpa [or_comm] using inside, back⟩
  · exact ring.path.prev_mem (by simpa [or_comm] using member)

/-- The entry element of a ring of two or more, and its neighbours. -/
theorem LinkedRing.neighbours {second : α} (ring : LinkedRing next prev root (second :: others)) :
    next root = second ∧ prev root = (second :: others).getLast (by simp) := by
  refine ⟨ring.path.1.1, ?_⟩
  rw [ring.path.prev_last]
  exact List.getLast_cons (by simp)

/-- Take the entry element out: its neighbours are linked to each other, all
other links stay, and the ring is entered at its successor. -/
theorem LinkedRing.unlink {second : α} (ring : LinkedRing next prev root (second :: others))
    (lastNext : next' (prev root) = second) (secondPrev : prev' second = prev root)
    (sameNext : ∀ element ∈ second :: others, element ≠ prev root →
      next' element = next element)
    (samePrev : ∀ element ∈ others, prev' element = prev element) :
    LinkedRing next' prev' second others := by
  have distinct := (List.nodup_cons.mp ring.nodup).2
  have last := ring.neighbours.2
  rw [last] at lastNext secondPrev sameNext
  exact ⟨ring.path.2.redirect distinct lastNext secondPrev sameNext samePrev, distinct⟩

/-- Put an element in between the entry element and its successor. -/
theorem LinkedRing.link {element : α} (ring : LinkedRing next prev root others)
    (fresh : element ∉ root :: others)
    (rootNext : next' root = element) (elementPrev : prev' element = root)
    (elementNext : next' element = next root) (secondPrev : prev' (next root) = element)
    (sameNext : ∀ other ∈ others, next' other = next other)
    (samePrev : ∀ other ∈ root :: others, other ≠ next root → prev' other = prev other) :
    LinkedRing next' prev' root (element :: others) := by
  have distinct := List.nodup_cons.mp ring.nodup
  have elementFresh : element ≠ root ∧ element ∉ others := by simpa using fresh
  have newDistinct : (root :: element :: others).Nodup := by
    grind
  refine ⟨⟨⟨rootNext, elementPrev⟩, ?_⟩, newDistinct⟩
  cases others with
  | nil =>
      have self : next root = root := ring.path.1
      rw [self] at elementNext secondPrev
      exact ⟨elementNext, secondPrev⟩
  | cons second others =>
      have successor : next root = second := ring.path.1.1
      rw [successor] at elementNext secondPrev samePrev
      refine ⟨⟨elementNext, secondPrev⟩, ?_⟩
      apply ring.path.2.congr sameNext
      intro other member
      have inRing : other ∈ root :: second :: others := by
        grind
      apply samePrev other inRing
      rintro rfl
      simp only [List.mem_append, List.mem_singleton] at member
      rcases member with inOthers | isRoot
      · exact (List.nodup_cons.mp distinct.2).1 inOthers
      · exact distinct.1 (by simp [isRoot])

end MidWay.Lib

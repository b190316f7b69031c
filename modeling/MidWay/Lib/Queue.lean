import Mathlib.Data.List.Nodup
import Mathlib.Tactic.Common

/-!
Contract: queues whose elements hold their own links.

A queue has an element at each end, and every element names the one behind it and
the one in front of it; the outer links name none. An element is put in front of the
first one or taken from the end, by changing the links beside it.

Owns: `Linked` and `Queue`, and the rules `Queue.single`, `Queue.cons` and
`Queue.dropLast`.
-/

namespace MidWay.Lib

variable {α : Type}

/-- The links of the elements of a list, whose first one has `before` in front of it. -/
def Linked (next prev : α → Option α) : Option α → List α → Prop
  | _, [] => True
  | before, element :: rest =>
      prev element = before ∧ next element = rest.head? ∧
        Linked next prev (some element) rest

structure Queue (next prev : α → Option α) (first last : Option α) (elements : List α) : Prop where
  nodup : elements.Nodup
  first : first = elements.head?
  last : last = elements.getLast?
  linked : Linked next prev none elements

variable {next prev next' prev' : α → Option α} {first last before : Option α}
  {elements : List α}

/-- Links elsewhere do not matter. -/
theorem Linked.congr (linked : Linked next prev before elements)
    (sameNext : ∀ element ∈ elements, next' element = next element)
    (samePrev : ∀ element ∈ elements, prev' element = prev element) :
    Linked next' prev' before elements := by
  induction elements generalizing before with
  | nil => trivial
  | cons element rest ih =>
      rcases linked with ⟨front, behind, later⟩
      refine ⟨?_, ?_, ih later ?_ ?_⟩
      · rw [samePrev element List.mem_cons_self, front]
      · rw [sameNext element List.mem_cons_self, behind]
      · exact fun other member => sameNext other (List.mem_cons_of_mem _ member)
      · exact fun other member => samePrev other (List.mem_cons_of_mem _ member)

/-- Behind another element, every element has one in front of it. -/
theorem Linked.prev_ne_none {front : α} (linked : Linked next prev (some front) elements)
    {element : α} (member : element ∈ elements) : prev element ≠ none := by
  induction elements generalizing front with
  | nil => cases member
  | cons head rest ih =>
      rcases List.mem_cons.mp member with rfl | inRest
      · rw [linked.1]
        exact Option.some_ne_none front
      · exact ih linked.2.2 inRest

/-- The element in front of the last one. -/
theorem Linked.prev_last {list : List α} {second element : α}
    (linked : Linked next prev before (list ++ [second, element])) :
    prev element = some second := by
  induction list generalizing before with
  | nil => exact linked.2.2.1
  | cons _ rest ih => exact ih linked.2.2

theorem Linked.next_last {list : List α} {element : α}
    (linked : Linked next prev before (list ++ [element])) : next element = none := by
  induction list generalizing before with
  | nil => exact linked.2.1
  | cons _ rest ih => exact ih linked.2.2

/-- The last element is cut off. -/
theorem Linked.dropLast {list : List α} {second element : α}
    (linked : Linked next prev before (list ++ [second, element]))
    (atEnd : next' second = none) (sameNext : ∀ other ∈ list, next' other = next other)
    (samePrev : ∀ other ∈ list ++ [second], prev' other = prev other) :
    Linked next' prev' before (list ++ [second]) := by
  induction list generalizing before with
  | nil => exact ⟨(samePrev second (by simp)).trans linked.1, atEnd, trivial⟩
  | cons other rest ih =>
      rcases linked with ⟨front, behind, later⟩
      have sameHead : (rest ++ [second, element]).head? = (rest ++ [second]).head? := by
        simp
      refine ⟨?_, ?_, ih later ?_ ?_⟩
      · rw [samePrev other (by simp), front]
      · exact (sameNext other List.mem_cons_self).trans (behind.trans sameHead)
      · exact fun member inRest => sameNext member (List.mem_cons_of_mem _ inRest)
      · exact fun member inRest => samePrev member (List.mem_cons_of_mem _ inRest)

/-- Whoever follows the links to an element meets it. -/
theorem Linked.follows {list later : List α} {element : α}
    (linked : Linked next prev before (list ++ element :: later)) {other : Option α}
    {followed : List α} (follows : Linked next' prev' other followed)
    (sameHead : followed.head? = (list ++ element :: later).head?)
    (sameNext : ∀ member ∈ list, next' member = next member) : element ∈ followed := by
  induction list generalizing before other followed with
  | nil => exact List.mem_of_mem_head? (Option.mem_def.mpr sameHead)
  | cons start rest ih =>
      cases followed with
      | nil => cases sameHead
      | cons here behind =>
          have isStart : here = start := Option.some.inj sameHead
          subst isStart
          refine List.mem_cons_of_mem _ (ih linked.2.2 follows.2.2 ?_ ?_)
          · rw [← follows.2.1, sameNext here List.mem_cons_self]
            exact linked.2.1
          · exact fun member inRest => sameNext member (List.mem_cons_of_mem _ inRest)

theorem Queue.empty (next prev : α → Option α) : Queue next prev none none [] :=
  ⟨List.nodup_nil, rfl, rfl, trivial⟩

/-- An element is the first one or has one in front of it. -/
theorem Queue.first_or_prev (queue : Queue next prev first last elements) {element : α}
    (member : element ∈ elements) : first = some element ∨ prev element ≠ none := by
  cases elements with
  | nil => cases member
  | cons head rest =>
      rcases List.mem_cons.mp member with rfl | inRest
      · exact Or.inl queue.first
      · exact Or.inr (queue.linked.2.2.prev_ne_none inRest)

theorem Queue.congr (queue : Queue next prev first last elements)
    (sameNext : ∀ element ∈ elements, next' element = next element)
    (samePrev : ∀ element ∈ elements, prev' element = prev element) :
    Queue next' prev' first last elements :=
  ⟨queue.nodup, queue.first, queue.last, queue.linked.congr sameNext samePrev⟩

theorem Queue.single {element : α} (noNext : next element = none) (noPrev : prev element = none) :
    Queue next prev (some element) (some element) [element] :=
  ⟨List.nodup_singleton element, rfl, rfl, noPrev, noNext, trivial⟩

/-- An element is put in front. -/
theorem Queue.cons {head element : α} {rest : List α}
    (queue : Queue next prev first last (head :: rest)) (fresh : element ∉ head :: rest)
    (toHead : next' element = some head) (noPrev : prev' element = none)
    (back : prev' head = some element)
    (sameNext : ∀ other ∈ head :: rest, next' other = next other)
    (samePrev : ∀ other ∈ rest, prev' other = prev other) :
    Queue next' prev' (some element) last (element :: head :: rest) := by
  refine ⟨List.nodup_cons.mpr ⟨fresh, queue.nodup⟩, rfl, ?_, noPrev, toHead, back, ?_, ?_⟩
  · simp [queue.last]
  · exact (sameNext head List.mem_cons_self).trans queue.linked.2.1
  · exact queue.linked.2.2.congr
      (fun other member => sameNext other (List.mem_cons_of_mem _ member)) samePrev

/-- The last element is taken away. -/
theorem Queue.dropLast {list : List α} {second element : α}
    (queue : Queue next prev first last (list ++ [second, element]))
    (atEnd : next' second = none) (sameNext : ∀ other ∈ list, next' other = next other)
    (samePrev : ∀ other ∈ list ++ [second], prev' other = prev other) :
    Queue next' prev' first (some second) (list ++ [second]) := by
  have split : list ++ [second, element] = (list ++ [second]) ++ [element] := by simp
  refine ⟨?_, ?_, ?_, queue.linked.dropLast atEnd sameNext samePrev⟩
  · have nodup := queue.nodup
    rw [split] at nodup
    exact (List.nodup_append.mp nodup).1
  · simp [queue.first]
  · simp

end MidWay.Lib

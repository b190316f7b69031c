import Mathlib.Data.List.Nodup
import Mathlib.Logic.Function.Basic
import Mathlib.Tactic.Common

/-!
Contract: singly linked lists with a pointer to the first and one to the last element.

A list is what its pointers reach: from the head on, each cell has its value and the
address of the next one. A loop that goes on too long, or comes to an address without a
cell, is a fault.

Owns: `TailedList`, what it holds, and the rules for a walk along the list, for an
element put at its end or changed, and for elements taken out of it.
-/

namespace MidWay.Lib

variable {α Value : Type}

structure ListCell (α Value : Type) where
  next : Option α
  value : Value

structure TailedList (α Value : Type) where
  head : Option α
  tail : Option α
  cells : α → Option (ListCell α Value)

inductive ListFault where
  | wild
  | endless
deriving DecidableEq

/-- A loop along the list, to the first cell that passes the test. -/
def walk (cells : α → Option (ListCell α Value)) (test : ListCell α Value → Bool) :
    Nat → Option α → Except ListFault (Option α)
  | _, none => .ok none
  | 0, some _ => .error .endless
  | turns + 1, some place =>
      match cells place with
      | none => .error .wild
      | some cell => if test cell then .ok (some place) else walk cells test turns cell.next

section

variable [DecidableEq α]

def TailedList.setNext (list : TailedList α Value) (place : α) (next : Option α) :
    TailedList α Value :=
  { list with
    cells := Function.update list.cells place
      ((list.cells place).map fun cell => { cell with next := next }) }

/-- The value of an element is changed in its cell. -/
def TailedList.setValue (list : TailedList α Value) (place : α) (set : Value → Value) :
    TailedList α Value :=
  { list with
    cells := Function.update list.cells place
      ((list.cells place).map fun cell => { cell with value := set cell.value }) }

/-- A new cell behind the last one, if there is one. -/
def TailedList.append (list : TailedList α Value) (place : α) (value : Value) :
    TailedList α Value :=
  let list := { list with cells := Function.update list.cells place (some ⟨none, value⟩) }
  match list.tail with
  | some last => { list.setNext last (some place) with tail := some place }
  | none => { list with head := some place, tail := some place }

/-- The element at `place` is bypassed by the one before it, and its cell freed. -/
def TailedList.bypass (list : TailedList α Value) (before place : α) (next : Option α) :
    TailedList α Value :=
  { head := list.head
    tail := if list.tail = some place then some before else list.tail
    cells := Function.update (list.setNext before next).cells place none }

def TailedList.unlink (turns : Nat) (list : TailedList α Value) (place : α) :
    Except ListFault (TailedList α Value) :=
  match list.cells place with
  | none => .error .wild
  | some cell =>
      if list.head = some place then
        .ok { list with
          head := cell.next
          tail := if list.tail = some place then cell.next else list.tail }
      else
        match walk list.cells (fun other => other.next == some place) turns list.head with
        | .error fault => .error fault
        | .ok none => .ok list
        | .ok (some before) =>
            .ok { list.setNext before cell.next with
              tail := if list.tail = some place then some before else list.tail }

def TailedList.remove (turns : Nat) (list : TailedList α Value) (place : α) :
    Except ListFault (TailedList α Value) :=
  match list.unlink turns place with
  | .error fault => .error fault
  | .ok after => .ok { after with cells := Function.update after.cells place none }

/-- A walk that removes what passes the test; the next element is looked up before. -/
def TailedList.removeAll (bound : Nat) (test : Value → Bool) :
    Nat → Option α → TailedList α Value → Except ListFault (TailedList α Value)
  | _, none, list => .ok list
  | 0, some _, _ => .error .endless
  | turns + 1, some place, list =>
      match list.cells place with
      | none => .error .wild
      | some cell =>
          if test cell.value then
            match list.remove bound place with
            | .error fault => .error fault
            | .ok after => after.removeAll bound test turns cell.next
          else list.removeAll bound test turns cell.next

end

/-- From this pointer on there are these elements, and behind them the pointer `stop`. -/
def ListSegment (cells : α → Option (ListCell α Value)) :
    Option α → List (α × Value) → Option α → Prop
  | place, [], stop => place = stop
  | place, entry :: rest, stop =>
      place = some entry.1 ∧ ∃ next, cells entry.1 = some ⟨next, entry.2⟩ ∧
        ListSegment cells next rest stop

section

variable {cells cells' : α → Option (ListCell α Value)} {place stop : Option α}
  {contents front back : List (α × Value)}

theorem segment_append_iff : ListSegment cells place (front ++ back) stop ↔
    ∃ middle, ListSegment cells place front middle ∧ ListSegment cells middle back stop := by
  induction front generalizing place with
  | nil =>
      constructor
      · intro segment
        exact ⟨place, rfl, segment⟩
      · intro ⟨middle, isPlace, segment⟩
        rw [isPlace]
        exact segment
  | cons entry rest ih =>
      constructor
      · intro ⟨isPlace, next, isCell, segment⟩
        obtain ⟨middle, before, behind⟩ := ih.mp segment
        exact ⟨middle, ⟨isPlace, next, isCell, before⟩, behind⟩
      · intro ⟨middle, ⟨isPlace, next, isCell, before⟩, behind⟩
        exact ⟨isPlace, next, isCell, ih.mpr ⟨middle, before, behind⟩⟩

/-- Cells elsewhere do not matter. -/
theorem ListSegment.congr (segment : ListSegment cells place contents stop)
    (same : ∀ entry ∈ contents, cells' entry.1 = cells entry.1) :
    ListSegment cells' place contents stop := by
  induction contents generalizing place with
  | nil => exact segment
  | cons entry rest ih =>
      obtain ⟨isPlace, next, isCell, behind⟩ := segment
      refine ⟨isPlace, next, (same entry List.mem_cons_self).trans isCell, ?_⟩
      exact ih behind fun other member => same other (List.mem_cons_of_mem _ member)

/-- A list starts at its first element. -/
theorem ListSegment.start (segment : ListSegment cells place contents none) :
    place = contents.head?.map Prod.fst := by
  cases contents with
  | nil => exact segment
  | cons entry rest => exact segment.1

/-- The elements that a pointer reaches. -/
theorem ListSegment.unique {one two : List (α × Value)} (first : ListSegment cells place one none)
    (second : ListSegment cells place two none) : one = two := by
  induction one generalizing place two with
  | nil =>
      have isEnd : place = none := first
      cases two with
      | nil => rfl
      | cons entry rest =>
          rw [isEnd] at second
          cases second.1
  | cons entry rest ih =>
      obtain ⟨isPlace, next, isCell, behind⟩ := first
      cases two with
      | nil =>
          have isEnd : place = none := second
          rw [isEnd] at isPlace
          cases isPlace
      | cons other later =>
          obtain ⟨isOther, otherNext, otherCell, otherBehind⟩ := second
          have sameAddress : entry.1 = other.1 := Option.some.inj (isPlace.symm.trans isOther)
          rw [← sameAddress, isCell, Option.some.injEq, ListCell.mk.injEq] at otherCell
          rw [← otherCell.1] at otherBehind
          rw [ih behind otherBehind, Prod.ext sameAddress otherCell.2]

/-- No element is met twice. -/
theorem ListSegment.nodup (segment : ListSegment cells place contents none) :
    (contents.map Prod.fst).Nodup := by
  induction contents generalizing place with
  | nil => exact List.nodup_nil
  | cons entry rest ih =>
      obtain ⟨_, next, isCell, behind⟩ := segment
      rw [List.map_cons, List.nodup_cons]
      refine ⟨?_, ih behind⟩
      intro again
      obtain ⟨other, member, sameAddress⟩ := List.mem_map.mp again
      obtain ⟨front, back, rfl⟩ := List.append_of_mem member
      obtain ⟨middle, _, later⟩ := segment_append_iff.mp behind
      -- the rest of the list from the second meeting on would be all of it
      have here : ListSegment cells middle (entry :: (front ++ other :: back)) none :=
        ⟨later.1.trans (congrArg some sameAddress), next, isCell, behind⟩
      have lengths := congrArg List.length (later.unique here)
      rw [List.length_cons, List.length_cons, List.length_append, List.length_cons] at lengths
      omega

/-- A test of the values finds the first element that passes. -/
theorem ListSegment.walk_value (segment : ListSegment cells place contents none) (test : Value → Bool)
    {turns : Nat} (enough : contents.length ≤ turns) :
    walk cells (fun cell => test cell.value) turns place =
      .ok ((contents.find? fun entry => test entry.2).map Prod.fst) := by
  induction contents generalizing place turns with
  | nil =>
      have isEnd : place = none := segment
      rw [isEnd, walk]
      rfl
  | cons entry rest ih =>
      obtain ⟨rfl, next, isCell, behind⟩ := segment
      cases turns with
      | zero => exact absurd enough (Nat.not_succ_le_zero _)
      | succ turns =>
          rw [walk, isCell, List.find?_cons]
          dsimp only
          cases test entry.2 with
          | true => rfl
          | false =>
              simp_all

/-- The element in front of another one is found by its pointer. -/
theorem ListSegment.walk_previous [DecidableEq α] {before : α × Value} {target : α}
    (segment : ListSegment cells place (front ++ [before]) (some target))
    (isOther : ∀ entry ∈ front ++ [before], entry.1 ≠ target) {turns : Nat}
    (enough : front.length < turns) :
    walk cells (fun cell => cell.next == some target) turns place = .ok (some before.1) := by
  induction front generalizing place turns with
  | nil =>
      obtain ⟨rfl, next, isCell, rfl⟩ := segment
      cases turns with
      | zero => exact absurd enough (Nat.not_lt_zero _)
      | succ turns =>
          simp [walk, isCell]
  | cons entry rest ih =>
      obtain ⟨rfl, next, isCell, behind⟩ := segment
      rw [List.cons_append, List.forall_mem_cons] at isOther
      have notTarget : ¬(next == some target) = true := by
        intro same
        have isNext : next = some target := eq_of_beq same
        cases rest with
        | nil =>
            have second := isNext.symm.trans behind.1
            exact isOther.2 before List.mem_cons_self (Option.some.inj second).symm
        | cons second others =>
            have sameSecond := isNext.symm.trans behind.1
            exact isOther.2 second List.mem_cons_self (Option.some.inj sameSecond).symm
      cases turns with
      | zero => exact absurd enough (Nat.not_lt_zero _)
      | succ turns =>
          simp_all [walk]

end

structure TailedList.Holds (list : TailedList α Value) (contents : List (α × Value)) : Prop where
  segment : ListSegment list.cells list.head contents none
  tail : list.tail = contents.getLast?.map Prod.fst

section

variable {list after : TailedList α Value} {contents front back : List (α × Value)}

theorem TailedList.Holds.unique {other : List (α × Value)} (holds : list.Holds contents)
    (again : list.Holds other) : contents = other :=
  holds.segment.unique again.segment

theorem TailedList.Holds.cell {entry : α × Value} (holds : list.Holds (front ++ entry :: back)) :
    ∃ next, list.cells entry.1 = some ⟨next, entry.2⟩ ∧ ListSegment list.cells next back none := by
  obtain ⟨_, _, _, next, isCell, behind⟩ := segment_append_iff.mp holds.segment
  exact ⟨next, isCell, behind⟩

/-- An address of the list has a cell. -/
theorem TailedList.Holds.ne_none (holds : list.Holds contents) {entry : α × Value}
    (member : entry ∈ contents) : list.cells entry.1 ≠ none := by
  obtain ⟨front, back, rfl⟩ := List.append_of_mem member
  obtain ⟨next, isCell, _⟩ := holds.cell
  rw [isCell]
  exact Option.some_ne_none _

theorem TailedList.Holds.apart {entry : α × Value} (holds : list.Holds (front ++ entry :: back)) :
    ∀ other ∈ front ++ back, other.1 ≠ entry.1 := by
  have distinct := holds.segment.nodup
  rw [List.map_append, List.map_cons, List.nodup_middle, List.nodup_cons, ← List.map_append]
    at distinct
  intro other member same
  exact distinct.1 (List.mem_map.mpr ⟨other, member, same⟩)

/-- The tail points to the last element only. -/
theorem TailedList.Holds.tail_iff {entry : α × Value} (holds : list.Holds (front ++ entry :: back)) :
    list.tail = some entry.1 ↔ back = [] := by
  have apart := holds.apart
  rw [holds.tail, List.getLast?_append_of_ne_nil _ (List.cons_ne_nil _ _)]
  constructor
  · grind
  · simp_all

variable [DecidableEq α]

/-- A fresh cell is put at the end. -/
theorem TailedList.Holds.append (holds : list.Holds contents) {place : α}
    (fresh : list.cells place = none) (value : Value) :
    (list.append place value).Holds (contents ++ [(place, value)]) := by
  have isOther : ∀ entry ∈ contents, entry.1 ≠ place := by
    intro entry member same
    exact holds.ne_none member (same ▸ fresh)
  obtain rfl | ⟨front, last, rfl⟩ := List.eq_nil_or_concat' contents
  · have noTail : list.tail = none := holds.tail
    unfold TailedList.append
    dsimp only
    rw [noTail]
    exact ⟨⟨rfl, none, Function.update_self _ _ _, rfl⟩, rfl⟩
  · have isTail : list.tail = some last.1 := by
      rw [holds.tail, List.getLast?_append_of_ne_nil _ (List.cons_ne_nil _ _)]
      rfl
    obtain ⟨middle, before, rfl, next, isCell, rfl⟩ := segment_append_iff.mp holds.segment
    have lastOther : last.1 ≠ place := isOther last (List.mem_append_right _ List.mem_cons_self)
    have apart := holds.apart
    rw [List.append_nil] at apart
    unfold TailedList.append
    dsimp only
    rw [isTail]
    refine ⟨?_, ?_⟩
    · dsimp only [TailedList.setNext]
      rw [Function.update_of_ne lastOther, isCell, Option.map_some]
      apply segment_append_iff.mpr
      refine ⟨some place, segment_append_iff.mpr ⟨some last.1, before.congr ?_, rfl, some place, ?_,
        rfl⟩, rfl, none, ?_, rfl⟩
      · intro entry member
        rw [Function.update_of_ne (apart entry member), Function.update_of_ne]
        exact isOther entry (List.mem_append_left _ member)
      · exact Function.update_self _ _ _
      · rw [Function.update_of_ne lastOther.symm, Function.update_self]
    · simp

/-- The list has the same elements, and one of them has another value. -/
theorem TailedList.Holds.setValue {entry : α × Value} (holds : list.Holds (front ++ entry :: back))
    (set : Value → Value) :
    (list.setValue entry.1 set).Holds (front ++ (entry.1, set entry.2) :: back) := by
  have apart := holds.apart
  obtain ⟨middle, before, isPlace, next, isCell, behind⟩ := segment_append_iff.mp holds.segment
  refine ⟨?_, ?_⟩
  · dsimp only [TailedList.setValue]
    rw [isCell, Option.map_some]
    apply segment_append_iff.mpr
    refine ⟨middle, before.congr ?_, isPlace, next, Function.update_self _ _ _, behind.congr ?_⟩
    · intro other member
      exact Function.update_of_ne (apart other (List.mem_append_left _ member)) _ _
    · intro other member
      exact Function.update_of_ne (apart other (List.mem_append_right _ member)) _ _
  · have sameTail := holds.tail
    rw [List.getLast?_append_of_ne_nil _ (List.cons_ne_nil _ _), List.getLast?_cons] at sameTail
    rw [List.getLast?_append_of_ne_nil _ (List.cons_ne_nil _ _), List.getLast?_cons]
    change list.tail = _
    rw [sameTail]
    cases back.getLast? with
    | none => rfl
    | some last => rfl

/-- An element behind another one goes. -/
theorem TailedList.Holds.bypass {previous entry : α × Value}
    (holds : list.Holds (front ++ previous :: entry :: back)) {next : Option α}
    (isCell : list.cells entry.1 = some ⟨next, entry.2⟩) :
    (list.bypass previous.1 entry.1 next).Holds (front ++ previous :: back) := by
  have previousApart := holds.apart
  have listEnd := holds.tail
  obtain ⟨middle, first, rfl, _, previousCell, _, again, entryCell, behind⟩ :=
    segment_append_iff.mp holds.segment
  rw [isCell] at entryCell
  cases entryCell
  have holdsEntry : list.Holds ((front ++ [previous]) ++ entry :: back) := by
    simp [List.append_assoc, holds]
  have apart := holdsEntry.apart
  refine ⟨?_, ?_⟩
  · apply segment_append_iff.mpr
    dsimp only [TailedList.bypass, TailedList.setNext]
    rw [previousCell, Option.map_some]
    refine ⟨some previous.1, first.congr ?_, rfl, next, ?_, behind.congr ?_⟩
    · intro other member
      rw [Function.update_of_ne (apart other (by simp [member])),
        Function.update_of_ne (previousApart other (List.mem_append_left _ member))]
    · rw [Function.update_of_ne (apart previous (by simp)), Function.update_self]
    · intro other member
      rw [Function.update_of_ne (apart other (by simp [member])),
        Function.update_of_ne (previousApart other (by simp [member]))]
  · change (if list.tail = some entry.1 then some previous.1 else list.tail) = _
    by_cases alone : back = []
    · simp_all
    · rw [if_neg (mt holdsEntry.tail_iff.mp alone), listEnd,
        List.getLast?_append_of_ne_nil _ (List.cons_ne_nil _ _),
        List.getLast?_append_of_ne_nil _ (List.cons_ne_nil _ _),
        List.getLast?_cons_of_ne_nil (List.cons_ne_nil _ _), List.getLast?_cons_of_ne_nil alone,
        List.getLast?_cons_of_ne_nil alone]

/-- One element goes, and the others keep their order. -/
theorem TailedList.Holds.remove {entry : α × Value} (holds : list.Holds (front ++ entry :: back))
    {turns : Nat} (enough : (front ++ entry :: back).length ≤ turns) :
    ∃ after, list.remove turns entry.1 = .ok after ∧ after.Holds (front ++ back) := by
  have apart := holds.apart
  have endsAt := holds.tail_iff
  obtain ⟨middle, before, rfl, next, isCell, behind⟩ := segment_append_iff.mp holds.segment
  rw [TailedList.remove, TailedList.unlink, isCell]
  dsimp only
  obtain rfl | ⟨others, previous, rfl⟩ := List.eq_nil_or_concat' front
  · have isHead : list.head = some entry.1 := before
    rw [if_pos isHead]
    refine ⟨_, rfl, ?_, ?_⟩
    · apply behind.congr
      intro other member
      exact Function.update_of_ne (apart other member) _ _
    · by_cases alone : back = []
      · simp_all [behind.start]
      · rw [if_neg (mt endsAt.mp alone), holds.tail, List.nil_append, List.nil_append,
          List.getLast?_cons_of_ne_nil alone]
  · have notHead : list.head ≠ some entry.1 := by
      intro isHead
      have start := holds.segment.start
      rw [isHead] at start
      cases others with
      | nil => exact apart previous (by simp) (Option.some.inj start).symm
      | cons first rest => exact apart first (by simp) (Option.some.inj start).symm
    have inTurns : others.length < turns := by
      grind
    have found := before.walk_previous
      (fun other member => apart other (List.mem_append_left _ member)) inTurns
    rw [List.append_assoc, List.singleton_append] at holds
    rw [if_neg notHead, found, List.append_assoc]
    exact ⟨_, rfl, holds.bypass isCell⟩

/-- All elements that pass the test go, and the others keep their order. -/
theorem TailedList.Holds.removeAll {bound : Nat} (test : Value → Bool)
    (holds : list.Holds (front ++ back)) (bounded : (front ++ back).length ≤ bound) {turns : Nat}
    (enough : back.length ≤ turns) :
    ∃ after, list.removeAll bound test turns (back.head?.map Prod.fst) = .ok after ∧
      after.Holds (front ++ back.filter fun entry => !test entry.2) := by
  induction back generalizing front list turns with
  | nil => exact ⟨list, by rw [List.head?_nil, Option.map_none, TailedList.removeAll], holds⟩
  | cons entry rest ih =>
      obtain ⟨next, isCell, behind⟩ := holds.cell
      cases turns with
      | zero => exact absurd enough (Nat.not_succ_le_zero _)
      | succ turns =>
          have shorter : rest.length ≤ turns := Nat.le_of_succ_le_succ enough
          rw [List.head?_cons, Option.map_some, TailedList.removeAll, isCell, behind.start]
          dsimp only
          cases passes : test entry.2 with
          | true =>
              obtain ⟨without, removed, holdsWithout⟩ := holds.remove bounded
              have fewer : (front ++ rest).length ≤ bound := by
                grind
              obtain ⟨after, result, holdsAfter⟩ :=
                ih holdsWithout fewer shorter
              rw [if_pos rfl, removed]
              refine ⟨after, result, ?_⟩
              rw [List.filter_cons_of_neg (by rw [passes]; decide)]
              exact holdsAfter
          | false =>
              rw [← List.singleton_append, ← List.append_assoc] at holds bounded
              obtain ⟨after, result, holdsAfter⟩ := ih holds bounded shorter
              rw [if_neg Bool.false_ne_true]
              refine ⟨after, result, ?_⟩
              rw [List.filter_cons_of_pos (by rw [passes]; decide), ← List.singleton_append,
                ← List.append_assoc]
              exact holdsAfter

end

end MidWay.Lib

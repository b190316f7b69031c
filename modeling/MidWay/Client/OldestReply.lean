import MidWay.CLib.Bytes
import MidWay.Lib.Runs
import MidWay.Lib.TailedList

/-!
Contract: the two queues of replies that wait to be fetched.

The queue of the SRB client is pushed in front, and the oldest match is the last one that its
loop meets. The queue of the IPC library is pushed behind, and its elements come from a free
list and go back to it. Only one element is treated apart, and so is any handle.

Owns: `popCRqueue`, `pushCallReply` and `popCallReplyByHandle` over linked elements, that both
queues give the oldest match and keep the others in their order, and the runs of the second.
-/

namespace MidWay.Client.OldestReply

open MidWay.CLib MidWay.Lib

/-- A pointer to the pointer at the head of a queue, or to the one in an element. -/
abbrev Place := Option Nat

abbrev Cells (Value : Type) := Nat → Option (ListCell Nat Value)

/-- `malloc` takes cells from where there are none. -/
structure Linked (Value : Type) where
  head : Option Nat
  cells : Cells Value

variable {Value : Type}

def Linked.read (queue : Linked Value) : Place → Option Nat
  | none => queue.head
  | some elm => (queue.cells elm).bind fun cell => cell.next

def Linked.write (queue : Linked Value) (next : Option Nat) : Place → Linked Value
  | none => { queue with head := next }
  | some elm =>
      { queue with
        cells := Function.update queue.cells elm
          ((queue.cells elm).map fun cell => { cell with next := next }) }

/-- The loop to the last element. Its predecessor is held by the place in it. -/
def lastLoop (cells : Cells Value) : Nat → Place → Nat → Except ListFault (Place × Nat)
  | 0, _, _ => .error .endless
  | turns + 1, creprev, crethis =>
      match cells crethis with
      | none => .error .wild
      | some cell =>
          match cell.next with
          | none => .ok (creprev, crethis)
          | some next => lastLoop cells turns (some crethis) next

/-- The loop over all elements, with the place that leads to the last match. -/
def matchLoop (cells : Cells Value) (test : Value → Bool) :
    Nat → Place → Option Place → Option Nat → Except ListFault (Option Place)
  | _, _, creprevmatch, none => .ok creprevmatch
  | 0, _, _, some _ => .error .endless
  | turns + 1, creprev, creprevmatch, some crethis =>
      match cells crethis with
      | none => .error .wild
      | some cell =>
          matchLoop cells test turns (some crethis)
            (if test cell.value then some creprev else creprevmatch) cell.next

def Linked.take (queue : Linked Value) (place : Place) :
    Except ListFault (Option Nat × Linked Value) :=
  match queue.read place with
  | none => .error .wild
  | some crethis =>
      match queue.cells crethis with
      | none => .error .wild
      | some cell => .ok (some crethis, queue.write cell.next place)

/-- The test of an element. No handle is any handle. -/
def hasHandle (handleOf : Value → List Byte) (handle : Option (List Byte)) (value : Value) : Bool :=
  handle.all fun handle => strcaseeq (cstr (handleOf value)) (cstr handle)

def popCRqueue (handleOf : Value → List Byte) (turns : Nat) (queue : Linked Value)
    (handle : Option (List Byte)) : Except ListFault (Option Nat × Linked Value) :=
  match queue.head with
  | none => .ok (none, queue)
  | some only =>
      match queue.cells only with
      | none => .error .wild
      | some first =>
          match first.next with
          | none =>
              if hasHandle handleOf handle first.value then
                .ok (some only, { queue with head := none })
              else .ok (none, queue)
          | some second =>
              if handle = none then
                (lastLoop queue.cells turns (some only) second).map fun found =>
                  (some found.2, queue.write none found.1)
              else
                match matchLoop queue.cells (hasHandle handleOf handle) turns none none queue.head
                  with
                | .error fault => .error fault
                | .ok none => .ok (none, queue)
                | .ok (some creprevmatch) => queue.take creprevmatch

/-- The cell at the head of the queue, as both places in `pushCRqueue` put it there. -/
def pushCRqueue (queue : Linked Value) (crelm : Nat) (value : Value) : Linked Value :=
  ⟨some crelm, Function.update queue.cells crelm (some ⟨queue.head, value⟩)⟩

/-- A value of `none` is a null pointer. -/
structure IpcQueue (Value : Type) extends Linked (Option Value) where
  callReplyFreeList : Option Nat

def endLoop (cells : Cells Value) : Nat → Place → Option Nat → Except ListFault Place
  | _, pplast, none => .ok pplast
  | 0, _, some _ => .error .endless
  | turns + 1, _, some elm =>
      match cells elm with
      | none => .error .wild
      | some cell => endLoop cells turns (some elm) cell.next

/-- A new element is at `fresh`. -/
def pushCallReply (turns fresh : Nat) (queue : IpcQueue Value) (callmsg : Value) :
    Except ListFault (IpcQueue Value) :=
  (endLoop queue.cells turns none queue.head).map fun pplast =>
    let newelm := queue.callReplyFreeList.getD fresh
    let freeList := queue.callReplyFreeList.bind fun elm =>
      (queue.cells elm).bind fun cell => cell.next
    let cell := ⟨queue.read pplast, some callmsg⟩
    let filled : Linked (Option Value) :=
      ⟨queue.head, Function.update queue.cells newelm (some cell)⟩
    ⟨filled.write (some newelm) pplast, freeList⟩

def IpcQueue.free (queue : IpcQueue Value) (elm : Nat) : IpcQueue Value :=
  ⟨⟨queue.head, Function.update queue.cells elm (some ⟨queue.callReplyFreeList, none⟩)⟩, some elm⟩

/-- The loop to the first element with the handle. -/
def popLoop (handleOf : Value → Int) (queue : IpcQueue Value) (handle : Int) :
    Nat → Place → Option Nat → Except ListFault (Option Value × IpcQueue Value)
  | _, _, none => .ok (none, queue)
  | 0, _, some _ => .error .endless
  | turns + 1, pelm, some elm =>
      match queue.cells elm with
      | none | some ⟨_, none⟩ => .error .wild
      | some ⟨next, some callmessage⟩ =>
          if handleOf callmessage = handle then
            .ok (some callmessage,
              IpcQueue.free { queue with toLinked := queue.write next pelm } elm)
          else popLoop handleOf queue handle turns (some elm) next

def popCallReplyByHandle (handleOf : Value → Int) (turns : Nat) (queue : IpcQueue Value)
    (handle : Int) : Except ListFault (Option Value × IpcQueue Value) :=
  if handle = 0 then
    match queue.head with
    | none => .ok (none, queue)
    | some elm =>
        match queue.cells elm with
        | none => .error .wild
        | some cell => .ok (cell.value, IpcQueue.free { queue with head := cell.next } elm)
  else popLoop handleOf queue handle turns none queue.head

/-- The place that leads to what is behind some elements. -/
def placeBehind (place : Place) : List (Nat × Value) → Place
  | [] => place
  | entry :: rest => placeBehind (some entry.1) rest

@[simp] theorem placeBehind_concat (place : Place) (front : List (Nat × Value))
    (last : Nat × Value) :
    placeBehind place (front ++ [last]) = some last.1 := by
  induction front generalizing place with
  | nil => rfl
  | cons entry front ih => exact ih (some entry.1)

section Loops

variable {cells : Cells Value} {start : Option Nat} {front back : List (Nat × Value)}
  {entry : Nat × Value} {test : Value → Bool} {turns : Nat}

theorem lastLoop_eq {crethis : Nat}
    (segment : ListSegment cells (some crethis) (front ++ [entry]) none)
    (enough : front.length < turns) (creprev : Place) :
    lastLoop cells turns creprev crethis = .ok (placeBehind creprev front, entry.1) := by
  induction front generalizing crethis creprev turns with
  | nil =>
      obtain ⟨isPlace, next, isCell, rfl⟩ := segment
      cases isPlace
      cases turns with
      | zero => cases enough
      | succ turns => simp [lastLoop, isCell, placeBehind]
  | cons first front ih =>
      obtain ⟨isPlace, next, isCell, behind⟩ := segment
      cases isPlace
      cases turns with
      | zero => cases enough
      | succ turns =>
          have isNext := behind.start
          obtain ⟨second, isSecond⟩ : ∃ second, next = some second := by
            rw [isNext]
            cases front <;> exact ⟨_, rfl⟩
          subst isSecond
          rw [lastLoop, isCell]
          exact ih behind (Nat.lt_of_succ_lt_succ enough) (some first.1)

theorem matchLoop_none (segment : ListSegment cells start back none)
    (others : ∀ other ∈ back, test other.2 = false) (enough : back.length ≤ turns) (creprev : Place)
    (creprevmatch : Option Place) :
    matchLoop cells test turns creprev creprevmatch start = .ok creprevmatch := by
  induction back generalizing start creprev turns with
  | nil =>
      have isEnd : start = none := segment
      rw [isEnd, matchLoop]
  | cons first back ih =>
      obtain ⟨rfl, next, isCell, behind⟩ := segment
      rw [List.forall_mem_cons] at others
      cases turns with
      | zero => cases enough
      | succ turns =>
          rw [matchLoop, isCell]
          simpa [others.1] using ih behind others.2 (Nat.le_of_succ_le_succ enough) (some first.1)

theorem matchLoop_some (segment : ListSegment cells start (front ++ entry :: back) none)
    (passes : test entry.2 = true) (others : ∀ other ∈ back, test other.2 = false)
    (enough : (front ++ entry :: back).length ≤ turns) (creprev : Place)
    (creprevmatch : Option Place) :
    matchLoop cells test turns creprev creprevmatch start =
      .ok (some (placeBehind creprev front)) := by
  induction front generalizing start creprev creprevmatch turns with
  | nil =>
      obtain ⟨rfl, next, isCell, behind⟩ := segment
      cases turns with
      | zero => cases enough
      | succ turns =>
          rw [matchLoop, isCell]
          simpa [passes, placeBehind] using
            matchLoop_none behind others (Nat.le_of_succ_le_succ enough) _ _
  | cons first front ih =>
      obtain ⟨rfl, next, isCell, behind⟩ := segment
      cases turns with
      | zero => cases enough
      | succ turns =>
          rw [matchLoop, isCell]
          exact ih behind (Nat.le_of_succ_le_succ enough) (some first.1) _

theorem endLoop_eq (segment : ListSegment cells start front none) (enough : front.length ≤ turns)
    (pplast : Place) : endLoop cells turns pplast start = .ok (placeBehind pplast front) := by
  induction front generalizing start pplast turns with
  | nil =>
      have isEnd : start = none := segment
      rw [isEnd, endLoop, placeBehind]
  | cons first front ih =>
      obtain ⟨rfl, next, isCell, behind⟩ := segment
      cases turns with
      | zero => cases enough
      | succ turns =>
          rw [endLoop, isCell]
          exact ih behind (Nat.le_of_succ_le_succ enough) (some first.1)

end Loops

def Linked.Holds (queue : Linked Value) (contents : List (Nat × Value)) : Prop :=
  ListSegment queue.cells queue.head contents none

section Unlinking

variable {queue : Linked Value} {front back : List (Nat × Value)} {entry : Nat × Value}

theorem Linked.Holds.read (holds : queue.Holds (front ++ back)) :
    queue.read (placeBehind none front) = back.head?.map Prod.fst := by
  obtain ⟨middle, before, behind⟩ := segment_append_iff.mp holds
  obtain rfl | ⟨others, last, rfl⟩ := List.eq_nil_or_concat' front
  · exact (before.trans behind.start : queue.head = _)
  · obtain ⟨_, _, rfl, next, isCell, rfl⟩ := segment_append_iff.mp before
    rw [placeBehind_concat, Linked.read, isCell]
    exact behind.start

theorem Linked.write_other (next : Option Nat) {elm : Nat}
    (apart : ∀ other ∈ front, other.1 ≠ elm) :
    (queue.write next (placeBehind none front)).cells elm = queue.cells elm := by
  obtain rfl | ⟨others, last, rfl⟩ := List.eq_nil_or_concat' front
  · rfl
  · rw [placeBehind_concat]
    exact Function.update_of_ne (apart last (by simp)).symm _ _

/-- Other elements are put behind a place. -/
theorem Linked.Holds.write (holds : queue.Holds (front ++ back)) {next : Option Nat}
    {instead : List (Nat × Value)} (behind : ListSegment queue.cells next instead none)
    (apart : ∀ later ∈ instead, ∀ other ∈ front, other.1 ≠ later.1) :
    (queue.write next (placeBehind none front)).Holds (front ++ instead) := by
  have kept := behind.congr fun later member => queue.write_other next (apart later member)
  obtain ⟨middle, before, _⟩ := segment_append_iff.mp holds
  obtain rfl | ⟨others, last, rfl⟩ := List.eq_nil_or_concat' front
  · exact kept
  · have distinct := holds.nodup
    rw [placeBehind_concat] at *
    obtain ⟨_, first, rfl, _, isCell, _⟩ := segment_append_iff.mp before
    rw [Linked.Holds, List.append_assoc]
    refine segment_append_iff.mpr ⟨some last.1, first.congr ?_, rfl, next, ?_, kept⟩
    · intro other member
      have notLast : other.1 ≠ last.1 := by
        simp only [List.map_append, List.nodup_append] at distinct
        exact distinct.1.2.2 _ (List.mem_map_of_mem member) _ (by simp)
      exact Function.update_of_ne notLast _ _
    · simp [Linked.write, isCell]

theorem Linked.Holds.apart (holds : queue.Holds (front ++ entry :: back)) :
    (∀ other ∈ front, other.1 ≠ entry.1) ∧ ∀ later ∈ back, ∀ other ∈ front, other.1 ≠ later.1 := by
  have distinct := holds.nodup
  simp only [List.map_append, List.map_cons, List.nodup_append] at distinct
  refine ⟨fun other member => ?_, fun later inBack other member => ?_⟩
  · exact distinct.2.2 _ (List.mem_map_of_mem member) _ List.mem_cons_self
  · exact distinct.2.2 _ (List.mem_map_of_mem member) _
      (List.mem_cons_of_mem _ (List.mem_map_of_mem inBack))

theorem Linked.Holds.take (holds : queue.Holds (front ++ entry :: back)) :
    ∃ after, queue.take (placeBehind none front) = .ok (some entry.1, after) ∧
      after.Holds (front ++ back) := by
  obtain ⟨_, _, _, next, isCell, behind⟩ := segment_append_iff.mp holds
  rw [Linked.take, holds.read, List.head?_cons, Option.map_some]
  dsimp only
  rw [isCell]
  exact ⟨_, rfl, holds.write behind holds.apart.2⟩

end Unlinking

theorem cell_of_mem {cells : Cells Value} {place : Option Nat} {contents : List (Nat × Value)}
    (segment : ListSegment cells place contents none) {entry : Nat × Value}
    (member : entry ∈ contents) :
    ∃ next, cells entry.1 = some ⟨next, entry.2⟩ := by
  obtain ⟨front, back, rfl⟩ := List.append_of_mem member
  obtain ⟨_, _, _, next, isCell, _⟩ := segment_append_iff.mp segment
  exact ⟨next, isCell⟩

theorem pushCRqueue_newest {queue : Linked Value} {arrivals : List (Nat × Value)}
    (holds : queue.Holds arrivals.reverse) {crelm : Nat} (fresh : queue.cells crelm = none)
    (value : Value) :
    (pushCRqueue queue crelm value).Holds (arrivals ++ [(crelm, value)]).reverse := by
  rw [List.reverse_append]
  refine ⟨rfl, queue.head, Function.update_self _ _ _, holds.congr ?_⟩
  intro entry member
  obtain ⟨next, isCell⟩ := cell_of_mem holds member
  apply Function.update_of_ne
  intro same
  rw [same, fresh] at isCell
  cases isCell

/-- The oldest element that passes the test, and the others. -/
theorem oldest_cases {α : Type} (wanted : α → Bool) (arrivals : List α) :
    (arrivals.find? wanted = none ∧ arrivals.eraseP wanted = arrivals ∧
        ∀ other ∈ arrivals, wanted other = false) ∨
      ∃ front entry back, arrivals = front ++ entry :: back ∧ arrivals.find? wanted = some entry ∧
        arrivals.eraseP wanted = front ++ back ∧ wanted entry = true ∧
        ∀ other ∈ front, wanted other = false := by
  cases isFound : arrivals.find? wanted with
  | none =>
      have others := List.find?_eq_none.mp isFound
      exact .inl ⟨rfl, List.eraseP_of_forall_not others, by simpa using others⟩
  | some entry =>
      obtain ⟨passes, front, back, rfl, others⟩ := List.find?_eq_some_iff_append.mp isFound
      refine .inr ⟨front, entry, back, rfl, rfl, ?_, passes, by simpa using others⟩
      rw [List.eraseP_append_right _ (by simpa using others), List.eraseP_cons_of_pos passes]

/-- The queue of the SRB client, whose newest element is in front. -/
theorem popCRqueue_oldest (handleOf : Value → List Byte) {queue : Linked Value}
    {arrivals : List (Nat × Value)} (holds : queue.Holds arrivals.reverse) {turns : Nat}
    (enough : arrivals.length ≤ turns) (handle : Option (List Byte)) :
    let wanted := fun entry : Nat × Value => hasHandle handleOf handle entry.2
    ∃ after, popCRqueue handleOf turns queue handle =
        .ok ((arrivals.find? wanted).map Prod.fst, after) ∧
      after.Holds (arrivals.eraseP wanted).reverse ∧
      (arrivals.find? wanted = none → after = queue) := by
  intro wanted
  have isHead := holds.start
  cases isReverse : arrivals.reverse with
  | nil =>
      have isEmpty := List.reverse_eq_nil_iff.mp isReverse
      rw [isReverse] at isHead
      rw [popCRqueue, isHead, isEmpty]
      exact ⟨queue, rfl, by simpa [isEmpty] using holds, fun _ => rfl⟩
  | cons newest older =>
      rw [isReverse] at isHead
      have atHead : ListSegment queue.cells (some newest.1) arrivals.reverse none := by
        simpa [Linked.Holds, isHead] using holds
      obtain ⟨_, next, isCell, behind⟩ := isReverse ▸ atHead
      rw [popCRqueue, isHead, List.head?_cons, Option.map_some]
      dsimp only
      rw [isCell]
      dsimp only
      cases older with
      | nil =>
          have isOnly : arrivals = [newest] := by simpa using congrArg List.reverse isReverse
          have isLast : next = none := behind
          rw [isLast, isOnly]
          cases passes : wanted newest with
          | true =>
              refine ⟨⟨none, queue.cells⟩, by simp_all [wanted], ?_, by simp [passes]⟩
              simp [passes, Linked.Holds, ListSegment]
          | false => exact ⟨queue, by simp_all [wanted], by simp_all, fun _ => rfl⟩
      | cons second others =>
          rw [behind.start, List.head?_cons, Option.map_some]
          dsimp only
          by_cases anyHandle : handle = none
          · have passes (entry : Nat × Value) : wanted entry = true := by
              simp [wanted, anyHandle, hasHandle]
            obtain ⟨oldest, later, rfl⟩ : ∃ oldest later, arrivals = oldest :: later := by
              cases arrivals with
              | nil => cases isReverse
              | cons oldest later => exact ⟨oldest, later, rfl⟩
            rw [List.reverse_cons] at holds isReverse
            obtain ⟨middle, isLater, isMiddle⟩ : ∃ middle, later.reverse = newest :: middle ∧
                second :: others = middle ++ [oldest] := by
              cases isLater : later.reverse with
              | nil => simp [isLater] at isReverse
              | cons first middle => simp_all
            have fromSecond := behind
            rw [behind.start, List.head?_cons, Option.map_some, isMiddle] at fromSecond
            have shorter : middle.length < turns := by
              have lengths := congrArg List.length isLater
              simp at lengths enough
              omega
            have isPlace : placeBehind (some newest.1) middle = placeBehind none later.reverse := by
              rw [isLater]
              rfl
            have left : (queue.write none (placeBehind none later.reverse)).Holds
                (later.reverse ++ []) :=
              holds.write rfl (by simp)
            rw [if_pos anyHandle, lastLoop_eq fromSecond shorter, isPlace]
            refine ⟨_, by rw [List.find?_cons_of_pos (passes oldest)]; rfl, ?_, ?_⟩
            · rw [List.eraseP_cons_of_pos (passes oldest)]
              simpa using left
            · simp [List.find?_cons_of_pos (passes oldest)]
          · rw [if_neg anyHandle]
            obtain ⟨isNone, sameList, others⟩ |
              ⟨front, entry, back, rfl, isSome, erased, passes, others⟩ := oldest_cases wanted arrivals
            · rw [matchLoop_none atHead (by simpa [wanted] using others) (by simpa using enough)]
              exact ⟨queue, by rw [isNone]; rfl, by rwa [sameList], fun _ => rfl⟩
            · rw [List.reverse_append, List.reverse_cons, List.append_assoc] at holds atHead
              have long : (back.reverse ++ entry :: front.reverse).length ≤ turns := by
                simp at enough ⊢
                omega
              rw [matchLoop_some atHead passes (by simpa [wanted] using others) long]
              obtain ⟨after, isTaken, left⟩ := Linked.Holds.take holds
              exact ⟨after, by rw [isSome]; exact isTaken, by rw [erased]; simpa using left,
                by simp [isSome]⟩

/-- Replies in the queue, and cells of the free list. -/
def filled (arrivals : List (Nat × Value)) : List (Nat × Option Value) :=
  arrivals.map fun entry => (entry.1, some entry.2)

def emptied (free : List Nat) : List (Nat × Option Value) := free.map fun elm => (elm, none)

structure IpcQueue.Holds (queue : IpcQueue Value) (arrivals : List (Nat × Value))
    (free : List Nat) : Prop where
  replies : queue.toLinked.Holds (filled arrivals)
  free : ListSegment queue.cells queue.callReplyFreeList (emptied free) none

section Ipc

variable {queue : IpcQueue Value} {arrivals front back : List (Nat × Value)} {free : List Nat}
  {entry : Nat × Value} {turns : Nat}

theorem filled_split :
    filled (front ++ entry :: back) = filled front ++ (entry.1, some entry.2) :: filled back := by
  simp [filled]

theorem mem_filled {other : Nat × Option Value} (member : other ∈ filled arrivals) :
    ∃ entry ∈ arrivals, entry.1 = other.1 := by
  obtain ⟨entry, inArrivals, rfl⟩ := List.mem_map.mp member
  exact ⟨entry, inArrivals, rfl⟩

theorem IpcQueue.Holds.apart (holds : queue.Holds arrivals free) :
    ∀ entry ∈ arrivals, ∀ elm ∈ free, entry.1 ≠ elm := by
  intro entry inArrivals elm inFree same
  obtain ⟨_, isReply⟩ := cell_of_mem holds.replies (List.mem_map_of_mem inArrivals)
  obtain ⟨_, isFree⟩ := cell_of_mem holds.free (List.mem_map_of_mem inFree)
  simp_all

/-- An element is unlinked and goes to the free list. -/
theorem IpcQueue.Holds.release (holds : queue.Holds (front ++ entry :: back) free)
    {next : Option Nat}
    (isCell : queue.cells entry.1 = some ⟨next, some entry.2⟩) :
    (IpcQueue.free { queue with toLinked := queue.write next (placeBehind none (filled front)) }
      entry.1).Holds (front ++ back) (entry.1 :: free) := by
  have replies := holds.replies
  rw [filled_split] at replies
  have apart := Linked.Holds.apart replies
  have freeApart := holds.apart
  have distinct := ListSegment.nodup replies
  obtain ⟨_, _, _, other, again, behind⟩ := segment_append_iff.mp replies
  rw [isCell] at again
  cases again
  have left := Linked.Holds.write replies behind apart.2
  refine ⟨?_, rfl, _, Function.update_self _ _ _, ?_⟩
  · rw [show filled (front ++ back) = filled front ++ filled back from List.map_append]
    refine ListSegment.congr left fun other member => Function.update_of_ne ?_ _ _
    simp only [List.map_append, List.map_cons, List.nodup_append, List.nodup_cons] at distinct
    rcases List.mem_append.mp member with inFront | inBack
    · exact apart.1 other inFront
    · intro same
      exact distinct.2.1.1 (same ▸ List.mem_map_of_mem inBack)
  · refine holds.free.congr fun other member => ?_
    obtain ⟨elm, inFree, rfl⟩ := List.mem_map.mp member
    refine (Function.update_of_ne (freeApart entry (by simp) elm inFree).symm _ _).trans ?_
    refine Linked.write_other next fun other inFront => ?_
    obtain ⟨reply, inReplies, sameAddress⟩ := mem_filled inFront
    exact sameAddress ▸ freeApart reply (List.mem_append_left _ inReplies) elm inFree

variable {handleOf : Value → Int} {handle : Int} {start : Option Nat}

theorem popLoop_none (segment : ListSegment queue.cells start (filled back) none)
    (others : ∀ other ∈ back, handleOf other.2 ≠ handle) (enough : back.length ≤ turns)
    (pelm : Place) : popLoop handleOf queue handle turns pelm start = .ok (none, queue) := by
  induction back generalizing start pelm turns with
  | nil =>
      have isEnd : start = none := segment
      rw [isEnd, popLoop]
  | cons first back ih =>
      obtain ⟨rfl, next, isCell, behind⟩ := segment
      rw [List.forall_mem_cons] at others
      cases turns with
      | zero => cases enough
      | succ turns =>
          rw [popLoop, isCell]
          dsimp only
          rw [if_neg others.1]
          exact ih behind others.2 (Nat.le_of_succ_le_succ enough) (some first.1)

theorem popLoop_some
    (segment : ListSegment queue.cells start (filled (front ++ entry :: back)) none)
    (passes : handleOf entry.2 = handle) (others : ∀ other ∈ front, handleOf other.2 ≠ handle)
    (enough : front.length < turns) (pelm : Place) :
    ∃ next, queue.cells entry.1 = some ⟨next, some entry.2⟩ ∧
      popLoop handleOf queue handle turns pelm start = .ok (some entry.2,
        IpcQueue.free { queue with toLinked := queue.write next (placeBehind pelm (filled front)) }
          entry.1) := by
  induction front generalizing start pelm turns with
  | nil =>
      obtain ⟨rfl, next, isCell, behind⟩ := segment
      cases turns with
      | zero => cases enough
      | succ turns =>
          refine ⟨next, isCell, ?_⟩
          rw [popLoop, isCell]
          dsimp only
          rw [if_pos passes]
          rfl
  | cons first front ih =>
      obtain ⟨rfl, next, isCell, behind⟩ := segment
      rw [List.forall_mem_cons] at others
      cases turns with
      | zero => cases enough
      | succ turns =>
          rw [popLoop, isCell]
          dsimp only
          rw [if_neg others.1]
          exact ih behind others.2 (Nat.lt_of_succ_lt_succ enough) (some first.1)

/-- The queue of the IPC library, whose oldest element is in front. -/
theorem popCallReplyByHandle_oldest (handleOf : Value → Int) (holds : queue.Holds arrivals free)
    (enough : arrivals.length ≤ turns) (handle : Int) :
    let wanted := fun entry : Nat × Value => handle == 0 || handleOf entry.2 == handle
    ∃ after, popCallReplyByHandle handleOf turns queue handle =
        .ok ((arrivals.find? wanted).map Prod.snd, after) ∧
      after.Holds (arrivals.eraseP wanted) ((arrivals.find? wanted).toList.map Prod.fst ++ free) ∧
      (arrivals.find? wanted = none → after = queue) := by
  intro wanted
  unfold popCallReplyByHandle
  by_cases anyHandle : handle = 0
  · rw [if_pos anyHandle]
    have isHead := ListSegment.start holds.replies
    cases arrivals with
    | nil =>
        rw [isHead]
        exact ⟨queue, rfl, holds, fun _ => rfl⟩
    | cons oldest later =>
        have passes : wanted oldest = true := by simp [wanted, anyHandle]
        have split : queue.Holds ([] ++ oldest :: later) free := holds
        obtain ⟨_, next, isCell, _⟩ := holds.replies
        have atHead : queue.cells oldest.1 = some ⟨next, some oldest.2⟩ := isCell
        rw [isHead, List.find?_cons_of_pos passes, List.eraseP_cons_of_pos passes]
        simp only [filled, List.map_cons, List.head?_cons, Option.map_some]
        rw [atHead]
        exact ⟨_, rfl, split.release atHead, fun isNone => by cases isNone⟩
  · rw [if_neg anyHandle]
    obtain ⟨isNone, sameList, others⟩ | ⟨front, entry, back, rfl, isSome, erased, passes, others⟩ :=
      oldest_cases wanted arrivals
    · have otherHandles : ∀ other ∈ arrivals, handleOf other.2 ≠ handle := by
        simpa [wanted, anyHandle] using others
      rw [popLoop_none holds.replies otherHandles enough, isNone, sameList]
      exact ⟨queue, rfl, holds, fun _ => rfl⟩
    · have otherHandles : ∀ other ∈ front, handleOf other.2 ≠ handle := by
        simpa [wanted, anyHandle] using others
      have shorter : front.length < turns := by
        simp at enough
        omega
      obtain ⟨next, isCell, isPopped⟩ :=
        popLoop_some holds.replies (by simpa [wanted, anyHandle] using passes) otherHandles
          shorter none
      rw [isPopped, isSome, erased]
      exact ⟨_, rfl, holds.release isCell, fun isNone => by cases isNone⟩

/-- A cell that is in no list is put at the end. -/
theorem IpcQueue.Holds.fill (holds : queue.Holds arrivals free) {newelm : Nat} {next : Option Nat}
    {rest : List Nat} (behind : ListSegment queue.cells next (emptied rest) none)
    (isNew : ∀ entry ∈ arrivals, entry.1 ≠ newelm) (notFree : newelm ∉ rest)
    (apart : ∀ entry ∈ arrivals, ∀ elm ∈ rest, entry.1 ≠ elm) (callmsg : Value) :
    IpcQueue.Holds
      ⟨Linked.write ⟨queue.head, Function.update queue.cells newelm (some ⟨none, some callmsg⟩)⟩
        (some newelm) (placeBehind none (filled arrivals)), next⟩
      (arrivals ++ [(newelm, callmsg)]) rest := by
  have others : ∀ other ∈ filled arrivals, other.1 ≠ newelm := by
    intro other member
    obtain ⟨entry, inArrivals, same⟩ := mem_filled member
    exact same ▸ isNew entry inArrivals
  have kept : Linked.Holds
      ⟨queue.head, Function.update queue.cells newelm (some ⟨none, some callmsg⟩)⟩
      (filled arrivals ++ []) := by
    rw [List.append_nil]
    exact ListSegment.congr holds.replies fun other member =>
      Function.update_of_ne (others other member) _ _
  refine ⟨?_, behind.congr fun other member => ?_⟩
  · rw [show filled (arrivals ++ [(newelm, callmsg)]) = filled arrivals ++ [(newelm, some callmsg)]
      from List.map_append]
    refine kept.write ⟨rfl, none, Function.update_self _ _ _, rfl⟩ ?_
    simpa using others
  · obtain ⟨elm, inRest, rfl⟩ := List.mem_map.mp member
    refine (Linked.write_other _ fun other inFront => ?_).trans (Function.update_of_ne ?_ _ _)
    · obtain ⟨entry, inArrivals, same⟩ := mem_filled inFront
      exact same ▸ apart entry inArrivals elm inRest
    · rintro rfl
      exact notFree inRest

theorem pushCallReply_newest (holds : queue.Holds arrivals free) {fresh : Nat}
    (isFresh : queue.cells fresh = none) (enough : arrivals.length ≤ turns) (callmsg : Value) :
    ∃ newelm after, pushCallReply turns fresh queue callmsg = .ok after ∧
      after.Holds (arrivals ++ [(newelm, callmsg)]) free.tail := by
  have replies := holds.replies
  have isRead : queue.read (placeBehind none (filled arrivals)) = none := by
    rw [← List.append_nil (filled arrivals)] at replies
    exact Linked.Holds.read replies
  have isEnd := endLoop_eq holds.replies (by simpa [filled] using enough) none
  unfold pushCallReply
  rw [isEnd]
  refine ⟨queue.callReplyFreeList.getD fresh, _, rfl, ?_⟩
  dsimp only
  rw [isRead]
  cases free with
  | nil =>
      have noFree : queue.callReplyFreeList = none := holds.free
      rw [noFree]
      have noMore : ListSegment queue.cells none (emptied []) none := rfl
      refine holds.fill noMore ?_ List.not_mem_nil (fun _ _ _ member => by cases member) callmsg
      intro entry member same
      obtain ⟨_, isCell⟩ := cell_of_mem holds.replies (List.mem_map_of_mem member)
      rw [show fresh = entry.1 from same.symm] at isFresh
      rw [isFresh] at isCell
      cases isCell
  | cons first rest =>
      obtain ⟨isFirst, next, isCell, behind⟩ := holds.free
      have distinct := ListSegment.nodup holds.free
      rw [isFirst]
      dsimp only [Option.getD_some, Option.bind_some]
      rw [isCell]
      refine holds.fill behind
        (fun entry member => holds.apart entry member first List.mem_cons_self) ?_
        (fun entry member elm inRest =>
          holds.apart entry member elm (List.mem_cons_of_mem _ inRest)) callmsg
      simpa [emptied] using (List.nodup_cons.mp distinct).1

end Ipc

/-- Both queues give the oldest match, and what is pushed is behind all of the others. -/
theorem replies_oldest_first (srbHandle : Value → List Byte) (ipcHandle : Value → Int) :
    (∀ (queue : Linked Value) (arrivals : List (Nat × Value)) (turns : Nat),
      queue.Holds arrivals.reverse → arrivals.length ≤ turns →
        (∀ handle, let wanted := fun entry : Nat × Value => hasHandle srbHandle handle entry.2
          ∃ after, popCRqueue srbHandle turns queue handle =
              .ok ((arrivals.find? wanted).map Prod.fst, after) ∧
            after.Holds (arrivals.eraseP wanted).reverse ∧
            (arrivals.find? wanted = none → after = queue)) ∧
        ∀ crelm value, queue.cells crelm = none →
          (pushCRqueue queue crelm value).Holds (arrivals ++ [(crelm, value)]).reverse) ∧
    ∀ (queue : IpcQueue Value) (arrivals : List (Nat × Value)) (free : List Nat) (turns : Nat),
      queue.Holds arrivals free → arrivals.length ≤ turns →
        (∀ handle,
          let wanted := fun entry : Nat × Value => handle == 0 || ipcHandle entry.2 == handle
          ∃ after, popCallReplyByHandle ipcHandle turns queue handle =
              .ok ((arrivals.find? wanted).map Prod.snd, after) ∧
            after.Holds (arrivals.eraseP wanted)
              ((arrivals.find? wanted).toList.map Prod.fst ++ free) ∧
            (arrivals.find? wanted = none → after = queue)) ∧
        ∀ fresh callmsg, queue.cells fresh = none →
          ∃ newelm after, pushCallReply turns fresh queue callmsg = .ok after ∧
            after.Holds (arrivals ++ [(newelm, callmsg)]) free.tail := by
  refine ⟨?_, ?_⟩
  · intro queue arrivals turns holds enough
    refine ⟨popCRqueue_oldest srbHandle holds enough, ?_⟩
    exact fun crelm value fresh => pushCRqueue_newest holds fresh value
  · intro queue arrivals free turns holds enough
    refine ⟨popCallReplyByHandle_oldest ipcHandle holds enough, ?_⟩
    exact fun fresh callmsg isFresh => pushCallReply_newest holds isFresh enough callmsg

/-- Two replies of one call, the older one at 0. -/
def twoReplies : Linked Nat :=
  ⟨some 1, fun place =>
    if place = 1 then some ⟨some 0, 20⟩ else if place = 0 then some ⟨none, 10⟩ else none⟩

theorem replies_oldest_first_two :
    let wanted := fun entry : Nat × Nat => hasHandle (fun _ => [65]) (some [65]) entry.2
    ∃ after, popCRqueue (fun _ => [65]) 2 twoReplies (some [65]) =
        .ok (([(0, 10), (1, 20)].find? wanted).map Prod.fst, after) ∧
      after.Holds ([(0, 10), (1, 20)].eraseP wanted).reverse ∧
      ([(0, 10), (1, 20)].find? wanted = none → after = twoReplies) :=
  ((replies_oldest_first (fun _ => [65]) fun _ => 1).1 twoReplies [(0, 10), (1, 20)] 2
    ⟨rfl, some 0, rfl, rfl, none, rfl, rfl⟩ (by decide)).1 (some [65])

/-- A process and its queue. The replies that were pushed and those that were popped have no
counterpart in the program. -/
structure ReplyRun (Value : Type) where
  queue : IpcQueue Value
  pushed : List Value
  popped : List Value

inductive ReplyAction (Value : Type) where
  | push (fresh : Nat) (callmsg : Value)
  | pop (handle : Int)

def ipcMachine (handleOf : Value → Int) :
    Machine (ReplyRun Value) (ReplyAction Value) ListFault where
  start run := run = ⟨⟨⟨none, fun _ => none⟩, none⟩, [], []⟩
  enabled run
    | .push fresh _ => run.queue.cells fresh = none
    | .pop _ => True
  step run
    | .push fresh callmsg =>
        (pushCallReply run.pushed.length fresh run.queue callmsg).map fun queue =>
          ⟨queue, run.pushed ++ [callmsg], run.popped⟩
    | .pop handle =>
        (popCallReplyByHandle handleOf run.pushed.length run.queue handle).map fun found =>
          ⟨found.2, run.pushed, run.popped ++ found.1.toList⟩

/-- What was popped and what is left are, for each handle, what was pushed, in its order. -/
def ReplyRun.InOrder (handleOf : Value → Int) (run : ReplyRun Value) : Prop :=
  ∃ arrivals free, run.queue.Holds arrivals free ∧ arrivals.length ≤ run.pushed.length ∧
    ∀ handle, (run.popped ++ arrivals.map Prod.snd).filter (fun mesg => handleOf mesg == handle) =
      run.pushed.filter fun mesg => handleOf mesg == handle

/-- Replies with other handles stay where they are. -/
theorem filter_oldest (handleOf : Value → Int) (arrivals : List (Nat × Value))
    (asked handle : Int) :
    let wanted := fun entry : Nat × Value => asked == 0 || handleOf entry.2 == asked
    (((arrivals.find? wanted).map Prod.snd).toList ++ (arrivals.eraseP wanted).map Prod.snd).filter
        (fun mesg => handleOf mesg == handle) =
      (arrivals.map Prod.snd).filter fun mesg => handleOf mesg == handle := by
  intro wanted
  obtain ⟨isNone, sameList, _⟩ | ⟨front, entry, back, rfl, isSome, erased, passes, others⟩ :=
    oldest_cases wanted arrivals
  · rw [isNone, sameList]
    rfl
  · rw [isSome, erased]
    by_cases mine : handleOf entry.2 = handle
    · have notFront : (front.map Prod.snd).filter (fun mesg => handleOf mesg == handle) = [] := by
        rw [List.filter_eq_nil_iff]
        intro mesg member
        obtain ⟨other, inFront, rfl⟩ := List.mem_map.mp member
        have refused := others other inFront
        simp only [wanted, Bool.or_eq_false_iff, beq_eq_false_iff_ne] at refused
        simp only [wanted, Bool.or_eq_true, beq_iff_eq] at passes
        rw [beq_iff_eq]
        rcases passes with isZero | isAsked
        · exact absurd isZero refused.1
        · exact fun same => refused.2 (same.trans (mine.symm.trans isAsked))
      simp [notFront, mine]
    · simp [mine]

theorem ipcMachine_keeps (handleOf : Value → Int) :
    (ipcMachine handleOf).Keeps (fun _ _ => True) (ReplyRun.InOrder handleOf) := by
  intro run action inOrder enabled _
  obtain ⟨arrivals, free, holds, short, sameOrder⟩ := inOrder
  cases action with
  | push fresh callmsg =>
      obtain ⟨newelm, after, isPushed, held⟩ := pushCallReply_newest holds enabled short callmsg
      refine ⟨⟨after, run.pushed ++ [callmsg], run.popped⟩, ?_, arrivals ++ [(newelm, callmsg)],
        free.tail, held, by simpa using short, ?_⟩
      · simp only [ipcMachine, isPushed]
        rfl
      · intro handle
        rw [List.map_append, ← List.append_assoc, List.filter_append, sameOrder handle,
          List.filter_append]
        rfl
  | pop handle =>
      obtain ⟨after, isPopped, held, _⟩ := popCallReplyByHandle_oldest handleOf holds short handle
      let wanted := fun entry : Nat × Value => handle == 0 || handleOf entry.2 == handle
      refine ⟨⟨after, run.pushed, run.popped ++ ((arrivals.find? wanted).map Prod.snd).toList⟩, ?_,
        arrivals.eraseP wanted, _, held, List.length_eraseP_le.trans short, ?_⟩
      · simp only [ipcMachine, isPopped]
        rfl
      · intro other
        dsimp only
        rw [List.append_assoc, List.filter_append, filter_oldest, ← List.filter_append]
        exact sameOrder other

end MidWay.Client.OldestReply

import Mathlib.Tactic.Ring
import MidWay.Shm.Allocation

/-!
Contract: the heap over whole runs, with calls of all processes in any order.

The invariant keeps for every chunk the one place where it is: in the ring of
its bin, popped by a process that has not returned it yet, in use, or given back
by a process that has not pushed it yet. Every step moves at most one chunk, and
writes the segment only through `popchunk`, `pushchunk` and the owner field.

Owns: `HeapInvariant`, one lemma for each step, and what holds of the heap in
every reachable state.
-/

namespace MidWay.Shm

open MidWay.Lib

variable {p : Int} {pid bin : Nat} {task : Task}

theorem Bounds.untouched {base cps : Nat} {seg seg' : Segment} {ring : List Int}
    (bounds : Bounds base cps seg) (untouched : Untouched base cps seg seg' bin ring) :
    Bounds base cps seg' := by
  rcases untouched.bounds with ⟨size, top, bottom⟩
  exact ⟨size.trans bounds.segmentsize, top.trans bounds.top, bottom.trans bounds.bottom⟩

theorem gettopofbin_eq {base cps : Nat} {seg : Segment} (hasBase : seg.basechunksize = base)
    (hasCount : seg.chunkspersize = cps) (bin : Nat) :
    mwGettopofbin seg bin = binTop base cps bin := by
  induction bin with
  | zero => rfl
  | succ bin ih =>
      rw [mwGettopofbin, binTop, ih, hasBase, hasCount, chunkCount, stride,
        Int.mul_comm (oneShl bin)]
      congr 1
      split_ifs
      · grind
      · rw [Nat.mul_one]

section Checks

variable {base cps : Nat} {seg : Segment} (laid : Laid base cps seg)
include laid

theorem mwGettopofbin_eq (bin : Nat) : mwGettopofbin seg bin = binTop base cps bin :=
  gettopofbin_eq laid.basechunksize laid.chunkspersize bin

omit laid in
theorem log2_oneShl (small : bin < bins - 1) : Nat.log2 (oneShl bin).toNat = bin := by
  revert bin
  decide

omit laid in
theorem binTop_last : binTop base cps (bins - 1) = 112 + 32 * (base * cps : Int) + 240 * cps := by
  simp only [bins, binTop, chunkCount, stride, oneShl, sizeofSegmenthdr, chunkOverhead,
    sizeofChunkhead, sizeofChunkfoot]
  push_cast
  ring

theorem data_le_bottom (bounds : Bounds base cps seg) (chunk : IsChunk base cps bin p) :
    p + sizeofChunkhead ≤ seg.bottom := by
  have fits := laid.fits
  have chunkEnd := chunk.end_le chunk.1
  have wide := stride_ge base bin
  have product : (32 * base * cps : Int) = 32 * (base * cps : Int) := Int.mul_assoc _ _ _
  rw [binTop_last] at fits chunkEnd
  rw [bounds.segmentsize] at fits
  rw [bounds.bottom]
  simp only [emptySegment, sizeofSegmenthdr, chunkOverhead, sizeofChunkhead, sizeofChunkfoot,
    product] at fits wide ⊢
  omega

/-- `_mwfree0` accepts a chunk in use, and finds its own bin. -/
theorem mwfree0Check_ok (bounds : Bounds base cps seg) (chunk : IsChunk base cps bin p)
    (owned : (seg.head p).ownerid ≠ unassigned) :
    mwfree0Check seg (p + sizeofChunkhead) = .ok bin := by
  have lower : seg.top ≤ p + sizeofChunkhead := by
    have start := chunk.pos
    rw [bounds.top]
    simp only [emptySegment, sizeofChunkhead]
    omega
  have upper := data_le_bottom laid bounds chunk
  have head : p + sizeofChunkhead - sizeofChunkhead = p := by omega
  have step : seg.basechunksize * oneShl bin + chunkOverhead = stride base bin := by
    rw [laid.basechunksize, stride]
  have wide := stride_ge base bin
  simp only [chunkOverhead, sizeofChunkhead, sizeofChunkfoot] at wide
  rcases chunk with ⟨early, i, inBin, place⟩
  have offset : p - binTop base cps bin = i * stride base bin := by
    simp [place, chunkAt]
  have index : (p - binTop base cps bin).tdiv (stride base bin) = i := by
    rw [offset]
    exact Int.mul_tdiv_cancel _ (by omega)
  have aligned : (p - binTop base cps bin).tmod (stride base bin) = 0 := by
    simp [offset, Int.mul_tmod_left]
  have inRange : ¬ ((i : Int) < 0 ∨
      (i : Int) > if bin ≠ 0 then seg.chunkspersize else seg.chunkspersize * 2) := by
    rw [laid.chunkspersize]
    rw [chunkCount] at inBin
    by_cases first : bin = 0
    · grind
    · grind
  simp only [mwfree0Check, head, laid.size bin p ⟨early, i, inBin, place⟩, log2_oneShl early,
    mwGettopofbin_eq laid, step, index, aligned]
  rw [if_neg (by omega), if_neg inRange, if_neg (by simp), if_neg owned]

theorem mwfree0Check_bin {accepted : Nat} (chunk : IsChunk base cps bin p)
    (result : mwfree0Check seg (p + sizeofChunkhead) = .ok accepted) : accepted = bin := by
  have head : p + sizeofChunkhead - sizeofChunkhead = p := by omega
  simp only [mwfree0Check, head, laid.size bin p chunk, log2_oneShl chunk.1] at result
  split_ifs at result <;> exact (Except.ok.inj result).symm

end Checks

inductive Place where
  | nowhere
  | free
  | popped (pid : Nat)
  | inUse (pid : Nat)
  | freeing (pid : Nat)
deriving DecidableEq

/-- The tasks of the processes and the buffers in use, as the places say. -/
structure Located (state : HeapState) (place : Int → Place) : Prop where
  popped : ∀ p pid, place p = .popped pid ↔ state.tasks pid = .popped p
  inUse : ∀ p pid, place p = .inUse pid ↔ state.holder p = some pid
  freeing : ∀ p pid, place p = .freeing pid ↔ ∃ bin, state.tasks pid = .freeing p bin

/-- The bin a process works on is one of the heap, and the chunk it gives back is
of that bin. -/
def Task.InBin (base cps : Nat) : Task → Prop
  | .locking bin => bin < bins
  | .freeing p bin => IsChunk base cps bin p
  | _ => True

/-- The heap and all processes agree about where each chunk is. -/
structure HeapInvariant (mwid : Nat → Int) (base cps : Nat) (state : HeapState)
    (rings : Nat → List Int) (place : Int → Place) : Prop where
  laid : Laid base cps state.seg
  bounds : Bounds base cps state.seg
  linked : ∀ bin < bins, FreeRing base cps state.seg bin (rings bin)
  chunk : ∀ p, place p ≠ .nowhere ↔ ∃ bin, IsChunk base cps bin p
  free : ∀ p, place p = .free ↔ ∃ bin < bins, p ∈ rings bin
  located : Located state place
  bin : ∀ pid, (state.tasks pid).InBin base cps
  unowned : ∀ p, (place p = .free ∨ ∃ pid, place p = .freeing pid) →
    (state.seg.head p).ownerid = unassigned
  owned : ∀ p pid, place p = .inUse pid → (state.seg.head p).ownerid = mwid pid

def Task.EmptyHanded (task : Task) : Prop :=
  (∀ p, task ≠ .popped p) ∧ ∀ p bin, task ≠ .freeing p bin

section Located

variable {state : HeapState} {place : Int → Place} (located : Located state place)
include located

theorem Located.setTask (before : (state.tasks pid).EmptyHanded) (after : task.EmptyHanded) :
    Located (state.setTask pid task) place := by
  have popped := located.popped
  have freeing := located.freeing
  unfold Task.EmptyHanded at before after
  constructor
  · intro q process
    simp only [HeapState.setTask, setAt]
    grind
  · exact located.inUse
  · intro q process
    simp only [HeapState.setTask, setAt]
    grind

theorem Located.pop (isFree : place p = .free) (before : (state.tasks pid).EmptyHanded)
    (seg : Segment) :
    Located (({ state with seg := seg } : HeapState).setTask pid (.popped p))
      (setAt place p (.popped pid)) := by
  have popped := located.popped
  have inUse := located.inUse
  have freeing := located.freeing
  unfold Task.EmptyHanded at before
  constructor
  · intro q process
    simp only [HeapState.setTask, setAt]
    grind
  · grind [HeapState.setTask, setAt]
  · intro q process
    simp only [HeapState.setTask, setAt]
    grind

theorem Located.handOut {mwid : Nat → Int} (popped : state.tasks pid = .popped p) :
    Located (handOut mwid state pid p) (setAt place p (.inUse pid)) := by
  have here : place p = .popped pid := (located.popped p pid).mpr popped
  have isPopped := located.popped
  have inUse := located.inUse
  have freeing := located.freeing
  constructor
  · intro q process
    simp only [Shm.handOut, HeapState.setTask, setAt]
    grind
  · intro q process
    simp only [Shm.handOut, HeapState.setTask, setAt]
    grind
  · intro q process
    simp only [Shm.handOut, HeapState.setTask, setAt]
    grind

theorem Located.takeBack {owner : Nat} (inUse : state.holder p = some owner)
    (before : (state.tasks pid).EmptyHanded) (seg : Segment) :
    Located (({ state with seg := seg, holder := setAt state.holder p none } : HeapState).setTask
      pid (.freeing p bin)) (setAt place p (.freeing pid)) := by
  have here : place p = .inUse owner := (located.inUse p owner).mpr inUse
  have popped := located.popped
  have isUsed := located.inUse
  have freeing := located.freeing
  unfold Task.EmptyHanded at before
  constructor
  · intro q process
    simp only [HeapState.setTask, setAt]
    grind
  · intro q process
    simp only [HeapState.setTask, setAt]
    grind
  · intro q process
    have given : (∃ accepted, Task.freeing p bin = .freeing q accepted) ↔ q = p := by
      constructor
      · simp_all
      · simp_all
    simp only [HeapState.setTask, setAt]
    by_cases same : process = pid
    · simp_all
    · grind

theorem Located.push (freeing : state.tasks pid = .freeing p bin) (seg : Segment) :
    Located (({ state with seg := seg } : HeapState).setTask pid .idle)
      (setAt place p .free) := by
  have here : place p = .freeing pid := (located.freeing p pid).mpr ⟨bin, freeing⟩
  have popped := located.popped
  have inUse := located.inUse
  have isFreeing := located.freeing
  constructor
  · intro q process
    simp only [HeapState.setTask, setAt]
    grind
  · grind [HeapState.setTask, setAt]
  · intro q process
    simp only [HeapState.setTask, setAt]
    grind

end Located

section Steps

variable {mwid : Nat → Int} {base cps : Nat} {state : HeapState} {rings : Nat → List Int}
  {place : Int → Place} (invariant : HeapInvariant mwid base cps state rings place)
include invariant

theorem HeapInvariant.bin_setTask (inBin : task.InBin base cps) (process : Nat) :
    ((state.setTask pid task).tasks process).InBin base cps := by
  simp only [HeapState.setTask, setAt]
  split_ifs
  · exact inBin
  · exact invariant.bin process

theorem HeapInvariant.setTask (before : (state.tasks pid).EmptyHanded) (after : task.EmptyHanded)
    (inBin : task.InBin base cps) :
    HeapInvariant mwid base cps (state.setTask pid task) rings place := by
  refine ⟨invariant.laid, invariant.bounds, invariant.linked, invariant.chunk, invariant.free,
    invariant.located.setTask before after, invariant.bin_setTask inBin, invariant.unowned,
    invariant.owned⟩

theorem HeapInvariant.ring_unique {bin other : Nat} {p : Int} (small : bin < bins)
    (otherSmall : other < bins) (member : p ∈ rings bin) (otherMember : p ∈ rings other) :
    bin = other :=
  ((invariant.linked bin small).chunks p member).bin_unique
    ((invariant.linked other otherSmall).chunks p otherMember)

theorem HeapInvariant.chunk_setAt {target : Place} (known : place p ≠ .nowhere)
    (proper : target ≠ .nowhere) (q : Int) :
    setAt place p target q ≠ .nowhere ↔ ∃ bin, IsChunk base cps bin q := by
  rw [← invariant.chunk q, setAt]
  split_ifs with same
  · simp_all
  · exact Iff.rfl

/-- The pop of a chunk. -/
theorem HeapInvariant.pop (small : bin < bins) (before : (state.tasks pid).EmptyHanded) {root : Int}
    {others : List Int} (ring : rings bin = root :: others) :
    ∃ next, popFrom state pid bin = .ok next ∧
      HeapInvariant mwid base cps next (setAt rings bin others)
        (setAt place root (.popped pid)) := by
  have free := invariant.linked bin small
  rw [ring] at free
  rcases popchunk_free invariant.laid free with ⟨seg, result, freed, untouched⟩
  have isFree : place root = .free := (invariant.free root).mpr ⟨bin, small, by simp [ring]⟩
  have notOthers : root ∉ others :=
    (List.nodup_cons.mp (free.linked root others rfl).nodup).1
  refine ⟨({ state with seg := seg } : HeapState).setTask pid (.popped root), ?_, ?_⟩
  · rw [popFrom, result]
  · refine ⟨untouched.laid, invariant.bounds.untouched untouched, ?_,
      invariant.chunk_setAt (by simp [isFree]) (by simp), ?_,
      invariant.located.pop isFree before seg, invariant.bin_setTask trivial, ?_, ?_⟩
    · intro other otherSmall
      simp only [setAt]
      split_ifs with same
      · rw [same]
        exact freed
      · exact untouched.freeRing free.chunks same (invariant.linked other otherSmall)
    · intro p
      have here := invariant.free p
      have unique := @invariant.ring_unique
      simp only [setAt]
      grind
    · intro p outside
      have here := invariant.unowned p
      have same : seg.head = state.seg.head := untouched.head
      simp only [HeapState.setTask, setAt, same] at outside ⊢
      grind
    · intro p process used
      have here := invariant.owned p process
      have same : seg.head = state.seg.head := untouched.head
      simp only [HeapState.setTask, setAt, same] at used ⊢
      grind

theorem HeapInvariant.linked_setOwner (p owner : Int) (bin : Nat) (small : bin < bins) :
    FreeRing base cps (state.seg.setOwner p owner) bin (rings bin) := by
  refine (invariant.linked bin small).congr rfl rfl ?_
  intro q _
  exact ⟨nextOf_setOwner _ _ _ _, prevOf_setOwner _ _ _ _⟩

/-- The return from `_mwalloc`. -/
theorem HeapInvariant.handOut (popped : state.tasks pid = .popped p) :
    HeapInvariant mwid base cps (handOut mwid state pid p) rings
      (setAt place p (.inUse pid)) := by
  have here : place p = .popped pid := (invariant.located.popped p pid).mpr popped
  refine ⟨invariant.laid.setOwner _ _,
    ⟨invariant.bounds.segmentsize, invariant.bounds.top, invariant.bounds.bottom⟩,
    invariant.linked_setOwner _ _, invariant.chunk_setAt (by simp [here]) (by simp), ?_,
    invariant.located.handOut popped, invariant.bin_setTask trivial, ?_, ?_⟩
  · intro q
    rw [← invariant.free q, setAt]
    split_ifs with same
    · simp [same, here]
    · exact Iff.rfl
  · intro q outside
    have unowned := invariant.unowned q
    simp only [Shm.handOut, HeapState.setTask, Segment.setOwner, setAt] at outside ⊢
    grind
  · intro q process used
    have owned := invariant.owned q process
    simp only [Shm.handOut, HeapState.setTask, Segment.setOwner, setAt] at used ⊢
    grind

/-- The checks of `_mwfree0` and what follows them up to the lock. -/
theorem HeapInvariant.takeBack {owner : Nat} (idle : state.tasks pid = .idle)
    (inUse : state.holder p = some owner) :
    ∃ place', HeapInvariant mwid base cps (takeBack state pid p) rings place' := by
  have here : place p = .inUse owner := (invariant.located.inUse p owner).mpr inUse
  rcases (invariant.chunk p).mp (by simp [here]) with ⟨bin, chunk⟩
  have before : (state.tasks pid).EmptyHanded := by
    rw [idle]
    exact ⟨by simp, by simp⟩
  rw [Shm.takeBack]
  cases result : mwfree0Check state.seg (p + sizeofChunkhead) with
  | error code => exact ⟨place, invariant⟩
  | ok accepted =>
      have own := mwfree0Check_bin invariant.laid chunk result
      subst own
      refine ⟨setAt place p (.freeing pid), invariant.laid.setOwner _ _,
        ⟨invariant.bounds.segmentsize, invariant.bounds.top, invariant.bounds.bottom⟩,
        invariant.linked_setOwner _ _, invariant.chunk_setAt (by simp [here]) (by simp), ?_,
        invariant.located.takeBack inUse before _, invariant.bin_setTask chunk, ?_, ?_⟩
      · intro q
        rw [← invariant.free q, setAt]
        split_ifs with same
        · simp [same, here]
        · exact Iff.rfl
      · intro q outside
        have unowned := invariant.unowned q
        simp only [HeapState.setTask, Segment.setOwner, setAt] at outside ⊢
        grind
      · intro q process used
        have owned := invariant.owned q process
        simp only [HeapState.setTask, Segment.setOwner, setAt] at used ⊢
        grind

/-- The push of a chunk. -/
theorem HeapInvariant.push (freeing : state.tasks pid = .freeing p bin) :
    ∃ next, pushTo state pid p bin = .ok next ∧
      HeapInvariant mwid base cps next (setAt rings bin (pushSecond p (rings bin)))
        (setAt place p .free) := by
  have here : place p = .freeing pid := (invariant.located.freeing p pid).mpr ⟨bin, freeing⟩
  have chunk : (Task.freeing p bin).InBin base cps := freeing ▸ invariant.bin pid
  have small : bin < bins := Nat.lt_of_lt_pred chunk.1
  have free := invariant.linked bin small
  have fresh : p ∉ rings bin := by
    intro member
    have isFree := (invariant.free p).mpr ⟨bin, small, member⟩
    rw [here] at isFree
    cases isFree
  rcases pushchunk_free invariant.laid chunk free fresh with ⟨seg, result, freed, untouched⟩
  have inBin : ∀ q ∈ p :: rings bin, IsChunk base cps bin q := by
    intro q member
    rcases List.mem_cons.mp member with rfl | inRing
    · exact chunk
    · exact free.chunks q inRing
  refine ⟨({ state with seg := seg } : HeapState).setTask pid .idle, ?_, ?_⟩
  · rw [pushTo, result]
  · refine ⟨untouched.laid, invariant.bounds.untouched untouched, ?_,
      invariant.chunk_setAt (by simp [here]) (by simp), ?_,
      invariant.located.push freeing seg, invariant.bin_setTask trivial, ?_, ?_⟩
    · intro other otherSmall
      simp only [setAt]
      split_ifs with same
      · rw [same]
        exact freed
      · exact untouched.freeRing inBin same (invariant.linked other otherSmall)
    · intro q
      have isFree := invariant.free q
      have member := @mem_pushSecond p q (rings bin)
      simp only [setAt]
      grind
    · intro q outside
      have unowned := invariant.unowned q
      have unownedHere := invariant.unowned p (Or.inr ⟨pid, here⟩)
      have same : seg.head = state.seg.head := untouched.head
      simp only [HeapState.setTask, setAt, same] at outside ⊢
      grind
    · intro q process used
      have owned := invariant.owned q process
      have same : seg.head = state.seg.head := untouched.head
      simp only [HeapState.setTask, setAt, same] at used ⊢
      grind

end Steps

section Runs

variable (findBin : Nat → Nat) (mwid : Nat → Int) (base cps : Nat)

def HeapSound (state : HeapState) : Prop :=
  ∃ rings place, HeapInvariant mwid base cps state rings place

variable {base cps}

theorem heapSound_start (someChunks : 0 < cps) (state : HeapState)
    (started : (heapMachine findBin mwid base cps).start state) : HeapSound mwid base cps state := by
  rcases started with ⟨formatted, idle, unused⟩
  rcases shmbFormat_free someChunks formatted with ⟨⟨laid, bounds⟩, linked, unowned⟩
  classical
  have isFree : ∀ p, (if ∃ bin, IsChunk base cps bin p then Place.free else .nowhere) = .free ↔
      ∃ bin, IsChunk base cps bin p := by
    intro p
    split_ifs with chunk
    · exact ⟨fun _ => chunk, fun _ => rfl⟩
    · exact ⟨fun same => by simp at same, fun is => absurd is chunk⟩
  refine ⟨allFree base cps,
    fun p => if ∃ bin, IsChunk base cps bin p then .free else .nowhere,
    laid, bounds, linked, ?_, ?_, ⟨?_, ?_, ?_⟩, ?_, ?_, ?_⟩
  · simp
  · intro p
    rw [isFree]
    constructor
    · rintro ⟨bin, chunk⟩
      refine ⟨bin, Nat.lt_of_lt_pred chunk.1, ?_⟩
      rw [allFree, if_pos chunk.1]
      exact mem_chunkList.mpr chunk.2
    · rintro ⟨bin, small, member⟩
      exact ⟨bin, (linked bin small).chunks p member⟩
  · intro p pid
    rw [idle]
    split_ifs <;> simp
  · intro p pid
    rw [unused]
    split_ifs <;> simp
  · intro p pid
    rw [idle]
    split_ifs <;> simp
  · intro pid
    rw [idle]
    trivial
  · grind
  · intro p pid used
    split_ifs at used

/-- No step follows a null pointer, and every step keeps the invariant. -/
theorem heapSound_step :
    (heapMachine findBin mwid base cps).Keeps (fun _ _ => True) (HeapSound mwid base cps) := by
  rintro state action ⟨rings, place, invariant⟩ enabled -
  have emptyIdle : Task.idle.EmptyHanded := ⟨by simp, by simp⟩
  have emptyScanning : ∀ bin, (Task.scanning bin).EmptyHanded := fun bin => ⟨by simp, by simp⟩
  have emptyLocking : ∀ bin, (Task.locking bin).EmptyHanded := fun bin => ⟨by simp, by simp⟩
  change ∃ next, HeapState.step findBin mwid state action = .ok next ∧ _
  cases action with
  | alloc pid size =>
      have idle : state.tasks pid = .idle := enabled
      refine ⟨_, rfl, rings, place, ?_⟩
      split_ifs
      · exact invariant
      · exact invariant.setTask (idle ▸ emptyIdle) (emptyScanning _) trivial
  | look pid =>
      rcases enabled with ⟨bin, scanning⟩
      refine ⟨lookAt state pid bin, by simp only [HeapState.step, scanning], rings, place, ?_⟩
      have before := scanning ▸ emptyScanning bin
      rw [lookAt]
      split_ifs with small
      · exact invariant.setTask before (emptyLocking bin) small
      · exact invariant.setTask before (emptyScanning _) trivial
      · exact invariant.setTask before emptyIdle trivial
  | lockFails pid =>
      rcases enabled with ⟨bin, locking⟩
      exact ⟨_, rfl, rings, place,
        invariant.setTask (locking ▸ emptyLocking bin) emptyIdle trivial⟩
  | pop pid =>
      rcases enabled with ⟨bin, locking⟩
      have small : (Task.locking bin).InBin base cps := locking ▸ invariant.bin pid
      have before := locking ▸ emptyLocking bin
      simp only [HeapState.step, locking]
      cases ring : rings bin with
      | nil =>
          have free := invariant.linked bin small
          rw [ring] at free
          refine ⟨_, by rw [popFrom, popchunk_empty free], rings, place, ?_⟩
          exact invariant.setTask before (emptyScanning _) trivial
      | cons root others =>
          rcases invariant.pop small before ring with ⟨next, result, after⟩
          exact ⟨next, result, _, _, after⟩
  | own pid =>
      rcases enabled with ⟨p, popped⟩
      exact ⟨handOut mwid state pid p, by simp only [HeapState.step, popped], rings, _,
        invariant.handOut popped⟩
  | free pid p =>
      rcases enabled with ⟨idle, owner, inUse⟩
      exact ⟨_, rfl, rings, invariant.takeBack idle inUse⟩
  | push pid =>
      rcases enabled with ⟨p, bin, freeing⟩
      rcases invariant.push freeing with ⟨next, result, after⟩
      exact ⟨next, by simp only [HeapState.step, freeing, result], _, _, after⟩

end Runs

/-- The free chunks of a bin: one ring that starts at the root of the bin, as
long as the free count, of unowned chunks of the size of the bin. -/
structure RingOk (seg : Segment) (bin : Nat) (ring : List Int) : Prop where
  nodup : ring.Nodup
  count : seg.freecount bin = ring.length
  empty : seg.chunk bin = 0 ↔ seg.freecount bin = 0
  linked : ∀ root others, ring = root :: others →
    seg.chunk bin = root ∧ LinkedRing seg.nextOf seg.prevOf root others
  inverse : ∀ p ∈ ring, (seg.nextOf p ∈ ring ∧ seg.prevOf (seg.nextOf p) = p) ∧
    seg.prevOf p ∈ ring ∧ seg.nextOf (seg.prevOf p) = p
  heads : ∀ p ∈ ring, seg.head p = ⟨unassigned, oneShl bin⟩

/-- The whole heap: every chunk is in the ring of its own bin, or in the hands of
exactly one process, which can give it back to that bin. -/
structure HeapOk (mwid : Nat → Int) (base cps : Nat) (state : HeapState) : Prop where
  rings : ∃ rings : Nat → List Int, (∀ bin < bins, RingOk state.seg bin (rings bin)) ∧
    ∀ bin p, IsChunk base cps bin p →
      (∀ other < bins, p ∈ rings other → other = bin) ∧
        ((p ∈ rings bin ∧ ∀ pid, ¬ state.HandedTo pid p) ∨
          (p ∉ rings bin ∧ ∃! pid, state.HandedTo pid p))
  freed : ∀ bin p pid, IsChunk base cps bin p → state.holder p = some pid →
    mwid pid ≠ unassigned → mwfree0Check state.seg (p + sizeofChunkhead) = .ok bin

section Summary

variable {mwid : Nat → Int} {base cps : Nat} {state : HeapState} {rings : Nat → List Int}
  {place : Int → Place} (invariant : HeapInvariant mwid base cps state rings place)
include invariant

theorem HeapInvariant.ringOk (small : bin < bins) :
    RingOk state.seg bin (rings bin) := by
  have free := invariant.linked bin small
  refine ⟨?_, free.count, ?_, ?_, ?_, ?_⟩
  · cases shape : rings bin with
    | nil => exact List.nodup_nil
    | cons root others => exact (free.linked root others shape).nodup
  · rw [free.root, free.count]
    cases shape : rings bin with
    | nil => simp
    | cons root others =>
        rw [shape] at free
        have nonzero := free.root_ne_zero
        simp only [List.headD_cons, List.length_cons]
        omega
  · intro root others shape
    refine ⟨?_, free.linked root others shape⟩
    rw [free.root, shape]
    rfl
  · intro p member
    cases shape : rings bin with
    | nil => simp [shape] at member
    | cons root others => exact (free.linked root others shape).inverse (shape ▸ member)
  · intro p member
    have owner := invariant.unowned p (Or.inl ((invariant.free p).mpr ⟨bin, small, member⟩))
    have size := invariant.laid.size bin p (free.chunks p member)
    rw [← owner, ← size]

theorem HeapInvariant.handedTo (pid : Nat) :
    state.HandedTo pid p ↔
      place p = .popped pid ∨ place p = .inUse pid ∨ place p = .freeing pid := by
  rw [HeapState.HandedTo, invariant.located.popped, invariant.located.inUse,
    invariant.located.freeing]

theorem HeapInvariant.heapOk : HeapOk mwid base cps state := by
  refine ⟨⟨rings, fun bin small => invariant.ringOk small, ?_⟩, ?_⟩
  · intro bin p chunk
    have small : bin < bins := Nat.lt_of_lt_pred chunk.1
    have ownRing : ∀ other < bins, p ∈ rings other → other = bin := by
      intro other otherSmall member
      exact ((invariant.linked other otherSmall).chunks p member).bin_unique chunk
    refine ⟨ownRing, ?_⟩
    have isFree : place p = .free ↔ p ∈ rings bin := by
      rw [invariant.free p]
      exact ⟨fun ⟨other, otherSmall, member⟩ => ownRing other otherSmall member ▸ member,
        fun member => ⟨bin, small, member⟩⟩
    simp only [invariant.handedTo, ← isFree]
    cases found : place p with
    | nowhere => exact absurd found ((invariant.chunk p).mpr ⟨bin, chunk⟩)
    | free => simp
    | popped pid => exact Or.inr ⟨by simp, pid, by simp⟩
    | inUse pid => exact Or.inr ⟨by simp, pid, by simp⟩
    | freeing pid => exact Or.inr ⟨by simp, pid, by simp⟩
  · intro bin p pid chunk inUse attached
    have owner := invariant.owned p pid ((invariant.located.inUse p pid).mpr inUse)
    exact mwfree0Check_ok invariant.laid invariant.bounds chunk (owner ▸ attached)

end Summary

/-- In every state that calls of any processes lead to, in any order, the heap is
whole, and no call runs into a null pointer. -/
theorem heap_reachable (findBin : Nat → Nat) (mwid : Nat → Int) {base cps : Nat}
    (someChunks : 0 < cps) {state : HeapState}
    (reachable : (heapMachine findBin mwid base cps).Reachable (fun _ _ => True) state) :
    HeapOk mwid base cps state ∧ ∀ action, state.enabled action →
      ∃ next, state.step findBin mwid action = .ok next := by
  have sound : HeapSound mwid base cps state :=
    reachable.safe (heapSound_start findBin mwid someChunks) (heapSound_step findBin mwid)
  constructor
  · rcases sound with ⟨rings, place, invariant⟩
    exact invariant.heapOk
  · intro action enabled
    rcases heapSound_step findBin mwid state action sound enabled trivial with ⟨next, result, -⟩
    exact ⟨next, result⟩

/-- Process 7 allocates in a heap with one chunk of each size, and gets the first chunk of the
smallest bin. -/
theorem first_alloc_reachable :
    ∃ state, (heapMachine (fun _ => 0) (fun pid => pid) 4 1).Reachable (fun _ _ => True) state ∧
      state.holder 112 = some 7 ∧ state.tasks 8 = .idle := by
  have isSome : (shmbFormat 4 1).isSome := by decide
  rcases Option.isSome_iff_exists.mp isSome with ⟨seg, formatted⟩
  rcases shmbFormat_free Nat.one_pos formatted with ⟨⟨laid, -⟩, linked, -⟩
  have free : FreeRing 4 1 seg 0 [112, 156] := linked 0 (by decide)
  rcases popchunk_free laid free with ⟨seg', popped, -, -⟩
  have counted : seg.freecount 0 > 0 := by
    simp [free.count]
  let fresh : HeapState := ⟨seg, fun _ => .idle, fun _ => none⟩
  let scanning := fresh.setTask 7 (.scanning 0)
  let locking := scanning.setTask 7 (.locking 0)
  let holding := ({ locking with seg := seg' } : HeapState).setTask 7 (.popped 112)
  let machine := heapMachine (fun _ => 0) (fun pid => pid) 4 1
  have started : machine.Reachable (fun _ _ => True) fresh := .start ⟨formatted, rfl, rfl⟩
  have allocated : machine.Reachable (fun _ _ => True) scanning :=
    started.step (show machine.enabled fresh (.alloc 7 3) from rfl) trivial rfl
  have looked : machine.Reachable (fun _ _ => True) locking := by
    apply allocated.step (show machine.enabled scanning (.look 7) from ⟨0, rfl⟩) trivial
    change Except.ok (lookAt scanning 7 0) = .ok locking
    rw [lookAt, if_pos (by decide), if_pos (show scanning.seg.freecount 0 > 0 from counted)]
  have taken : machine.Reachable (fun _ _ => True) holding := by
    apply looked.step (show machine.enabled locking (.pop 7) from ⟨0, rfl⟩) trivial
    change popFrom locking 7 0 = .ok holding
    rw [popFrom, show popchunk locking.seg 0 = .ok (some 112, seg') from popped]
  have returned : machine.Reachable (fun _ _ => True) (handOut (fun pid => pid) holding 7 112) :=
    taken.step (show machine.enabled holding (.own 7) from ⟨112, rfl⟩) trivial rfl
  exact ⟨_, returned, rfl, rfl⟩

/-- The heap is whole after the allocation. -/
theorem heap_reachable_first_alloc :
    ∃ state, (heapMachine (fun _ => 0) (fun pid => pid) 4 1).Reachable (fun _ _ => True) state ∧
      state.holder 112 = some 7 ∧ HeapOk (fun pid => pid) 4 1 state := by
  rcases first_alloc_reachable with ⟨state, reachable, held, _⟩
  exact ⟨state, reachable, held, (heap_reachable _ _ Nat.one_pos reachable).1⟩

end MidWay.Shm

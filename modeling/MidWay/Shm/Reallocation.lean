import MidWay.Shm.FindBin
import MidWay.Shm.Segments

/-!
Contract: `_mwrealloc` as one call of a process.

The old size is read through the table of segments; a smaller size keeps the buffer.
Otherwise a new buffer comes from a bin of the heap, or from `mwd` in a file of its
own, the data is copied, and `_mwfree` frees the old buffer through the table again.

A call that reads in front of the table of bins, follows a null pointer, or waits for
an answer `mwd` does not send, gives no result.

Owns: `mwallocate`, `mwrealloc`, and when the data survives.
-/

namespace MidWay.Shm

open MidWay.CLib MidWay.Lib

def longMax : Int := 9223372036854775807

/-- The length `do_alloc` gives to the file of a request: the head and the data, in whole pages. -/
def fileLength (pagesize : Nat) (size : Nat) : Int :=
  let s := size + sizeofChunkhead.toNat
  ((s / pagesize + if s % pagesize ≠ 0 then 1 else 0) * pagesize : Nat)

/-- What `mwd` and the system give for a request: an id that is not in use, a descriptor that is
not open, and a place for the file. -/
structure NewFile (memory : SharedMemory) (process : Process) (length : Int) where
  id : Int
  large : lowLargeBufferNumber < id
  missing : memory.files id = none
  unlisted : process.findsegmentByid id = none
  unmapped : process.space.findsegmentByid id = none
  fd : Int
  closed : 0 < fd ∧ fd ∉ process.descriptors
  area : FreeArea process.space length

inductive AllocFailure where
  | nullPointer
  | outOfBounds
  | noAnswer
deriving DecidableEq, Repr

structure AllocResult where
  adr : Option Int
  memory : SharedMemory
  process : Process

def HeapState.taken (state : HeapState) (seg : Segment) (pCHead : Int) (pid : Nat) : HeapState :=
  { state with seg := seg, holder := setAt state.holder pCHead (some pid) }

/-- The file `do_alloc` makes, all zero but for its head. -/
def SharedMemory.makeFile (memory : SharedMemory) (id : Int) (owner : Int) (size : Nat)
    (length : Int) : SharedMemory :=
  { memory with
    files := setAt memory.files id (some ⟨setAt (fun _ => ⟨0, 0⟩) 0 ⟨owner, size⟩, length⟩)
    bytes := setAt memory.bytes id fun _ => 0 }

section

variable (rounding : SingleRounding) (mwid : Nat → Int) (pagesize pid : Nat) (lock : Nat → Bool)
  (memory : SharedMemory) (process : Process)

/-- `_mwalloc`. `answer` is none when `mwd` has no buffer or its file cannot be mapped. -/
def mwallocate (size : Nat) (answer : Option (NewFile memory process (fileLength pagesize size))) :
    Except AllocFailure AllocResult :=
  if size = 0 then .ok ⟨none, memory, process⟩
  else
    match process.findsegmentByid 0 with
    | none => .error .nullPointer
    | some si =>
        let bin := floatBin rounding memory.heap.seg.basechunksize.toNat size
        if bin < 0 then .error .outOfBounds
        else
          match mwallocFrom lock (mwid pid) (bins - bin.toNat) memory.heap.seg bin.toNat with
          | .error _ => .error .nullPointer
          | .ok (.lockFailed, _) => .ok ⟨none, memory, process⟩
          | .ok (.buffer adr, seg) =>
              .ok ⟨some (si.start + adr),
                { memory with heap := memory.heap.taken seg (adr - sizeofChunkhead) pid }, process⟩
          | .ok (.full, _) =>
              if size + sizeofChunkhead > longMax then .error .noAnswer
              else
                match answer with
                | none => .ok ⟨none, memory, process⟩
                | some file =>
                    .ok ⟨some (file.area.start + sizeofChunkhead),
                      memory.makeFile file.id (mwid pid) size (fileLength pagesize size),
                      process.attachMmap file.id (fileLength pagesize size) file.fd file.area
                        file.unmapped⟩

end

def SharedMemory.headBefore (memory : SharedMemory) (process : Process) (adr : Int) :
    Option Chunkhead :=
  (process.space.resolve (adr - sizeofChunkhead)).map fun si =>
    memory.headAt si.segmentid (adr - sizeofChunkhead - si.start)

/-- `_mwshmgetsizeofchunk`. An address in no segment has the size minus one. -/
def SharedMemory.sizeofchunk (memory : SharedMemory) (process : Process) (adr : Int) :
    Except AllocFailure Int :=
  match process.segmentAt adr with
  | none => .ok (sizeT (-1))
  | some si =>
      match memory.headBefore process adr with
      | none => .error .nullPointer
      | some head =>
          if si.segmentid = 0 then .ok (sizeT (head.size * memory.heap.seg.basechunksize))
          else .ok (sizeT head.size)

/-- `memcpy` between two addresses. -/
def SharedMemory.memcpy (memory : SharedMemory) (process : Process) (dest src : Int) (len : Nat) :
    Except AllocFailure SharedMemory :=
  match process.space.resolve dest, process.space.resolve src with
  | some target, some source =>
      .ok (memory.write target.segmentid (dest - target.start) len
        fun index => memory.bytes source.segmentid (src - source.start + index))
  | _, _ => .error .nullPointer

/-- `_mwfree`; what it returns is not looked at. -/
def freeThrough (pid : Nat) (memory : SharedMemory) (process : Process) (adr : Int) :
    Except AllocFailure (SharedMemory × Process) :=
  match process.findsegmentByaddr adr, process.segmentAt adr with
  | some index, some si =>
      if si.segmentid = 0 then
        match memory.heap.mwfree0 pid (adr - si.start) with
        | .error _ => .error .nullPointer
        | .ok (rc, heap) =>
            if rc = 0 then
              let s := (memory.heap.seg.head (adr - si.start - sizeofChunkhead)).size *
                memory.heap.seg.basechunksize
              .ok ({ memory.write 0 (adr - si.start) s.toNat (fun _ => 0) with heap := heap },
                process)
            else .ok ({ memory with heap := heap }, process)
      else
        .ok ({ memory with files := setAt memory.files si.segmentid none },
          process.mwDetachMmap index)
  | _, _ => .ok (memory, process)

section

variable (rounding : SingleRounding) (mwid : Nat → Int) (pagesize pid : Nat) (lock : Nat → Bool)
  (memory : SharedMemory) (process : Process)

/-- `_mwrealloc` of a buffer. -/
def mwrealloc (adr : Int) (newsize : Nat)
    (answer : Option (NewFile memory process (fileLength pagesize newsize))) :
    Except AllocFailure AllocResult :=
  match memory.sizeofchunk process adr with
  | .error failure => .error failure
  | .ok size =>
      if size > 0 then
        if newsize < size then .ok ⟨some adr, memory, process⟩
        else
          match mwallocate rounding mwid pagesize pid lock memory process newsize answer with
          | .error failure => .error failure
          | .ok ⟨none, memory, process⟩ => .ok ⟨none, memory, process⟩
          | .ok ⟨some newbuffer, memory, process⟩ =>
              let copylength := if size < newsize then size.toNat else newsize
              match memory.memcpy process newbuffer adr copylength with
              | .error failure => .error failure
              | .ok memory =>
                  match freeThrough pid memory process adr with
                  | .error failure => .error failure
                  | .ok (memory, process) => .ok ⟨some newbuffer, memory, process⟩
      else
        match freeThrough pid memory process adr with
        | .error failure => .error failure
        | .ok (memory, process) => .ok ⟨none, memory, process⟩

end

structure Process.Holds (process : Process) (memory : SharedMemory) (buffer : Buffer) (adr : Int)
    (si : Mapping) : Prop where
  mapped : si ∈ process.space.segments
  segment : si.segmentid = buffer.segmentid
  length : si.length = buffer.segmentLength memory
  address : adr = si.start + buffer.offset

def Process.Registered (process : Process) (buffer : Buffer) (adr : Int) : Prop :=
  ∃ si, process.segmentAt adr = some si ∧ si.segmentid = buffer.segmentid

def Process.Consistent (process : Process) : Prop :=
  ∀ si ∈ process.segments, ∀ mapping ∈ process.space.segments,
    si.segmentid = mapping.segmentid → si.start = mapping.start ∧ si.finish = mapping.finish

structure Attached (mwid : Nat → Int) (pid : Nat) (memory : SharedMemory) (process : Process) :
    Prop where
  named : mwid pid ≠ unassigned
  idle : memory.heap.tasks pid = .idle
  heap : ∃ si ∈ process.segments, si.segmentid = 0
  mapped : ∃ si ∈ process.space.segments, si.segmentid = 0 ∧
    si.length = memory.heap.seg.segmentsize
  consistent : process.Consistent

/-- What is left of the buffer at `adr` when a reallocation to `newsize` bytes returned. The
result is a buffer in use with room for them and the data so far, and the old one is that
buffer or free; or there is none and the old one is in use with its data. -/
inductive Preserved (mwid : Nat → Int) (base cps : Nat) (memory : SharedMemory) (buffer : Buffer)
    (adr : Int) (newsize : Nat) : AllocResult → Prop
  | kept {after : AllocResult} (isNone : after.adr = none)
      (inUse : buffer.InUse mwid base cps after.memory)
      (data : ∀ index : Nat, index < buffer.size base →
        after.memory.bytes buffer.segmentid (buffer.offset + index) =
          memory.bytes buffer.segmentid (buffer.offset + index)) :
      Preserved mwid base cps memory buffer adr newsize after
  | returned {after : AllocResult} {result : Int} {found : Buffer} {si : Mapping}
      (isSome : after.adr = some result) (inUse : found.InUse mwid base cps after.memory)
      (place : si ∈ after.process.space.segments ∧ si.segmentid = found.segmentid ∧
        result = si.start + found.offset)
      (capacity : newsize ≤ found.size base)
      (data : ∀ index : Nat, index < buffer.size base → index < newsize →
        after.memory.bytes found.segmentid (found.offset + index) =
          memory.bytes buffer.segmentid (buffer.offset + index))
      (old : (result = adr ∧ found = buffer) ∨ (result ≠ adr ∧ buffer.Freed after.memory)) :
      Preserved mwid base cps memory buffer adr newsize after

/-- A search that finds a chunk takes a free one of a bin it reached. -/
theorem HeapInvariant.alloc {mwid : Nat → Int} {base cps : Nat} {state : HeapState}
    {rings : Nat → List Int} {place : Int → Place}
    (invariant : HeapInvariant mwid base cps state rings place) {pid : Nat}
    (idle : state.tasks pid = .idle) {lock : Nat → Bool} {turns i : Nat}
    (inBins : i + turns ≤ bins) {adr : Int} {seg : Segment}
    (found : mwallocFrom lock (mwid pid) turns state.seg i = .ok (.buffer adr, seg)) :
    ∃ bin p, i ≤ bin ∧ adr = p + sizeofChunkhead ∧ IsChunk base cps bin p ∧
      state.holder p = none ∧ HeapSound mwid base cps (state.taken seg p pid) := by
  induction turns generalizing i with
  | zero =>
      cases found
  | succ turns ih =>
      have free := invariant.linked i (by omega)
      cases ring : rings i with
      | nil =>
          grind [mwallocFrom_empty]
      | cons root others =>
          have small : i < bins := by omega
          have emptyHanded : (state.tasks pid).EmptyHanded := by
            rw [idle]
            exact ⟨by simp, by simp⟩
          rw [ring] at free
          have someFree : state.seg.freecount i > 0 := by
            simp [free.count, List.length_cons]
          rcases popchunk_free invariant.laid free with ⟨popped, result, -, -⟩
          rw [mwallocFrom, if_pos someFree, result] at found
          have locked : lock i = true := by
            grind
          rw [if_pos locked] at found
          cases found
          refine ⟨i, root, Nat.le_refl i, rfl, free.chunks root List.mem_cons_self, ?_, ?_⟩
          · have isFree : place root = .free :=
              (invariant.free root).mpr ⟨i, small, by simp [ring]⟩
            cases held : state.holder root with
            | none => rfl
            | some owner =>
                rw [(invariant.located.inUse root owner).mpr held] at isFree
                cases isFree
          · rcases invariant.pop small emptyHanded ring with ⟨next, isNext, after⟩
            rw [popFrom, result] at isNext
            cases isNext
            have handed := after.handOut (if_pos rfl)
            have same : state.taken (popped.setOwner root (mwid pid)) root pid =
                Shm.handOut mwid (({ state with seg := popped } : HeapState).setTask pid
                  (.popped root)) pid root := by
              have tasks : state.tasks =
                  setAt (setAt state.tasks pid (.popped root)) pid .idle := by
                funext other
                simp only [setAt]
                split_ifs with isPid
                · rw [isPid, idle]
                · rfl
              simp only [HeapState.taken, Shm.handOut, HeapState.setTask, ← tasks]
            exact ⟨_, _, same ▸ handed⟩

end MidWay.Shm

import MidWay.Shm.CallBuffers

/-!
Contract: the shared bytes as a process sees them.

A process reads at addresses, the segments hold their bytes at offsets. What an address
shows is the byte of the mapping around it; the end of a mapping shows nothing.

Owns: `AddressSpace.byteAt`, and that a buffer in use lies in its segment with all of
its bytes.
-/

namespace MidWay.Shm

open MidWay.CLib MidWay.Lib

def AddressSpace.byteAt (space : AddressSpace) (memory : SharedMemory) (adr : Int) : Option Byte :=
  (space.segments.find? fun si => decide (si.start ≤ adr ∧ adr < si.finish)).map fun si =>
    memory.bytes si.segmentid (adr - si.start)

def MapsHeap (memory : SharedMemory) (space : AddressSpace) : Prop :=
  ∀ si ∈ space.segments, si.segmentid = 0 → si.length = memory.heap.seg.segmentsize

theorem Maps.heap_segment {memory : SharedMemory} {space : AddressSpace} {buffer : Buffer}
    (maps : Maps memory space buffer) (lengths : MapsHeap memory space) :
    ∃ si ∈ space.segments, si.segmentid = 0 ∧ si.length = memory.heap.seg.segmentsize := by
  obtain ⟨si, mapped, isHeap⟩ := maps.heap
  exact ⟨si, mapped, isHeap, lengths si mapped isHeap⟩

section Bytes

variable {space : AddressSpace} {si : Mapping} (member : si ∈ space.segments)
include member

theorem AddressSpace.byteAt_inside (memory : SharedMemory) {adr : Int} (lower : si.start ≤ adr)
    (upper : adr < si.finish) :
    space.byteAt memory adr = some (memory.bytes si.segmentid (adr - si.start)) := by
  have found : (space.segments.find? fun si => decide (si.start ≤ adr ∧ adr < si.finish)) =
      some si := by
    cases found : space.segments.find? fun si => decide (si.start ≤ adr ∧ adr < si.finish) with
    | none => exact absurd (decide_eq_true ⟨lower, upper⟩) (List.find?_eq_none.mp found si member)
    | some other =>
        have contains := List.find?_some found
        simp only [decide_eq_true_eq] at contains
        by_cases same : other = si
        · rw [same]
        · obtain before | behind :=
            space.apart other (List.mem_of_find?_eq_some found) si member same
          · omega
          · omega
  rw [AddressSpace.byteAt, found]
  rfl

theorem AddressSpace.getsegmentByid_mem (files : Int → Option BufferFile)
    (mmap : (length : Int) → FreeArea space length) :
    space.getsegmentByid files mmap si.segmentid = some (si, space) := by
  have isThere := AddressSpace.findsegmentByid_mem member
  grind [AddressSpace.getsegmentByid]

theorem AddressSpace.byteAt_read (memory : SharedMemory) {offset : Int} {len : Nat}
    (lower : 0 ≤ offset) (upper : offset + len ≤ si.length) {index : Nat} (inRange : index < len) :
    space.byteAt memory (si.start + offset + index) =
      (memory.read si.segmentid offset len)[index]? := by
  grind [AddressSpace.byteAt_inside, SharedMemory.read, Mapping.finish]

end Bytes

/-- Freeing an address of the heap leaves the files. -/
theorem SharedMemory.mwfree_files {memory after : SharedMemory} {space : AddressSpace} {pid : Nat}
    {adr : Int} {si : Mapping} (found : space.findsegmentByaddr adr = some si)
    (isHeap : si.segmentid = 0) (freed : memory.mwfree space pid adr = .ok after) :
    after.files = memory.files := by
  rw [SharedMemory.mwfree, found] at freed
  dsimp only at freed
  rw [if_pos isHeap] at freed
  cases result : memory.heap.mwfree0 pid (adr - si.start) with
  | error failure =>
      simp [result] at freed
  | ok outcome =>
      rw [result] at freed
      dsimp only at freed
      split_ifs at freed
      · cases freed
        rfl
      · grind

section Buffers

variable {mwid : Nat → Int} {base cps : Nat} {memory : SharedMemory}

theorem HeapSound.header_lt (sound : HeapSound mwid base cps memory.heap) :
    sizeofSegmenthdr ≤ memory.heap.seg.segmentsize := by
  obtain ⟨rings, place, invariant⟩ := sound
  have wide := binTop_mono base cps (Nat.zero_le (bins - 1))
  exact Int.le_trans wide invariant.laid.fits

/-- A buffer in use ends in its segment. -/
theorem Buffer.InUse.inSegment {buffer : Buffer} (inUse : buffer.InUse mwid base cps memory)
    (sound : HeapSound mwid base cps memory.heap) :
    buffer.offset + buffer.size base ≤ buffer.segmentLength memory := by
  cases buffer with
  | heap bin pCHead =>
      obtain ⟨chunk, _⟩ := inUse
      obtain ⟨rings, place, invariant⟩ := sound
      have upper := chunk.end_le chunk.1
      have fits := invariant.laid.fits
      have wide : stride base bin = oneShl bin * base + chunkOverhead := by
        rw [stride, Int.mul_comm]
      simp only [chunkOverhead, sizeofChunkhead, sizeofChunkfoot] at wide
      simp only [Buffer.offset, Buffer.size, Buffer.segmentLength, sizeofChunkhead]
      omega
  | file id size =>
      obtain ⟨_, _, file, isFile, _, fits⟩ := inUse
      rw [Buffer.segmentLength, isFile]
      exact fits

section Heap

variable {buffer : Buffer} (inUse : buffer.InUse mwid base cps memory)
  (inHeap : buffer.segmentid = 0)
include inUse inHeap

theorem Buffer.InUse.chunk_of_heap :
    ∃ bin pCHead, buffer = .heap bin pCHead ∧ IsChunk base cps bin pCHead := by
  cases buffer with
  | heap bin pCHead => exact ⟨bin, pCHead, rfl, inUse.1⟩
  | file id size =>
      have large := inUse.1
      have isZero : id = 0 := inHeap
      rw [isZero] at large
      exact absurd large (by decide)

theorem Buffer.InUse.segmentLength_heap :
    buffer.segmentLength memory = memory.heap.seg.segmentsize := by
  obtain ⟨_, _, rfl, _⟩ := inUse.chunk_of_heap inHeap
  rfl

theorem Buffer.InUse.size_le (someChunks : 0 < cps)
    (formatted : ∃ seg, shmbFormat base cps = some seg) : buffer.size base ≤ intMax := by
  obtain ⟨_, _, rfl, chunk⟩ := inUse.chunk_of_heap inHeap
  obtain ⟨_, isSegment⟩ := formatted
  exact (shmbFormat_small someChunks isSegment chunk).2

end Heap

end Buffers

end MidWay.Shm

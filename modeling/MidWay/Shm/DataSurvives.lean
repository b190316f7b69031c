import Mathlib.Data.Finset.Order
import Mathlib.Order.Interval.Set.Infinite
import MidWay.Shm.Reallocation

/-!
Contract: a reallocation preserves the data of every buffer the table of segments
still knows.

Each part of `_mwrealloc` has its lemma: what an allocation gives and leaves alone,
where the copy goes, and what the free takes. A buffer whose entry was lost is read
as having the largest size, or as a part of another segment.

Owns: `Given`, and that a reallocation preserves a buffer if and only if it is
registered.
-/

namespace MidWay.Shm

open MidWay.CLib MidWay.Lib

variable {after : AllocResult} {id result : Int} {bin newsize : Nat} {place : Mapping}

/-- The buffer at `adr` is new and large enough, and what was there is kept. -/
structure Given (mwid : Nat → Int) (base cps : Nat) (memory : SharedMemory) (process : Process)
    (size : Nat) (adr : Int) (memory' : SharedMemory) (process' : Process) (found : Buffer)
    (si : Mapping) : Prop where
  inUse : found.InUse mwid base cps memory'
  holds : process'.Holds memory' found adr si
  capacity : (size : Int) ≤ found.size base
  sound : HeapSound mwid base cps memory'.heap
  tasks : memory'.heap.tasks = memory.heap.tasks
  basechunksize : memory'.heap.seg.basechunksize = memory.heap.seg.basechunksize
  kept : ∀ buffer : Buffer, buffer.InUse mwid base cps memory →
    buffer.InUse mwid base cps memory' ∧
      buffer.segmentLength memory' = buffer.segmentLength memory ∧
      memory'.bytes buffer.segmentid = memory.bytes buffer.segmentid
  elsewhere : ∀ buffer : Buffer, buffer.InUse mwid base cps memory →
    buffer.segmentid = found.segmentid → buffer.segmentid = 0 ∧ buffer.offset ≠ found.offset
  mapped : ∀ other ∈ process.space.segments, other ∈ process'.space.segments
  listed : ∀ ptr other, process.segmentAt ptr = some other → process'.segmentAt ptr = some other
  consistent : process'.Consistent

theorem Process.Consistent.attachMmap {process : Process} (consistent : process.Consistent)
    {length fd : Int} {area : FreeArea process.space length}
    (unlisted : process.findsegmentByid id = none)
    (unmapped : process.space.findsegmentByid id = none) :
    (process.attachMmap id length fd area unmapped).Consistent := by
  intro si listed mapping mapped same
  rcases List.mem_append.mp listed with oldEntry | newEntry
  · rcases List.mem_append.mp mapped with oldMapping | newMapping
    · exact consistent si oldEntry mapping oldMapping same
    · rw [List.mem_singleton.mp newMapping] at same
      exact absurd (beq_iff_eq.mpr same) (List.find?_eq_none.mp unlisted si oldEntry)
  · rw [List.mem_singleton.mp newEntry] at same ⊢
    rcases List.mem_append.mp mapped with oldMapping | newMapping
    · exact absurd (beq_iff_eq.mpr same.symm)
        (List.find?_eq_none.mp unmapped mapping oldMapping)
    · rw [List.mem_singleton.mp newMapping]
      exact ⟨rfl, rfl⟩

theorem setAt_ne {α : Type} (map : Int → α) {key other : Int} (value : α) (differs : other ≠ key) :
    setAt map key value other = map other := if_neg differs

/-- A chunk of the heap that was free. -/
theorem Given.ofHeap {mwid : Nat → Int} {base cps : Nat} {memory : SharedMemory} {process : Process}
    {pid size : Nat} {p : Int} {seg : Segment} {si : Mapping} (named : mwid pid ≠ unassigned)
    (chunk : IsChunk base cps bin p) (unheld : memory.heap.holder p = none)
    (capacity : (size : Int) ≤ oneShl bin * base) (before : HeapSound mwid base cps memory.heap)
    (sound : HeapSound mwid base cps (memory.heap.taken seg p pid))
    (consistent : process.Consistent) (member : si ∈ process.space.segments)
    (isHeap : si.segmentid = 0) (length : si.length = memory.heap.seg.segmentsize) :
    Given mwid base cps memory process size (si.start + (p + sizeofChunkhead))
      { memory with heap := memory.heap.taken seg p pid } process (.heap bin p) si := by
  rcases before with ⟨rings, place, invariant⟩
  rcases sound with ⟨rings', place', after⟩
  have sameLength : seg.segmentsize = memory.heap.seg.segmentsize :=
    after.bounds.segmentsize.trans invariant.bounds.segmentsize.symm
  refine ⟨⟨chunk, pid, if_pos rfl, named⟩, ⟨member, isHeap, ?_, rfl⟩, capacity,
    ⟨rings', place', after⟩, rfl, ?_, ?_, ?_, fun _ same => same, fun _ _ same => same, consistent⟩
  · exact length.trans sameLength.symm
  · exact after.laid.basechunksize.trans invariant.laid.basechunksize.symm
  · intro buffer inUse
    cases buffer with
    | file id fileSize => exact ⟨inUse, rfl, rfl⟩
    | heap otherBin q =>
        rcases inUse with ⟨otherChunk, owner, held, attached⟩
        refine ⟨⟨otherChunk, owner, ?_, attached⟩, sameLength, rfl⟩
        have differs : q ≠ p := by
          grind
        exact (setAt_ne _ _ differs).trans held
  · intro buffer inUse same
    refine ⟨same, ?_⟩
    cases buffer with
    | file id fileSize =>
        have large := inUse.1
        have isZero : id = 0 := same
        rw [isZero] at large
        exact absurd large (by decide)
    | heap otherBin q =>
        rcases inUse with ⟨-, owner, held, -⟩
        grind [Buffer.offset]

/-- A file that `mwd` made. -/
theorem Given.ofFile {mwid : Nat → Int} {base cps : Nat} {memory : SharedMemory}
    {process : Process} {size : Nat} {length owner : Int} (sound : HeapSound mwid base cps memory.heap)
    (consistent : process.Consistent) (file : NewFile memory process length)
    (small : (size : Int) < 9223372036854775808) (room : sizeofChunkhead + size ≤ length) :
    Given mwid base cps memory process size (file.area.start + sizeofChunkhead)
      (memory.makeFile file.id owner size length)
      (process.attachMmap file.id length file.fd file.area file.unmapped) (.file file.id size)
      ⟨file.id, file.area.start, length⟩ := by
  have isNew : (memory.makeFile file.id owner size length).files file.id =
      some ⟨setAt (fun _ => ⟨0, 0⟩) 0 ⟨owner, size⟩, length⟩ := if_pos rfl
  have large := file.large
  have otherId : ∀ buffer : Buffer, buffer.InUse mwid base cps memory →
      buffer.segmentid ≠ file.id := by
    intro buffer inUse same
    cases buffer with
    | heap bin p =>
        have isZero : (0 : Int) = file.id := same
        rw [← isZero] at large
        exact absurd large (by decide)
    | file id fileSize =>
        rcases inUse with ⟨-, -, there, isThere, -⟩
        have isSame : id = file.id := same
        rw [isSame, file.missing] at isThere
        cases isThere
  refine ⟨⟨large, small, _, isNew, rfl, room⟩, ⟨List.mem_append_right _ List.mem_cons_self, rfl,
    ?_, rfl⟩, Int.le_refl _, sound, rfl, rfl, ?_, ?_, fun _ => List.mem_append_left _, ?_,
    consistent.attachMmap file.unlisted file.unmapped⟩
  · simp [Buffer.segmentLength, isNew]
  · intro buffer inUse
    have differs := otherId buffer inUse
    refine ⟨?_, ?_, if_neg differs⟩
    · cases buffer with
      | heap bin p => exact inUse
      | file id fileSize =>
          rcases inUse with ⟨isLarge, isSmall, there, isThere, rest⟩
          exact ⟨isLarge, isSmall, there, (setAt_ne _ _ differs).trans isThere, rest⟩
    · cases buffer with
      | heap bin p => rfl
      | file id fileSize =>
          have same : (memory.makeFile file.id owner size length).files id = memory.files id :=
            setAt_ne _ _ differs
          rw [Buffer.segmentLength, Buffer.segmentLength, same]
  · intro buffer inUse same
    exact absurd same (otherId buffer inUse)
  · simp_all [process.segmentAt_attachMmap]

section Allocation

variable {rounding : SingleRounding} {mwid : Nat → Int} {base cps pagesize pid : Nat}
  {lock : Nat → Bool} {memory : SharedMemory} {process : Process} {size : Nat}
  {answer : Option (NewFile memory process (fileLength pagesize size))}

/-- What an allocation that returns can do. -/
theorem mwallocate_cases
    (result : mwallocate rounding mwid pagesize pid lock memory process size answer = .ok after) :
    after = ⟨none, memory, process⟩ ∨
    (∃ si offset seg, process.findsegmentByid 0 = some si ∧
      0 ≤ floatBin rounding memory.heap.seg.basechunksize.toNat size ∧
      mwallocFrom lock (mwid pid)
          (bins - (floatBin rounding memory.heap.seg.basechunksize.toNat size).toNat)
          memory.heap.seg (floatBin rounding memory.heap.seg.basechunksize.toNat size).toNat =
        .ok (.buffer offset, seg) ∧
      after = ⟨some (si.start + offset),
        { memory with heap := memory.heap.taken seg (offset - sizeofChunkhead) pid }, process⟩) ∨
    ∃ file : NewFile memory process (fileLength pagesize size), size + sizeofChunkhead ≤ longMax ∧
      after = ⟨some (file.area.start + sizeofChunkhead),
        memory.makeFile file.id (mwid pid) size (fileLength pagesize size),
        process.attachMmap file.id (fileLength pagesize size) file.fd file.area file.unmapped⟩ := by
  unfold mwallocate at result
  grind

theorem mwallocate_none
    (result : mwallocate rounding mwid pagesize pid lock memory process size answer = .ok after)
    (failed : after.adr = none) : after = ⟨none, memory, process⟩ := by
  rcases mwallocate_cases result with isNone | ⟨_, _, _, _, _, _, here⟩ | ⟨_, _, here⟩
  · exact isNone
  · simp [here] at failed
  · simp [here] at failed

theorem fileLength_ge (somePages : 0 < pagesize) (size : Nat) :
    sizeofChunkhead + size ≤ fileLength pagesize size := by
  have divided := Nat.div_add_mod (size + sizeofChunkhead.toNat) pagesize
  have rest := Nat.mod_lt (size + sizeofChunkhead.toNat) somePages
  grind [fileLength]

/-- An allocation that succeeds. -/
theorem mwallocate_some (someBytes : 0 < base) (smallBase : base < 100000)
    (somePages : 0 < pagesize) (sound : HeapSound mwid base cps memory.heap)
    (attached : Attached mwid pid memory process) {adr : Int}
    (result : mwallocate rounding mwid pagesize pid lock memory process size answer = .ok after)
    (isSome : after.adr = some adr) :
    ∃ found si, Given mwid base cps memory process size adr after.memory after.process found si := by
  rcases mwallocate_cases result with isNone | ⟨entry, offset, seg, isEntry, proper, searched, here⟩ |
    ⟨file, small, here⟩
  · simp [isNone] at isSome
  · rw [here] at isSome ⊢
    cases isSome
    have before := sound
    rcases sound with ⟨rings, place, invariant⟩
    rw [invariant.laid.basechunksize, Int.toNat_natCast] at proper searched
    have binSmall : floatBin rounding base size ≤ bins := by
      by_contra large
      have noTurns : bins - (floatBin rounding base size).toNat = 0 := by omega
      rw [noTurns] at searched
      cases searched
    rcases invariant.alloc attached.idle (by omega) searched with
      ⟨bin, p, reached, rfl, chunk, unheld, taken⟩
    rcases attached.mapped with ⟨si, member, isHeap, length⟩
    have capacity := floatBin_capacity someBytes smallBase proper chunk.1 (by omega)
    have sameStart : entry.start = si.start := by
      have listed := List.mem_of_find?_eq_some isEntry
      have isZero := List.find?_some isEntry
      simp only [beq_iff_eq] at isZero
      exact (attached.consistent entry listed si member (isZero.trans isHeap.symm)).1
    have atHead : p + sizeofChunkhead - sizeofChunkhead = p := by omega
    simp only [atHead, sameStart]
    exact ⟨_, si, Given.ofHeap attached.named chunk unheld capacity before taken
      attached.consistent member isHeap length⟩
  · rw [here] at isSome ⊢
    cases isSome
    have room := fileLength_ge somePages size
    simp only [longMax, sizeofChunkhead] at small
    exact ⟨_, _, Given.ofFile sound attached.consistent file (by omega) room⟩

end Allocation

/-- `_mwalloc` takes a request for so many bytes. -/
def Servable (rounding : SingleRounding) (base : Nat) (size : Int) : Prop :=
  0 ≤ floatBin rounding base size.toNat ∧ size + sizeofChunkhead ≤ longMax

theorem servable_heap (rounding : SingleRounding) {base : Nat} (someBytes : 0 < base)
    (smallBase : base < 100000) (inBins : bin < bins - 1) :
    Servable rounding base (oneShl bin * base) := by
  have bounded : 1 ≤ oneShl bin ∧ oneShl bin ≤ 16 := by
    have all : ∀ other < bins - 1, 1 ≤ oneShl other ∧ oneShl other ≤ 16 := by decide
    exact all bin inBins
  have lower : (base : Int) ≤ oneShl bin * base := by
    simp_all
  have upper : oneShl bin * base ≤ 16 * base :=
    Int.mul_le_mul_of_nonneg_right bounded.2 (Int.natCast_nonneg base)
  refine ⟨?_, ?_⟩
  · generalize oneShl bin * (base : Int) = size at lower upper
    have positive : ((0 : Nat) : ℚ) <
        rounding.round (rounding.round size.toNat / rounding.round base) :=
      lt_round_quotient someBytes smallBase (by omega) (by omega)
    have atMost : rounding.round (rounding.round size.toNat / rounding.round base) ≤ 16 := by
      rw [rounding.round_nat (show size.toNat ≤ 16777216 by omega),
        rounding.round_nat (show base ≤ 16777216 by omega)]
      have sixteen : rounding.round ((16 : Nat) : ℚ) = ((16 : Nat) : ℚ) :=
        rounding.round_nat (by decide)
      calc rounding.round ((size.toNat : ℚ) / base) ≤ rounding.round ((16 : Nat) : ℚ) := by
            apply rounding.mono
            rw [div_le_iff₀ (by exact_mod_cast someBytes)]
            exact_mod_cast (by omega : size.toNat ≤ 16 * base)
        _ = 16 := by rw [sixteen]; rfl
    have small : ⌈rounding.round (rounding.round size.toNat / rounding.round base)⌉ ≤ 16 :=
      Int.ceil_le.mpr atMost
    have some : 0 < ⌈rounding.round (rounding.round size.toNat / rounding.round base)⌉ :=
      Int.ceil_pos.mpr (by exact_mod_cast positive)
    rw [floatBin, chunksNeeded, toChunks, if_pos (Int.le_trans small (by decide)),
      if_neg (by omega)]
    exact Int.natCast_nonneg _
  · grind [sizeofChunkhead, longMax]

/-- There is always an id, a descriptor and a place for one more file. -/
theorem newFile_nonempty {memory : SharedMemory}
    (fewFiles : ∃ last, ∀ id > last, memory.files id = none) (process : Process) (length : Int) :
    Nonempty (NewFile memory process length) := by
  rcases fewFiles with ⟨last, unused⟩
  let taken := (process.segments.map Seginfo.segmentid ++
    process.space.segments.map Mapping.segmentid).toFinset
  rcases (Set.Ioi_infinite (max last lowLargeBufferNumber)).exists_notMem_finset taken with
    ⟨id, above, free⟩
  rcases (Set.Ioi_infinite (0 : Int)).exists_notMem_finset process.descriptors.toFinset with
    ⟨fd, positive, closed⟩
  rcases (process.space.segments.map Mapping.finish).toFinset.exists_le with ⟨start, behind⟩
  have notTaken := fun isTaken => free (List.mem_toFinset.mpr isTaken)
  refine ⟨⟨id, (max_lt_iff.mp above).2, unused id (max_lt_iff.mp above).1, ?_, ?_, fd,
    ⟨positive, fun isOpen => closed (List.mem_toFinset.mpr isOpen)⟩, ⟨start, ?_⟩⟩⟩
  · refine List.find?_eq_none.mpr fun si member same => notTaken ?_
    simp_all
  · refine List.find?_eq_none.mpr fun si member same => notTaken ?_
    simp_all
  · intro si member _
    exact Or.inr (behind si.finish (List.mem_toFinset.mpr (List.mem_map_of_mem member)))

section Total

variable {rounding : SingleRounding} {mwid : Nat → Int} {base cps pagesize pid : Nat}
  {memory : SharedMemory} {process : Process}

/-- A search of an orderly heap, with locks that can be had, finds a chunk or that there is none. -/
theorem mwallocFrom_total {lock : Nat → Bool} (locks : ∀ bin, lock bin = true) {owner : Int}
    {seg : Segment} {rings : Nat → List Int} (laid : Laid base cps seg)
    (linked : ∀ bin < bins, FreeRing base cps seg bin (rings bin)) {turns i : Nat}
    (inBins : i + turns ≤ bins) :
    (∃ adr seg', mwallocFrom lock owner turns seg i = .ok (.buffer adr, seg')) ∨
      mwallocFrom lock owner turns seg i = .ok (.full, seg) := by
  induction turns generalizing i with
  | zero => exact Or.inr rfl
  | succ turns ih =>
      have free := linked i (by omega)
      cases ring : rings i with
      | nil =>
          grind [mwallocFrom_empty]
      | cons root others =>
          rcases mwallocFrom_found owner laid linked (show i < bins by omega) (locks i) ring
            (Nat.le_refl i) (show i < i + (turns + 1) by omega)
            (fun other lower before => by omega) with ⟨seg', result, -⟩
          exact Or.inl ⟨_, _, result⟩

theorem mwallocate_total (sound : HeapSound mwid base cps memory.heap)
    (attached : Attached mwid pid memory process) {size : Nat} (nonempty : 0 < size)
    (servable : Servable rounding base size)
    (file : NewFile memory process (fileLength pagesize size)) :
    ∃ adr memory' process', mwallocate rounding mwid pagesize pid (fun _ => true) memory process
      size (some file) = .ok ⟨some adr, memory', process'⟩ := by
  rcases sound with ⟨rings, place, invariant⟩
  rcases servable with ⟨proper, small⟩
  rw [Int.toNat_natCast] at proper
  have heap : ∃ si, process.findsegmentByid 0 = some si := by
    rcases attached.heap with ⟨si, member, isHeap⟩
    cases found : process.findsegmentByid 0 with
    | none => exact absurd (beq_iff_eq.mpr isHeap) (List.find?_eq_none.mp found si member)
    | some si => exact ⟨si, rfl⟩
  rcases heap with ⟨si, isHeap⟩
  have searched : (∃ adr seg', mwallocFrom (fun _ => true) (mwid pid)
        (bins - (floatBin rounding base size).toNat) memory.heap.seg
        (floatBin rounding base size).toNat = .ok (.buffer adr, seg')) ∨
      mwallocFrom (fun _ => true) (mwid pid) (bins - (floatBin rounding base size).toNat)
        memory.heap.seg (floatBin rounding base size).toNat = .ok (.full, memory.heap.seg) := by
    rcases Nat.le_total (floatBin rounding base size).toNat bins with inBins | beyond
    · exact mwallocFrom_total (fun _ => rfl) invariant.laid invariant.linked (by omega)
    · rw [Nat.sub_eq_zero_of_le beyond]
      exact Or.inr rfl
  rw [mwallocate, if_neg (by omega), isHeap]
  simp only [invariant.laid.basechunksize, Int.toNat_natCast]
  rw [if_neg (by omega)]
  rcases searched with ⟨adr, seg', found⟩ | full
  · simp [found]
  · simp_all [if_neg]

end Total
theorem Buffer.InUse.offset_ge {mwid : Nat → Int} {base cps : Nat} {memory : SharedMemory}
    {buffer : Buffer} (inUse : buffer.InUse mwid base cps memory) :
    sizeofChunkhead ≤ buffer.offset := by
  cases buffer with
  | heap bin p =>
      have lower := inUse.1.pos
      grind [sizeofSegmenthdr, Buffer.offset]
  | file id size => exact Int.le_refl _

theorem Process.Holds.stored {memory : SharedMemory} {process : Process} {buffer : Buffer}
    {adr : Int} {si : Mapping} (holds : process.Holds memory buffer adr si)
    (stored : Int → Int → Byte) : process.Holds { memory with bytes := stored } buffer adr si := by
  refine ⟨holds.mapped, holds.segment, ?_, holds.address⟩
  rw [holds.length]
  cases buffer with
  | heap bin p => rfl
  | file id size => rfl

section Places

variable {base : Nat} {memory : SharedMemory} {process : Process} {buffer : Buffer} {adr : Int}
  {si : Mapping} (fits : buffer.Fits base memory) (holds : process.Holds memory buffer adr si)
include fits holds

theorem Process.Holds.inside {back : Int} (nonneg : 0 ≤ back) (inSegment : back ≤ buffer.offset) :
    process.space.resolve (adr - back) = some si := by
  have upper := fits.inside
  apply AddressSpace.resolve_inside holds.mapped
  · rw [holds.address]
    omega
  · rw [holds.address, Mapping.finish, holds.length]
    omega

/-- The size of a registered buffer is read from its own head. -/
theorem Process.Holds.sizeofchunk (behindHead : sizeofChunkhead ≤ buffer.offset)
    {entry : Seginfo} (found : process.segmentAt adr = some entry)
    (same : entry.segmentid = buffer.segmentid) :
    memory.sizeofchunk process adr = .ok (buffer.size base) := by
  have head := fits.head
  have place : adr - sizeofChunkhead - si.start = buffer.offset - sizeofChunkhead := by
    rw [holds.address]
    omega
  rw [SharedMemory.sizeofchunk, found]
  simp only [SharedMemory.headBefore, holds.inside fits (by decide) behindHead, Option.map_some]
  rw [place, holds.segment, same]
  grind

theorem Process.Holds.memcpy {found : Buffer} (fitsFound : found.Fits base memory)
    (holdsFound : process.Holds memory found result place) (len : Nat) :
    memory.memcpy process result adr len = .ok (memory.write found.segmentid found.offset len
      fun index => memory.bytes buffer.segmentid (buffer.offset + index)) := by
  have source := holds.inside fits (Int.le_refl 0) (Int.le_of_lt fits.behindHead)
  have target := holdsFound.inside fitsFound (Int.le_refl 0) (Int.le_of_lt fitsFound.behindHead)
  rw [Int.sub_zero] at source target
  have sourceOffset : adr - si.start = buffer.offset := by
    simp [holds.address]
  have targetOffset : result - place.start = found.offset := by
    simp [holdsFound.address]
  rw [SharedMemory.memcpy, source, target]
  simp only [sourceOffset, targetOffset, holds.segment, holdsFound.segment]

end Places

section Free

variable {mwid : Nat → Int} {base cps pid : Nat} {memory : SharedMemory} {process : Process}
  {buffer : Buffer} {adr : Int} {si : Mapping}

structure Spared (mwid : Nat → Int) (base cps : Nat) (memory : SharedMemory) (process : Process)
    (other : Buffer) (after : SharedMemory) (process' : Process) : Prop where
  inUse : other.InUse mwid base cps after
  bytes : ∀ index : Nat, index < other.size base →
    after.bytes other.segmentid (other.offset + index) =
      memory.bytes other.segmentid (other.offset + index)
  mapped : ∀ place ∈ process.space.segments, place.segmentid = other.segmentid →
    place ∈ process'.space.segments

/-- A chunk of the heap goes back to its ring, and is blanked. -/
theorem freeThrough_heap (sound : HeapSound mwid base cps memory.heap)
    (idle : memory.heap.tasks pid = .idle) {p : Int}
    (inUse : Buffer.InUse mwid base cps memory (.heap bin p)) {entry : Seginfo}
    (found : process.segmentAt adr = some entry) (isHeap : entry.segmentid = 0)
    (atStart : adr - entry.start = p + sizeofChunkhead) :
    ∃ after, freeThrough pid memory process adr = .ok (after, process) ∧
      Buffer.Freed after (.heap bin p) ∧
      ∀ other : Buffer, other.InUse mwid base cps memory →
        (other.segmentid = 0 → other.offset ≠ p + sizeofChunkhead) →
        Spared mwid base cps memory process other after process := by
  rcases inUse with ⟨chunk, owner, held, attached⟩
  rcases sound.mwfree0_freed chunk held attached idle with ⟨next, freed, gone, inRing⟩
  rcases Process.segmentAt_some found with ⟨index, isIndex, -⟩
  have laid : Laid base cps memory.heap.seg := by
    rcases sound with ⟨rings, place, invariant⟩
    exact invariant.laid
  have atHead : p + sizeofChunkhead - sizeofChunkhead = p := by omega
  rw [freeThrough, isIndex, found]
  simp only [isHeap, if_true, atStart, freed, atHead, laid.size bin p chunk, laid.basechunksize]
  refine ⟨_, rfl, ⟨?_, inRing⟩, ?_⟩
  · rw [gone]
    exact if_pos rfl
  · intro other otherInUse apart
    refine ⟨?_, ?_, fun place member _ => member⟩
    · cases other with
      | file id size => exact otherInUse
      | heap otherBin q =>
          rcases otherInUse with ⟨otherChunk, holder, otherHeld, otherAttached⟩
          refine ⟨otherChunk, holder, ?_, otherAttached⟩
          have differs : q ≠ p := by
            rintro rfl
            exact apart rfl rfl
          simp_all [setAt_ne]
    · intro index inside
      simp only [SharedMemory.write]
      rw [if_neg]
      rintro ⟨isZero, behind, before⟩
      cases other with
      | file id size =>
          have large := otherInUse.1
          have same : id = 0 := isZero
          rw [same] at large
          exact absurd large (by decide)
      | heap otherBin q =>
          have differs : q ≠ p := by
            rintro rfl
            exact apart rfl rfl
          have disjoint := chunk.data_apart otherInUse.1 differs
          have wide : stride base otherBin = oneShl otherBin * base + chunkOverhead := by
            rw [stride, Int.mul_comm]
          have nonneg : 0 ≤ oneShl bin * (base : Int) :=
            Int.mul_nonneg (Int.le_trans (by decide) (oneShl_pos bin)) (Int.natCast_nonneg base)
          rw [Int.toNat_of_nonneg nonneg] at before
          simp only [Buffer.offset, Buffer.size] at behind before inside
          simp only [chunkOverhead, sizeofChunkhead, sizeofChunkfoot] at *
          omega

variable (mwid base cps pid) in
/-- The file of a buffer is gone, and what else is mapped stays. -/
theorem freeThrough_file (consistent : process.Consistent) {size : Int}
    (large : lowLargeBufferNumber < id) (holds : process.Holds memory (.file id size) adr si)
    {entry : Seginfo} (found : process.segmentAt adr = some entry) (isFile : entry.segmentid = id) :
    ∃ after process', freeThrough pid memory process adr = .ok (after, process') ∧
      Buffer.Freed after (.file id size) ∧
      ∀ other : Buffer, other.InUse mwid base cps memory → other.segmentid ≠ id →
        Spared mwid base cps memory process other after process' := by
  rcases Process.segmentAt_some found with ⟨index, isIndex, isEntry, -⟩
  have notHeap : ¬id = 0 := by
    rintro rfl
    exact absurd large (by decide)
  have sameRange := consistent entry (List.mem_of_getElem? isEntry) si holds.mapped
    (isFile.trans holds.segment.symm)
  rw [freeThrough, isIndex, found]
  simp only [isFile, if_neg notHeap]
  refine ⟨_, _, rfl, if_pos rfl, ?_⟩
  intro other inUse differs
  refine ⟨?_, fun _ _ => rfl, ?_⟩
  · cases other with
    | heap bin p => exact inUse
    | file otherId otherSize =>
        rcases inUse with ⟨isLarge, isSmall, there, isThere, rest⟩
        exact ⟨isLarge, isSmall, there, (setAt_ne _ _ differs).trans isThere, rest⟩
  · intro place member segment
    simp only [Process.mwDetachMmap, isEntry, AddressSpace.unmap, sameRange.1, sameRange.2]
    refine List.mem_filter.mpr ⟨member, ?_⟩
    have different : place ≠ si := by
      rintro rfl
      exact differs (segment.symm.trans holds.segment)
    rw [Bool.not_eq_true', decide_eq_false_iff_not]
    rcases process.space.apart place member si holds.mapped different with before | behind
    · omega
    · omega

/-- A registered buffer is freed through its entry, and the buffers elsewhere are spared. -/
theorem freeThrough_registered (sound : HeapSound mwid base cps memory.heap)
    (idle : memory.heap.tasks pid = .idle) (consistent : process.Consistent)
    (inUse : buffer.InUse mwid base cps memory) (holds : process.Holds memory buffer adr si)
    (registered : process.Registered buffer adr) :
    ∃ after process', freeThrough pid memory process adr = .ok (after, process') ∧
      buffer.Freed after ∧
      ∀ other : Buffer, other.InUse mwid base cps memory →
        (buffer.segmentid = other.segmentid →
          buffer.segmentid = 0 ∧ buffer.offset ≠ other.offset) →
        Spared mwid base cps memory process other after process' := by
  rcases registered with ⟨entry, found, same⟩
  cases buffer with
  | heap bin p =>
      rcases Process.segmentAt_some found with ⟨index, -, isEntry, -⟩
      have sameRange := consistent entry (List.mem_of_getElem? isEntry) si holds.mapped
        (same.trans holds.segment.symm)
      have atStart : adr - entry.start = p + sizeofChunkhead := by
        simp [holds.address, sameRange, Buffer.offset]
      rcases freeThrough_heap sound idle inUse found same atStart with ⟨after, result, freed, spared⟩
      refine ⟨after, process, result, freed, ?_⟩
      intro other otherInUse apart
      exact spared other otherInUse fun isHeap => (apart isHeap.symm).2.symm
  | file id size =>
      have large := inUse.1
      rcases freeThrough_file mwid base cps pid consistent large holds found same with
        ⟨after, process', result, freed, spared⟩
      refine ⟨after, process', result, freed, ?_⟩
      intro other otherInUse apart
      refine spared other otherInUse ?_
      intro isSame
      have isZero : id = 0 := (apart isSame.symm).1
      rw [isZero] at large
      exact absurd large (by decide)

end Free

/-- A buffer in use is not freed by the end of another file. -/
theorem Buffer.InUse.not_freed {mwid : Nat → Int} {base cps : Nat} {memory : SharedMemory}
    {buffer : Buffer} (inUse : buffer.InUse mwid base cps memory) {after : SharedMemory}
    (other : id ≠ buffer.segmentid) (sameHeap : after.heap = memory.heap)
    (files : after.files = setAt memory.files id none) : ¬buffer.Freed after := by
  intro freed
  cases buffer with
  | heap bin p =>
      rcases inUse with ⟨-, owner, held, -⟩
      rcases freed with ⟨gone, -⟩
      rw [sameHeap, held] at gone
      cases gone
  | file otherId size =>
      rcases inUse with ⟨-, -, file, isFile, -⟩
      have gone : after.files otherId = none := freed
      have differs : otherId ≠ id := Ne.symm other
      simp_all [setAt_ne]

section Lost

variable {base : Nat} {memory : SharedMemory} {process : Process} {buffer : Buffer} {adr : Int}
  {si : Mapping} (fits : buffer.Fits base memory) (holds : process.Holds memory buffer adr si)
  {entry : Seginfo} (found : process.segmentAt adr = some entry)
  (other : entry.segmentid ≠ buffer.segmentid)
include fits holds found other

/-- The entry that is found instead is of a segment that is mapped no more. -/
theorem Process.Consistent.stray (consistent : process.Consistent) :
    ∀ mapping ∈ process.space.segments, mapping.segmentid ≠ entry.segmentid := by
  intro mapping member same
  rcases Process.segmentAt_some found with ⟨index, -, isEntry, lower, upper⟩
  rcases consistent entry (List.mem_of_getElem? isEntry) mapping member same.symm with
    ⟨sameStart, sameFinish⟩
  have differs : mapping ≠ si := by
    rintro rfl
    exact other (same.symm.trans holds.segment)
  have behindHead := fits.behindHead
  have inside := fits.inside
  rw [holds.address] at lower upper
  rcases process.space.apart mapping member si holds.mapped differs with before | behind
  · omega
  · simp only [Mapping.finish, holds.length] at *
    omega

/-- What is read as its size is not larger than the buffer. -/
theorem Process.Holds.sizeofchunk_stray {mwid : Nat → Int} {cps : Nat}
    (sound : HeapSound mwid base cps memory.heap) (someBytes : 0 < base)
    (inUse : buffer.InUse mwid base cps memory) (holdsData : 0 < buffer.size base)
    (notHeap : entry.segmentid ≠ 0) :
    ∃ size, memory.sizeofchunk process adr = .ok size ∧ 0 < size ∧ size ≤ buffer.size base := by
  have head := fits.head
  have place : adr - sizeofChunkhead - si.start = buffer.offset - sizeofChunkhead := by
    rw [holds.address]
    omega
  have read : memory.sizeofchunk process adr =
      .ok (sizeT (memory.headAt buffer.segmentid (buffer.offset - sizeofChunkhead)).size) := by
    rw [SharedMemory.sizeofchunk, found]
    simp only [SharedMemory.headBefore, holds.inside fits (by decide) inUse.offset_ge,
      Option.map_some]
    rw [place, holds.segment, if_neg notHeap]
  refine ⟨_, read, ?_⟩
  cases buffer with
  | heap bin p =>
      rcases sound with ⟨rings, _, invariant⟩
      have atHead : Buffer.offset (.heap bin p) - sizeofChunkhead = p := by
        simp [Buffer.offset]
      have isHead : memory.headAt (Buffer.segmentid (.heap bin p)) p = memory.heap.seg.head p :=
        if_pos rfl
      have chunk := inUse.1
      have bounded : 1 ≤ oneShl bin ∧ oneShl bin ≤ 16 := by
        have all : ∀ other < bins - 1, 1 ≤ oneShl other ∧ oneShl other ≤ 16 := by decide
        exact all bin chunk.1
      rw [atHead, isHead, invariant.laid.size bin p chunk,
        sizeT_self (by omega) (by omega)]
      refine ⟨by omega, ?_⟩
      calc oneShl bin = oneShl bin * 1 := (Int.mul_one _).symm
        _ ≤ oneShl bin * base :=
            Int.mul_le_mul_of_nonneg_left (by omega) (by omega)
  | file id size =>
      have large := inUse.1
      have isFile : Buffer.segmentid (.file id size) ≠ 0 := by
        rintro isZero
        have same : id = 0 := isZero
        rw [same] at large
        exact absurd large (by decide)
      omega

end Lost

section Whole

variable {rounding : SingleRounding} {findBin : Nat → Nat} {mwid : Nat → Int}
  {base cps pagesize pid : Nat} {memory : SharedMemory} {process : Process} {buffer : Buffer}
  {adr : Int} {si : Mapping} (someChunks : 0 < cps)
  (reachable : (heapMachine findBin mwid base cps).Reachable (fun _ _ => True) memory.heap)
  (inUse : buffer.InUse mwid base cps memory) (holdsData : 0 < buffer.size base)
  (holds : process.Holds memory buffer adr si)
include someChunks reachable inUse holdsData holds

/-- A new buffer lies at another address, and both are where their segments are mapped. -/
theorem Given.places (nonempty : 0 < newsize) {memory' : SharedMemory} {process' : Process}
    {found : Buffer}
    (given : Given mwid base cps memory process newsize result memory' process' found place) :
    found.Fits base memory' ∧ buffer.Fits base memory' ∧ process'.Holds memory' buffer adr si ∧
      result ≠ adr := by
  have formatted := heap_formatted reachable
  have capacity := given.capacity
  have fitsFound := given.inUse.fitsIn someChunks formatted given.sound (by omega)
  rcases given.kept buffer inUse with ⟨stillInUse, sameLength, -⟩
  have fits := stillInUse.fitsIn someChunks formatted given.sound holdsData
  have stillHolds : process'.Holds memory' buffer adr si :=
    ⟨given.mapped si holds.mapped, holds.segment, holds.length.trans sameLength.symm, holds.address⟩
  refine ⟨fitsFound, fits, stillHolds, ?_⟩
  rintro rfl
  have source := stillHolds.inside fits (Int.le_refl 0) (Int.le_of_lt fits.behindHead)
  have target := given.holds.inside fitsFound (Int.le_refl 0) (Int.le_of_lt fitsFound.behindHead)
  have samePlace : si = place := Option.some.inj (source.symm.trans target)
  have sameSegment : buffer.segmentid = found.segmentid := by
    rw [← holds.segment, samePlace, given.holds.segment]
  have sameAddress := holds.address.symm.trans given.holds.address
  rw [samePlace] at sameAddress
  exact (given.elsewhere buffer inUse sameSegment).2 (by omega)

/-- A new buffer was allocated: the data is copied into it, and the old one is freed. -/
theorem Given.preserved {memory' : SharedMemory} {process' : Process} {found : Buffer}
    (given : Given mwid base cps memory process newsize result memory' process' found place)
    (idle : memory.heap.tasks pid = .idle) (registered : process.Registered buffer adr)
    (larger : buffer.size base ≤ newsize) :
    ∃ copied after after', memory'.memcpy process' result adr (buffer.size base).toNat =
        .ok copied ∧
      freeThrough pid copied process' adr = .ok (after, after') ∧
      Preserved mwid base cps memory buffer adr newsize ⟨some result, after, after'⟩ := by
  rcases given.places someChunks reachable inUse holdsData holds (by omega) with
    ⟨fitsFound, fits, stillHolds, elsewhere⟩
  rcases given.kept buffer inUse with ⟨stillInUse, -, sameBytes⟩
  have registered' : process'.Registered buffer adr := by
    rcases registered with ⟨entry, listed, same⟩
    exact ⟨entry, given.listed adr entry listed, same⟩
  have idle' : memory'.heap.tasks pid = .idle := by
    simp [given.tasks, idle]
  have capacity := given.capacity
  let copied := memory'.write found.segmentid found.offset (buffer.size base).toNat
    fun index => memory'.bytes buffer.segmentid (buffer.offset + index)
  have sound : HeapSound mwid base cps copied.heap := given.sound
  rcases freeThrough_registered sound idle' given.consistent
    (stillInUse.stored copied.bytes) (stillHolds.stored copied.bytes) registered' with
    ⟨after, after', freeResult, freed, spared⟩
  have rest := spared found (given.inUse.stored copied.bytes) (given.elsewhere buffer inUse)
  refine ⟨copied, after, after', stillHolds.memcpy fits fitsFound given.holds _, freeResult, ?_⟩
  have mapped : place ∈ after'.space.segments ∧ place.segmentid = found.segmentid ∧
      result = place.start + found.offset :=
    ⟨rest.mapped place given.holds.mapped given.holds.segment, given.holds.segment,
      given.holds.address⟩
  refine .returned rfl rest.inUse mapped given.capacity ?_ (Or.inr ⟨elsewhere, freed⟩)
  intro index inside _
  have inFound : (index : Int) < found.size base := by omega
  have sameIndex : (found.offset + index - found.offset).toNat = index := by omega
  calc after.bytes found.segmentid (found.offset + index)
      = copied.bytes found.segmentid (found.offset + index) := rest.bytes index inFound
    _ = memory'.bytes buffer.segmentid (buffer.offset + index) := by
        simp only [copied, SharedMemory.write]
        rw [if_pos ⟨trivial, by omega, by omega⟩, sameIndex]
    _ = memory.bytes buffer.segmentid (buffer.offset + index) := by rw [sameBytes]

/-- A registered buffer is preserved. -/
theorem mwrealloc_registered (someBytes : 0 < base) (smallBase : base < 100000)
    (somePages : 0 < pagesize) (attached : Attached mwid pid memory process)
    (registered : process.Registered buffer adr) {newsize : Nat}
    {lock : Nat → Bool} {answer : Option (NewFile memory process (fileLength pagesize newsize))}
    {after : AllocResult} (result : mwrealloc rounding mwid pagesize pid lock memory process adr
      newsize answer = .ok after) : Preserved mwid base cps memory buffer adr newsize after := by
  have fits := inUse.fits someChunks reachable holdsData
  have sound : HeapSound mwid base cps memory.heap :=
    reachable.safe (heapSound_start findBin mwid someChunks) (heapSound_step findBin mwid)
  have known := registered
  rcases known with ⟨entry, found, same⟩
  unfold mwrealloc at result
  rw [holds.sizeofchunk fits inUse.offset_ge found same] at result
  simp only at result
  rw [if_pos holdsData] at result
  by_cases fitsOld : (newsize : Int) < buffer.size base
  · rw [if_pos fitsOld] at result
    rw [← Except.ok.inj result]
    exact .returned rfl inUse ⟨holds.mapped, holds.segment, holds.address⟩ (Int.le_of_lt fitsOld)
      (fun _ _ _ => rfl) (Or.inl ⟨rfl, rfl⟩)
  · rw [if_neg fitsOld] at result
    have larger := Int.not_lt.mp fitsOld
    -- What is copied is the whole old buffer, also when the sizes are equal.
    have wholeCopy : (if buffer.size base < newsize then (buffer.size base).toNat else newsize) =
        (buffer.size base).toNat := by
      split_ifs
      · rfl
      · omega
    cases allocated : mwallocate rounding mwid pagesize pid lock memory process newsize answer with
    | error failure =>
        simp [allocated] at result
    | ok given =>
        rcases given with ⟨newbuffer, memory', process'⟩
        rw [allocated, wholeCopy] at result
        cases newbuffer with
        | none =>
            have unchanged := mwallocate_none allocated rfl
            cases unchanged
            rw [← Except.ok.inj result]
            exact .kept rfl inUse fun _ _ => rfl
        | some newbuffer =>
            rcases mwallocate_some someBytes smallBase somePages sound attached allocated rfl with
              ⟨buffer', place, given⟩
            rcases given.preserved someChunks reachable inUse holdsData holds attached.idle
              registered larger with ⟨copied, last, last', copy, freed, preserved⟩
            simp_all

variable (rounding mwid cps pagesize pid) in
/-- Without an entry the size is read as the largest one, and the buffer is taken to be large
enough. -/
theorem unlisted_breaks (unlisted : process.segmentAt adr = none) (lock : Nat → Bool) :
    ∃ newsize < 2 ^ 64, ∃ after,
      mwrealloc rounding mwid pagesize pid lock memory process adr newsize none = .ok after ∧
        ¬Preserved mwid base cps memory buffer adr newsize after := by
  have small := (inUse.fits someChunks reachable holdsData).size
  have grown : (((buffer.size base).toNat + 1 : Nat) : Int) < 18446744073709551615 := by omega
  refine ⟨(buffer.size base).toNat + 1, by omega, ⟨some adr, memory, process⟩, ?_, ?_⟩
  · rw [mwrealloc, SharedMemory.sizeofchunk, unlisted]
    have largest : sizeT (-1) = 18446744073709551615 := by decide
    simp only [largest]
    rw [if_pos (by decide), if_pos grown]
  · intro preserved
    rcases preserved with ⟨isNone⟩ | ⟨isSome, -, -, capacity, -, old⟩
    · cases isNone
    · grind

/-- With the entry of another segment the data moves, but the old buffer stays in use. -/
theorem stray_breaks (someBytes : 0 < base) (smallBase : base < 100000) (somePages : 0 < pagesize)
    (attached : Attached mwid pid memory process)
    (fewFiles : ∃ last, ∀ id > last, memory.files id = none)
    (servable : Servable rounding base (buffer.size base)) {entry : Seginfo}
    (found : process.segmentAt adr = some entry) (other : entry.segmentid ≠ buffer.segmentid) :
    ∃ newsize < 2 ^ 64, ∃ lock answer after,
      mwrealloc rounding mwid pagesize pid lock memory process adr newsize answer = .ok after ∧
        ¬Preserved mwid base cps memory buffer adr newsize after := by
  have fits := inUse.fits someChunks reachable holdsData
  have small := fits.size
  have sound : HeapSound mwid base cps memory.heap :=
    reachable.safe (heapSound_start findBin mwid someChunks) (heapSound_step findBin mwid)
  have stray := attached.consistent.stray fits holds found other
  have notHeap : entry.segmentid ≠ 0 := by
    rcases attached.mapped with ⟨heap, member, isHeap, -⟩
    grind
  rcases holds.sizeofchunk_stray fits found other sound someBytes inUse holdsData notHeap with
    ⟨read, isRead, positive, atMost⟩
  have sameSize : (((buffer.size base).toNat : Nat) : Int) = buffer.size base := by omega
  rcases newFile_nonempty fewFiles process (fileLength pagesize (buffer.size base).toNat) with
    ⟨file⟩
  rcases mwallocate_total sound attached (show 0 < (buffer.size base).toNat by omega)
    (sameSize.symm ▸ servable) file with ⟨result, memory', process', allocated⟩
  rcases mwallocate_some someBytes smallBase somePages sound attached allocated rfl with
    ⟨buffer', place, given⟩
  rcases given.places someChunks reachable inUse holdsData holds (by omega) with
    ⟨fitsFound, fits', stillHolds, elsewhere⟩
  rcases given.kept buffer inUse with ⟨stillInUse, -, -⟩
  have found' := given.listed adr entry found
  rcases Process.segmentAt_some found' with ⟨index, isIndex, -⟩
  have copy : ∃ copied, memory'.memcpy process' result adr
      (if read < (buffer.size base).toNat then read.toNat else (buffer.size base).toNat) =
        .ok copied ∧ copied.heap = memory'.heap ∧ copied.files = memory'.files :=
    ⟨_, stillHolds.memcpy fits' fitsFound given.holds _, rfl, rfl⟩
  rcases copy with ⟨copied, isCopied, sameHeap, sameFiles⟩
  refine ⟨(buffer.size base).toNat, by omega, fun _ => true, some file,
    ⟨some result, { copied with files := setAt copied.files entry.segmentid none },
      process'.mwDetachMmap index⟩, ?_, ?_⟩
  · simp_all [mwrealloc, if_neg, freeThrough]
  · intro preserved
    rcases preserved with ⟨isNone⟩ | ⟨isSome, -, -, -, -, old⟩
    · cases isNone
    · cases isSome
      rcases old with ⟨same, -⟩ | ⟨-, freed⟩
      · exact elsewhere same
      · refine stillInUse.not_freed other ?_ ?_ freed
        · exact sameHeap
        · simp only [sameFiles]

end Whole

/-- A reallocation preserves a buffer, whatever the new size, the locks and the answer of `mwd`. -/
def ReallocPreserves (rounding : SingleRounding) (mwid : Nat → Int) (base cps pagesize pid : Nat)
    (memory : SharedMemory) (process : Process) (buffer : Buffer) (adr : Int) : Prop :=
  ∀ newsize < 2 ^ 64, ∀ lock answer after,
    mwrealloc rounding mwid pagesize pid lock memory process adr newsize answer = .ok after →
      Preserved mwid base cps memory buffer adr newsize after

/-- A reallocation preserves a buffer in use, if and only if the first entry around its address
is that of its segment. -/
theorem reallocPreserves_iff (rounding : SingleRounding) {findBin : Nat → Nat} {mwid : Nat → Int}
    {base cps pagesize pid : Nat} (someBytes : 0 < base) (smallBase : base < 100000)
    (someChunks : 0 < cps) (somePages : 0 < pagesize) {memory : SharedMemory}
    (reachable : (heapMachine findBin mwid base cps).Reachable (fun _ _ => True) memory.heap)
    (fewFiles : ∃ last, ∀ id > last, memory.files id = none) {process : Process}
    (attached : Attached mwid pid memory process) {buffer : Buffer}
    (inUse : buffer.InUse mwid base cps memory) (holdsData : 0 < buffer.size base)
    (servable : ∀ id size, buffer = .file id size → Servable rounding base size) {adr : Int}
    {si : Mapping} (holds : process.Holds memory buffer adr si) :
    ReallocPreserves rounding mwid base cps pagesize pid memory process buffer adr ↔
      process.Registered buffer adr := by
  constructor
  · intro preserves
    by_contra lost
    cases found : process.segmentAt adr with
    | none =>
        rcases unlisted_breaks rounding mwid cps pagesize pid someChunks reachable inUse holdsData
          holds found (fun _ => true) with
          ⟨newsize, inRange, after, result, broken⟩
        exact broken (preserves newsize inRange _ _ after result)
    | some entry =>
        have other : entry.segmentid ≠ buffer.segmentid := fun same => lost ⟨entry, found, same⟩
        have request : Servable rounding base (buffer.size base) := by
          cases buffer with
          | heap bin p => exact servable_heap rounding someBytes smallBase inUse.1.1
          | file id size => exact servable id size rfl
        rcases stray_breaks someChunks reachable inUse holdsData holds someBytes smallBase somePages
          attached fewFiles request found other with
          ⟨newsize, inRange, lock, answer, after, result, broken⟩
        exact broken (preserves newsize inRange lock answer after result)
  · intro registered newsize _ lock answer after result
    exact mwrealloc_registered someChunks reachable inUse holdsData holds someBytes smallBase
      somePages attached registered result

def heapProcess (length : Int) : Process :=
  ⟨heapOnly length, [⟨0, -1, 4096, 4096 + length⟩], [0, 1, 2]⟩

def areaBehind (space : AddressSpace) (length start : Int)
    (behind : ∀ si ∈ space.segments, si.finish ≤ start) : FreeArea space length where
  start := start
  apart := fun si member _ => Or.inr (behind si member)

section LostEntry

variable (seg : Segment)

def noFiles : SharedMemory := ⟨⟨seg, fun _ => .idle, fun _ => none⟩, fun _ => none, fun _ _ => 0⟩

/-- The file of 100 bytes `mwd` makes for the first request. -/
def firstFile : NewFile (noFiles seg) (heapProcess 100360) (fileLength 4096 100) where
  id := 1000
  large := by decide
  missing := rfl
  unlisted := rfl
  unmapped := rfl
  fd := 3
  closed := by decide
  area := areaBehind _ _ 200000 (by decide)

def firstMemory : SharedMemory := (noFiles seg).makeFile 1000 7 100 (fileLength 4096 100)

def firstProcess : Process :=
  (heapProcess 100360).attachMmap 1000 (fileLength 4096 100) 3 (areaBehind _ _ 200000 (by decide))
    rfl

def secondFile : NewFile (firstMemory seg) firstProcess (fileLength 4096 100) where
  id := 1001
  large := by decide
  missing := rfl
  unlisted := rfl
  unmapped := rfl
  fd := 4
  closed := by decide
  area := areaBehind _ _ 300000 (by decide)

def secondMemory : SharedMemory := (firstMemory seg).makeFile 1001 7 100 (fileLength 4096 100)

def secondProcess : Process :=
  firstProcess.attachMmap 1001 (fileLength 4096 100) 4 (areaBehind _ _ 300000 (by decide)) rfl

/-- The first buffer is freed. This closes the descriptor 4 of the second one. -/
def firstFreed : SharedMemory :=
  { secondMemory seg with files := setAt (secondMemory seg).files 1000 none }

def firstGone : Process := secondProcess.mwDetachMmap 1


def thirdFile : NewFile (firstFreed seg) firstGone (fileLength 4096 100) where
  id := 1002
  large := by decide
  missing := rfl
  unlisted := rfl
  unmapped := rfl
  fd := 4
  closed := by decide
  area := areaBehind _ _ 400000 (by decide)

def thirdMemory : SharedMemory := (firstFreed seg).makeFile 1002 7 100 (fileLength 4096 100)

def thirdProcess : Process :=
  firstGone.attachMmap 1002 (fileLength 4096 100) 4 (areaBehind _ _ 400000 (by decide)) rfl

def thirdFreed : SharedMemory :=
  { thirdMemory seg with files := setAt (thirdMemory seg).files 1002 none }

def thirdGone : Process := thirdProcess.mwDetachMmap 2



end LostEntry

theorem mwallocate_hundred {seg : Segment} (formatted : shmbFormat 4 1 = some seg)
    {memory : SharedMemory} (fresh : memory.heap.seg = seg) {process : Process} {entry : Seginfo}
    (heap : process.findsegmentByid 0 = some entry)
    (file : NewFile memory process (fileLength 4096 100)) :
    mwallocate .ideal (fun pid => pid) 4096 7 (fun _ => true) memory process 100 (some file) =
      .ok ⟨some (file.area.start + sizeofChunkhead),
        memory.makeFile file.id 7 100 (fileLength 4096 100),
        process.attachMmap file.id (fileLength 4096 100) file.fd file.area file.unmapped⟩ := by
  rcases shmbFormat_free Nat.one_pos formatted with ⟨⟨laid, -⟩, linked, -⟩
  have free : FreeRing 4 1 seg 5 [] := linked 5 (by decide)
  have bin : floatBin .ideal 4 100 = 5 := by decide +kernel
  have searched : mwallocFrom (fun _ => true) ((7 : Nat) : Int) 1 seg (Int.toNat 5) =
      .ok (.full, seg) := by
    exact mwallocFrom_empty free
  have hasBase : seg.basechunksize.toNat = 4 := by
    simp [laid.basechunksize]
  have turns : bins - Int.toNat 5 = 1 := by decide
  have small : ¬ ((100 : Nat) : Int) + sizeofChunkhead > longMax := by decide
  simp_all [mwallocate, if_neg]

/-- The first of the buffers, when it is the only one. -/
theorem reallocPreserves_iff_first : ∃ seg, shmbFormat 4 1 = some seg ∧
    (ReallocPreserves .ideal (fun pid => pid) 4 1 4096 7 (firstMemory seg) firstProcess
        (.file 1000 100) 200016 ↔
      firstProcess.Registered (.file 1000 100) 200016) := by
  have isSome : (shmbFormat 4 1).isSome := by decide
  rcases Option.isSome_iff_exists.mp isSome with ⟨seg, formatted⟩
  rcases shmbFormat_free Nat.one_pos formatted with ⟨⟨-, bounds⟩, -, -⟩
  have reachable : (heapMachine (fun _ => 0) (fun pid => pid) 4 1).Reachable (fun _ _ => True)
      (firstMemory seg).heap := .start ⟨formatted, rfl, rfl⟩
  have fewFiles : ∃ last, ∀ id > last, (firstMemory seg).files id = none := by
    refine ⟨1000, fun id above => ?_⟩
    exact setAt_ne _ _ (show id ≠ 1000 by omega)
  have wholeHeap : (100360 : Int) = seg.segmentsize :=
    (show 100360 = (emptySegment 4 1).segmentsize by decide).trans bounds.segmentsize.symm
  have consistent : firstProcess.Consistent := by
    unfold Process.Consistent
    decide
  have attached : Attached (fun pid => pid) 7 (firstMemory seg) firstProcess :=
    ⟨by decide, rfl, ⟨⟨0, -1, 4096, 104456⟩, by decide, rfl⟩, ⟨⟨0, 4096, 100360⟩, by decide, rfl,
      wholeHeap⟩, consistent⟩
  have inUse : Buffer.InUse (fun pid => pid) 4 1 (firstMemory seg) (.file 1000 100) :=
    ⟨by decide, by decide, _, rfl, rfl, by decide⟩
  have servable : ∀ id size, Buffer.file 1000 100 = .file id size → Servable .ideal 4 size := by
    intro id size same
    cases same
    exact ⟨by decide +kernel, by decide⟩
  have holds : firstProcess.Holds (firstMemory seg) (.file 1000 100) 200016 ⟨1000, 200000, 4096⟩ :=
    ⟨by decide, rfl, rfl, rfl⟩
  exact ⟨seg, formatted, reallocPreserves_iff .ideal (by decide) (by decide) (by decide) (by decide)
    reachable fewFiles attached inUse (by decide) servable holds⟩

/-- Three buffers of 100 bytes are allocated, and the first and the third one freed. The
second one has no entry any more, and is taken to have room for 200 bytes. -/
theorem lost_entry : ∃ seg, shmbFormat 4 1 = some seg ∧
    mwallocate .ideal (fun pid => pid) 4096 7 (fun _ => true) (noFiles seg) (heapProcess 100360) 100
        (some (firstFile seg)) = .ok ⟨some 200016, firstMemory seg, firstProcess⟩ ∧
      mwallocate .ideal (fun pid => pid) 4096 7 (fun _ => true) (firstMemory seg) firstProcess 100
        (some (secondFile seg)) = .ok ⟨some 300016, secondMemory seg, secondProcess⟩ ∧
      freeThrough 7 (secondMemory seg) secondProcess 200016 = .ok (firstFreed seg, firstGone) ∧
      mwallocate .ideal (fun pid => pid) 4096 7 (fun _ => true) (firstFreed seg) firstGone 100
        (some (thirdFile seg)) = .ok ⟨some 400016, thirdMemory seg, thirdProcess⟩ ∧
      freeThrough 7 (thirdMemory seg) thirdProcess 400016 = .ok (thirdFreed seg, thirdGone) ∧
      Buffer.InUse (fun pid => pid) 4 1 (thirdFreed seg) (.file 1001 100) ∧
      mwrealloc .ideal (fun pid => pid) 4096 7 (fun _ => true) (thirdFreed seg) thirdGone 300016 200
        none = .ok ⟨some 300016, thirdFreed seg, thirdGone⟩ ∧
      ¬ReallocPreserves .ideal (fun pid => pid) 4 1 4096 7 (thirdFreed seg) thirdGone
        (.file 1001 100) 300016 := by
  have isSome : (shmbFormat 4 1).isSome := by decide
  rcases Option.isSome_iff_exists.mp isSome with ⟨seg, formatted⟩
  have second : ∃ file, (thirdFreed seg).files 1001 = some file ∧ (file.head 0).size = 100 ∧
      sizeofChunkhead + 100 ≤ file.length := ⟨_, rfl, rfl, by decide⟩
  have inUse : Buffer.InUse (fun pid => pid) 4 1 (thirdFreed seg) (.file 1001 100) :=
    ⟨by decide, by decide, second⟩
  have returned : mwrealloc .ideal (fun pid => pid) 4096 7 (fun _ => true) (thirdFreed seg)
      thirdGone 300016 200 none = .ok ⟨some 300016, thirdFreed seg, thirdGone⟩ := rfl
  refine ⟨seg, formatted, mwallocate_hundred formatted rfl rfl _,
    mwallocate_hundred formatted rfl rfl _, rfl, mwallocate_hundred formatted rfl rfl _, rfl, inUse,
    returned, ?_⟩
  intro preserves
  rcases preserves 200 (by decide) _ _ _ returned with ⟨isNone⟩ | ⟨isSome, -, -, capacity, -, old⟩
  · cases isNone
  · cases isSome
    rcases old with ⟨-, rfl⟩ | ⟨differs, -⟩
    · exact absurd capacity (by decide)
    · exact differs rfl

end MidWay.Shm

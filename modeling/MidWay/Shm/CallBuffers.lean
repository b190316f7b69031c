import MidWay.CLib.Errno
import MidWay.CLib.Format
import MidWay.Shm.HeapRuns

/-!
Contract: the data of a call on its way through shared memory.

A process sees the heap and the buffers `mwd` makes in files at addresses of its
own; a call carries the segment and the offset. The receiver checks the offset
against the length of the data, and wants a buffer that is longer than the data.

The bytes of each segment are kept beside the heap and its chunks. A file is gone
once its buffer is freed; the mapping of it that goes too is left out.

Owns: the segments of a process, `_mwshmcheck`, `_mw_putbuffer_to_call`,
`_mw_getbuffer_from_call`, and when the second one gives back what the first one
was given.
-/

namespace MidWay.Shm

open MidWay.CLib MidWay.Lib

/-- A `seginfo_t`. -/
structure Mapping where
  segmentid : Int
  start : Int
  length : Int
deriving DecidableEq, Repr

/-- The `end` of a segment. -/
def Mapping.finish (si : Mapping) : Int := si.start + si.length

def Mapping.Apart (one two : Mapping) : Prop := one.finish ≤ two.start ∨ two.finish ≤ one.start

/-- The `segments` of a process, as the system maps them: each id once, and apart. -/
structure AddressSpace where
  segments : List Mapping
  distinct : ∀ one ∈ segments, ∀ two ∈ segments, one.segmentid = two.segmentid → one = two
  apart : ∀ one ∈ segments, ∀ two ∈ segments, one ≠ two → one.Apart two

def AddressSpace.findsegmentByaddr (space : AddressSpace) (ptr : Int) : Option Mapping :=
  space.segments.find? fun si => decide (si.start ≤ ptr ∧ si.finish ≥ ptr)

def AddressSpace.findsegmentByid (space : AddressSpace) (id : Int) : Option Mapping :=
  space.segments.find? fun si => si.segmentid == id

def lowLargeBufferNumber : Int := 999

/-- A buffer in a file of its own; the head of its chunk is at the offset zero. -/
structure BufferFile where
  head : Int → Chunkhead
  length : Int

/-- `bytes` is indexed by the segment and the offset. -/
structure SharedMemory where
  heap : HeapState
  files : Int → Option BufferFile
  bytes : Int → Int → Byte

/-- Where `mmap` puts a file: apart from all other mappings. -/
structure FreeArea (space : AddressSpace) (length : Int) where
  start : Int
  apart : ∀ si ∈ space.segments, ∀ id, (⟨id, start, length⟩ : Mapping).Apart si

theorem Mapping.Apart.symm {one two : Mapping} (apart : one.Apart two) : two.Apart one :=
  Or.symm apart

/-- `attach_mmap`, for a file that is not mapped yet. -/
def AddressSpace.attach (space : AddressSpace) (id length : Int) (area : FreeArea space length)
    (fresh : space.findsegmentByid id = none) : AddressSpace where
  segments := space.segments ++ [⟨id, area.start, length⟩]
  distinct := by
    have other (si : Mapping) (member : si ∈ space.segments) : si.segmentid ≠ id := by
      intro same
      exact List.find?_eq_none.mp fresh si member (beq_iff_eq.mpr same)
    intro one oneIn two twoIn same
    rcases List.mem_append.mp oneIn with oneOld | oneNew
    · rcases List.mem_append.mp twoIn with twoOld | twoNew
      · exact space.distinct one oneOld two twoOld same
      · rw [List.mem_singleton.mp twoNew] at same
        exact absurd same (other one oneOld)
    · rcases List.mem_append.mp twoIn with twoOld | twoNew
      · rw [List.mem_singleton.mp oneNew] at same
        exact absurd same.symm (other two twoOld)
      · rw [List.mem_singleton.mp oneNew, List.mem_singleton.mp twoNew]
  apart := by
    intro one oneIn two twoIn different
    rcases List.mem_append.mp oneIn with oneOld | oneNew
    · rcases List.mem_append.mp twoIn with twoOld | twoNew
      · exact space.apart one oneOld two twoOld different
      · rw [List.mem_singleton.mp twoNew]
        exact (area.apart one oneOld id).symm
    · rcases List.mem_append.mp twoIn with twoOld | twoNew
      · rw [List.mem_singleton.mp oneNew]
        exact area.apart two twoOld id
      · rw [List.mem_singleton.mp oneNew, List.mem_singleton.mp twoNew] at different
        exact absurd rfl different

/-- The segment of an id, mapped now if it is not yet. -/
def AddressSpace.getsegmentByid (space : AddressSpace) (files : Int → Option BufferFile)
    (mmap : (length : Int) → FreeArea space length) (id : Int) : Option (Mapping × AddressSpace) :=
  match found : space.findsegmentByid id with
  | some si => some (si, space)
  | none =>
      if id ≤ lowLargeBufferNumber then none
      else
        (files id).map fun file =>
          (⟨id, (mmap file.length).start, file.length⟩,
            space.attach id file.length (mmap file.length) found)

/-- A `long` as a `size_t`. -/
def sizeT (value : Int) : Int := value % 18446744073709551616

def SharedMemory.headAt (memory : SharedMemory) (segmentid offset : Int) : Chunkhead :=
  if segmentid = 0 then memory.heap.seg.head offset
  else ((memory.files segmentid).map fun file => file.head offset).getD ⟨0, 0⟩

def SharedMemory.getchunksizebyadr (memory : SharedMemory) (si : Mapping) (adr : Int) : Int :=
  let size := (memory.headAt si.segmentid (adr - si.start - sizeofChunkhead)).size
  if si.segmentid = 0 then sizeT (size * memory.heap.seg.basechunksize) else sizeT size

/-- The offset, as an `int`. -/
def SharedMemory.shmcheck (memory : SharedMemory) (space : AddressSpace) (adr : Int) : Int :=
  match space.findsegmentByaddr adr with
  | none => -1
  | some si =>
      if memory.getchunksizebyadr si adr = 0 then -1 else toInt32 (adr - si.start)

def SharedMemory.shmgetsizeofchunk (memory : SharedMemory) (space : AddressSpace) (adr : Int) :
    Int :=
  match space.findsegmentByaddr adr with
  | none => sizeT (-1)
  | some si => memory.getchunksizebyadr si adr

/-- `_mwoffset2adr`. -/
def Mapping.offset2adr (si : Mapping) (offset : Int) : Option Int :=
  if offset < 0 then none
  else if si.start + offset > si.finish then none else some (si.start + offset)

def SharedMemory.read (memory : SharedMemory) (segmentid offset : Int) (len : Nat) : List Byte :=
  (List.range len).map fun (index : Nat) => memory.bytes segmentid (offset + index)

def SharedMemory.write (memory : SharedMemory) (segmentid offset : Int) (len : Nat)
    (value : Nat → Byte) : SharedMemory :=
  { memory with
    bytes := fun id place =>
      if id = segmentid ∧ offset ≤ place ∧ place < offset + len then value (place - offset).toNat
      else memory.bytes id place }

/-- `_mwfree0` as one call of a process, at an offset of the heap. -/
def HeapState.mwfree0 (state : HeapState) (pid : Nat) (adr : Int) :
    Except HeapFailure (Int × HeapState) :=
  match mwfree0Check state.seg adr with
  | .error code => .ok (code, state)
  | .ok bin =>
      match pushTo (takeBack state pid (adr - sizeofChunkhead)) pid (adr - sizeofChunkhead) bin with
      | .error failure => .error failure
      | .ok next => .ok (0, next)

/-- The buffer of the heap is blanked; the file of another one is removed by `mwd`. -/
def SharedMemory.mwfree (memory : SharedMemory) (space : AddressSpace) (pid : Nat) (adr : Int) :
    Except HeapFailure SharedMemory :=
  match space.findsegmentByaddr adr with
  | none => .ok memory
  | some si =>
      if si.segmentid = 0 then
        match memory.heap.mwfree0 pid (adr - si.start) with
        | .error failure => .error failure
        | .ok (rc, heap) =>
            if rc = 0 then
              .ok { memory.write 0 (adr - si.start) (memory.getchunksizebyadr si adr).toNat
                (fun _ => 0) with heap := heap }
            else .ok { memory with heap := heap }
      else .ok { memory with files := setAt memory.files si.segmentid none }

/-- The fields of a `Call` that describe its data. -/
structure CallData where
  datasegmentid : Int
  data : Int
  datalen : Int
deriving DecidableEq, Repr

/-- What `_mwalloc` gives: an address, with the memory and the segments after it. -/
structure Allocated where
  adr : Int
  memory : SharedMemory
  space : AddressSpace

/-- An error, or a null pointer that is followed. -/
inductive CallFailure where
  | refused (code : Int)
  | crashed
deriving DecidableEq, Repr

/-- The data is at an address that is not null; `own` is the memory of the process outside of its
segments, `strlen` the length of the data as a string. -/
def mwPutbufferToCall (memory : SharedMemory) (space : AddressSpace) (own : Int → Byte)
    (data : Int) (len strlen : Nat) (mwalloc : Option Allocated) (errno : Int) :
    Except CallFailure (CallData × SharedMemory) :=
  let len := if len = 0 then strlen else len
  if len = 0 then .ok (⟨0, 0, 0⟩, memory)
  else
    let dataoffset := memory.shmcheck space data
    if dataoffset = -1 then
      match mwalloc with
      | none => .error (.refused (-errno))
      | some allocated =>
          match allocated.space.findsegmentByaddr allocated.adr with
          | none => .error .crashed
          | some seginfo =>
              let copied := allocated.memory.write seginfo.segmentid
                (allocated.adr - seginfo.start) len (fun index => own (data + index))
              .ok (⟨seginfo.segmentid, copied.shmcheck allocated.space allocated.adr, len⟩, copied)
    else
      match space.findsegmentByaddr data with
      | none => .error .crashed
      | some seginfo => .ok (⟨seginfo.segmentid, dataoffset, len⟩, memory)

/-- The data a receiver gets, and the memory after it. -/
structure Received where
  data : Option (List Byte)
  datalen : Int
  memory : SharedMemory

/-- `fastpath` is off. The offset of the data is compared with its length. -/
def mwGetbufferFromCall (memory : SharedMemory) (space : AddressSpace)
    (mmap : (length : Int) → FreeArea space length) (pid : Nat) (call : CallData) :
    Except CallFailure Received :=
  if call.datalen = 0 then .ok ⟨none, 0, memory⟩
  else
    match space.getsegmentByid memory.files mmap call.datasegmentid with
    | none => .error (.refused (-1))
    | some (si, space) =>
        -- A pointer that is null lies in no segment.
        let ptr := si.offset2adr call.data
        let l := (ptr.map fun adr => memory.shmcheck space adr).getD (-1)
        if l < 0 ∨ l < call.datalen then .error (.refused (rcOf .EBADMSG))
        else
          match ptr with
          | none => .error (.refused (rcOf .EBADMSG))
          | some adr =>
              let size := memory.shmgetsizeofchunk space adr
              if size ≤ 0 ∨ size ≤ sizeT call.datalen then .error (.refused (-1))
              else
                match memory.mwfree space pid adr with
                | .error _ => .error .crashed
                | .ok after =>
                    .ok ⟨some (memory.read si.segmentid call.data call.datalen.toNat), call.datalen,
                      after⟩

/-- A chunk of the heap, or a file with one buffer. -/
inductive Buffer where
  | heap (bin : Nat) (pCHead : Int)
  | file (id size : Int)
deriving DecidableEq, Repr

def Buffer.segmentid : Buffer → Int
  | .heap _ _ => 0
  | .file id _ => id

def Buffer.offset : Buffer → Int
  | .heap _ pCHead => pCHead + sizeofChunkhead
  | .file _ _ => sizeofChunkhead

def Buffer.size (base : Nat) : Buffer → Int
  | .heap bin _ => oneShl bin * base
  | .file _ size => size

/-- A process has the buffer from `_mwalloc`: the chunk is its own, or the file is there and as
long as it was asked for. -/
def Buffer.InUse (mwid : Nat → Int) (base cps : Nat) (memory : SharedMemory) : Buffer → Prop
  | .heap bin pCHead => IsChunk base cps bin pCHead ∧
      ∃ owner, memory.heap.holder pCHead = some owner ∧ mwid owner ≠ unassigned
  | .file id size => lowLargeBufferNumber < id ∧ size < 9223372036854775808 ∧
      ∃ file, memory.files id = some file ∧ (file.head 0).size = size ∧
        sizeofChunkhead + size ≤ file.length

/-- The chunk is back in the ring of its bin, or the file is gone. -/
def Buffer.Freed (memory : SharedMemory) : Buffer → Prop
  | .heap bin pCHead => memory.heap.holder pCHead = none ∧
      ∃ ring, RingOk memory.heap.seg bin ring ∧ pCHead ∈ ring
  | .file id _ => memory.files id = none

def Buffer.segmentLength (memory : SharedMemory) : Buffer → Int
  | .heap _ _ => memory.heap.seg.segmentsize
  | .file id _ => ((memory.files id).map fun file => file.length).getD 0

/-- A process has the heap mapped, and if it has the segment of the buffer, then at its length. -/
structure Maps (memory : SharedMemory) (space : AddressSpace) (buffer : Buffer) : Prop where
  heap : ∃ si ∈ space.segments, si.segmentid = 0
  lengths : ∀ si ∈ space.segments, si.segmentid = buffer.segmentid →
    si.length = buffer.segmentLength memory

/-- An address inside of a mapping is found there. -/
theorem AddressSpace.findsegmentByaddr_inside {space : AddressSpace} {si : Mapping}
    (member : si ∈ space.segments) {adr : Int} (lower : si.start < adr) (upper : adr < si.finish) :
    space.findsegmentByaddr adr = some si := by
  unfold AddressSpace.findsegmentByaddr
  cases found : space.segments.find? fun si => decide (si.start ≤ adr ∧ si.finish ≥ adr) with
  | none =>
      grind
  | some other =>
      have otherIn := List.mem_of_find?_eq_some found
      have contains := List.find?_some found
      simp only [decide_eq_true_eq] at contains
      by_cases same : other = si
      · rw [same]
      · rcases space.apart other otherIn si member same with before | behind
        · omega
        · omega

theorem AddressSpace.findsegmentByid_mem {space : AddressSpace} {si : Mapping}
    (member : si ∈ space.segments) : space.findsegmentByid si.segmentid = some si := by
  unfold AddressSpace.findsegmentByid
  cases found : space.segments.find? fun other => other.segmentid == si.segmentid with
  | none =>
      grind
  | some other =>
      have same := List.find?_some found
      simp only [beq_iff_eq] at same
      rw [space.distinct other (List.mem_of_find?_eq_some found) si member same]

theorem AddressSpace.findsegmentByid_some {space : AddressSpace} {id : Int} {si : Mapping}
    (found : space.findsegmentByid id = some si) : si ∈ space.segments ∧ si.segmentid = id := by
  unfold AddressSpace.findsegmentByid at found
  grind

/-- A process can get the segment of a buffer in use. -/
theorem Maps.getsegmentByid {memory : SharedMemory} {space : AddressSpace} {buffer : Buffer}
    (maps : Maps memory space buffer) (mmap : (length : Int) → FreeArea space length)
    {mwid : Nat → Int} {base cps : Nat} (inUse : buffer.InUse mwid base cps memory) :
    ∃ si after, space.getsegmentByid memory.files mmap buffer.segmentid = some (si, after) ∧
      si ∈ after.segments ∧ si.segmentid = buffer.segmentid ∧
      si.length = buffer.segmentLength memory := by
  unfold AddressSpace.getsegmentByid
  split
  · next si found =>
      rcases AddressSpace.findsegmentByid_some found with ⟨member, same⟩
      exact ⟨si, space, rfl, member, same, maps.lengths si member same⟩
  · next missing =>
      cases buffer with
      | heap bin pCHead =>
          rcases maps.heap with ⟨si, member, isHeap⟩
          have found := AddressSpace.findsegmentByid_mem member
          rw [isHeap] at found
          have same := missing.symm.trans found
          cases same
      | file id size =>
          rcases inUse with ⟨large, _, file, isFile, _, _⟩
          have notSmall : ¬Buffer.segmentid (.file id size) ≤ lowLargeBufferNumber :=
            Int.not_le.mpr large
          have here : memory.files (Buffer.segmentid (.file id size)) = some file := isFile
          rw [if_neg notSmall, here]
          refine ⟨_, _, rfl, List.mem_append_right _ List.mem_cons_self, rfl, ?_⟩
          rw [Buffer.segmentLength, isFile]
          rfl

theorem sizeT_self {value : Int} (lower : 0 ≤ value) (upper : value < 18446744073709551616) :
    sizeT value = value := Int.emod_eq_of_lt lower upper

/-- The offsets and sizes of the chunks of a formatted heap fit an `int`. -/
theorem shmbFormat_small {base cps : Nat} (someChunks : 0 < cps) {seg : Segment}
    (formatted : shmbFormat base cps = some seg) {bin : Nat} {p : Int}
    (chunk : IsChunk base cps bin p) : p ≤ intMax ∧ oneShl bin * base ≤ intMax := by
  have behind := (@formatBins_formatted base cps someChunks (bins - 1) (Nat.le_refl _)).2
  have last : binTop base cps (bins - 1) - stride base (bins - 2) ≤ intMax := by
    simp_all [shmbFormat, stride]
  have below : p ≤ binTop base cps (bins - 1) - stride base (bins - 2) := by
    rcases Nat.lt_or_eq_of_le (Nat.le_pred_of_lt chunk.1) with before | same
    · have lower := chunk.end_le before
      have positive := stride_ge base bin
      have oneMore : (stride base (bins - 2) : Int) ≤ cps * stride base (bins - 2) := by
        have nonneg : 0 ≤ stride base (bins - 2) :=
          Int.le_trans (by decide) (stride_ge base (bins - 2))
        have some : (1 : Int) ≤ cps := Int.ofNat_le.mpr someChunks
        calc stride base (bins - 2) = 1 * stride base (bins - 2) := (Int.one_mul _).symm
          _ ≤ cps * stride base (bins - 2) := Int.mul_le_mul_of_nonneg_right some nonneg
      have top : binTop base cps (bins - 1) =
          binTop base cps (bins - 1).pred + (cps * 1 : Nat) * stride base (bins - 2) := rfl
      simp only [chunkOverhead, sizeofChunkhead, sizeofChunkfoot] at positive
      rw [Nat.mul_one] at top
      omega
    · have upper := chunk.end_le chunk.1
      rw [same] at upper
      exact Int.le_sub_right_of_add_le upper
  have bounded : oneShl bin * base ≤ 16 * base := by
    apply Int.mul_le_mul_of_nonneg_right
    · have all : ∀ other < bins - 1, oneShl other ≤ 16 := by decide
      exact all bin chunk.1
    · exact Int.natCast_nonneg base
  have wide : (base : Int) ≤ base * cps := by
    exact_mod_cast Nat.le_mul_of_pos_right base someChunks
  have total := @binTop_last base cps
  have length : stride base (bins - 2) = base * 16 + 40 := rfl
  constructor
  · omega
  · omega

theorem heap_formatted {findBin : Nat → Nat} {mwid : Nat → Int} {base cps : Nat}
    {state : HeapState}
    (reachable : (heapMachine findBin mwid base cps).Reachable (fun _ _ => True) state) :
    ∃ seg, shmbFormat base cps = some seg := by
  apply @Machine.Reachable.holds _ _ _ _ _ (fun _ => ∃ seg, shmbFormat base cps = some seg)
    ?_ ?_ _ reachable
  · intro start isStart
    exact ⟨start.seg, isStart.1⟩
  · intro before action next formatted _ _ _
    exact formatted

/-- Where a buffer lies in its segment, and what the head of its chunk says. -/
structure Buffer.Fits (base : Nat) (memory : SharedMemory) (buffer : Buffer) : Prop where
  behindHead : 0 < buffer.offset
  small : buffer.offset ≤ intMax + sizeofChunkhead
  inside : buffer.offset < buffer.segmentLength memory
  size : buffer.size base < 9223372036854775808
  head : (if buffer.segmentid = 0 then
      sizeT ((memory.headAt buffer.segmentid (buffer.offset - sizeofChunkhead)).size *
        memory.heap.seg.basechunksize)
    else sizeT (memory.headAt buffer.segmentid (buffer.offset - sizeofChunkhead)).size) =
      buffer.size base

theorem Buffer.InUse.fitsIn {mwid : Nat → Int} {base cps : Nat} (someChunks : 0 < cps)
    {memory : SharedMemory} {buffer : Buffer} (formatted : ∃ seg, shmbFormat base cps = some seg)
    (sound : HeapSound mwid base cps memory.heap) (inUse : buffer.InUse mwid base cps memory)
    (holdsData : 0 < buffer.size base) : buffer.Fits base memory := by
  cases buffer with
  | heap bin pCHead =>
      rcases inUse with ⟨chunk, _⟩
      rcases formatted with ⟨seg, formatted⟩
      rcases shmbFormat_small someChunks formatted chunk with ⟨offsetSmall, sizeSmall⟩
      rcases sound with ⟨rings, place, invariant⟩
      have laid := invariant.laid
      have lower := chunk.pos
      have upper := chunk.end_le chunk.1
      have wide := stride_ge base bin
      have fits := laid.fits
      simp only [Buffer.size] at holdsData
      simp only [sizeofSegmenthdr, chunkOverhead, sizeofChunkhead, sizeofChunkfoot, intMax] at *
      refine ⟨?_, ?_, ?_, ?_, ?_⟩
      · grind [Buffer.offset, sizeofChunkhead]
      · grind [Buffer.offset, sizeofChunkhead, intMax]
      · grind [Buffer.offset, Buffer.segmentLength, sizeofChunkhead]
      · grind [Buffer.size]
      · have head : Buffer.offset (.heap bin pCHead) - sizeofChunkhead = pCHead := by
          simp only [Buffer.offset]
          omega
        have isHeap : Buffer.segmentid (.heap bin pCHead) = 0 := rfl
        rw [if_pos isHeap, head, SharedMemory.headAt, if_pos isHeap, laid.size bin pCHead chunk,
          laid.basechunksize]
        exact sizeT_self (by omega) (by omega)
  | file id size =>
      rcases inUse with ⟨large, sizeSmall, file, isFile, sized, fits⟩
      have notHeap : ¬Buffer.segmentid (.file id size) = 0 := by
        grind [Buffer.segmentid, lowLargeBufferNumber]
      simp only [Buffer.size] at holdsData
      have behind : Buffer.offset (.file id size) = 16 := rfl
      refine ⟨?_, ?_, ?_, sizeSmall, ?_⟩
      · omega
      · rw [behind]
        decide
      · grind [Buffer.segmentLength, Buffer.offset]
      · have here : memory.files (Buffer.segmentid (.file id size)) = some file := isFile
        have first : Buffer.offset (.file id size) - sizeofChunkhead = 0 := rfl
        rw [if_neg notHeap, first, SharedMemory.headAt, if_neg notHeap, here]
        simp only [Option.map_some, Option.getD_some]
        rw [sized]
        exact sizeT_self (by omega) (by omega)

theorem Buffer.InUse.fits {findBin : Nat → Nat} {mwid : Nat → Int} {base cps : Nat}
    (someChunks : 0 < cps) {memory : SharedMemory} {buffer : Buffer}
    (reachable : (heapMachine findBin mwid base cps).Reachable (fun _ _ => True) memory.heap)
    (inUse : buffer.InUse mwid base cps memory) (holdsData : 0 < buffer.size base) :
    buffer.Fits base memory :=
  inUse.fitsIn someChunks (heap_formatted reachable)
    (reachable.safe (heapSound_start findBin mwid someChunks) (heapSound_step findBin mwid))
    holdsData

section Reference

variable {base : Nat} {memory : SharedMemory} {space : AddressSpace} {si : Mapping}
  {buffer : Buffer} (fits : buffer.Fits base memory) (member : si ∈ space.segments)
  (segment : si.segmentid = buffer.segmentid) (length : si.length = buffer.segmentLength memory)
include fits member segment length

omit segment in
theorem Buffer.Fits.findsegmentByaddr :
    space.findsegmentByaddr (si.start + buffer.offset) = some si := by
  have lower := fits.behindHead
  have upper := fits.inside
  grind [AddressSpace.findsegmentByaddr_inside, Mapping.finish]

omit member length in
theorem Buffer.Fits.getchunksizebyadr :
    memory.getchunksizebyadr si (si.start + buffer.offset) = buffer.size base := by
  have place : si.start + buffer.offset - si.start - sizeofChunkhead =
      buffer.offset - sizeofChunkhead := by omega
  simp only [SharedMemory.getchunksizebyadr, place, segment]
  exact fits.head

theorem Buffer.Fits.shmcheck (holdsData : 0 < buffer.size base) :
    memory.shmcheck space (si.start + buffer.offset) = toInt32 buffer.offset := by
  have place : si.start + buffer.offset - si.start = buffer.offset := by omega
  rw [SharedMemory.shmcheck, fits.findsegmentByaddr member length]
  simp only [fits.getchunksizebyadr segment, place]
  rw [if_neg (by omega)]

theorem Buffer.Fits.shmgetsizeofchunk :
    memory.shmgetsizeofchunk space (si.start + buffer.offset) = buffer.size base := by
  rw [SharedMemory.shmgetsizeofchunk, fits.findsegmentByaddr member length]
  exact fits.getchunksizebyadr segment

end Reference

/-- What `_mwfree` does to a chunk in use: its holder has it no more, and it is in its ring. -/
theorem HeapSound.mwfree0_freed {mwid : Nat → Int} {base cps : Nat} {state : HeapState}
    (sound : HeapSound mwid base cps state) {bin : Nat} {p : Int} (chunk : IsChunk base cps bin p)
    {owner : Nat} (held : state.holder p = some owner) (attached : mwid owner ≠ unassigned)
    {pid : Nat} (idle : state.tasks pid = .idle) :
    ∃ next, state.mwfree0 pid (p + sizeofChunkhead) = .ok (0, next) ∧
      next.holder = setAt state.holder p none ∧ ∃ ring, RingOk next.seg bin ring ∧ p ∈ ring := by
  rcases sound with ⟨rings, place, invariant⟩
  have accepted := invariant.heapOk.freed bin p owner chunk held attached
  rcases invariant.takeBack idle held with ⟨place', taken⟩
  have here : takeBack state pid p =
      { state with
        seg := state.seg.setOwner p unassigned
        holder := setAt state.holder p none }.setTask pid (.freeing p bin) := by
    rw [takeBack, accepted]
  have freeing : (takeBack state pid p).tasks pid = .freeing p bin := by
    rw [here]
    exact if_pos rfl
  have gone : (takeBack state pid p).holder = setAt state.holder p none := by
    rw [here]
    rfl
  rcases taken.push freeing with ⟨next, pushed, after⟩
  have kept : next.holder = (takeBack state pid p).holder := by
    unfold pushTo at pushed
    generalize pushchunk (takeBack state pid p).seg p bin = outcome at pushed
    cases outcome with
    | error failure => cases pushed
    | ok seg =>
        cases pushed
        rfl
  have head : p + sizeofChunkhead - sizeofChunkhead = p := by omega
  have small : bin < bins := Nat.lt_of_lt_pred chunk.1
  refine ⟨next, ?_, ?_, _, after.ringOk small, ?_⟩
  · simp [HeapState.mwfree0, accepted, head, pushed]
  · rw [kept, gone]
  · simp only [setAt, if_true]
    exact mem_pushSecond.mpr (Or.inl rfl)

/-- A buffer in use is free after `_mwfree`. -/
theorem Buffer.InUse.mwfree {findBin : Nat → Nat} {mwid : Nat → Int} {base cps : Nat}
    (someChunks : 0 < cps) {memory : SharedMemory} {buffer : Buffer}
    (reachable : (heapMachine findBin mwid base cps).Reachable (fun _ _ => True) memory.heap)
    (inUse : buffer.InUse mwid base cps memory) (fits : buffer.Fits base memory)
    {space : AddressSpace} {si : Mapping} (member : si ∈ space.segments)
    (segment : si.segmentid = buffer.segmentid) (length : si.length = buffer.segmentLength memory)
    {pid : Nat} (idle : memory.heap.tasks pid = .idle) :
    ∃ after, memory.mwfree space pid (si.start + buffer.offset) = .ok after ∧
      buffer.Freed after := by
  have place : si.start + buffer.offset - si.start = buffer.offset := by omega
  rw [SharedMemory.mwfree, fits.findsegmentByaddr member length]
  simp only [place]
  cases buffer with
  | heap bin pCHead =>
      rcases inUse with ⟨chunk, owner, held, attached⟩
      have sound : HeapSound mwid base cps memory.heap :=
        reachable.safe (heapSound_start findBin mwid someChunks) (heapSound_step findBin mwid)
      rcases sound.mwfree0_freed chunk held attached idle with ⟨next, freed, gone, inRing⟩
      have unheld : next.holder pCHead = none := by
        rw [gone]
        exact if_pos rfl
      have isHeap : si.segmentid = 0 := segment
      have freedHere : memory.heap.mwfree0 pid (Buffer.offset (.heap bin pCHead)) = .ok (0, next) :=
        freed
      rw [if_pos isHeap, freedHere]
      exact ⟨_, rfl, unheld, inRing⟩
  | file id size =>
      have large := inUse.1
      have isFile : si.segmentid = id := segment
      have notHeap : ¬si.segmentid = 0 := by
        grind [lowLargeBufferNumber]
      rw [if_neg notHeap]
      refine ⟨_, rfl, ?_⟩
      rw [Buffer.Freed, isFile]
      exact if_pos rfl

/-- The process that puts data into a call, and the answer of `_mwalloc` to it. -/
structure Sending where
  memory : SharedMemory
  space : AddressSpace
  own : Int → Byte
  data : Int
  len : Nat
  strlen : Nat
  mwalloc : Option Allocated
  errno : Int

/-- The length of the data: a length of zero stands for a string. -/
def Sending.length (sending : Sending) : Nat :=
  if sending.len = 0 then sending.strlen else sending.len

def Sending.put (sending : Sending) : Except CallFailure (CallData × SharedMemory) :=
  mwPutbufferToCall sending.memory sending.space sending.own sending.data sending.len
    sending.strlen sending.mwalloc sending.errno

/-- The buffer that carries the data, with the memory it is in use in and the bytes that are
sent: the data starts a shared buffer, or it is not shared and `_mwalloc` gives one for it. -/
inductive Sending.Placed (sending : Sending) :
    Buffer → SharedMemory → AddressSpace → List Byte → Prop
  | shared {buffer : Buffer} {si : Mapping} (member : si ∈ sending.space.segments)
      (segment : si.segmentid = buffer.segmentid)
      (start : sending.data = si.start + buffer.offset) :
      Placed sending buffer sending.memory sending.space
        (sending.memory.read buffer.segmentid buffer.offset sending.length)
  | copied {buffer : Buffer} {allocated : Allocated} {si : Mapping}
      (unshared : sending.memory.shmcheck sending.space sending.data = -1)
      (given : sending.mwalloc = some allocated) (member : si ∈ allocated.space.segments)
      (segment : si.segmentid = buffer.segmentid)
      (start : allocated.adr = si.start + buffer.offset) :
      Placed sending buffer allocated.memory allocated.space
        ((List.range sending.length).map fun (index : Nat) => sending.own (sending.data + index))

/-- The receiver gets the bytes of the sender, and the buffer is free again. -/
def Sending.RoundTrip (sending : Sending) (buffer : Buffer) (bytes : List Byte)
    (receiver : AddressSpace) (mmap : (length : Int) → FreeArea receiver length) (pid : Nat) :
    Prop :=
  ∃ call after received, sending.put = .ok (call, after) ∧
    mwGetbufferFromCall after receiver mmap pid call = .ok received ∧
    received.data = some bytes ∧ received.datalen = sending.length ∧
    buffer.Freed received.memory

theorem SharedMemory.read_write (memory : SharedMemory) (segmentid offset : Int) (len : Nat)
    (value : Nat → Byte) :
    (memory.write segmentid offset len value).read segmentid offset len =
      (List.range len).map value := by
  simp_all [SharedMemory.write, SharedMemory.read, List.map_congr_left]

theorem SharedMemory.shmcheck_write (memory : SharedMemory) (segmentid offset : Int) (len : Nat)
    (value : Nat → Byte) (space : AddressSpace) (adr : Int) :
    (memory.write segmentid offset len value).shmcheck space adr = memory.shmcheck space adr :=
  rfl

theorem Buffer.Fits.isShared {base : Nat} {buffer : Buffer} {memory : SharedMemory}
    (fits : buffer.Fits base memory) : ¬toInt32 buffer.offset = -1 := by
  have lower := fits.behindHead
  have upper := fits.small
  grind [intMax, sizeofChunkhead, toInt32]

/-- The call of the sender: the segment of the buffer, its offset as an `int`, and the length. -/
theorem Sending.Placed.put {sending : Sending} {buffer : Buffer} {memory : SharedMemory}
    {space : AddressSpace} {bytes : List Byte} (placed : sending.Placed buffer memory space bytes)
    {base : Nat} (fits : buffer.Fits base memory) (maps : Maps memory space buffer)
    (nonempty : 0 < sending.length) (holdsData : 0 < buffer.size base) :
    ∃ stored, sending.put = .ok (⟨buffer.segmentid, toInt32 buffer.offset, sending.length⟩,
        { memory with bytes := stored }) ∧
      ({ memory with bytes := stored } : SharedMemory).read buffer.segmentid buffer.offset
        sending.length = bytes := by
  have someData : ¬sending.length = 0 := by omega
  unfold Sending.put mwPutbufferToCall
  simp only [← Sending.length.eq_def]
  rw [if_neg someData]
  cases placed with
  | @shared si member segment start =>
      have length := maps.lengths si member segment
      rw [start, fits.shmcheck member segment length holdsData, if_neg fits.isShared,
        fits.findsegmentByaddr member length]
      exact ⟨_, by rw [← segment], rfl⟩
  | @copied allocated si unshared given member segment start =>
      have length := maps.lengths si member segment
      rw [if_pos unshared, given]
      simp only
      rw [start, fits.findsegmentByaddr member length]
      have place : si.start + buffer.offset - si.start = buffer.offset := by omega
      simp only [place, segment]
      refine ⟨_, ?_, SharedMemory.read_write allocated.memory _ _ _ _⟩
      rw [SharedMemory.shmcheck_write, fits.shmcheck member segment length holdsData]
      rfl

section Receiving

variable {findBin : Nat → Nat} {mwid : Nat → Int} {base cps : Nat} {memory : SharedMemory}
  {buffer : Buffer} {receiver : AddressSpace}

theorem Mapping.offset2adr_inside {si : Mapping} {offset : Int} (lower : 0 < offset)
    (upper : offset < si.length) : si.offset2adr offset = some (si.start + offset) := by
  unfold Mapping.offset2adr Mapping.finish
  rw [if_neg (by omega), if_neg (by omega)]

/-- The checks of the receiver pass, and it frees the buffer. -/
theorem Buffer.InUse.received (someChunks : 0 < cps)
    (reachable : (heapMachine findBin mwid base cps).Reachable (fun _ _ => True) memory.heap)
    (inUse : buffer.InUse mwid base cps memory) (fits : buffer.Fits base memory)
    (receives : Maps memory receiver buffer) (mmap : (length : Int) → FreeArea receiver length)
    {pid : Nat} (idle : memory.heap.tasks pid = .idle) {len : Nat} (nonempty : 0 < len)
    (farEnough : len ≤ buffer.offset) (roomLeft : len < buffer.size base)
    (addressable : buffer.offset ≤ intMax) :
    ∃ after, mwGetbufferFromCall memory receiver mmap pid
        ⟨buffer.segmentid, toInt32 buffer.offset, len⟩ =
      .ok ⟨some (memory.read buffer.segmentid buffer.offset len), len, after⟩ ∧
      buffer.Freed after := by
  rcases receives.getsegmentByid mmap inUse with ⟨si, space, got, member, segment, length⟩
  rcases inUse.mwfree someChunks reachable fits member segment length idle with ⟨after, freed, free⟩
  have behindHead := fits.behindHead
  have same : toInt32 buffer.offset = buffer.offset := by
    grind [intMax, toInt32_self]
  have sizeSmall := fits.size
  have lenSame : sizeT (len : Int) = len := sizeT_self (by omega) (by omega)
  refine ⟨after, ?_, free⟩
  unfold mwGetbufferFromCall
  simp only [same]
  rw [if_neg (by omega), got]
  have address := Mapping.offset2adr_inside behindHead (length ▸ fits.inside)
  simp only [address, Option.map_some, Option.getD_some,
    fits.shmcheck member segment length (by omega), same,
    fits.shmgetsizeofchunk member segment length, lenSame]
  grind

/-- A receiver that takes the data found its offset and its buffer to be larger. -/
theorem Buffer.InUse.taken (inUse : buffer.InUse mwid base cps memory)
    (fits : buffer.Fits base memory) (receives : Maps memory receiver buffer)
    (mmap : (length : Int) → FreeArea receiver length) {pid len : Nat} (nonempty : 0 < len)
    (holds : len ≤ buffer.size base) {received : Received}
    (got : mwGetbufferFromCall memory receiver mmap pid
      ⟨buffer.segmentid, toInt32 buffer.offset, len⟩ = .ok received) :
    len ≤ buffer.offset ∧ len < buffer.size base ∧ buffer.offset ≤ intMax := by
  rcases receives.getsegmentByid mmap inUse with ⟨si, space, segmentGot, member, segment, length⟩
  have behindHead := fits.behindHead
  have small := fits.small
  have sizeSmall := fits.size
  have lenSame : sizeT (len : Int) = len := sizeT_self (by omega) (by omega)
  simp only [intMax, sizeofChunkhead] at small ⊢
  unfold mwGetbufferFromCall at got
  simp only at got
  rw [if_neg (by omega), segmentGot] at got
  by_cases addressable : buffer.offset ≤ 2147483647
  · have same : toInt32 buffer.offset = buffer.offset := toInt32_self (by omega) (by omega)
    have address := Mapping.offset2adr_inside behindHead (length ▸ fits.inside)
    simp only [same, address, Option.map_some, Option.getD_some,
      fits.shmcheck member segment length (by omega),
      fits.shmgetsizeofchunk member segment length, lenSame] at got
    grind
  · -- The offset became negative on its way through the `int`, and names no address.
    have negative : toInt32 buffer.offset < 0 := by
      grind [toInt32]
    have noAddress : si.offset2adr (toInt32 buffer.offset) = none := if_pos negative
    simp [noAddress, Option.map_none, Option.getD_none] at got

theorem Buffer.InUse.stored (inUse : buffer.InUse mwid base cps memory)
    (stored : Int → Int → Byte) : buffer.InUse mwid base cps { memory with bytes := stored } := by
  cases buffer with
  | heap bin pCHead => exact inUse
  | file id size => exact inUse

theorem Maps.stored {space : AddressSpace} (maps : Maps memory space buffer)
    (stored : Int → Int → Byte) : Maps { memory with bytes := stored } space buffer := by
  refine ⟨maps.heap, ?_⟩
  intro si member segment
  rw [maps.lengths si member segment]
  rfl

variable {sending : Sending} {space : AddressSpace} {bytes : List Byte}
  (someChunks : 0 < cps)
  (reachable : (heapMachine findBin mwid base cps).Reachable (fun _ _ => True) memory.heap)
  (placed : sending.Placed buffer memory space bytes) (sends : Maps memory space buffer)
  (inUse : buffer.InUse mwid base cps memory) (nonempty : 0 < sending.length)
  (receives : Maps memory receiver buffer) (mmap : (length : Int) → FreeArea receiver length)
  {pid : Nat}
include someChunks reachable placed sends inUse nonempty receives

theorem Sending.Placed.roundTrip (idle : memory.heap.tasks pid = .idle)
    (farEnough : sending.length ≤ buffer.offset) (roomLeft : sending.length < buffer.size base)
    (addressable : buffer.offset ≤ intMax) :
    sending.RoundTrip buffer bytes receiver mmap pid := by
  have fits := inUse.fits someChunks reachable (by omega)
  rcases placed.put fits sends nonempty (by omega) with ⟨stored, put, read⟩
  have reachableStored : (heapMachine findBin mwid base cps).Reachable (fun _ _ => True)
      ({ memory with bytes := stored } : SharedMemory).heap := reachable
  have inUseStored := inUse.stored stored
  have fitsStored := inUseStored.fits someChunks reachableStored (by omega)
  rcases inUseStored.received someChunks reachableStored fitsStored (receives.stored stored) mmap
    idle nonempty farEnough roomLeft addressable with ⟨after, got, free⟩
  exact ⟨_, _, _, put, got, congrArg some read, rfl, free⟩

theorem Sending.Placed.needs (holds : sending.length ≤ buffer.size base)
    (roundTrip : sending.RoundTrip buffer bytes receiver mmap pid) :
    sending.length ≤ buffer.offset ∧ sending.length < buffer.size base ∧
      buffer.offset ≤ intMax := by
  have fits := inUse.fits someChunks reachable (by omega)
  rcases placed.put fits sends nonempty (by omega) with ⟨stored, put, _⟩
  have reachableStored : (heapMachine findBin mwid base cps).Reachable (fun _ _ => True)
      ({ memory with bytes := stored } : SharedMemory).heap := reachable
  have inUseStored := inUse.stored stored
  have fitsStored := inUseStored.fits someChunks reachableStored (by omega)
  rcases roundTrip with ⟨call, after, received, sent, got, _, _, _⟩
  rw [put] at sent
  cases sent
  exact inUseStored.taken fitsStored (receives.stored stored) mmap nonempty holds got

end Receiving

/-- The data of a call comes back as it was sent, and its buffer free again, if and only if the
buffer lies behind as many bytes of its segment as the data has, is longer than the data, and has
an offset that fits an `int`. -/
theorem callBuffer_roundTrip (findBin : Nat → Nat) (mwid : Nat → Int) {base cps : Nat}
    (someChunks : 0 < cps) (sending : Sending) {buffer : Buffer} {memory : SharedMemory}
    {space : AddressSpace} {bytes : List Byte} (placed : sending.Placed buffer memory space bytes)
    (reachable : (heapMachine findBin mwid base cps).Reachable (fun _ _ => True) memory.heap)
    (inUse : buffer.InUse mwid base cps memory) (nonempty : 0 < sending.length)
    (holds : sending.length ≤ buffer.size base) (sends : Maps memory space buffer)
    {receiver : AddressSpace} (receives : Maps memory receiver buffer)
    (mmap : (length : Int) → FreeArea receiver length) {pid : Nat}
    (idle : memory.heap.tasks pid = .idle) :
    sending.RoundTrip buffer bytes receiver mmap pid ↔
      sending.length ≤ buffer.offset ∧ sending.length < buffer.size base ∧
        buffer.offset ≤ intMax := by
  constructor
  · intro roundTrip
    exact placed.needs someChunks reachable sends inUse nonempty receives mmap holds roundTrip
  · rintro ⟨farEnough, roomLeft, addressable⟩
    exact placed.roundTrip someChunks reachable sends inUse nonempty receives mmap idle farEnough
      roomLeft addressable

/-- A process that has the heap mapped, and nothing else. -/
def heapOnly (length : Int) : AddressSpace where
  segments := [⟨0, 4096, length⟩]
  distinct := by
    intro one oneIn two twoIn _
    rw [List.mem_singleton.mp oneIn, List.mem_singleton.mp twoIn]
  apart := by
    intro one oneIn two twoIn different
    rw [List.mem_singleton.mp oneIn, List.mem_singleton.mp twoIn] at different
    exact absurd rfl different

def behindHeap (length wanted : Int) : FreeArea (heapOnly length) wanted where
  start := 4096 + length
  apart := by
    intro si member id
    rw [List.mem_singleton.mp member]
    exact Or.inr (Int.le_refl _)

/-- Data of this length in the first chunk of a heap with chunks of four bytes. -/
def inFirstChunk (state : HeapState) (len : Nat) : Sending where
  memory := ⟨state, fun _ => none, fun _ _ => 0⟩
  space := heapOnly state.seg.segmentsize
  own := fun _ => 0
  data := 4096 + 128
  len := len
  strlen := 0
  mwalloc := none
  errno := 0

theorem inFirstChunk_placed (state : HeapState) (held : state.holder 112 = some 7) (len : Nat) :
    (inFirstChunk state len).Placed (.heap 0 112) (inFirstChunk state len).memory
        (inFirstChunk state len).space
        ((inFirstChunk state len).memory.read 0 128 (inFirstChunk state len).length) ∧
      Buffer.InUse (fun pid => pid) 4 1 (inFirstChunk state len).memory (.heap 0 112) ∧
      Maps (inFirstChunk state len).memory (heapOnly state.seg.segmentsize) (.heap 0 112) := by
  have mapped : (⟨0, 4096, state.seg.segmentsize⟩ : Mapping) ∈
      (heapOnly state.seg.segmentsize).segments := List.mem_singleton_self _
  refine ⟨Sending.Placed.shared mapped rfl rfl, ⟨?_, 7, held, by decide⟩, ⟨_, mapped, rfl⟩, ?_⟩
  · exact ⟨by decide, 0, by decide, rfl⟩
  · intro si member _
    rw [List.mem_singleton.mp member]
    rfl

/-- Three bytes pass. -/
theorem callBuffer_roundTrip_three :
    ∃ state, (heapMachine (fun _ => 0) (fun pid => pid) 4 1).Reachable (fun _ _ => True) state ∧
      state.holder 112 = some 7 ∧ state.tasks 8 = .idle ∧
      (inFirstChunk state 3).RoundTrip (.heap 0 112)
        ((inFirstChunk state 3).memory.read 0 128 3) (heapOnly state.seg.segmentsize)
        (behindHeap state.seg.segmentsize) 8 := by
  rcases first_alloc_reachable with ⟨state, reachable, held, idle⟩
  rcases inFirstChunk_placed state held 3 with ⟨placed, inUse, maps⟩
  have passes := callBuffer_roundTrip (fun _ => 0) (fun pid => pid) Nat.one_pos
    (inFirstChunk state 3) placed reachable inUse (show 0 < 3 by decide)
    (show (3 : Int) ≤ 1 * 4 by decide) maps maps (behindHeap state.seg.segmentsize) idle
  refine ⟨state, reachable, held, idle, passes.mpr ⟨?_, ?_, by decide⟩⟩
  · exact show (3 : Int) ≤ 112 + 16 by decide
  · exact show (3 : Int) < 1 * 4 by decide

/-- Four bytes fill the chunk, and the receiver refuses them. -/
theorem callBuffer_not_full :
    ∃ state, (heapMachine (fun _ => 0) (fun pid => pid) 4 1).Reachable (fun _ _ => True) state ∧
      state.holder 112 = some 7 ∧ state.tasks 8 = .idle ∧
      (inFirstChunk state 4).length = Buffer.size 4 (.heap 0 112) ∧
      ¬(inFirstChunk state 4).RoundTrip (.heap 0 112)
        ((inFirstChunk state 4).memory.read 0 128 4) (heapOnly state.seg.segmentsize)
        (behindHeap state.seg.segmentsize) 8 := by
  rcases first_alloc_reachable with ⟨state, reachable, held, idle⟩
  rcases inFirstChunk_placed state held 4 with ⟨placed, inUse, maps⟩
  refine ⟨state, reachable, held, idle, rfl, ?_⟩
  intro roundTrip
  have needs := placed.needs Nat.one_pos reachable maps inUse (show 0 < 4 by decide) maps
    (behindHeap state.seg.segmentsize) (show (4 : Int) ≤ 1 * 4 by decide) roundTrip
  exact absurd needs.2.1 (show ¬(4 : Int) < 1 * 4 by decide)

end MidWay.Shm

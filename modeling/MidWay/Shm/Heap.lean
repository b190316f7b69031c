import Mathlib.Tactic.Common

/-!
Contract: the shared memory heap of `shmalloc.c`, as `shmallocfmt.c` lays it
out.

A segment is its header and, by offset, the heads and feet of its chunks. A
pointer into the segment is its offset, in every process. The data of the
buffers, the usage counters and the semaphore id are left out: no modelled
function depends on them.

Owns: `mwfooter`, `popchunk`, `pushchunk`, the checks of `_mwfree0`,
`mwGettopofbin` and `shmbFormat`. A null pointer that is followed, and a format
that would write behind the end of its segment, have no result.
-/

namespace MidWay.Shm

def sizeofChunkhead : Int := 16
def sizeofChunkfoot : Int := 24
def sizeofSegmenthdr : Int := 112

def chunkOverhead : Int := sizeofChunkhead + sizeofChunkfoot

def bins : Nat := 6

def intMax : Int := 2147483647

def unassigned : Int := -1

/-- `1 << bin`. -/
def oneShl : Nat → Int
  | 0 => 1
  | bin + 1 => 2 * oneShl bin

structure Chunkhead where
  ownerid : Int
  size : Int
deriving DecidableEq, Repr

structure Chunkfoot where
  above : Int
  next : Int
  prev : Int
deriving DecidableEq, Repr

/-- `chunk` and `freecount` are indexed by the bin; `head` and `foot` by the
offset of the structure. -/
structure Segment where
  chunkspersize : Int
  basechunksize : Int
  segmentsize : Int
  top : Int
  bottom : Int
  chunk : Nat → Int
  freecount : Nat → Int
  head : Int → Chunkhead
  foot : Int → Chunkfoot

inductive HeapFailure where
  | nullPointer
deriving DecidableEq, Repr

def setAt {α β : Type} [DecidableEq α] (table : α → β) (key : α) (entry : β) : α → β :=
  fun other => if other = key then entry else table other

def mwOffset2adr (seg : Segment) (offset : Int) : Option Int :=
  if offset < 0 then none else if offset > seg.segmentsize then none else some offset

def mwfooter (seg : Segment) (head : Int) : Int :=
  head + sizeofChunkhead + (seg.head head).size * seg.basechunksize

def Segment.setNext (seg : Segment) (footer target : Int) : Segment :=
  { seg with foot := setAt seg.foot footer { seg.foot footer with next := target } }

def Segment.setPrev (seg : Segment) (footer target : Int) : Segment :=
  { seg with foot := setAt seg.foot footer { seg.foot footer with prev := target } }

def Segment.setOwner (seg : Segment) (head owner : Int) : Segment :=
  { seg with head := setAt seg.head head { seg.head head with ownerid := owner } }

def Segment.setRoot (seg : Segment) (bin : Nat) (root count : Int) : Segment :=
  { seg with chunk := setAt seg.chunk bin root, freecount := setAt seg.freecount bin count }

/-- Take the root chunk out of the ring of a bin. -/
def popchunk (seg : Segment) (bin : Nat) : Except HeapFailure (Option Int × Segment) :=
  if seg.freecount bin = 0 then .ok (none, seg)
  else if seg.chunk bin = 0 then .ok (none, seg)
  else
    match mwOffset2adr seg (seg.chunk bin) with
    | none => .error .nullPointer
    | some pCHead =>
        let pCFoot := mwfooter seg pCHead
        if seg.freecount bin = 1 then
          let seg := (seg.setNext pCFoot 0).setPrev pCFoot 0
          .ok (some pCHead, seg.setRoot bin 0 (seg.freecount bin - 1))
        else
          match mwOffset2adr seg (seg.foot pCFoot).prev,
              mwOffset2adr seg (seg.foot pCFoot).next with
          | some pPrev, some pNext =>
              let seg := seg.setNext (mwfooter seg pPrev) pNext
              let seg := seg.setPrev (mwfooter seg pNext) pPrev
              let seg := seg.setRoot bin (seg.foot pCFoot).next (seg.freecount bin - 1)
              .ok (some pCHead, (seg.setNext pCFoot 0).setPrev pCFoot 0)
          | _, _ => .error .nullPointer

/-- The foot of a chunk names its head; a foot that does not is put right. -/
def repairAbove (seg : Segment) (pInsert : Int) : Segment :=
  let pCFoot := mwfooter seg pInsert
  if mwOffset2adr seg (seg.foot pCFoot).above ≠ some pInsert then
    { seg with foot := setAt seg.foot pCFoot { seg.foot pCFoot with above := pInsert } }
  else seg

/-- Put a chunk into the ring of a bin, behind the root chunk. -/
def pushchunk (seg : Segment) (pInsert : Int) (bin : Nat) : Except HeapFailure Segment :=
  let pCFoot := mwfooter seg pInsert
  let seg := repairAbove seg pInsert
  if seg.chunk bin = 0 then
    let seg := seg.setRoot bin pInsert (seg.freecount bin + 1)
    .ok ((seg.setNext pCFoot pInsert).setPrev pCFoot pInsert)
  else
    match mwOffset2adr seg (seg.chunk bin) with
    | none => .error .nullPointer
    | some pPrev =>
        match mwOffset2adr seg (seg.foot (mwfooter seg pPrev)).next with
        | none => .error .nullPointer
        | some pNext =>
            let seg := (seg.setNext pCFoot pNext).setPrev pCFoot pPrev
            let seg := seg.setPrev (mwfooter seg pNext) pInsert
            let seg := seg.setNext (mwfooter seg pPrev) pInsert
            .ok (seg.setRoot bin (seg.chunk bin) (seg.freecount bin + 1))

/-- The offset of the first chunk of a bin; the first bin has twice as many
chunks as the others. -/
def mwGettopofbin (seg : Segment) : Nat → Int
  | 0 => sizeofSegmenthdr
  | b + 1 =>
      let s := oneShl b * seg.basechunksize
      let l := seg.chunkspersize * (s + chunkOverhead)
      mwGettopofbin seg b + (if b = 0 then l * 2 else l)

/-- What `_mwfree0` checks before it touches the chunk: the bin the chunk goes
to, or the result of the refused call. The logarithm of the chunk size is taken
as exact. -/
def mwfree0Check (seg : Segment) (adr : Int) : Except Int Nat :=
  if adr < seg.top ∨ adr > seg.bottom then .error (-22)
  else
    let pCHead := adr - sizeofChunkhead
    let size := (seg.head pCHead).size
    let bin := Nat.log2 size.toNat
    let off := pCHead - mwGettopofbin seg bin
    let s := seg.basechunksize * size + chunkOverhead
    let l := off.tdiv s
    let n := if bin ≠ 0 then seg.chunkspersize else seg.chunkspersize * 2
    if l < 0 ∨ l > n then .error (-1)
    else if off.tmod s ≠ 0 then .error (-1)
    else if (seg.head pCHead).ownerid = unassigned then .error (-1)
    else .ok bin

/-- The loop body of `formatfreelist`. -/
def formatChunk (seg : Segment) (iStart chunksize : Int) (i : Nat) : Segment :=
  let step := seg.basechunksize * chunksize + chunkOverhead
  let iCHead := iStart + i * step
  let seg := { seg with head := setAt seg.head iCHead ⟨unassigned, chunksize⟩ }
  { seg with
    foot := setAt seg.foot (mwfooter seg iCHead) ⟨iCHead, iCHead + step, iCHead - step⟩ }

def formatChunks (seg : Segment) (iStart chunksize : Int) : Nat → Segment
  | 0 => seg
  | i + 1 => formatChunk (formatChunks seg iStart chunksize i) iStart chunksize i

/-- Format the chunks of one bin and close their ring; the offset behind them is
the result. -/
def formatfreelist (seg : Segment) (iStart chunksize : Int) (chunks : Nat) : Segment × Int :=
  let step := seg.basechunksize * chunksize + chunkOverhead
  let seg := formatChunks seg iStart chunksize chunks
  let pCFoot := mwfooter seg iStart
  let seg := seg.setPrev pCFoot (iStart + (chunks - 1) * step)
  let last := (seg.foot pCFoot).prev
  let seg := seg.setNext (mwfooter seg last) iStart
  (seg, iStart + chunks * step)

/-- The header of a segment in a fresh shared memory. `CHUNKOVERHEAD` is not
parenthesised, so only its first term is multiplied. -/
def emptySegment (chunksize chunkspersize : Nat) : Segment :=
  let segmentsize := sizeofSegmenthdr +
    (6 * chunkspersize * sizeofChunkhead + sizeofChunkfoot) +
    32 * chunksize * chunkspersize + 100000
  { chunkspersize := chunkspersize
    basechunksize := chunksize
    segmentsize := segmentsize
    top := sizeofSegmenthdr
    bottom := segmentsize - sizeofSegmenthdr
    chunk := fun _ => 0
    freecount := fun _ => 0
    head := fun _ => ⟨0, 0⟩
    foot := fun _ => ⟨0, 0, 0⟩ }

def chunkCount (chunkspersize bin : Nat) : Nat :=
  if bin = 0 then chunkspersize * 2 else chunkspersize * 1

/-- The segment and the next free offset when this many bins are formatted. -/
def formatBins (chunksize chunkspersize : Nat) : Nat → Segment × Int
  | 0 => (emptySegment chunksize chunkspersize, sizeofSegmenthdr)
  | bin + 1 =>
      let (seg, iChunkRoot) := formatBins chunksize chunkspersize bin
      let count := chunkCount chunkspersize bin
      formatfreelist (seg.setRoot bin iChunkRoot count) iChunkRoot (oneShl bin) count

/-- The last bin stays empty. The chunks must fit the segment, and their offsets
an `int`. -/
def shmbFormat (chunksize chunkspersize : Nat) : Option Segment :=
  let (seg, behind) := formatBins chunksize chunkspersize (bins - 1)
  let lastChunk := behind - (chunksize * oneShl (bins - 2) + chunkOverhead)
  if behind > seg.segmentsize ∨ lastChunk > intMax then none
  else some (seg.setRoot (bins - 1) 0 0)

end MidWay.Shm

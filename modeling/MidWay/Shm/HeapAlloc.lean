import Mathlib.Algebra.Order.Floor.Div
import Mathlib.Data.Nat.Log
import MidWay.Shm.CallBuffers

/-!
Contract: `_mwalloc` as one call, on a heap whose free chunks are in order.

`find_bin` rounds the request up to base chunks, and these up to a power of two;
its arithmetic is taken as exact. The search goes on to larger bins when a bin has
no free chunk. A request no bin can serve is answered `full`: the buffer then
comes from `mwd`.

Owns: `findBin`, `mwalloc`, and what a request that is served gets.
-/

namespace MidWay.Shm

open MidWay.Lib

/-- The bin of a request for a segment of chunks. -/
def findBin (base size : Nat) : Nat := Nat.clog 2 (size ⌈/⌉ base)

inductive HeapAnswer where
  | buffer (adr : Int)
  | full
  | lockFailed
deriving DecidableEq, Repr

section

variable (lock : Nat → Bool) (mwid : Int)

/-- The loop of `_mwalloc` from a bin on; `turns` are the bins that are left. -/
def mwallocFrom : Nat → Segment → Nat → Except HeapFailure (HeapAnswer × Segment)
  | 0, seg, _ => .ok (.full, seg)
  | turns + 1, seg, i =>
      if seg.freecount i > 0 then
        if lock i then
          match popchunk seg i with
          | .error failure => .error failure
          | .ok (none, seg) => mwallocFrom turns seg (i + 1)
          | .ok (some pCHead, seg) =>
              .ok (.buffer (pCHead + sizeofChunkhead), seg.setOwner pCHead mwid)
        else .ok (.lockFailed, seg)
      else mwallocFrom turns seg (i + 1)

/-- `_mwalloc`, up to the request to `mwd`. A request for nothing is refused as if there
were no memory. -/
def mwalloc (seg : Segment) (size : Nat) : Except HeapFailure (HeapAnswer × Segment) :=
  if size = 0 then .ok (.full, seg)
  else
    let bin := findBin seg.basechunksize.toNat size
    mwallocFrom lock mwid (bins - bin) seg bin

end

theorem oneShl_eq (bin : Nat) : oneShl bin = ((2 ^ bin : Nat) : Int) := by
  induction bin with
  | zero => rfl
  | succ bin ih =>
      grind [oneShl, pow_succ]

theorem findBin_le_iff {base : Nat} (someBytes : 0 < base) (size bin : Nat) :
    findBin base size ≤ bin ↔ (size : Int) ≤ oneShl bin * base := by
  rw [findBin, Nat.clog_le_iff_le_pow (by decide), ceilDiv_le_iff_le_mul someBytes, oneShl_eq,
    Nat.mul_comm]
  exact_mod_cast Iff.rfl

section Loop

variable {lock : Nat → Bool} {mwid : Int} {base cps : Nat} {seg : Segment}
  {rings : Nat → List Int} (laid : Laid base cps seg)
  (linked : ∀ bin < bins, FreeRing base cps seg bin (rings bin))

theorem mwallocFrom_empty {turns i : Nat} (free : FreeRing base cps seg i []) :
    mwallocFrom lock mwid (turns + 1) seg i = mwallocFrom lock mwid turns seg (i + 1) := by
  simp [free.count, mwallocFrom]

include linked in
variable (mwid) in
include laid linked in
/-- The first bin with a free chunk gives its root. -/
theorem mwallocFrom_found {bin : Nat} (small : bin < bins) (locked : lock bin = true)
    {root : Int} {others : List Int} (ring : rings bin = root :: others) {turns i : Nat}
    (lower : i ≤ bin) (upper : bin < i + turns)
    (empty : ∀ other, i ≤ other → other < bin → rings other = []) :
    ∃ seg', mwallocFrom lock mwid turns seg i =
        .ok (.buffer (root + sizeofChunkhead), seg'.setOwner root mwid) ∧
      FreeRing base cps seg' bin others ∧ Untouched base cps seg seg' bin (root :: others) := by
  induction turns generalizing i with
  | zero => omega
  | succ turns ih =>
      rcases Nat.lt_or_eq_of_le lower with before | here
      · grind [mwallocFrom_empty]
      · subst here
        have free := linked i small
        rw [ring] at free
        have someFree : seg.freecount i > 0 := by
          simp [free.count, List.length_cons]
        rcases popchunk_free laid free with ⟨seg', result, freed, untouched⟩
        refine ⟨seg', ?_, freed, untouched⟩
        rw [mwallocFrom, if_pos someFree, if_pos locked, result]

end Loop

/-- The request got the data area of a chunk of `bin`: it was free, is large enough, in the
first bin that could serve it, and apart from every other chunk; all else is as before. -/
structure Served (mwid : Int) (base cps : Nat) (seg : Segment) (rings : Nat → List Int)
    (size bin : Nat) (pCHead : Int) (seg' : Segment) : Prop where
  chunk : IsChunk base cps bin pCHead
  free : pCHead ∈ rings bin
  capacity : (size : Int) ≤ oneShl bin * base
  smallest : ∀ other < bins, (size : Int) ≤ oneShl other * base → rings other ≠ [] → bin ≤ other
  head : seg'.head pCHead = ⟨mwid, oneShl bin⟩
  heads : ∀ q ≠ pCHead, seg'.head q = seg.head q
  ring : FreeRing base cps seg' bin ((rings bin).erase pCHead)
  linked : ∀ other < bins, other ≠ bin → FreeRing base cps seg' other (rings other)
  roots : ∀ other ≠ bin, seg'.chunk other = seg.chunk other ∧
    seg'.freecount other = seg.freecount other
  links : ∀ other q, IsChunk base cps other q → q ∉ rings bin →
    seg'.nextOf q = seg.nextOf q ∧ seg'.prevOf q = seg.prevOf q
  foot : mwfooter seg' pCHead = pCHead + sizeofChunkhead + oneShl bin * base
  apart : ∀ other q, IsChunk base cps other q → q ≠ pCHead →
    pCHead + sizeofChunkhead + oneShl bin * base ≤ q ∨
      q + stride base other ≤ pCHead + sizeofChunkhead
  written : ∀ (memory : SharedMemory) (value : Nat → CLib.Byte) (other : Nat) (q place : Int),
    IsChunk base cps other q → q ≠ pCHead → q ≤ place → place < q + stride base other →
      (memory.write 0 (pCHead + sizeofChunkhead) (oneShl bin * base).toNat value).bytes 0 place =
        memory.bytes 0 place

theorem IsChunk.data_apart {base cps bin other : Nat} {p q : Int}
    (chunk : IsChunk base cps bin p) (otherChunk : IsChunk base cps other q) (different : q ≠ p) :
    p + sizeofChunkhead + oneShl bin * base ≤ q ∨ q + stride base other ≤ p + sizeofChunkhead := by
  have wide : stride base bin = oneShl bin * base + chunkOverhead := by
    rw [stride, Int.mul_comm]
  simp only [chunkOverhead, sizeofChunkhead, sizeofChunkfoot] at wide ⊢
  rcases chunk.apart otherChunk different.symm with before | behind
  · exact Or.inl (by omega)
  · exact Or.inr (by omega)

section Sound

variable {lock : Nat → Bool} (mwid : Int) {base cps : Nat} {seg : Segment}
  {rings : Nat → List Int} (laid : Laid base cps seg)
  (linked : ∀ bin < bins, FreeRing base cps seg bin (rings bin))
include linked

/-- What taking the root of a bin and writing its owner leave. -/
theorem served_root {size bin : Nat} (small : bin < bins) (capacity : (size : Int) ≤ oneShl bin * base)
    (smallest : ∀ other < bins, (size : Int) ≤ oneShl other * base → rings other ≠ [] →
      bin ≤ other)
    {root : Int} {others : List Int} (ring : rings bin = root :: others) {seg' : Segment}
    (freed : FreeRing base cps seg' bin others)
    (untouched : Untouched base cps seg seg' bin (root :: others)) :
    Served mwid base cps seg rings size bin root (seg'.setOwner root mwid) := by
  have free := linked bin small
  rw [ring] at free
  have chunk := free.chunks root List.mem_cons_self
  have keep {other : Nat} {list : List Int} (listed : FreeRing base cps seg' other list) :
      FreeRing base cps (seg'.setOwner root mwid) other list :=
    listed.congr rfl rfl fun q _ => ⟨nextOf_setOwner _ _ _ _, prevOf_setOwner _ _ _ _⟩
  refine ⟨chunk, ?_, capacity, smallest, ?_, ?_, ?_, ?_, ?_, ?_, ?_, ?_, ?_⟩
  · simp [ring]
  · simp only [Segment.setOwner, setAt, if_true]
    rw [untouched.laid.size bin root chunk]
  · simp_all [Segment.setOwner, setAt, untouched.head]
  · simp_all [List.erase_cons_head]
  · intro other otherSmall different
    exact keep (untouched.freeRing free.chunks different (linked other otherSmall))
  · exact untouched.roots
  · intro other q otherChunk outside
    rw [nextOf_setOwner, prevOf_setOwner]
    rw [ring] at outside
    exact untouched.links other q otherChunk outside
  · rw [mwfooter_setOwner, untouched.laid.mwfooter_eq chunk, footOf, stride, chunkOverhead,
      Int.mul_comm]
    omega
  · simp_all [chunk.data_apart]
  · intro memory value other q place otherChunk different lower upper
    have apart := chunk.data_apart otherChunk different
    have nonneg : 0 ≤ oneShl bin * (base : Int) :=
      Int.mul_nonneg (Int.le_trans (by decide) (oneShl_pos bin)) (Int.natCast_nonneg base)
    simp only [SharedMemory.write]
    grind

end Sound

end MidWay.Shm

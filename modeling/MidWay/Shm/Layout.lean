import MidWay.Shm.Heap
import MidWay.Lib.Ring

/-!
Contract: where the chunks of a formatted segment lie, and how a write to one
foot shows in the links.

Chunk `i` of bin `b` starts at `chunkAt b i`. Chunks do not overlap, so different
chunks have different feet; the links of the rings are read through the feet.

Owns: the geometry of a segment, `Laid`, and the links `nextOf` and `prevOf` with
one lemma for each write.
-/

namespace MidWay.Shm

open MidWay.Lib

variable {bin other : Nat} {p q : Int}

section Geometry

variable (base cps : Nat)

def stride (bin : Nat) : Int := base * oneShl bin + chunkOverhead

def binTop : Nat → Int
  | 0 => sizeofSegmenthdr
  | bin + 1 => binTop bin + chunkCount cps bin * stride base bin

def chunkAt (bin i : Nat) : Int := binTop base cps bin + i * stride base bin

/-- The chunks that `shmbFormat` makes; the last bin has none. -/
def IsChunk (bin : Nat) (p : Int) : Prop :=
  bin < bins - 1 ∧ ∃ i < chunkCount cps bin, p = chunkAt base cps bin i

/-- The foot of the chunk of this bin at this offset. -/
def footOf (bin : Nat) (p : Int) : Int := p + stride base bin - sizeofChunkfoot

theorem oneShl_pos (bin : Nat) : 1 ≤ oneShl bin := by
  induction bin with
  | zero => exact Int.le_refl 1
  | succ bin ih =>
      grind [oneShl]

theorem stride_ge (bin : Nat) : chunkOverhead ≤ stride base bin := by
  have nonneg : 0 ≤ (base : Int) * oneShl bin :=
    Int.mul_nonneg (Int.natCast_nonneg base) (by have := oneShl_pos bin; omega)
  rw [stride]
  omega

theorem binTop_mono {later : Nat} (before : bin ≤ later) :
    binTop base cps bin ≤ binTop base cps later := by
  induction before with
  | refl => exact Int.le_refl _
  | @step last _ ih =>
      have gap : 0 ≤ (chunkCount cps last : Int) * stride base last := by
        have := stride_ge base last
        simp only [chunkOverhead, sizeofChunkhead, sizeofChunkfoot] at this
        exact Int.mul_nonneg (Int.natCast_nonneg _) (by omega)
      rw [binTop]
      omega

variable {base cps}

theorem chunkAt_succ (bin i : Nat) :
    chunkAt base cps bin (i + 1) = chunkAt base cps bin i + stride base bin := by
  simp only [chunkAt, Int.natCast_succ, Int.add_mul, Int.one_mul]
  omega

theorem chunkAt_mono {i j : Nat} (before : i ≤ j) :
    chunkAt base cps bin i ≤ chunkAt base cps bin j := by
  induction before with
  | refl => exact Int.le_refl _
  | step _ ih =>
      have := stride_ge base bin
      grind [chunkOverhead, sizeofChunkhead, sizeofChunkfoot, chunkAt_succ]

theorem IsChunk.end_le {later : Nat} (chunk : IsChunk base cps bin p) (before : bin < later) :
    p + stride base bin ≤ binTop base cps later := by
  rcases chunk with ⟨-, i, inBin, rfl⟩
  rw [← chunkAt_succ]
  calc chunkAt base cps bin (i + 1)
      ≤ chunkAt base cps bin (chunkCount cps bin) := chunkAt_mono inBin
    _ = binTop base cps (bin + 1) := rfl
    _ ≤ binTop base cps later := binTop_mono base cps before

theorem IsChunk.binTop_le (chunk : IsChunk base cps bin p) :
    binTop base cps bin ≤ p := by
  rcases chunk with ⟨-, i, -, rfl⟩
  calc binTop base cps bin = chunkAt base cps bin 0 := by simp [chunkAt]
    _ ≤ chunkAt base cps bin i := chunkAt_mono (Nat.zero_le i)

theorem IsChunk.pos (chunk : IsChunk base cps bin p) :
    sizeofSegmenthdr ≤ p :=
  Int.le_trans (binTop_mono base cps (Nat.zero_le bin)) chunk.binTop_le

/-- Different chunks do not overlap. -/
theorem IsChunk.apart (chunk : IsChunk base cps bin p) (otherChunk : IsChunk base cps other q)
    (different : p ≠ q) :
    p + stride base bin ≤ q ∨ q + stride base other ≤ p := by
  rcases Nat.lt_trichotomy bin other with before | same | after
  · exact Or.inl (Int.le_trans (chunk.end_le before) otherChunk.binTop_le)
  · subst same
    rcases chunk with ⟨-, i, -, rfl⟩
    rcases otherChunk with ⟨-, j, -, rfl⟩
    rcases Nat.lt_trichotomy i j with before | same | after
    · left
      rw [← chunkAt_succ]
      exact chunkAt_mono before
    · exact absurd (by rw [same]) different
    · right
      rw [← chunkAt_succ]
      exact chunkAt_mono after
  · exact Or.inr (Int.le_trans (otherChunk.end_le after) chunk.binTop_le)

theorem IsChunk.bin_unique (chunk : IsChunk base cps bin p)
    (otherChunk : IsChunk base cps other p) : bin = other := by
  have binStride := stride_ge base bin
  have otherStride := stride_ge base other
  simp only [chunkOverhead, sizeofChunkhead, sizeofChunkfoot] at binStride otherStride
  rcases Nat.lt_trichotomy bin other with before | same | after
  · have := chunk.end_le before
    have := otherChunk.binTop_le
    omega
  · exact same
  · have := otherChunk.end_le after
    have := chunk.binTop_le
    omega

theorem IsChunk.footOf_ne (chunk : IsChunk base cps bin p) (otherChunk : IsChunk base cps other q)
    (different : p ≠ q) :
    footOf base bin p ≠ footOf base other q := by
  have binStride := stride_ge base bin
  have otherStride := stride_ge base other
  simp only [chunkOverhead, sizeofChunkhead, sizeofChunkfoot] at binStride otherStride
  simp only [footOf, sizeofChunkfoot]
  rcases chunk.apart otherChunk different with before | after
  · omega
  · omega

end Geometry

/-- A segment whose header and chunk sizes are those of its format. No operation
on the heap changes any of this. -/
structure Laid (base cps : Nat) (seg : Segment) : Prop where
  basechunksize : seg.basechunksize = base
  chunkspersize : seg.chunkspersize = cps
  fits : binTop base cps (bins - 1) ≤ seg.segmentsize
  size : ∀ bin p, IsChunk base cps bin p → (seg.head p).size = oneShl bin

/-- The link to the next chunk of the ring, in the foot of a chunk. -/
def Segment.nextOf (seg : Segment) (p : Int) : Int := (seg.foot (mwfooter seg p)).next

def Segment.prevOf (seg : Segment) (p : Int) : Int := (seg.foot (mwfooter seg p)).prev

section Links

variable {base cps : Nat} {seg : Segment} (laid : Laid base cps seg)
include laid

theorem Laid.mwfooter_eq (chunk : IsChunk base cps bin p) :
    mwfooter seg p = footOf base bin p := by
  rw [mwfooter, footOf, stride, laid.size bin p chunk, laid.basechunksize, chunkOverhead,
    Int.mul_comm]
  omega

theorem Laid.mwOffset2adr_eq (chunk : IsChunk base cps bin p) :
    mwOffset2adr seg p = some p := by
  have lower := chunk.pos
  have upper := chunk.end_le chunk.1
  have positive := stride_ge base bin
  have fits := laid.fits
  simp only [sizeofSegmenthdr, chunkOverhead, sizeofChunkhead, sizeofChunkfoot] at lower positive
  rw [mwOffset2adr, if_neg (by omega), if_neg (by omega)]

theorem Laid.mwfooter_ne (chunk : IsChunk base cps bin p) (otherChunk : IsChunk base cps other q)
    (different : q ≠ p) :
    mwfooter seg q ≠ mwfooter seg p := by
  rw [laid.mwfooter_eq chunk, laid.mwfooter_eq otherChunk]
  exact otherChunk.footOf_ne chunk different

theorem Laid.nextOf_setNext (chunk : IsChunk base cps bin p) (otherChunk : IsChunk base cps other q)
    (target : Int) :
    (seg.setNext (mwfooter seg p) target).nextOf q = if q = p then target else seg.nextOf q := by
  change (setAt seg.foot (mwfooter seg p) _ (mwfooter seg q)).next = _
  by_cases same : q = p
  · rw [if_pos same, same, setAt, if_pos rfl]
  · rw [if_neg same, setAt, if_neg (laid.mwfooter_ne chunk otherChunk same)]
    rfl

theorem Laid.prevOf_setPrev (chunk : IsChunk base cps bin p) (otherChunk : IsChunk base cps other q)
    (target : Int) :
    (seg.setPrev (mwfooter seg p) target).prevOf q = if q = p then target else seg.prevOf q := by
  change (setAt seg.foot (mwfooter seg p) _ (mwfooter seg q)).prev = _
  by_cases same : q = p
  · rw [if_pos same, same, setAt, if_pos rfl]
  · rw [if_neg same, setAt, if_neg (laid.mwfooter_ne chunk otherChunk same)]
    rfl

theorem Laid.setNext (footer target : Int) : Laid base cps (seg.setNext footer target) :=
  ⟨laid.basechunksize, laid.chunkspersize, laid.fits, laid.size⟩

theorem Laid.setPrev (footer target : Int) : Laid base cps (seg.setPrev footer target) :=
  ⟨laid.basechunksize, laid.chunkspersize, laid.fits, laid.size⟩

theorem Laid.setRoot (bin : Nat) (root count : Int) : Laid base cps (seg.setRoot bin root count) :=
  ⟨laid.basechunksize, laid.chunkspersize, laid.fits, laid.size⟩

theorem Laid.setOwner (p owner : Int) : Laid base cps (seg.setOwner p owner) := by
  refine ⟨laid.basechunksize, laid.chunkspersize, laid.fits, ?_⟩
  intro bin q chunk
  rw [← laid.size bin q chunk]
  simp only [Segment.setOwner, setAt]
  split_ifs with same
  · rw [same]
  · rfl

end Links

section Frame

variable (seg : Segment)

@[simp] theorem prevOf_setNext (footer target q : Int) :
    (seg.setNext footer target).prevOf q = seg.prevOf q := by
  change (setAt seg.foot footer _ (mwfooter seg q)).prev = (seg.foot (mwfooter seg q)).prev
  rw [setAt]
  split_ifs with same
  · rw [same]
  · rfl

@[simp] theorem nextOf_setPrev (footer target q : Int) :
    (seg.setPrev footer target).nextOf q = seg.nextOf q := by
  change (setAt seg.foot footer _ (mwfooter seg q)).next = (seg.foot (mwfooter seg q)).next
  rw [setAt]
  split_ifs with same
  · rw [same]
  · rfl

@[simp] theorem mwfooter_setNext (footer target p : Int) :
    mwfooter (seg.setNext footer target) p = mwfooter seg p := rfl

@[simp] theorem mwfooter_setPrev (footer target p : Int) :
    mwfooter (seg.setPrev footer target) p = mwfooter seg p := rfl

@[simp] theorem mwfooter_setRoot (bin : Nat) (root count p : Int) :
    mwfooter (seg.setRoot bin root count) p = mwfooter seg p := rfl

@[simp] theorem nextOf_setRoot (bin : Nat) (root count p : Int) :
    (seg.setRoot bin root count).nextOf p = seg.nextOf p := rfl

@[simp] theorem prevOf_setRoot (bin : Nat) (root count p : Int) :
    (seg.setRoot bin root count).prevOf p = seg.prevOf p := rfl

@[simp] theorem mwfooter_setOwner (p owner q : Int) :
    mwfooter (seg.setOwner p owner) q = mwfooter seg q := by
  have size : ((seg.setOwner p owner).head q).size = (seg.head q).size := by
    simp only [Segment.setOwner, setAt]
    split_ifs with same
    · rw [same]
    · rfl
  rw [mwfooter, size]
  rfl

@[simp] theorem nextOf_setOwner (p owner q : Int) :
    (seg.setOwner p owner).nextOf q = seg.nextOf q := by
  rw [Segment.nextOf, mwfooter_setOwner]
  rfl

@[simp] theorem prevOf_setOwner (p owner q : Int) :
    (seg.setOwner p owner).prevOf q = seg.prevOf q := by
  rw [Segment.prevOf, mwfooter_setOwner]
  rfl

end Frame

end MidWay.Shm

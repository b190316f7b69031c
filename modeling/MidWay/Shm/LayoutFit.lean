import MidWay.Shm.HeapRuns

/-!
Contract: when the layout of `shmb_format` fits the segment it asks for.

The size of the segment, the places of the chunks and the tops of the bins come
from three formulas. In the first one `CHUNKOVERHEAD` is not parenthesised, so a
segment has 144 bytes per chunk of a size less than its chunks take, and the fixed
slack of 100000 bytes makes up for it only up to a number of chunks.

Owns: `layout`, what it means that it fits, and the number of chunks up to which
it does.
-/

namespace MidWay.Shm

variable {bin i : Nat}

/-- What `shmb_format` writes, whether it fits its segment or not. -/
def layout (chunksize chunkspersize : Nat) : Segment :=
  (formatBins chunksize chunkspersize (bins - 1)).1.setRoot (bins - 1) 0 0

theorem shmbFormat_eq_layout {base cps : Nat} {seg : Segment}
    (formatted : shmbFormat base cps = some seg) : seg = layout base cps :=
  (shmbFormat_some formatted).2

/-- The header and the chunks lie apart inside the segment, and where the lookups expect
them. Every offset is an `int`. -/
structure LayoutFits (base cps : Nat) (seg : Segment) : Prop where
  heads : ∀ bin < bins - 1, ∀ i < chunkCount cps bin,
    seg.head (chunkAt base cps bin i) = ⟨unassigned, oneShl bin⟩
  feet : ∀ bin < bins - 1, ∀ i < chunkCount cps bin,
    mwfooter seg (chunkAt base cps bin i) + sizeofChunkfoot =
        chunkAt base cps bin i + stride base bin ∧
      (seg.foot (mwfooter seg (chunkAt base cps bin i))).above = chunkAt base cps bin i
  inside : ∀ bin < bins - 1, ∀ i < chunkCount cps bin,
    sizeofSegmenthdr ≤ chunkAt base cps bin i ∧
      chunkAt base cps bin i + stride base bin ≤ seg.segmentsize ∧
      chunkAt base cps bin i + stride base bin ≤ intMax
  apart : ∀ bin < bins - 1, ∀ i < chunkCount cps bin, ∀ other < bins - 1,
    ∀ j < chunkCount cps other, (bin, i) ≠ (other, j) →
      chunkAt base cps bin i + stride base bin ≤ chunkAt base cps other j ∨
        chunkAt base cps other j + stride base other ≤ chunkAt base cps bin i
  tops : ∀ bin < bins - 1, seg.chunk bin = chunkAt base cps bin 0 ∧
    mwGettopofbin seg bin = chunkAt base cps bin 0
  data : ∀ bin < bins - 1, ∀ i < chunkCount cps bin,
    seg.top ≤ chunkAt base cps bin i + sizeofChunkhead ∧
      chunkAt base cps bin i + sizeofChunkhead ≤ seg.bottom

section Written

variable {base cps : Nat} (someChunks : 0 < cps)
include someChunks

theorem layout_formatted : BinsFormatted base cps (bins - 1) (formatBins base cps (bins - 1)).1 :=
  (formatBins_formatted someChunks (bins - 1) (Nat.le_refl _)).1

theorem layout_header : (layout base cps).basechunksize = base ∧
    (layout base cps).chunkspersize = cps ∧ Bounds base cps (layout base cps) := by
  have made : BinsFormatted base cps (bins - 1) _ := layout_formatted someChunks
  rcases made.header with ⟨chunk, freecount, head, foot, header⟩
  rw [layout, header]
  exact ⟨rfl, rfl, rfl, rfl, rfl⟩

theorem layout_head (early : bin < bins - 1) (inBin : i < chunkCount cps bin) :
    (layout base cps).head (chunkAt base cps bin i) = ⟨unassigned, oneShl bin⟩ :=
  (layout_formatted someChunks).heads bin early i inBin

theorem layout_mwfooter (early : bin < bins - 1) (inBin : i < chunkCount cps bin) :
    mwfooter (layout base cps) (chunkAt base cps bin i) =
      footOf base bin (chunkAt base cps bin i) := by
  grind [layout_head, mwfooter, layout_header, footOf, stride, chunkOverhead, Int.mul_comm]

theorem layout_foot (early : bin < bins - 1) (inBin : i < chunkCount cps bin) :
    ((layout base cps).foot (footOf base bin (chunkAt base cps bin i))).above =
      chunkAt base cps bin i :=
  congrArg Chunkfoot.above ((layout_formatted someChunks).feet bin early i inBin)

theorem layout_chunk (early : bin < bins - 1) :
    (layout base cps).chunk bin = binTop base cps bin := by
  have notLast : bin ≠ bins - 1 := Nat.ne_of_lt early
  change setAt _ (bins - 1) 0 bin = _
  rw [setAt, if_neg notLast]
  exact ((layout_formatted someChunks).roots bin early).1

theorem layout_gettopofbin (bin : Nat) :
    mwGettopofbin (layout base cps) bin = binTop base cps bin :=
  gettopofbin_eq (layout_header someChunks).1 (layout_header someChunks).2.1 bin

end Written

theorem chunkAt_zero (base cps bin : Nat) : chunkAt base cps bin 0 = binTop base cps bin := by
  rw [chunkAt, Int.natCast_zero, Int.zero_mul, Int.add_zero]

theorem binTop_le_segmentsize (base cps : Nat) :
    binTop base cps (bins - 1) ≤ (emptySegment base cps).segmentsize ↔ cps ≤ 694 := by
  grind [binTop_last, emptySegment, sizeofSegmenthdr, sizeofChunkhead, sizeofChunkfoot]

theorem chunkAt_end (base cps : Nat) (inBin : i + 1 = chunkCount cps bin) :
    chunkAt base cps bin i + stride base bin = binTop base cps (bin + 1) := by
  rw [← chunkAt_succ, inBin]
  rfl

theorem LayoutFits.chunks_le {base cps : Nat} (someChunks : 0 < cps)
    (fits : LayoutFits base cps (layout base cps)) : cps ≤ 694 := by
  have last : cps - 1 + 1 = chunkCount cps (bins - 2) := by
    change cps - 1 + 1 = cps * 1
    omega
  have inside := (fits.inside (bins - 2) (by decide) (cps - 1) (by omega)).2.1
  rw [chunkAt_end base cps last, (layout_header someChunks).2.2.segmentsize] at inside
  exact (binTop_le_segmentsize base cps).mp inside

/-- Up to 694 chunks of a size there is room, also between the last data and the bottom. -/
theorem layout_fits {base cps : Nat} (someChunks : 0 < cps)
    (small : (emptySegment base cps).segmentsize ≤ intMax) (few : cps ≤ 694) :
    LayoutFits base cps (layout base cps) := by
  rcases @layout_header base cps someChunks with ⟨hasBase, hasCount, bounds⟩
  have fits := (binTop_le_segmentsize base cps).mpr few
  have laid : Laid base cps (layout base cps) := by
    refine ⟨hasBase, hasCount, ?_, ?_⟩
    · simp [bounds.segmentsize, fits]
    · rintro bin p ⟨early, i, inBin, rfl⟩
      rw [layout_head someChunks early inBin]
  have isChunk : ∀ bin < bins - 1, ∀ i < chunkCount cps bin,
      IsChunk base cps bin (chunkAt base cps bin i) :=
    fun bin early i inBin => ⟨early, i, inBin, rfl⟩
  have behind : ∀ bin < bins - 1, ∀ i < chunkCount cps bin,
      chunkAt base cps bin i + stride base bin ≤ (emptySegment base cps).segmentsize :=
    fun bin early i inBin => Int.le_trans ((isChunk bin early i inBin).end_le early) fits
  refine ⟨?_, ?_, ?_, ?_, ?_, ?_⟩
  · exact fun bin early i inBin => layout_head someChunks early inBin
  · grind [layout_mwfooter, layout_foot, footOf]
  · intro bin early i inBin
    have inside := behind bin early i inBin
    refine ⟨(isChunk bin early i inBin).pos, ?_, Int.le_trans inside small⟩
    rw [bounds.segmentsize]
    exact inside
  · intro bin early i inBin other otherEarly j inOther different
    apply (isChunk bin early i inBin).apart (isChunk other otherEarly j inOther)
    intro same
    have sameBin : bin = other := by
      have here := isChunk bin early i inBin
      rw [same] at here
      exact here.bin_unique (isChunk other otherEarly j inOther)
    grind [chunkAt_ne]
  · simp_all [layout_chunk, layout_gettopofbin, chunkAt_zero]
  · intro bin early i inBin
    have lower := (isChunk bin early i inBin).pos
    refine ⟨?_, data_le_bottom laid bounds (isChunk bin early i inBin)⟩
    rw [bounds.top]
    change sizeofSegmenthdr ≤ _
    simp only [sizeofChunkhead]
    omega

/-- The layout fits its segment exactly for at most 694 chunks of a size. -/
theorem layoutFits_iff {base cps : Nat} (someChunks : 0 < cps)
    (small : (emptySegment base cps).segmentsize ≤ intMax) :
    LayoutFits base cps (layout base cps) ↔ cps ≤ 694 :=
  ⟨fun fits => fits.chunks_le someChunks, fun few => layout_fits someChunks small few⟩

theorem layoutFits_iff_hundred : LayoutFits 1024 100 (layout 1024 100) ↔ 100 ≤ 694 :=
  layoutFits_iff (by decide) (by decide)

/-- With 695 chunks of a size the last chunk ends behind the segment. -/
theorem layout_too_many : (emptySegment 1024 695).segmentsize ≤ intMax ∧
    ¬ LayoutFits 1024 695 (layout 1024 695) :=
  ⟨by decide, fun fits => absurd (fits.chunks_le (by decide)) (by decide)⟩

end MidWay.Shm

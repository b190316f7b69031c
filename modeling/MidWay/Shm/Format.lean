import MidWay.Shm.FreeLists

/-!
Contract: the segment `shmb_format` lays out.

Each bin is formatted behind the one before it: its chunks lie one stride apart,
and their feet link them in that order, the last to the first. Formatting a bin
writes to its own heads and feet only.

Owns: every chunk of a formatted segment is free, in the ring of its bin.
-/

namespace MidWay.Shm

open MidWay.Lib

variable {seg : Segment} {i count j : Nat}

/-- All chunks of a bin, in the order of their offsets. -/
def chunkList (base cps bin : Nat) : List Int :=
  (List.range (chunkCount cps bin)).map (chunkAt base cps bin)

theorem mem_chunkList {base cps bin : Nat} {p : Int} :
    p ∈ chunkList base cps bin ↔ ∃ i < chunkCount cps bin, p = chunkAt base cps bin i := by
  grind [chunkList]

theorem chunkAt_lt {base cps bin : Nat} (before : i < j) :
    chunkAt base cps bin i < chunkAt base cps bin j := by
  have step : chunkAt base cps bin (i + 1) ≤ chunkAt base cps bin j := chunkAt_mono before
  have wide := stride_ge base bin
  grind [chunkOverhead, sizeofChunkhead, sizeofChunkfoot, chunkAt_succ]

theorem chunkAt_ne {base cps bin : Nat} (different : i ≠ j) :
    chunkAt base cps bin i ≠ chunkAt base cps bin j := by
  rcases Nat.lt_or_gt_of_ne different with before | after
  · exact Int.ne_of_lt (chunkAt_lt before)
  · exact (Int.ne_of_lt (chunkAt_lt after)).symm

theorem footOf_chunkAt_ne {base cps bin : Nat} (different : i ≠ j) :
    footOf base bin (chunkAt base cps bin i) ≠ footOf base bin (chunkAt base cps bin j) := by
  grind [footOf, chunkAt, chunkAt_ne]

section OneBin

variable {base cps bin : Nat}

/-- The foot as the loop leaves it, before the ring is closed. -/
def openFoot (base cps bin i : Nat) : Chunkfoot :=
  ⟨chunkAt base cps bin i, chunkAt base cps bin i + stride base bin,
    chunkAt base cps bin i - stride base bin⟩

/-- What formatting the first `count` chunks of a bin does: it writes their heads
and feet, and nothing else. -/
structure BinFormatted (base cps bin count : Nat) (feet : Nat → Chunkfoot)
    (seg seg' : Segment) : Prop where
  header : ∃ head foot, seg' = { seg with head := head, foot := foot }
  heads : ∀ i < count, seg'.head (chunkAt base cps bin i) = ⟨unassigned, oneShl bin⟩
  feet : ∀ i < count, seg'.foot (footOf base bin (chunkAt base cps bin i)) = feet i
  otherHeads : ∀ p, (∀ i < count, p ≠ chunkAt base cps bin i) → seg'.head p = seg.head p
  otherFeet : ∀ p, (∀ i < count, p ≠ footOf base bin (chunkAt base cps bin i)) →
    seg'.foot p = seg.foot p

theorem BinFormatted.mwfooter_eq {feet : Nat → Chunkfoot} {seg' : Segment}
    (formatted : BinFormatted base cps bin count feet seg seg') (hasBase : seg.basechunksize = base)
    (inBin : i < count) :
    mwfooter seg' (chunkAt base cps bin i) = footOf base bin (chunkAt base cps bin i) := by
  rcases formatted.header with ⟨head, foot, header⟩
  have stillBase : seg'.basechunksize = base := by
    simp [header, hasBase]
  have size : (seg'.head (chunkAt base cps bin i)).size = oneShl bin := by
    rw [formatted.heads i inBin]
  grind [mwfooter, footOf, stride, chunkOverhead, Int.mul_comm]

/-- One turn of the loop. -/
theorem formatChunk_eq (hasBase : seg.basechunksize = base) (i : Nat) :
    formatChunk seg (binTop base cps bin) (oneShl bin) i =
      { seg with
        head := setAt seg.head (chunkAt base cps bin i) ⟨unassigned, oneShl bin⟩
        foot := setAt seg.foot (footOf base bin (chunkAt base cps bin i))
          (openFoot base cps bin i) } := by
  have step : (base : Int) * oneShl bin + chunkOverhead = stride base bin := rfl
  have place : binTop base cps bin + (i : Int) * stride base bin = chunkAt base cps bin i := rfl
  have foot : chunkAt base cps bin i + sizeofChunkhead + oneShl bin * (base : Int) =
      footOf base bin (chunkAt base cps bin i) := by
    rw [footOf, stride, chunkOverhead, Int.mul_comm]
    omega
  simp only [formatChunk, mwfooter, hasBase, step, place, setAt, if_true, foot]
  rfl

theorem formatChunks_formatted (hasBase : seg.basechunksize = base) (count : Nat) :
    BinFormatted base cps bin count (openFoot base cps bin) seg
      (formatChunks seg (binTop base cps bin) (oneShl bin) count) := by
  induction count with
  | zero =>
      refine ⟨⟨seg.head, seg.foot, rfl⟩, ?_, ?_, fun _ _ => rfl, fun _ _ => rfl⟩
      · omega
      · omega
  | succ count ih =>
      rcases ih.header with ⟨head, foot, header⟩
      have stillBase : (formatChunks seg (binTop base cps bin) (oneShl bin) count).basechunksize =
          base := by
        rw [header]
        exact hasBase
      rw [formatChunks, formatChunk_eq stillBase]
      refine ⟨⟨_, _, by rw [header]⟩, ?_, ?_, ?_, ?_⟩
      · intro i inBin
        simp only [setAt]
        split_ifs with written
        · rfl
        · have earlier : i ≠ count := fun same => written (by rw [same])
          exact ih.heads i (by omega)
      · intro i inBin
        simp only [setAt]
        by_cases last : i = count
        · rw [last, if_pos rfl]
        · rw [if_neg (footOf_chunkAt_ne last)]
          exact ih.feet i (by omega)
      · intro p outside
        simp only [setAt]
        rw [if_neg (outside count (by omega))]
        exact ih.otherHeads p fun i inBin => outside i (by omega)
      · intro p outside
        simp only [setAt]
        rw [if_neg (outside count (by omega))]
        exact ih.otherFeet p fun i inBin => outside i (by omega)

/-- The foot in the closed ring of `count` chunks. -/
def closedFoot (base cps bin count i : Nat) : Chunkfoot :=
  ⟨chunkAt base cps bin i,
    if i + 1 = count then chunkAt base cps bin 0 else chunkAt base cps bin (i + 1),
    if i = 0 then chunkAt base cps bin (count - 1) else chunkAt base cps bin (i - 1)⟩

theorem chunkAt_pred (notFirst : i ≠ 0) :
    chunkAt base cps bin i - stride base bin = chunkAt base cps bin (i - 1) := by
  grind [chunkAt_succ, Nat.sub_add_cancel]

theorem foot_setPrev (seg : Segment) (footer target place : Int) :
    (seg.setPrev footer target).foot place =
      if place = footer then { seg.foot place with prev := target } else seg.foot place := by
  simp_all [Segment.setPrev, setAt]

theorem foot_setNext (seg : Segment) (footer target place : Int) :
    (seg.setNext footer target).foot place =
      if place = footer then { seg.foot place with next := target } else seg.foot place := by
  simp_all [Segment.setNext, setAt]

/-- Closing the ring writes one link of the first foot and one of the last. -/
theorem formatfreelist_eq (hasBase : seg.basechunksize = base) (nonempty : 0 < count) :
    formatfreelist seg (binTop base cps bin) (oneShl bin) count =
      (((formatChunks seg (binTop base cps bin) (oneShl bin) count).setPrev
          (footOf base bin (chunkAt base cps bin 0)) (chunkAt base cps bin (count - 1))).setNext
          (footOf base bin (chunkAt base cps bin (count - 1))) (binTop base cps bin),
        chunkAt base cps bin count) := by
  have formatted : BinFormatted base cps bin count (openFoot base cps bin) seg
      (formatChunks seg (binTop base cps bin) (oneShl bin) count) :=
    formatChunks_formatted hasBase count
  have first : chunkAt base cps bin 0 = binTop base cps bin := by simp [chunkAt]
  have step : seg.basechunksize * oneShl bin + chunkOverhead = stride base bin := by
    rw [hasBase, stride]
  have lastPlace : binTop base cps bin + ((count : Int) - 1) * stride base bin =
      chunkAt base cps bin (count - 1) := by
    rw [chunkAt, Int.natCast_sub nonempty]
    rfl
  have firstFoot := formatted.mwfooter_eq hasBase nonempty
  have lastFoot := formatted.mwfooter_eq hasBase (Nat.sub_one_lt_of_lt nonempty)
  rw [first] at firstFoot
  simp only [formatfreelist, step, lastPlace, firstFoot, mwfooter_setPrev]
  rw [first]
  generalize formatChunks seg (binTop base cps bin) (oneShl bin) count = made at lastFoot
  have written : ((made.setPrev (footOf base bin (binTop base cps bin))
      (chunkAt base cps bin (count - 1))).foot (footOf base bin (binTop base cps bin))).prev =
      chunkAt base cps bin (count - 1) := by
    simp [Segment.setPrev, setAt]
  rw [written, lastFoot]
  rfl

/-- The chunks of a bin, linked in a ring. -/
theorem formatfreelist_formatted (hasBase : seg.basechunksize = base) (nonempty : 0 < count) :
    BinFormatted base cps bin count (closedFoot base cps bin count) seg
      (formatfreelist seg (binTop base cps bin) (oneShl bin) count).1 := by
  have formatted : BinFormatted base cps bin count (openFoot base cps bin) seg
      (formatChunks seg (binTop base cps bin) (oneShl bin) count) :=
    formatChunks_formatted hasBase count
  have first : chunkAt base cps bin 0 = binTop base cps bin := by simp [chunkAt]
  rw [formatfreelist_eq hasBase nonempty]
  generalize formatChunks seg (binTop base cps bin) (oneShl bin) count = made at formatted
  refine ⟨?_, formatted.heads, ?_, formatted.otherHeads, ?_⟩
  · rcases formatted.header with ⟨head, foot, header⟩
    rw [header]
    exact ⟨_, _, rfl⟩
  · intro i inBin
    have isFirst : footOf base bin (chunkAt base cps bin i) =
        footOf base bin (chunkAt base cps bin 0) ↔ i = 0 :=
      ⟨fun same => by_contra fun different => footOf_chunkAt_ne different same,
        fun same => by rw [same]⟩
    have isLast : footOf base bin (chunkAt base cps bin i) =
        footOf base bin (chunkAt base cps bin (count - 1)) ↔ i + 1 = count :=
      ⟨fun same => by_contra fun different =>
          footOf_chunkAt_ne (show i ≠ count - 1 by omega) same,
        fun same => by rw [show i = count - 1 by omega]⟩
    rw [foot_setNext, foot_setPrev, formatted.feet i inBin, openFoot, closedFoot]
    simp only [isFirst, isLast]
    by_cases atFirst : i = 0
    · by_cases atLast : i + 1 = count
      · simp only [if_pos atFirst, if_pos atLast, first]
      · simp only [if_pos atFirst, if_neg atLast, chunkAt_succ]
    · by_cases atLast : i + 1 = count
      · simp only [if_neg atFirst, if_pos atLast, first, chunkAt_pred atFirst]
      · simp only [if_neg atFirst, if_neg atLast, chunkAt_succ, chunkAt_pred atFirst]
  · intro p outside
    simp only [Segment.setNext, Segment.setPrev, setAt]
    rw [if_neg (outside _ (Nat.sub_one_lt_of_lt nonempty)), if_neg (outside 0 nonempty)]
    exact formatted.otherFeet p outside

end OneBin

/-- The segment when the first `done` bins are formatted. -/
structure BinsFormatted (base cps done : Nat) (seg : Segment) : Prop where
  header : ∃ chunk freecount head foot, seg =
    { emptySegment base cps with
      chunk := chunk, freecount := freecount, head := head, foot := foot }
  roots : ∀ bin < done, seg.chunk bin = binTop base cps bin ∧
    seg.freecount bin = chunkCount cps bin
  heads : ∀ bin < done, ∀ i < chunkCount cps bin,
    seg.head (chunkAt base cps bin i) = ⟨unassigned, oneShl bin⟩
  feet : ∀ bin < done, ∀ i < chunkCount cps bin,
    seg.foot (footOf base bin (chunkAt base cps bin i)) =
      closedFoot base cps bin (chunkCount cps bin) i

theorem chunkCount_pos {cps : Nat} (someChunks : 0 < cps) (bin : Nat) : 0 < chunkCount cps bin := by
  grind [chunkCount]

/-- Formatting one more bin leaves the chunks of the bins before it alone. -/
theorem BinsFormatted.succ {base cps done : Nat} {seg seg' : Segment}
    (before : BinsFormatted base cps done seg) (small : done < bins - 1)
    (formatted : BinFormatted base cps done (chunkCount cps done)
      (closedFoot base cps done (chunkCount cps done))
      (seg.setRoot done (binTop base cps done) (chunkCount cps done)) seg') :
    BinsFormatted base cps (done + 1) seg' := by
  have isChunk : ∀ {bin i : Nat}, bin ≤ done → i < chunkCount cps bin →
      IsChunk base cps bin (chunkAt base cps bin i) := by
    intro bin i early inBin
    exact ⟨by omega, i, inBin, rfl⟩
  have otherChunk : ∀ bin < done, ∀ i < chunkCount cps bin, ∀ j < chunkCount cps done,
      chunkAt base cps bin i ≠ chunkAt base cps done j := by
    intro bin isDone i inBin j inDone same
    have here := isChunk (Nat.le_of_lt isDone) inBin
    rw [same] at here
    exact Nat.ne_of_lt isDone (here.bin_unique (isChunk (Nat.le_refl done) inDone))
  rcases formatted.header with ⟨newHead, newFoot, newHeader⟩
  refine ⟨?_, ?_, ?_, ?_⟩
  · rcases before.header with ⟨chunk, freecount, head, foot, header⟩
    rw [newHeader, header]
    exact ⟨_, _, _, _, rfl⟩
  · intro bin isDone
    rw [newHeader]
    simp only [Segment.setRoot, setAt]
    split_ifs with same
    · exact ⟨by rw [same], by rw [same]⟩
    · exact before.roots bin (by omega)
  · intro bin isDone i inBin
    by_cases same : bin = done
    · subst same
      exact formatted.heads i inBin
    · rw [formatted.otherHeads _ (otherChunk bin (by omega) i inBin)]
      exact before.heads bin (by omega) i inBin
  · intro bin isDone i inBin
    by_cases same : bin = done
    · subst same
      exact formatted.feet i inBin
    · have apart : ∀ j < chunkCount cps done,
          footOf base bin (chunkAt base cps bin i) ≠
            footOf base done (chunkAt base cps done j) := by
        intro j inDone
        exact (isChunk (by omega) inBin).footOf_ne (isChunk (Nat.le_refl done) inDone)
          (otherChunk bin (by omega) i inBin j inDone)
      rw [formatted.otherFeet _ apart]
      exact before.feet bin (by omega) i inBin

theorem formatBins_formatted {base cps : Nat} (someChunks : 0 < cps) (done : Nat)
    (small : done ≤ bins - 1) :
    BinsFormatted base cps done (formatBins base cps done).1 ∧
      (formatBins base cps done).2 = binTop base cps done := by
  induction done with
  | zero =>
      refine ⟨⟨⟨_, _, _, _, rfl⟩, ?_, ?_, ?_⟩, rfl⟩
      · omega
      · omega
      · omega
  | succ done ih =>
      rcases ih (by omega) with ⟨before, offset⟩
      have nonempty := chunkCount_pos someChunks done
      rcases before.header with ⟨chunk, freecount, head, foot, header⟩
      have hasBase : ((formatBins base cps done).1.setRoot done (binTop base cps done)
          (chunkCount cps done)).basechunksize = base := by
        rw [header]
        rfl
      have unfolded : formatBins base cps (done + 1) = formatfreelist
          ((formatBins base cps done).1.setRoot done (binTop base cps done) (chunkCount cps done))
          (binTop base cps done) (oneShl done) (chunkCount cps done) := by
        rw [← offset, formatBins]
      rw [unfolded]
      refine ⟨before.succ small (formatfreelist_formatted hasBase nonempty), ?_⟩
      rw [formatfreelist_eq hasBase nonempty]
      rfl

/-- The free chunks after formatting: all of them. -/
def allFree (base cps bin : Nat) : List Int :=
  if bin < bins - 1 then chunkList base cps bin else []

/-- The links of a closed ring. -/
theorem closedRing {base cps bin count : Nat} {seg : Segment}
    (links : ∀ i ≤ count, seg.nextOf (chunkAt base cps bin i) =
        (closedFoot base cps bin (count + 1) i).next ∧
      seg.prevOf (chunkAt base cps bin i) = (closedFoot base cps bin (count + 1) i).prev) :
    LinkedRing seg.nextOf seg.prevOf (chunkAt base cps bin 0)
      ((List.range' 1 count).map (chunkAt base cps bin)) := by
  constructor
  · apply Path.of_sequence (chunkAt base cps bin) 0 count
    · intro i _ inner
      refine ⟨?_, ?_⟩
      · rw [(links i (by omega)).1, closedFoot]
        simp only [if_neg (show ¬ i + 1 = count + 1 by omega)]
      · rw [(links (i + 1) (by omega)).2, closedFoot]
        simp only [if_neg (Nat.succ_ne_zero i), Nat.add_sub_cancel]
    · simp [links, closedFoot]
  · grind [List.Nodup.map, chunkAt_ne, List.nodup_range']

theorem chunkList_eq {base cps bin : Nat} (size : chunkCount cps bin = count + 1) :
    chunkList base cps bin =
      chunkAt base cps bin 0 :: (List.range' 1 count).map (chunkAt base cps bin) := by
  rw [chunkList, size, List.range_eq_range', List.range'_succ, List.map_cons]

theorem shmbFormat_some {base cps : Nat} (formatted : shmbFormat base cps = some seg) :
    (formatBins base cps (bins - 1)).2 ≤ (formatBins base cps (bins - 1)).1.segmentsize ∧
      seg = (formatBins base cps (bins - 1)).1.setRoot (bins - 1) 0 0 := by
  simp_all [shmbFormat]

/-- The header fields that `_mwfree0` reads. -/
structure Bounds (base cps : Nat) (seg : Segment) : Prop where
  segmentsize : seg.segmentsize = (emptySegment base cps).segmentsize
  top : seg.top = (emptySegment base cps).top
  bottom : seg.bottom = (emptySegment base cps).bottom

/-- After formatting every chunk is free, and lies in the ring of its own bin. -/
theorem shmbFormat_free {base cps : Nat} (someChunks : 0 < cps)
    (formatted : shmbFormat base cps = some seg) :
    (Laid base cps seg ∧ Bounds base cps seg) ∧
      (∀ bin < bins, FreeRing base cps seg bin (allFree base cps bin)) ∧
      ∀ bin p, IsChunk base cps bin p → (seg.head p).ownerid = unassigned := by
  have complete : BinsFormatted base cps (bins - 1) (formatBins base cps (bins - 1)).1 ∧ _ :=
    formatBins_formatted someChunks (bins - 1) (Nat.le_refl _)
  rcases complete with ⟨made, offset⟩
  rcases made.header with ⟨chunk, freecount, head, foot, header⟩
  rcases shmbFormat_some formatted with ⟨fits, rfl⟩
  rw [offset] at fits
  generalize (formatBins base cps (bins - 1)).1 = bare at *
  have heads : ∀ bin p, IsChunk base cps bin p → bare.head p = ⟨unassigned, oneShl bin⟩ := by
    rintro bin p ⟨early, i, inBin, rfl⟩
    exact made.heads bin early i inBin
  have laid : Laid base cps (bare.setRoot (bins - 1) 0 0) := by
    refine ⟨by rw [header]; rfl, by rw [header]; rfl, fits, ?_⟩
    intro bin p isChunk
    change (bare.head p).size = oneShl bin
    rw [heads bin p isChunk]
  refine ⟨⟨laid, by rw [header]; rfl, by rw [header]; rfl, by rw [header]; rfl⟩, ?_, ?_⟩
  · intro bin inBins
    rw [allFree]
    by_cases early : bin < bins - 1
    · rw [if_pos early]
      have notLast : bin ≠ bins - 1 := Nat.ne_of_lt early
      rcases Nat.exists_eq_add_one_of_ne_zero
        (Nat.ne_of_gt (chunkCount_pos someChunks bin)) with ⟨count, size⟩
      have links : ∀ i < chunkCount cps bin,
          (bare.setRoot (bins - 1) 0 0).foot (mwfooter (bare.setRoot (bins - 1) 0 0)
            (chunkAt base cps bin i)) = closedFoot base cps bin (chunkCount cps bin) i := by
        intro i inBin
        rw [laid.mwfooter_eq ⟨early, i, inBin, rfl⟩]
        exact made.feet bin early i inBin
      refine ⟨?_, ?_, ?_, ?_⟩
      · intro p member
        exact ⟨early, mem_chunkList.mp member⟩
      · simp only [Segment.setRoot, setAt, if_neg notLast, chunkList, List.length_map,
          List.length_range]
        exact (made.roots bin early).2
      · rw [chunkList_eq size]
        simp only [Segment.setRoot, setAt, if_neg notLast, List.headD_cons]
        rw [(made.roots bin early).1]
        simp [chunkAt]
      · intro root others shape
        rw [chunkList_eq size] at shape
        grind [Segment.nextOf, Segment.prevOf, closedRing]
    · rw [if_neg early]
      have isLast : bin = bins - 1 := by omega
      refine ⟨by simp, ?_, ?_, by simp⟩
      · simp [Segment.setRoot, setAt, isLast]
      · simp [Segment.setRoot, setAt, isLast]
  · intro bin p isChunk
    change (bare.head p).ownerid = unassigned
    rw [heads bin p isChunk]

end MidWay.Shm

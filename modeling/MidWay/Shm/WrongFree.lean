import MidWay.Shm.HeapAlloc

/-!
Contract: what `_mwfree` does with an address that need not be the start of a
buffer.

`_mwfree0` reads a chunk head in front of the address, takes the bin from the size
it finds there, and compares the address with the chunks of that bin. In front of
a wrong address stands whatever a process wrote to its buffer. An address inside
of a mapped file is not checked at all.

A call that passes the checks goes on to write; of these writes the first one, to
the owner, is modelled. The logarithm and the shift are the machine's.

Owns: the whole check of `_mwfree0`, and the addresses it takes for a buffer.
-/

namespace MidWay.Shm

open MidWay.CLib

/-- The `int` of a quotient of logarithms, and `1 << b`. Both are as expected for the bins of
the heap; what they are elsewhere, as for the logarithm of zero, is left to the machine. -/
structure Target where
  log2 : Int → Int
  shl : Nat → Int
  log2_oneShl : ∀ bin < bins - 1, log2 (oneShl bin) = bin
  shl_eq : ∀ bin < bins - 1, shl bin = oneShl bin

/-- A 64 bit `long`. -/
def toLong (value : Int) : Int := value.bmod 18446744073709551616

inductive FreeOutcome where
  | refused (rc : Int)
  | divisionByZero
  | accepted (bin : Int)
  | unmapped (segmentid : Int)
deriving DecidableEq, Repr

section

variable (target : Target) (seg : Segment)

/-- `_mw_gettopofbin`, in the arithmetic of `int`. -/
def gettopofbin : Nat → Int
  | 0 => sizeofSegmenthdr
  | b + 1 =>
      let s := toInt32 (target.shl b * seg.basechunksize)
      let l := toInt32 (seg.chunkspersize * (s + chunkOverhead))
      toInt32 (gettopofbin b + if b = 0 then toInt32 (l * 2) else l)

def headBefore (offset : Int) : Chunkhead := seg.head (offset - sizeofChunkhead)

def strideBefore (offset : Int) : Int :=
  toLong (seg.basechunksize * (headBefore seg offset).size + chunkOverhead)

def binBefore (offset : Int) : Int := target.log2 (headBefore seg offset).size

def countBefore (offset : Int) : Int :=
  if binBefore target seg offset ≠ 0 then seg.chunkspersize else seg.chunkspersize * 2

/-- `_mwfree0` up to its first write, at an offset into the heap. -/
def mwfree0Outcome (offset : Int) : FreeOutcome :=
  if offset < seg.top ∨ offset > seg.bottom then .refused (-22)
  else
    let rc := toInt32 ((headBefore seg offset).size * seg.basechunksize)
    if rc < 0 then .refused (-2)
    else
      let bin := binBefore target seg offset
      let off := offset - sizeofChunkhead - gettopofbin target seg bin.toNat
      let s := strideBefore seg offset
      if s = 0 then .divisionByZero
      else
        let l := off.tdiv s
        if l < 0 ∨ l > countBefore target seg offset then .refused (-1)
        else if off.tmod s ≠ 0 then .refused (-1)
        else if (headBefore seg offset).ownerid = unassigned then .refused (-1)
        else .accepted bin

/-- `_mwfree`, with the heap behind the first write. -/
def mwfreeOutcome (space : AddressSpace) (adr : Int) : FreeOutcome × Segment :=
  match space.findsegmentByaddr adr with
  | none => (.refused (-2), seg)
  | some si =>
      if si.segmentid = 0 then
        match mwfree0Outcome target seg (adr - si.start) with
        | .accepted bin =>
            (.accepted bin, seg.setOwner (adr - si.start - sizeofChunkhead) unassigned)
        | outcome => (outcome, seg)
      else (.unmapped si.segmentid, seg)

/-- In front of the offset stands what looks like the head of a chunk in use: the offset is as
far behind the top of the bin of its size as one of the chunks, or the one behind the last. -/
structure LooksInUse (offset : Int) : Prop where
  inside : seg.top ≤ offset ∧ offset ≤ seg.bottom
  size : 0 ≤ toInt32 ((headBefore seg offset).size * seg.basechunksize)
  aligned : strideBefore seg offset = 0 ∨
    (∃ k : Int, 0 ≤ k ∧ k ≤ countBefore target seg offset ∧
      offset - sizeofChunkhead =
        gettopofbin target seg (binBefore target seg offset).toNat +
          k * strideBefore seg offset) ∧
      (headBefore seg offset).ownerid ≠ unassigned

/-- The address is inside of a mapped file, or looks like a buffer of the heap. -/
def TakenForBuffer (space : AddressSpace) (adr : Int) : Prop :=
  ∃ si, space.findsegmentByaddr adr = some si ∧
    (si.segmentid ≠ 0 ∨ LooksInUse target seg (adr - si.start))

end

theorem tdiv_tmod_iff {off s n : Int} (nonzero : s ≠ 0) :
    (¬ (off.tdiv s < 0 ∨ off.tdiv s > n) ∧ off.tmod s = 0) ↔
      ∃ k : Int, 0 ≤ k ∧ k ≤ n ∧ off = k * s := by
  constructor
  · rintro ⟨inRange, divides⟩
    exact ⟨off.tdiv s, by omega, by omega, (Int.tdiv_mul_cancel_of_tmod_eq_zero divides).symm⟩
  · simp_all [Int.mul_tdiv_cancel]

section

variable {target : Target} {seg : Segment}

/-- The outcomes that are no refusal are those of an address that looks like a buffer. -/
theorem mwfree0Outcome_refused_iff (offset : Int) :
    (∃ rc < 0, mwfree0Outcome target seg offset = .refused rc) ↔
      ¬ LooksInUse target seg offset := by
  have refuses : ∀ rc : Int, rc < 0 → ¬ LooksInUse target seg offset →
      ((∃ code < 0, FreeOutcome.refused rc = .refused code) ↔ ¬ LooksInUse target seg offset) :=
    fun rc negative foreign => ⟨fun _ => foreign, fun _ => ⟨rc, negative, rfl⟩⟩
  rw [mwfree0Outcome]
  by_cases outside : offset < seg.top ∨ offset > seg.bottom
  · rw [if_pos outside]
    refine refuses (-22) (by decide) fun looks => ?_
    rcases looks.inside with ⟨lower, upper⟩
    omega
  rw [if_neg outside]
  by_cases negative : toInt32 ((headBefore seg offset).size * seg.basechunksize) < 0
  · simp only [if_pos negative]
    exact refuses (-2) (by decide) fun looks => absurd looks.size (Int.not_le.mpr negative)
  simp only [if_neg negative]
  by_cases isZero : strideBefore seg offset = 0
  · simp only [if_pos isZero]
    refine ⟨fun refused => ?_, fun foreign => ?_⟩
    · simp_all
    · exact absurd ⟨by omega, by omega, Or.inl isZero⟩ foreign
  simp only [if_neg isZero]
  have multiple := @tdiv_tmod_iff
    (offset - sizeofChunkhead - gettopofbin target seg (binBefore target seg offset).toNat)
    (strideBefore seg offset) (countBefore target seg offset) isZero
  have looksIff : LooksInUse target seg offset ↔
      (∃ k : Int, 0 ≤ k ∧ k ≤ countBefore target seg offset ∧
        offset - sizeofChunkhead -
          gettopofbin target seg (binBefore target seg offset).toNat =
            k * strideBefore seg offset) ∧
        (headBefore seg offset).ownerid ≠ unassigned := by
    constructor
    · intro looks
      rcases looks.aligned with zero | ⟨⟨k, lower, upper, place⟩, owned⟩
      · exact absurd zero isZero
      · exact ⟨⟨k, lower, upper, by omega⟩, owned⟩
    · rintro ⟨⟨k, lower, upper, place⟩, owned⟩
      exact ⟨by omega, by omega, Or.inr ⟨⟨k, lower, upper, by omega⟩, owned⟩⟩
  rw [← multiple] at looksIff
  split_ifs with outOfRange misaligned unowned
  · exact refuses (-1) (by decide) fun looks => (looksIff.mp looks).1.1 outOfRange
  · exact refuses (-1) (by decide) fun looks => misaligned (looksIff.mp looks).1.2
  · exact refuses (-1) (by decide) fun looks => (looksIff.mp looks).2 unowned
  · simp_all

/-- `_mwfree` refuses an address and leaves the heap alone, if and only if it does not take it
for a buffer. -/
theorem mwfreeOutcome_refused_iff (target : Target) (seg : Segment) (space : AddressSpace)
    (adr : Int) :
    (∃ rc < 0, mwfreeOutcome target seg space adr = (.refused rc, seg)) ↔
      ¬ TakenForBuffer target seg space adr := by
  rw [mwfreeOutcome, TakenForBuffer]
  cases found : space.findsegmentByaddr adr with
  | none =>
      simp
  | some si =>
      have taken : (∃ other, some si = some other ∧
          (other.segmentid ≠ 0 ∨ LooksInUse target seg (adr - other.start))) ↔
          (si.segmentid ≠ 0 ∨ LooksInUse target seg (adr - si.start)) := by
        constructor
        · simp
        · exact fun is => ⟨si, rfl, is⟩
      rw [taken]
      by_cases isHeap : si.segmentid = 0
      · have refused := @mwfree0Outcome_refused_iff target seg (adr - si.start)
        simp only [isHeap, ne_eq, not_true_eq_false, false_or, ← refused]
        cases mwfree0Outcome target seg (adr - si.start) with
        | refused rc => simp
        | divisionByZero => simp
        | accepted bin => simp
        | unmapped segmentid => simp
      · simp [isHeap]

end

section Chunks

variable (target : Target) {base cps : Nat} {seg : Segment}

theorem binTop_succ (base cps bin : Nat) : binTop base cps (bin + 1) =
    binTop base cps bin + chunkCount cps bin * stride base bin := rfl

/-- As long as the tops are `int`s, the arithmetic of `int` finds them. -/
theorem gettopofbin_small (hasBase : seg.basechunksize = base) (hasCount : seg.chunkspersize = cps)
    (someChunks : 0 < cps) {bin : Nat} (early : bin < bins) (small : binTop base cps bin ≤ intMax) :
    gettopofbin target seg bin = binTop base cps bin := by
  induction bin with
  | zero => rfl
  | succ bin ih =>
      have isBin : bin < bins - 1 := by
        omega
      have lower : sizeofSegmenthdr ≤ binTop base cps bin :=
        binTop_mono base cps (Nat.zero_le bin)
      have wide : chunkOverhead ≤ stride base bin := stride_ge base bin
      have one : (1 : Int) ≤ cps := Int.ofNat_le.mpr someChunks
      have whole : stride base bin ≤ cps * stride base bin := by
        have nonneg : 0 ≤ stride base bin := Int.le_trans (by decide) wide
        calc stride base bin = 1 * stride base bin := (Int.one_mul _).symm
          _ ≤ cps * stride base bin := Int.mul_le_mul_of_nonneg_right one nonneg
      have size : oneShl bin * (base : Int) + chunkOverhead = stride base bin := by
        rw [stride, Int.mul_comm]
      have nonneg : 0 ≤ oneShl bin * (base : Int) :=
        Int.mul_nonneg (Int.le_trans (by decide) (oneShl_pos bin)) (Int.natCast_nonneg base)
      have top := binTop_succ base cps bin
      have before : binTop base cps bin ≤ intMax :=
        Int.le_trans (binTop_mono base cps (Nat.le_succ bin)) small
      have count : (chunkCount cps bin : Int) * stride base bin =
          if bin = 0 then cps * stride base bin * 2 else cps * stride base bin := by
        rw [chunkCount]
        split_ifs
        · grind
        · rw [Nat.mul_one]
      rw [count] at top
      rw [gettopofbin, ih (Nat.lt_of_succ_lt early) before,
        target.shl_eq bin isBin, hasBase, hasCount]
      have total : binTop base cps bin + cps * stride base bin ≤ intMax := by
        omega
      simp only [sizeofSegmenthdr, chunkOverhead, sizeofChunkhead, sizeofChunkfoot,
        intMax] at lower wide size small before total ⊢
      have data : toInt32 (oneShl bin * (base : Int)) = oneShl bin * base :=
        toInt32_self (by omega) (by omega)
      have part : toInt32 (cps * stride base bin) = cps * stride base bin :=
        toInt32_self (by omega) (by omega)
      rw [data, size, part, top]
      split_ifs at top ⊢
      · grind [toInt32_self]
      · rw [toInt32_self (by omega) (by omega)]

end Chunks

/-- The heap when a process has written to the data of its buffer what reads as a chunk head. -/
def Segment.store (seg : Segment) (offset : Int) (head : Chunkhead) : Segment :=
  { seg with head := setAt seg.head offset head }

/-- The logarithm of zero and of a negative size becomes the smallest `int`, and shifts are
taken modulo 32. -/
def commonTarget : Target where
  log2 := fun size => if size ≤ 0 then -2147483648 else Nat.log2 size.toNat
  shl := fun bin => toInt32 (oneShl (bin % 32))
  log2_oneShl := by decide
  shl_eq := by decide

/-- Process 7 has the one buffer of 4096 bytes, at 4344, and writes its id and the size three at
offset 5352 of the heap. The address behind that is freed as a buffer of 3072 bytes. -/
theorem forged_head_accepted :
    ∃ seg held, shmbFormat 1024 1 = some seg ∧
      mwalloc (fun _ => true) 7 seg 4096 = .ok (.buffer 4344, held) ∧
      (4344 ≤ (5352 : Int) ∧ (5352 : Int) + sizeofChunkhead ≤ 4344 + 4096) ∧
      (∀ bin p, IsChunk 1024 1 bin p → p + sizeofChunkhead ≠ 5368) ∧
      (mwfreeOutcome commonTarget (held.store 5352 ⟨7, 3⟩) (heapOnly held.segmentsize)
        (4096 + 5368)).1 = .accepted 1 ∧
      ¬ ∃ rc < 0, mwfreeOutcome commonTarget (held.store 5352 ⟨7, 3⟩)
        (heapOnly held.segmentsize) (4096 + 5368) = (.refused rc, held.store 5352 ⟨7, 3⟩) := by
  have isSome : (shmbFormat 1024 1).isSome := by decide
  rcases Option.isSome_iff_exists.mp isSome with ⟨seg, formatted⟩
  rcases shmbFormat_free Nat.one_pos formatted with ⟨⟨laid, bounds⟩, linked, -⟩
  have found : ∃ taken, mwallocFrom (fun _ => true) 7 4 seg 2 =
        .ok (.buffer (4328 + sizeofChunkhead), taken.setOwner 4328 7) ∧
      FreeRing 1024 1 taken 2 [] ∧ Untouched 1024 1 seg taken 2 [4328] :=
    mwallocFrom_found 7 laid linked (by decide) rfl (show allFree 1024 1 2 = 4328 :: [] by decide)
      (by decide) (by decide) (fun other lower upper => by omega)
  rcases found with ⟨taken, result, -, untouched⟩
  have start : findBin 1024 4096 = 2 := by
    rfl
  have allocated : mwalloc (fun _ => true) 7 seg 4096 = .ok (.buffer 4344, taken.setOwner 4328 7) := by
    rw [mwalloc, if_neg (by decide), laid.basechunksize, Int.toNat_natCast, start]
    exact result
  have stillBounds := bounds.untouched untouched
  have hasSize : (taken.setOwner 4328 7).segmentsize = 133000 := stillBounds.segmentsize
  have mapped : (heapOnly (taken.setOwner 4328 7).segmentsize).findsegmentByaddr (4096 + 5368) =
      some ⟨0, 4096, (taken.setOwner 4328 7).segmentsize⟩ := by
    apply AddressSpace.findsegmentByaddr_inside (List.mem_singleton_self _)
    · simp
    · simp [Mapping.finish, hasSize]
  have hasTop : ((taken.setOwner 4328 7).store 5352 ⟨7, 3⟩).top = 112 := stillBounds.top
  have hasBottom : ((taken.setOwner 4328 7).store 5352 ⟨7, 3⟩).bottom = 132888 :=
    stillBounds.bottom
  have hasBase : ((taken.setOwner 4328 7).store 5352 ⟨7, 3⟩).basechunksize = (1024 : Nat) :=
    untouched.laid.basechunksize
  have hasCount : ((taken.setOwner 4328 7).store 5352 ⟨7, 3⟩).chunkspersize = (1 : Nat) :=
    untouched.laid.chunkspersize
  have read : headBefore ((taken.setOwner 4328 7).store 5352 ⟨7, 3⟩) 5368 = ⟨7, 3⟩ := by
    rfl
  have isBin : binBefore commonTarget ((taken.setOwner 4328 7).store 5352 ⟨7, 3⟩) 5368 = 1 := by
    rw [binBefore, read]
    decide
  have top : gettopofbin commonTarget ((taken.setOwner 4328 7).store 5352 ⟨7, 3⟩) 1 = 2240 :=
    gettopofbin_small commonTarget hasBase hasCount Nat.one_pos (by decide) (by decide)
  have accepted : mwfree0Outcome commonTarget ((taken.setOwner 4328 7).store 5352 ⟨7, 3⟩) 5368 =
      .accepted 1 := by
    rw [mwfree0Outcome, strideBefore, countBefore, isBin, read, hasTop, hasBottom, hasBase, hasCount]
    simp only [Int.toNat_one, top]
    decide
  have offset : (4096 + 5368 : Int) - 4096 = 5368 := by decide
  have outcome : (mwfreeOutcome commonTarget ((taken.setOwner 4328 7).store 5352 ⟨7, 3⟩)
      (heapOnly (taken.setOwner 4328 7).segmentsize) (4096 + 5368)).1 = .accepted 1 := by
    rw [mwfreeOutcome, mapped]
    simp only [offset, accepted, if_true]
  refine ⟨seg, _, formatted, allocated, by decide, ?_, outcome, ?_⟩
  · intro bin p chunk same
    -- The offset lies inside of the chunk at 4328, and that chunk starts elsewhere.
    have holder : IsChunk 1024 1 2 4328 := ⟨by decide, 0, by decide, by decide⟩
    have isPlace : p = 5352 := by
      grind [sizeofChunkhead]
    rw [isPlace] at chunk
    have wide : (stride 1024 2 : Int) = 4136 := by decide
    have positive := stride_ge 1024 bin
    simp only [chunkOverhead, sizeofChunkhead, sizeofChunkfoot] at positive
    rcases holder.apart chunk (by decide) with before | behind
    · omega
    · omega
  · grind

end MidWay.Shm

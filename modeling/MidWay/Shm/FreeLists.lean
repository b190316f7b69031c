import MidWay.Shm.Layout

/-!
Contract: `popchunk` and `pushchunk` on the ring of a bin.

`FreeRing seg bin ring` says that the free chunks of `bin` are `ring`, in the
order of their links, starting at the root. A pop takes the first chunk off the
list; a push puts a chunk in the second place. Both leave the rings of the other
bins alone.

Owns: the effect of both operations on the list of free chunks, and their frame.
-/

namespace MidWay.Shm

open MidWay.Lib

variable {root pInsert pPrev pNext q : Int} {others ring : List Int} {other : Nat}

structure FreeRing (base cps : Nat) (seg : Segment) (bin : Nat) (ring : List Int) : Prop where
  chunks : ∀ p ∈ ring, IsChunk base cps bin p
  count : seg.freecount bin = ring.length
  root : seg.chunk bin = ring.headD 0
  linked : ∀ root others, ring = root :: others →
    LinkedRing seg.nextOf seg.prevOf root others

/-- What an operation on one bin leaves as it was: the heads of all chunks, the
roots of the other bins, and the links of the chunks it does not name. -/
structure Untouched (base cps : Nat) (seg seg' : Segment) (bin : Nat) (ring : List Int) :
    Prop where
  laid : Laid base cps seg'
  head : seg'.head = seg.head
  bounds : seg'.segmentsize = seg.segmentsize ∧ seg'.top = seg.top ∧ seg'.bottom = seg.bottom
  roots : ∀ other ≠ bin, seg'.chunk other = seg.chunk other ∧
    seg'.freecount other = seg.freecount other
  links : ∀ other q, IsChunk base cps other q → q ∉ ring →
    seg'.nextOf q = seg.nextOf q ∧ seg'.prevOf q = seg.prevOf q

theorem FreeRing.congr {base cps bin : Nat} {seg seg' : Segment}
    (free : FreeRing base cps seg bin ring) (sameRoot : seg'.chunk bin = seg.chunk bin)
    (sameCount : seg'.freecount bin = seg.freecount bin)
    (sameLinks : ∀ p ∈ ring, seg'.nextOf p = seg.nextOf p ∧ seg'.prevOf p = seg.prevOf p) :
    FreeRing base cps seg' bin ring := by
  refine ⟨free.chunks, by rw [sameCount, free.count], by rw [sameRoot, free.root], ?_⟩
  intro root others shape
  apply (free.linked root others shape).congr
  · simp_all
  · simp_all

theorem Untouched.freeRing {base cps bin : Nat} {seg seg' : Segment} {otherRing : List Int}
    (untouched : Untouched base cps seg seg' bin ring) (inBin : ∀ p ∈ ring, IsChunk base cps bin p)
    (different : other ≠ bin) (free : FreeRing base cps seg other otherRing) :
    FreeRing base cps seg' other otherRing := by
  apply free.congr (untouched.roots other different).1 (untouched.roots other different).2
  intro p member
  have chunk := free.chunks p member
  apply untouched.links other p chunk
  intro inRing
  exact different (chunk.bin_unique (inBin p inRing))

/-- The segment when the neighbours of the root are linked to each other. -/
def joined (seg : Segment) (bin : Nat) (pPrev pNext count : Int) : Segment :=
  ((seg.setNext (mwfooter seg pPrev) pNext).setPrev (mwfooter seg pNext) pPrev).setRoot
    bin pNext count

/-- The segment when the links of the root are cleared as well. -/
def popped (seg : Segment) (bin : Nat) (root pPrev pNext count : Int) : Segment :=
  ((joined seg bin pPrev pNext count).setNext (mwfooter seg root) 0).setPrev
    (mwfooter seg root) 0

theorem popped_header (seg : Segment) (bin : Nat) (root pPrev pNext count : Int) :
    (popped seg bin root pPrev pNext count).head = seg.head ∧
      (popped seg bin root pPrev pNext count).segmentsize = seg.segmentsize ∧
      (popped seg bin root pPrev pNext count).top = seg.top ∧
      (popped seg bin root pPrev pNext count).bottom = seg.bottom := by
  simp [popped, joined, Segment.setRoot, Segment.setNext, Segment.setPrev]

section

variable {base cps bin : Nat} {seg : Segment} (laid : Laid base cps seg)

theorem popchunk_empty (free : FreeRing base cps seg bin []) :
    popchunk seg bin = .ok (none, seg) := by
  rw [popchunk, if_pos (by simpa using free.count)]

theorem FreeRing.root_ne_zero (free : FreeRing base cps seg bin (root :: others)) : root ≠ 0 := by
  have lower := (free.chunks root (by simp)).pos
  simp only [sizeofSegmenthdr] at lower
  omega

include laid

/-- The last free chunk of a bin. -/
theorem popchunk_last (free : FreeRing base cps seg bin [root]) :
    ∃ seg', popchunk seg bin = .ok (some root, seg') ∧ FreeRing base cps seg' bin [] ∧
      Untouched base cps seg seg' bin [root] := by
  have chunk := free.chunks root (by simp)
  have isRoot : seg.chunk bin = root := free.root
  have single : seg.freecount bin = 1 := by simpa using free.count
  refine ⟨((seg.setNext (mwfooter seg root) 0).setPrev (mwfooter seg root) 0).setRoot bin 0 0,
    ?_, ⟨by simp, ?_, ?_, by simp⟩, ⟨?_, rfl, ⟨rfl, rfl, rfl⟩, ?_, ?_⟩⟩
  · rw [popchunk, if_neg (by omega), isRoot, if_neg free.root_ne_zero,
      laid.mwOffset2adr_eq chunk]
    simp only [if_pos single]
    rw [show (seg.setNext (mwfooter seg root) 0 |>.setPrev (mwfooter seg root) 0).freecount bin - 1
      = 0 by change seg.freecount bin - 1 = 0; omega]
  · simp [Segment.setRoot, setAt]
  · simp [Segment.setRoot, setAt]
  · exact ((laid.setNext _ _).setPrev _ _).setRoot _ _ _
  · simp_all [Segment.setRoot, setAt, Segment.setNext, Segment.setPrev]
  · intro other q otherChunk notRoot
    have different : q ≠ root := by simpa using notRoot
    have nextSame := laid.nextOf_setNext chunk otherChunk 0
    have prevSame := (laid.setNext (mwfooter seg root) 0).prevOf_setPrev chunk otherChunk 0
    rw [if_neg different] at nextSame prevSame
    rw [nextOf_setRoot, prevOf_setRoot, nextOf_setPrev, nextSame]
    exact ⟨rfl, by rw [← prevOf_setNext seg (mwfooter seg root) 0 q]; exact prevSame⟩

theorem nextOf_popped (count : Int) (rootChunk : IsChunk base cps bin root)
    (prevChunk : IsChunk base cps bin pPrev) (chunk : IsChunk base cps other q) :
    (popped seg bin root pPrev pNext count).nextOf q =
      if q = root then 0 else if q = pPrev then pNext else seg.nextOf q := by
  have rootedLaid : Laid base cps (joined seg bin pPrev pNext count) :=
    ((laid.setNext _ _).setPrev _ _).setRoot _ _ _
  have cleared : (popped seg bin root pPrev pNext count).nextOf q =
      if q = root then 0 else (joined seg bin pPrev pNext count).nextOf q := by
    rw [popped, nextOf_setPrev]
    exact rootedLaid.nextOf_setNext rootChunk chunk 0
  rw [cleared, joined, nextOf_setRoot, nextOf_setPrev, laid.nextOf_setNext prevChunk chunk]

theorem prevOf_popped (count : Int) (rootChunk : IsChunk base cps bin root)
    (nextChunk : IsChunk base cps bin pNext) (chunk : IsChunk base cps other q) :
    (popped seg bin root pPrev pNext count).prevOf q =
      if q = root then 0 else if q = pNext then pPrev else seg.prevOf q := by
  have rootedLaid : Laid base cps (joined seg bin pPrev pNext count) :=
    ((laid.setNext _ _).setPrev _ _).setRoot _ _ _
  have cleared : (popped seg bin root pPrev pNext count).prevOf q =
      if q = root then 0 else (joined seg bin pPrev pNext count).prevOf q := by
    rw [← prevOf_setNext (joined seg bin pPrev pNext count) (mwfooter seg root) 0 q]
    exact (rootedLaid.setNext _ _).prevOf_setPrev rootChunk chunk 0
  have joinedPrev : (joined seg bin pPrev pNext count).prevOf q =
      if q = pNext then pPrev else seg.prevOf q := by
    rw [← prevOf_setNext seg (mwfooter seg pPrev) pNext q]
    exact (laid.setNext (mwfooter seg pPrev) pNext).prevOf_setPrev nextChunk chunk pPrev
  rw [cleared, joinedPrev]

/-- A root with other free chunks: the ring is closed behind it. -/
theorem popchunk_more {second : Int} (free : FreeRing base cps seg bin (root :: second :: others)) :
    ∃ seg', popchunk seg bin = .ok (some root, seg') ∧
      FreeRing base cps seg' bin (second :: others) ∧
      Untouched base cps seg seg' bin (root :: second :: others) := by
  have ring := free.linked root (second :: others) rfl
  have rootChunk := free.chunks root (by simp)
  have secondChunk := free.chunks second (by simp)
  have prevMember := (ring.inverse (List.mem_cons_self)).2.1
  have prevChunk := free.chunks _ prevMember
  have distinct := List.nodup_cons.mp ring.nodup
  have count : seg.freecount bin = others.length + 2 := free.count
  have isRoot : seg.chunk bin = root := free.root
  rcases ring.neighbours with ⟨nextRoot, prevRoot⟩
  have rootNotPrev : root ≠ seg.prevOf root := by
    grind
  have header := popped_header seg bin root (seg.prevOf root) second (seg.freecount bin - 1)
  refine ⟨popped seg bin root (seg.prevOf root) second (seg.freecount bin - 1), ?_,
    ⟨?_, ?_, ?_, ?_⟩, ⟨?_, header.1, header.2, ?_, ?_⟩⟩
  · have rootLink : ((seg.setNext (mwfooter seg (seg.prevOf root)) second).setPrev
        (mwfooter seg second) (seg.prevOf root)).nextOf root = second := by
      rw [nextOf_setPrev, laid.nextOf_setNext prevChunk rootChunk, if_neg rootNotPrev, nextRoot]
    have prevAdr : mwOffset2adr seg (seg.foot (mwfooter seg root)).prev =
        some (seg.prevOf root) := laid.mwOffset2adr_eq prevChunk
    have nextAdr : mwOffset2adr seg (seg.foot (mwfooter seg root)).next = some second := by
      change mwOffset2adr seg (seg.nextOf root) = some second
      rw [nextRoot]
      exact laid.mwOffset2adr_eq secondChunk
    rw [popchunk, if_neg (by omega), isRoot, if_neg free.root_ne_zero,
      laid.mwOffset2adr_eq rootChunk]
    simp only [if_neg (show ¬ seg.freecount bin = 1 by omega), prevAdr, nextAdr]
    change Except.ok (some root, ((((seg.setNext (mwfooter seg (seg.prevOf root)) second).setPrev
        (mwfooter seg second) (seg.prevOf root)).setRoot bin
        (((seg.setNext (mwfooter seg (seg.prevOf root)) second).setPrev
          (mwfooter seg second) (seg.prevOf root)).nextOf root) _).setNext _ 0).setPrev _ 0) = _
    rw [rootLink]
    rfl
  · simp_all [free.chunks]
  · simp only [popped, joined, Segment.setRoot, Segment.setNext, Segment.setPrev, setAt, if_true,
      List.length_cons]
    omega
  · simp [popped, joined, Segment.setRoot, Segment.setNext, Segment.setPrev, setAt]
  · intro newRoot newOthers shape
    cases shape
    have notRoot : ∀ p ∈ second :: others, p ≠ root := by
      grind
    apply ring.unlink
    · rw [nextOf_popped laid _ rootChunk prevChunk prevChunk, if_neg rootNotPrev.symm, if_pos rfl]
    · rw [prevOf_popped laid _ rootChunk secondChunk secondChunk,
        if_neg (notRoot second (by simp)), if_pos rfl]
    · intro p member notPrev
      have chunk := free.chunks p (List.mem_cons_of_mem root member)
      rw [nextOf_popped laid _ rootChunk prevChunk chunk, if_neg (notRoot p member),
        if_neg notPrev]
    · intro p member
      have inRing := List.mem_cons_of_mem second member
      have chunk := free.chunks p (List.mem_cons_of_mem root inRing)
      have notSecond : p ≠ second := by
        grind
      rw [prevOf_popped laid _ rootChunk secondChunk chunk, if_neg (notRoot p inRing),
        if_neg notSecond]
  · exact ((((laid.setNext _ _).setPrev _ _).setRoot _ _ _).setNext _ _).setPrev _ _
  · simp_all [popped, joined, Segment.setRoot, Segment.setNext, Segment.setPrev, setAt]
  · intro other q chunk outside
    have notRoot : q ≠ root := fun same => outside (by simp [same])
    have notSecond : q ≠ second := fun same => outside (by simp [same])
    have notPrev : q ≠ seg.prevOf root := fun same => outside (same ▸ prevMember)
    rw [nextOf_popped laid _ rootChunk prevChunk chunk, if_neg notRoot, if_neg notPrev,
      prevOf_popped laid _ rootChunk secondChunk chunk, if_neg notRoot, if_neg notSecond]
    exact ⟨rfl, rfl⟩

theorem popchunk_free (free : FreeRing base cps seg bin (root :: others)) :
    ∃ seg', popchunk seg bin = .ok (some root, seg') ∧ FreeRing base cps seg' bin others ∧
      Untouched base cps seg seg' bin (root :: others) := by
  cases others with
  | nil => exact popchunk_last laid free
  | cons second others => exact popchunk_more laid free

end

theorem repairAbove_links (seg : Segment) (pInsert q : Int) :
    (repairAbove seg pInsert).nextOf q = seg.nextOf q ∧
      (repairAbove seg pInsert).prevOf q = seg.prevOf q := by
  unfold repairAbove
  simp only
  split_ifs
  · change (setAt seg.foot _ _ (mwfooter seg q)).next = (seg.foot (mwfooter seg q)).next ∧
      (setAt seg.foot _ _ (mwfooter seg q)).prev = (seg.foot (mwfooter seg q)).prev
    grind [setAt]
  · exact ⟨rfl, rfl⟩

theorem repairAbove_eq (seg : Segment) (pInsert : Int) :
    ∃ foot, repairAbove seg pInsert = { seg with foot := foot } := by
  unfold repairAbove
  simp only
  split_ifs
  · exact ⟨_, rfl⟩
  · exact ⟨seg.foot, rfl⟩

/-- The segment when a chunk is linked in behind the root. -/
def inserted (seg : Segment) (bin : Nat) (pInsert pPrev pNext count : Int) : Segment :=
  ((((seg.setNext (mwfooter seg pInsert) pNext).setPrev (mwfooter seg pInsert) pPrev).setPrev
    (mwfooter seg pNext) pInsert).setNext (mwfooter seg pPrev) pInsert).setRoot bin pPrev count

theorem inserted_header (seg : Segment) (bin : Nat) (pInsert pPrev pNext count : Int) :
    (inserted seg bin pInsert pPrev pNext count).head = seg.head ∧
      (inserted seg bin pInsert pPrev pNext count).segmentsize = seg.segmentsize ∧
      (inserted seg bin pInsert pPrev pNext count).top = seg.top ∧
      (inserted seg bin pInsert pPrev pNext count).bottom = seg.bottom := by
  simp [inserted, Segment.setRoot, Segment.setNext, Segment.setPrev]

section

variable {base cps bin : Nat} {seg : Segment} (laid : Laid base cps seg)
include laid

theorem nextOf_inserted (count : Int) (insertChunk : IsChunk base cps bin pInsert)
    (prevChunk : IsChunk base cps bin pPrev) (chunk : IsChunk base cps other q) :
    (inserted seg bin pInsert pPrev pNext count).nextOf q =
      if q = pPrev then pInsert else if q = pInsert then pNext else seg.nextOf q := by
  have linkedLaid : Laid base cps (((seg.setNext (mwfooter seg pInsert) pNext).setPrev
      (mwfooter seg pInsert) pPrev).setPrev (mwfooter seg pNext) pInsert) :=
    ((laid.setNext _ _).setPrev _ _).setPrev _ _
  have outer := linkedLaid.nextOf_setNext prevChunk chunk pInsert
  rw [nextOf_setPrev, nextOf_setPrev, laid.nextOf_setNext insertChunk chunk] at outer
  exact outer

theorem prevOf_inserted (count : Int) (insertChunk : IsChunk base cps bin pInsert)
    (nextChunk : IsChunk base cps bin pNext) (chunk : IsChunk base cps other q) :
    (inserted seg bin pInsert pPrev pNext count).prevOf q =
      if q = pNext then pInsert else if q = pInsert then pPrev else seg.prevOf q := by
  have startLaid := laid.setNext (mwfooter seg pInsert) pNext
  have inner := startLaid.prevOf_setPrev insertChunk chunk pPrev
  have outer := (startLaid.setPrev (mwfooter seg pInsert) pPrev).prevOf_setPrev nextChunk chunk
    pInsert
  simp_all [prevOf_setNext, inserted, prevOf_setRoot, inner, outer]

/-- The first chunk of an empty ring is linked to itself. -/
theorem pushchunk_empty (chunk : IsChunk base cps bin pInsert)
    (free : FreeRing base cps seg bin []) :
    ∃ seg', pushchunk seg pInsert bin = .ok seg' ∧ FreeRing base cps seg' bin [pInsert] ∧
      Untouched base cps seg seg' bin [pInsert] := by
  rcases repairAbove_eq seg pInsert with ⟨foot, repaired⟩
  have links := repairAbove_links seg pInsert
  rw [repaired] at links
  have noRoot : seg.chunk bin = 0 := free.root
  have noCount : seg.freecount bin = 0 := by simpa using free.count
  have repairedLaid : Laid base cps { seg with foot := foot } :=
    ⟨laid.basechunksize, laid.chunkspersize, laid.fits, laid.size⟩
  have rootedLaid := repairedLaid.setRoot bin pInsert (seg.freecount bin + 1)
  have nextNow := fun {other : Nat} {q : Int} (otherChunk : IsChunk base cps other q) =>
    rootedLaid.nextOf_setNext chunk otherChunk pInsert
  have prevNow := fun {other : Nat} {q : Int} (otherChunk : IsChunk base cps other q) =>
    (rootedLaid.setNext (mwfooter seg pInsert) pInsert).prevOf_setPrev chunk otherChunk pInsert
  refine ⟨((Segment.setRoot { seg with foot := foot } bin pInsert
    (seg.freecount bin + 1)).setNext (mwfooter seg pInsert) pInsert).setPrev
      (mwfooter seg pInsert) pInsert, ?_, ⟨?_, ?_, ?_, ?_⟩, ⟨?_, rfl, ⟨rfl, rfl, rfl⟩, ?_, ?_⟩⟩
  · simp_all [pushchunk]
  · simp [chunk]
  · simp [Segment.setRoot, Segment.setNext, Segment.setPrev, setAt, noCount]
  · simp [Segment.setRoot, Segment.setNext, Segment.setPrev, setAt]
  · intro root others shape
    cases shape
    refine ⟨⟨?_, ?_⟩, by simp⟩
    · rw [nextOf_setPrev]
      exact (nextNow chunk).trans (if_pos rfl)
    · exact (prevNow chunk).trans (if_pos rfl)
  · exact (rootedLaid.setNext _ _).setPrev _ _
  · simp_all [Segment.setRoot, Segment.setNext, Segment.setPrev, setAt]
  · intro other q otherChunk outside
    have different : q ≠ pInsert := by simpa using outside
    constructor
    · rw [nextOf_setPrev, ← (links q).1]
      exact (nextNow otherChunk).trans (if_neg different)
    · rw [← (links q).2]
      refine (prevNow otherChunk).trans ((if_neg different).trans ?_)
      rw [prevOf_setNext, prevOf_setRoot]

/-- Linking a chunk in behind the root. -/
theorem inserted_free (chunk : IsChunk base cps bin pInsert)
    (free : FreeRing base cps seg bin (root :: others)) (fresh : pInsert ∉ root :: others) :
    FreeRing base cps (inserted seg bin pInsert root (seg.nextOf root) (seg.freecount bin + 1)) bin
      (root :: pInsert :: others) := by
  have ring := free.linked root others rfl
  have rootChunk := free.chunks root (by simp)
  have nextMember := (ring.inverse (List.mem_cons_self)).1.1
  have nextChunk := free.chunks _ nextMember
  have count : seg.freecount bin = others.length + 1 := free.count
  have insertNotRoot : pInsert ≠ root := fun same => fresh (by simp [same])
  have insertNotNext : pInsert ≠ seg.nextOf root := fun same => fresh (same ▸ nextMember)
  refine ⟨?_, ?_, ?_, ?_⟩
  · simp_all [free.chunks]
  · simp_all [inserted, Segment.setRoot, setAt, List.length_cons]
  · simp [inserted, Segment.setRoot, setAt]
  · intro newRoot newOthers shape
    cases shape
    apply ring.link fresh
    · rw [nextOf_inserted laid _ chunk rootChunk rootChunk, if_pos rfl]
    · rw [prevOf_inserted laid _ chunk nextChunk chunk, if_neg insertNotNext, if_pos rfl]
    · rw [nextOf_inserted laid _ chunk rootChunk chunk, if_neg insertNotRoot, if_pos rfl]
    · rw [prevOf_inserted laid _ chunk nextChunk nextChunk, if_pos rfl]
    · intro p member
      have inRing := List.mem_cons_of_mem root member
      have notRoot : p ≠ root := by
        intro same
        exact (List.nodup_cons.mp ring.nodup).1 (same ▸ member)
      have notInsert : p ≠ pInsert := fun same => fresh (same ▸ inRing)
      rw [nextOf_inserted laid _ chunk rootChunk (free.chunks p inRing), if_neg notRoot,
        if_neg notInsert]
    · intro p member notNext
      have notInsert : p ≠ pInsert := fun same => fresh (same ▸ member)
      rw [prevOf_inserted laid _ chunk nextChunk (free.chunks p member), if_neg notNext,
        if_neg notInsert]

theorem inserted_untouched (chunk : IsChunk base cps bin pInsert)
    (free : FreeRing base cps seg bin (root :: others)) :
    Untouched base cps seg
      (inserted seg bin pInsert root (seg.nextOf root) (seg.freecount bin + 1)) bin
      (pInsert :: root :: others) := by
  have ring := free.linked root others rfl
  have rootChunk := free.chunks root (by simp)
  have nextMember := (ring.inverse (List.mem_cons_self)).1.1
  have nextChunk := free.chunks _ nextMember
  have header := inserted_header seg bin pInsert root (seg.nextOf root) (seg.freecount bin + 1)
  refine ⟨?_, header.1, header.2, ?_, ?_⟩
  · exact ((((laid.setNext _ _).setPrev _ _).setPrev _ _).setNext _ _).setRoot _ _ _
  · simp_all [inserted, Segment.setRoot, Segment.setNext, Segment.setPrev, setAt]
  · intro other q otherChunk outside
    have notInsert : q ≠ pInsert := fun same => outside (by simp [same])
    have notRoot : q ≠ root := fun same => outside (by simp [same])
    have notNext : q ≠ seg.nextOf root := fun same =>
      outside (List.mem_cons_of_mem pInsert (same ▸ nextMember))
    rw [nextOf_inserted laid _ chunk rootChunk otherChunk, if_neg notRoot, if_neg notInsert,
      prevOf_inserted laid _ chunk nextChunk otherChunk, if_neg notNext, if_neg notInsert]
    exact ⟨rfl, rfl⟩

/-- Otherwise it goes between the root and its successor. -/
theorem pushchunk_behind (chunk : IsChunk base cps bin pInsert)
    (free : FreeRing base cps seg bin (root :: others)) (fresh : pInsert ∉ root :: others) :
    ∃ seg', pushchunk seg pInsert bin = .ok seg' ∧
      FreeRing base cps seg' bin (root :: pInsert :: others) ∧
      Untouched base cps seg seg' bin (pInsert :: root :: others) := by
  rcases repairAbove_eq seg pInsert with ⟨foot, repaired⟩
  have links := repairAbove_links seg pInsert
  rw [repaired] at links
  have repairedLaid : Laid base cps { seg with foot := foot } :=
    ⟨laid.basechunksize, laid.chunkspersize, laid.fits, laid.size⟩
  have repairedFree : FreeRing base cps { seg with foot := foot } bin (root :: others) :=
    free.congr rfl rfl fun p _ => links p
  have isRoot : seg.chunk bin = root := free.root
  have rootChunk := free.chunks root (by simp)
  have nextChunk := free.chunks _
    ((free.linked root others rfl).inverse (List.mem_cons_self)).1.1
  have untouched := inserted_untouched repairedLaid chunk repairedFree
  refine ⟨_, ?_, inserted_free repairedLaid chunk repairedFree fresh,
    ⟨untouched.laid, untouched.head, untouched.bounds, untouched.roots, ?_⟩⟩
  · have notNull : ¬ seg.chunk bin = 0 := by
      rw [isRoot]
      exact free.root_ne_zero
    have rootAdr : mwOffset2adr { seg with foot := foot } (seg.chunk bin) = some root := by
      rw [isRoot]
      exact repairedLaid.mwOffset2adr_eq rootChunk
    have nextAdr : mwOffset2adr { seg with foot := foot }
        (foot (mwfooter { seg with foot := foot } root)).next = some (seg.nextOf root) := by
      have stored : (foot (mwfooter { seg with foot := foot } root)).next = seg.nextOf root :=
        (links root).1
      rw [stored]
      exact repairedLaid.mwOffset2adr_eq nextChunk
    rw [pushchunk]
    simp only [repaired, if_neg notNull, rootAdr, nextAdr]
    rw [inserted, (links root).1, ← isRoot]
    rfl
  · intro other q otherChunk outside
    rw [← (links q).1, ← (links q).2]
    exact untouched.links other q otherChunk outside

def pushSecond (pInsert : Int) : List Int → List Int
  | [] => [pInsert]
  | root :: others => root :: pInsert :: others

omit laid in
theorem mem_pushSecond {pInsert p : Int} {ring : List Int} :
    p ∈ pushSecond pInsert ring ↔ p = pInsert ∨ p ∈ ring := by
  cases ring with
  | nil => simp [pushSecond]
  | cons root others => simp [pushSecond, or_left_comm]

theorem pushchunk_free (chunk : IsChunk base cps bin pInsert)
    (free : FreeRing base cps seg bin ring) (fresh : pInsert ∉ ring) :
    ∃ seg', pushchunk seg pInsert bin = .ok seg' ∧
      FreeRing base cps seg' bin (pushSecond pInsert ring) ∧
      Untouched base cps seg seg' bin (pInsert :: ring) := by
  cases ring with
  | nil => exact pushchunk_empty laid chunk free
  | cons root others => exact pushchunk_behind laid chunk free fresh

end

end MidWay.Shm

import Mathlib.Data.List.Nodup
import MidWay.Shm.Segments

/-!
Contract: what `_mw_detach_mmap` does to the other buffers of a process.

The entry goes, whichever it is, and so does the mapping. But the pointer it was given
stays where it was, and the last entry is there now; so the descriptor that is closed
is that of the last entry.

Owns: `SegmentTable`, `DetachesAlone`, and that only the last entry is detached alone.
-/

namespace MidWay.Shm

section MoveLast

variable {α : Type} {entries : List α} {entry last : α} {index : Nat}

/-- What is left is the list without the entry, in another order. -/
theorem perm_moveLast (isEntry : entries[index]? = some entry)
    (isLast : entries.getLast? = some last) :
    (entry :: (entries.set index last).take (entries.length - 1)).Perm entries := by
  rcases List.getLast?_eq_some_iff.mp isLast with ⟨front, rfl⟩
  have below := (List.getElem?_eq_some_iff.mp isEntry).1
  rw [List.length_append, List.length_singleton] at below
  rw [List.length_append, List.length_singleton, Nat.add_sub_cancel]
  rcases Nat.lt_or_eq_of_le (Nat.le_of_lt_succ below) with before | atEnd
  · rw [List.getElem?_append_left before] at isEntry
    have split : front.take index ++ entry :: front.drop (index + 1) = front := by
      grind [List.getElem_cons_drop, List.take_append_drop, Option.some.inj]
    have moved : ((front ++ [last]).set index last).take front.length =
        front.take index ++ last :: front.drop (index + 1) := by
      rw [List.set_append_left _ _ before, List.take_left' (List.length_set ..),
        List.set_eq_take_append_cons_drop, if_pos before]
    calc (entry :: ((front ++ [last]).set index last).take front.length).Perm
          (entry :: last :: (front.take index ++ front.drop (index + 1))) := by
            rw [moved]
            exact List.perm_middle.cons entry
      _ |>.Perm (last :: (front.take index ++ entry :: front.drop (index + 1))) :=
          (List.Perm.swap last entry _).trans (List.perm_middle.symm.cons last)
      _ |>.Perm (front ++ [last]) := by
          rw [split]
          exact (List.perm_append_singleton last front).symm
  · rw [atEnd, List.getElem?_concat_length] at isEntry
    cases isEntry
    rw [atEnd, List.set_append_right _ _ le_rfl, List.take_left]
    exact (List.perm_append_singleton entry front).symm

theorem take_set_last (last : α) (entries : List α) :
    (entries.set (entries.length - 1) last).take (entries.length - 1) = entries.dropLast := by
  rw [List.take_set_of_le le_rfl, List.dropLast_eq_take]

end MoveLast

/-- The entries of a process are of different buffers, each mapped with a descriptor of its own
that is open. The heap has the descriptor -1. -/
structure SegmentTable (process : Process) : Prop where
  ids : (process.segments.map Seginfo.segmentid).Nodup
  fds : (process.segments.map Seginfo.fd).Nodup
  opened : ∀ si ∈ process.segments, si.fd ∈ process.descriptors ∨ si.fd = -1
  assigned : ∀ fd ∈ process.descriptors, fd > -1
  ranges : ∀ si ∈ process.segments, si.start < si.finish
  mapped : ∀ si ∈ process.segments,
    (⟨si.segmentid, si.start, si.finish - si.start⟩ : Mapping) ∈ process.space.segments

/-- The mapping of the buffer, its entry and its descriptor are gone, and nothing else. -/
structure DetachesAlone (process : Process) (si : Seginfo) (after : Process) : Prop where
  unmapped : ∀ mapping, mapping ∈ after.space.segments ↔
    mapping ∈ process.space.segments ∧ mapping ≠ ⟨si.segmentid, si.start, si.finish - si.start⟩
  removed : (si :: after.segments).Perm process.segments
  closed : ∀ fd, fd ∈ after.descriptors ↔ fd ∈ process.descriptors ∧ fd ≠ si.fd
  byId : ∀ other ∈ process.segments, other ≠ si →
    after.findsegmentByid other.segmentid = some other
  byAddr : ∀ other ∈ process.segments, other ≠ si → ∀ ptr,
    process.segmentAt ptr = some other → after.segmentAt ptr = some other

section Table

variable {process : Process} {si : Seginfo} {index : Nat}

theorem SegmentTable.same_fd (table : SegmentTable process) {other : Seginfo}
    (isEntry : si ∈ process.segments) (isOther : other ∈ process.segments)
    (same : other.fd = si.fd) : other = si :=
  List.inj_on_of_nodup_map table.fds isOther isEntry same

theorem SegmentTable.same_id (table : SegmentTable process) {other : Seginfo}
    (isEntry : si ∈ process.segments) (isOther : other ∈ process.segments)
    (same : other.segmentid = si.segmentid) : other = si :=
  List.inj_on_of_nodup_map table.ids isOther isEntry same

theorem SegmentTable.same_index (table : SegmentTable process)
    (isEntry : process.segments[index]? = some si) {other : Nat}
    (isOther : process.segments[other]? = some si) : other = index := by
  have nodup := List.Nodup.of_map _ table.ids
  have below := (List.getElem?_eq_some_iff.mp isOther).1
  exact (List.getElem?_inj below nodup).mp (isOther.trans isEntry.symm)

/-- A search that finds an entry like the one wanted finds that one. -/
theorem SegmentTable.findIdx (table : SegmentTable process)
    (isEntry : process.segments[index]? = some si) (wanted : Seginfo → Bool)
    (isWanted : wanted si = true)
    (only : ∀ other ∈ process.segments, wanted other = true → other = si) :
    process.segments.findIdx? wanted = some index := by
  cases found : process.segments.findIdx? wanted with
  | none =>
      grind
  | some other =>
      rcases List.findIdx?_eq_some_iff_getElem.mp found with ⟨below, isOther, _⟩
      have same := only _ (List.getElem_mem below) isOther
      have isHere : process.segments[other]? = some si := by
        rw [List.getElem?_eq_getElem below, same]
      rw [table.same_index isEntry isHere]

theorem SegmentTable.deletedIndex (table : SegmentTable process)
    (isEntry : process.segments[index]? = some si) :
    deletedIndex process.segments si.segmentid si.fd = some index := by
  have member := List.mem_of_getElem? isEntry
  unfold MidWay.Shm.deletedIndex
  split_ifs
  · apply table.findIdx isEntry _ (beq_self_eq_true si.fd)
    intro other isOther same
    exact table.same_fd member isOther (eq_of_beq same)
  · apply table.findIdx isEntry _ (beq_self_eq_true si.segmentid)
    intro other isOther same
    exact table.same_id member isOther (eq_of_beq same)

/-- The descriptor that is closed is that of the last entry. -/
theorem SegmentTable.mwDetachMmap_eq (table : SegmentTable process)
    (isEntry : process.segments[index]? = some si) {last : Seginfo}
    (isLast : process.segments.getLast? = some last) :
    process.mwDetachMmap index =
      { space := process.space.unmap si.start si.finish
        segments := (process.segments.set index last).take (process.segments.length - 1)
        descriptors := process.descriptors.filter fun fd => some fd != some last.fd } := by
  have below := (List.getElem?_eq_some_iff.mp isEntry).1
  unfold Process.mwDetachMmap delsegment
  rw [isEntry]
  dsimp only
  rw [table.deletedIndex isEntry, isLast]
  dsimp only
  rw [List.getElem?_set_self below]
  rfl

/-- Exactly the mapping of the buffer goes. -/
theorem SegmentTable.unmap_mem (table : SegmentTable process) (isEntry : si ∈ process.segments)
    (mapping : Mapping) :
    mapping ∈ (process.space.unmap si.start si.finish).segments ↔
      mapping ∈ process.space.segments ∧
        mapping ≠ ⟨si.segmentid, si.start, si.finish - si.start⟩ := by
  have range := table.ranges si isEntry
  have itsMapping := table.mapped si isEntry
  unfold AddressSpace.unmap
  rw [List.mem_filter, Bool.not_eq_true', decide_eq_false_iff_not]
  apply and_congr_right
  intro member
  constructor
  · grind [Mapping.finish]
  · rintro different ⟨before, behind⟩
    have apart := process.space.apart mapping member _ itsMapping different
    grind [Mapping.Apart, Mapping.finish]

theorem SegmentTable.findsegmentByid (table : SegmentTable process)
    {after : Process} (removed : (si :: after.segments).Perm process.segments) {other : Seginfo}
    (isOther : other ∈ process.segments) (different : other ≠ si) :
    after.findsegmentByid other.segmentid = some other := by
  unfold Process.findsegmentByid
  cases found : after.segments.find? fun entry => entry.segmentid == other.segmentid with
  | none =>
      grind
  | some entry =>
      have member := removed.mem_iff.mp (List.mem_cons_of_mem _ (List.mem_of_find?_eq_some found))
      have same := List.find?_some found
      rw [table.same_id isOther member (eq_of_beq same)]

/-- Without the last entry, an address is found where it was. -/
theorem segmentAt_dropLast {after : Process} {ptr : Int} {other last : Seginfo}
    (isLast : process.segments.getLast? = some last)
    (segments : after.segments = process.segments.dropLast) (different : other ≠ last)
    (found : process.segmentAt ptr = some other) : after.segmentAt ptr = some other := by
  rcases List.getLast?_eq_some_iff.mp isLast with ⟨front, isFront⟩
  rcases Option.bind_eq_some_iff.mp found with ⟨place, isPlace, isEntry⟩
  rw [isFront, List.dropLast_concat] at segments
  unfold Process.findsegmentByaddr at isPlace
  rw [isFront] at isPlace isEntry
  have below : place < front.length := by
    grind
  rw [List.getElem?_append_left below] at isEntry
  rw [List.findIdx?_append] at isPlace
  unfold Process.segmentAt Process.findsegmentByaddr
  rw [segments]
  cases early : front.findIdx? fun si => decide (si.start ≤ ptr ∧ si.finish ≥ ptr) with
  | none =>
      grind
  | some earlier =>
      grind

/-- A buffer is detached alone exactly when its entry is the last one. -/
theorem mwDetachMmap_alone_iff (process : Process) (table : SegmentTable process) (index : Nat)
    (si : Seginfo) (isEntry : process.segments[index]? = some si) :
    DetachesAlone process si (process.mwDetachMmap index) ↔
      index + 1 = process.segments.length := by
  have member := List.mem_of_getElem? isEntry
  have below := (List.getElem?_eq_some_iff.mp isEntry).1
  cases isLast : process.segments.getLast? with
  | none =>
      simp_all
  | some last =>
      have lastEntry : process.segments[process.segments.length - 1]? = some last := by
        grind
      rw [table.mwDetachMmap_eq isEntry isLast]
      have closes : ∀ fd, fd ∈ process.descriptors.filter (fun fd => some fd != some last.fd) ↔
          fd ∈ process.descriptors ∧ fd ≠ last.fd := by
        intro fd
        rw [List.mem_filter, bne_iff_ne, Ne, Option.some_inj]
      constructor
      · intro alone
        have lastMember := List.mem_of_getElem? lastEntry
        have same : last.fd = si.fd := by
          by_contra different
          have lastStays : last.fd ∉ process.descriptors := by
            intro isOpen
            have kept := (alone.closed last.fd).mpr ⟨isOpen, different⟩
            exact ((closes last.fd).mp kept).2 rfl
          have lastNone := (table.opened last lastMember).resolve_left lastStays
          have siOpen : si.fd ∈ process.descriptors := by
            apply (table.opened si member).resolve_right
            intro siNone
            exact different (lastNone.trans siNone.symm)
          have kept := (closes si.fd).mpr ⟨siOpen, Ne.symm different⟩
          exact ((alone.closed si.fd).mp kept).2 rfl
        cases table.same_fd member lastMember same
        have isIndex := table.same_index isEntry lastEntry
        omega
      · intro atEnd
        have isIndex : process.segments.length - 1 = index := by omega
        rw [isIndex, isEntry] at lastEntry
        cases lastEntry
        have removed := perm_moveLast isEntry isLast
        refine ⟨table.unmap_mem member, removed, closes, ?_, ?_⟩
        · intro other isOther different
          exact table.findsegmentByid removed isOther different
        · grind [segmentAt_dropLast, take_set_last]

end Table

def twoBuffers : Process where
  space :=
    { segments := [⟨1000, 65536, 4096⟩, ⟨1001, 69632, 4096⟩]
      distinct := by decide
      apart := by
        intro one oneIn two twoIn different
        rcases List.mem_pair.mp oneIn with rfl | rfl
        · rcases List.mem_pair.mp twoIn with rfl | rfl
          · exact absurd rfl different
          · exact Or.inl (by decide)
        · rcases List.mem_pair.mp twoIn with rfl | rfl
          · exact Or.inr (by decide)
          · exact absurd rfl different }
  segments := [⟨1000, 5, 65536, 69632⟩, ⟨1001, 6, 69632, 73728⟩]
  descriptors := [6, 5]

theorem twoBuffers_table : SegmentTable twoBuffers := by
  refine ⟨by decide, by decide, by decide, by decide, by decide, by decide⟩

theorem mwDetachMmap_alone_iff_second :
    DetachesAlone twoBuffers ⟨1001, 6, 69632, 73728⟩ (twoBuffers.mwDetachMmap 1) ↔
      1 + 1 = twoBuffers.segments.length :=
  mwDetachMmap_alone_iff twoBuffers twoBuffers_table 1 _ rfl

/-- The first buffer is detached: its descriptor stays open, and that of the other one is closed. -/
theorem detached_first_closes_other :
    ∃ process index si, SegmentTable process ∧ process.segments[index]? = some si ∧
      si.fd ∈ (process.mwDetachMmap index).descriptors ∧
      (∃ other ∈ (process.mwDetachMmap index).segments,
        other.fd ∉ (process.mwDetachMmap index).descriptors) ∧
      ¬DetachesAlone process si (process.mwDetachMmap index) := by
  refine ⟨twoBuffers, 0, ⟨1000, 5, 65536, 69632⟩, twoBuffers_table, rfl, by decide, by decide, ?_⟩
  intro alone
  exact ((alone.closed 5).mp (by decide)).2 rfl

end MidWay.Shm

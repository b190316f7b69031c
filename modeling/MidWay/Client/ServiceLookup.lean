import Mathlib.Data.List.Rotate
import MidWay.Client.Calls

/-!
Contract: the two lookups of a service by its name, `_mw_get_services_byname` and
`_mw_get_best_service`, against each other.

Both go once round the service table, each from a random entry of its own. The first
one fills an array with the ids of all entries that fit, the second one is to choose one
of these. It prefers a local entry, but takes one of a peer only when it has another one
already, which it never has.

Owns: the array of the first lookup, that it is the list of the entries that fit, and
when the choice of the second one is from that list.
-/

namespace MidWay.Client

open MidWay.CLib
open MidWay.Gateway (IpcTables Serviceentry bestServiceFrom_eq index_of_serviceid mwConv
  mwServiceMask sameService unassigned wantedType)

variable {index : Nat} {entry : Serviceentry}

def idx2svcid (index : Nat) : UInt32 := UInt32.ofNat index ||| mwServiceMask

/-- The array that is returned, a null pointer when no entry fits, and what is stored at `N`. -/
structure Services where
  slist : Option (List UInt32)
  n : Nat
deriving DecidableEq, Repr

/-- The loop over the entries, with the array and `n` as they are. -/
def storeServices (svcname : List Byte) (flags : UInt32) :
    List UInt32 → Nat → List (Nat × Serviceentry) → List UInt32 × Nat
  | slist, n, [] => (slist, n)
  | slist, n, (index, entry) :: rest =>
      if listed svcname flags entry then
        storeServices svcname flags (slist.set n (idx2svcid index)) (n + 1) rest
      else storeServices svcname flags slist n rest

/-- The array has a place for every entry and one more, and `UNASSIGNED` in all at first. -/
def servicesByname (tables : IpcTables) (start : Nat) (svcname : List Byte) (flags : UInt32) :
    Services :=
  if tables.attached = false then ⟨none, 0⟩
  else
    let (slist, n) := storeServices svcname flags
      (List.replicate (tables.svctbl.length + 1) unassigned) 0 (tables.entriesFrom start)
    if n ≠ 0 then ⟨some slist, n⟩ else ⟨none, n⟩

def Services.ids (found : Services) : List UInt32 := (found.slist.getD []).take found.n

section

variable (tables : IpcTables) (svcname : List Byte) (flags : UInt32)

/-- The entry is in use for a service of the type and the name that are asked for, and is local
when only these are. -/
def Offers (index : Nat) (entry : Serviceentry) : Prop :=
  tables.attached = true ∧ tables.svctbl[index]? = some entry ∧ entry.type = wantedType flags ∧
    sameService entry.servicename svcname = true ∧
    (flags &&& mwIpcOnly ≠ 0 → entry.location = .gwlocal)

/-- The list has the ids of these entries, each once, and ends with `UNASSIGNED`. -/
structure Services.Exact (found : Services) : Prop where
  ids : ∀ id, id ∈ found.ids ↔ ∃ index entry, Offers tables svcname flags index entry ∧
    id = idx2svcid index
  once : found.ids.Nodup
  count : found.n = found.ids.length
  ends : ∀ slist, found.slist = some slist →
    found.ids ≠ [] ∧ ∃ behind, slist = found.ids ++ unassigned :: behind
  assigned : unassigned ∉ found.ids

def IsLocal (id : UInt32) : Prop :=
  ∃ index entry, tables.svctbl[index]? = some entry ∧ entry.location = .gwlocal ∧
    id = idx2svcid index

/-- The choice is one of the list, a local one if there is one, and `UNASSIGNED` when it is empty. -/
structure ChosenFrom (found : Services) (best : UInt32) : Prop where
  none : best = unassigned ↔ found.ids = []
  isLocal : (∃ id ∈ found.ids, IsLocal tables id) → best ∈ found.ids ∧ IsLocal tables best
  member : found.ids ≠ [] → best ∈ found.ids

end

def anywhere (flags : UInt32) : UInt32 := flags &&& ~~~mwIpcOnly

section List

variable {tables : IpcTables} {svcname : List Byte} {flags : UInt32} {start : Nat}

def fittingIds (svcname : List Byte) (flags : UInt32) (entries : List (Nat × Serviceentry)) :
    List UInt32 :=
  (entries.filter fun place => listed svcname flags place.2).map fun place => idx2svcid place.1

theorem fittingIds_cons (place : Nat × Serviceentry) (rest : List (Nat × Serviceentry)) :
    fittingIds svcname flags (place :: rest) =
      if listed svcname flags place.2 then idx2svcid place.1 :: fittingIds svcname flags rest
      else fittingIds svcname flags rest := by
  grind [fittingIds]

theorem length_fittingIds (entries : List (Nat × Serviceentry)) :
    (fittingIds svcname flags entries).length ≤ entries.length := by
  simp [List.length_map, fittingIds, List.length_filter_le]

/-- The loop puts the ids that fit behind those it has. -/
theorem storeServices_eq (entries : List (Nat × Serviceentry)) :
    ∀ (ids : List UInt32) (room : Nat), entries.length ≤ room →
      storeServices svcname flags (ids ++ List.replicate room unassigned) ids.length entries =
        (ids ++ fittingIds svcname flags entries ++
            List.replicate (room - (fittingIds svcname flags entries).length) unassigned,
          ids.length + (fittingIds svcname flags entries).length) := by
  induction entries with
  | nil =>
      simp [storeServices, fittingIds]
  | cons place rest ih =>
      intro ids room enough
      rw [storeServices, fittingIds_cons]
      by_cases fits : listed svcname flags place.2 = true
      · rw [if_pos fits, if_pos fits]
        cases room with
        | zero => exact absurd enough (Nat.not_succ_le_zero _)
        | succ room =>
            have stored : (ids ++ List.replicate (room + 1) unassigned).set ids.length
                (idx2svcid place.1) =
                  (ids ++ [idx2svcid place.1]) ++ List.replicate room unassigned := by
              rw [List.replicate_succ, List.set_append_right _ _ (Nat.le_refl _), Nat.sub_self,
                List.set_cons_zero, List.append_assoc]
              rfl
            have length : ids.length + 1 = (ids ++ [idx2svcid place.1]).length := by
              rw [List.length_append, List.length_singleton]
            rw [stored, length, ih _ room (Nat.le_of_succ_le_succ enough),
              List.length_cons, Nat.add_sub_add_right, List.append_assoc ids,
              List.singleton_append, ← length, Nat.add_assoc, Nat.add_comm 1]
      · grind

theorem entriesFrom_eq (tables : IpcTables) (start : Nat) :
    tables.entriesFrom start = ((List.range tables.svctbl.length).rotate start).filterMap
      fun index => (tables.svctbl[index]?).map fun entry => (index, entry) := by
  have rotated : (List.range tables.svctbl.length).rotate start =
      (List.range tables.svctbl.length).map fun i => (start + i) % tables.svctbl.length := by
    apply List.ext_getElem
    · simp
    · intro i _ _
      rw [List.getElem_rotate, List.getElem_map, List.getElem_range, List.getElem_range,
        List.length_range, Nat.add_comm]
  rw [rotated, List.filterMap_map]
  rfl

theorem mem_entriesFrom :
    (index, entry) ∈ tables.entriesFrom start ↔ tables.svctbl[index]? = some entry := by
  constructor
  · exact tables.mem_entriesFrom start
  · intro isEntry
    rw [entriesFrom_eq, List.mem_filterMap]
    have inside : index < tables.svctbl.length := (List.getElem?_eq_some_iff.mp isEntry).1
    exact ⟨index, List.mem_rotate.mpr (List.mem_range.mpr inside), by rw [isEntry]; rfl⟩

theorem nodup_entriesFrom (tables : IpcTables) (start : Nat) :
    (tables.entriesFrom start).Nodup := by
  rw [entriesFrom_eq]
  apply List.Nodup.filterMap _ (List.nodup_rotate.mpr List.nodup_range)
  intro index other place isPlace isOther
  obtain ⟨entry, -, rfl⟩ := Option.map_eq_some_iff.mp isPlace
  obtain ⟨entry', -, same⟩ := Option.map_eq_some_iff.mp isOther
  exact (congrArg Prod.fst same).symm

theorem index_lt (isEntry : tables.svctbl[index]? = some entry) : index < 16777216 := by
  have inside : index < tables.svctbl.length := (List.getElem?_eq_some_iff.mp isEntry).1
  have short := tables.short
  omega

theorem idx2svcid_inj {other : Nat} (short : index < 16777216) (otherShort : other < 16777216)
    (same : idx2svcid index = idx2svcid other) : index = other := by
  grind [idx2svcid, index_of_serviceid]

theorem listed_iff (attached : tables.attached = true) :
    (index, entry) ∈ (tables.entriesFrom start).filter (fun place => listed svcname flags place.2) ↔
      Offers tables svcname flags index entry := by
  rw [List.mem_filter, mem_entriesFrom, Offers, listed]
  grind

/-- The array has the list of the ids in front. -/
theorem servicesByname_eq (tables : IpcTables) (start : Nat) (svcname : List Byte) (flags : UInt32) :
    ∃ behind, servicesByname tables start svcname flags =
      let ids := mwGetServicesByname tables start svcname flags
      ⟨if ids = [] then none else some (ids ++ unassigned :: behind), ids.length⟩ := by
  unfold servicesByname mwGetServicesByname
  by_cases detached : tables.attached = false
  · simp_all
  · rw [if_neg detached, if_neg detached]
    have length : (tables.entriesFrom start).length ≤ tables.svctbl.length := by
      grind [entriesFrom_eq, List.length_rotate, List.length_range]
    have few := @length_fittingIds svcname flags (tables.entriesFrom start)
    have stored := @storeServices_eq svcname flags (tables.entriesFrom start) []
      (tables.svctbl.length + 1) (Nat.le_succ_of_le length)
    rw [List.nil_append, List.nil_append, List.length_nil, Nat.zero_add,
      Nat.succ_sub (few.trans length)] at stored
    rw [stored, List.replicate_succ]
    change ∃ behind, (if (fittingIds svcname flags (tables.entriesFrom start)).length ≠ 0 then _
      else _) = (⟨if fittingIds svcname flags (tables.entriesFrom start) = [] then none
        else some (fittingIds svcname flags (tables.entriesFrom start) ++ unassigned :: behind),
        (fittingIds svcname flags (tables.entriesFrom start)).length⟩ : Services)
    grind

theorem ids_servicesByname (tables : IpcTables) (start : Nat) (svcname : List Byte)
    (flags : UInt32) :
    (servicesByname tables start svcname flags).ids =
      mwGetServicesByname tables start svcname flags := by
  obtain ⟨behind, found⟩ := servicesByname_eq tables start svcname flags
  grind [Services.ids, Option.getD_some, List.take_left]

theorem mem_mwGetServicesByname {id : UInt32} :
    id ∈ mwGetServicesByname tables start svcname flags ↔
      ∃ index entry, Offers tables svcname flags index entry ∧ id = idx2svcid index := by
  unfold mwGetServicesByname
  by_cases detached : tables.attached = false
  · rw [if_pos detached]
    apply iff_of_false List.not_mem_nil
    intro ⟨index, entry, offers, _⟩
    exact Bool.false_ne_true (detached.symm.trans offers.1)
  · rw [if_neg detached, List.mem_map]
    have attached : tables.attached = true := Bool.not_eq_false _ ▸ detached
    constructor
    · intro ⟨place, member, same⟩
      exact ⟨place.1, place.2, (listed_iff attached).mp member, same.symm⟩
    · intro ⟨index, entry, offers, same⟩
      exact ⟨(index, entry), (listed_iff attached).mpr offers, same.symm⟩

theorem nodup_mwGetServicesByname : (mwGetServicesByname tables start svcname flags).Nodup := by
  unfold mwGetServicesByname
  split_ifs
  · exact List.nodup_nil
  · apply List.Nodup.map_on _ ((nodup_entriesFrom tables start).filter _)
    intro place member other isOther same
    have isPlace := mem_entriesFrom.mp (List.mem_of_mem_filter member)
    have isOtherPlace := mem_entriesFrom.mp (List.mem_of_mem_filter isOther)
    have sameIndex := idx2svcid_inj (index_lt isPlace) (index_lt isOtherPlace) same
    grind

theorem idx2svcid_ne_unassigned (isEntry : tables.svctbl[index]? = some entry) :
    idx2svcid index ≠ unassigned :=
  (index_of_serviceid (index_lt isEntry)).2.1

/-- The list is right for every table. -/
theorem servicesByname_exact (tables : IpcTables) (start : Nat) (svcname : List Byte)
    (flags : UInt32) :
    (servicesByname tables start svcname flags).Exact tables svcname flags := by
  have ids := ids_servicesByname tables start svcname flags
  obtain ⟨behind, found⟩ := servicesByname_eq tables start svcname flags
  constructor
  · simp [ids, mem_mwGetServicesByname]
  · simp [ids, nodup_mwGetServicesByname]
  · rw [ids, found]
  · grind
  · rw [ids]
    intro member
    obtain ⟨index, entry, offers, same⟩ := mem_mwGetServicesByname.mp member
    exact idx2svcid_ne_unassigned offers.2.1 same.symm

end List

section Best

variable {tables : IpcTables} {svcname : List Byte} {flags : UInt32} {start : Nat}

theorem wantedType_anywhere (flags : UInt32) : wantedType (anywhere flags) = wantedType flags := by
  have kept : ~~~mwIpcOnly &&& mwConv = mwConv := by decide
  unfold wantedType anywhere
  rw [UInt32.and_assoc, kept]

theorem offers_anywhere :
    Offers tables svcname (anywhere flags) index entry ↔
      tables.attached = true ∧ tables.svctbl[index]? = some entry ∧
        entry.type = wantedType flags ∧ sameService entry.servicename svcname = true := by
  have notOnly : anywhere flags &&& mwIpcOnly = 0 := by
    simp [anywhere, UInt32.and_assoc, UInt32.and_zero]
  rw [Offers, wantedType_anywhere, notOnly]
  simp

/-- A local entry is chosen if one is offered, and else none. -/
theorem mwGetBestService_cases (tables : IpcTables) (start : Nat) (svcname : List Byte)
    (flags : UInt32) :
    (∃ index entry, Offers tables svcname (anywhere flags) index entry ∧
        entry.location = .gwlocal ∧
        tables.mwGetBestService start svcname flags = idx2svcid index) ∨
      (∀ index entry, Offers tables svcname (anywhere flags) index entry →
        entry.location ≠ .gwlocal) ∧
        tables.mwGetBestService start svcname flags = unassigned := by
  unfold Gateway.IpcTables.mwGetBestService
  by_cases detached : tables.attached = false
  · rw [if_pos detached]
    refine Or.inr ⟨?_, rfl⟩
    intro index entry offers
    exact absurd (detached.symm.trans offers.1) Bool.false_ne_true
  · rw [if_neg detached, bestServiceFrom_eq]
    have attached : tables.attached = true := Bool.not_eq_false _ ▸ detached
    cases found : (tables.entriesFrom start).find? fun place => place.2.Serves svcname flags with
    | none =>
        refine Or.inr ⟨?_, by decide⟩
        intro index entry offers isLocal
        obtain ⟨-, isEntry, isType, isName⟩ := offers_anywhere.mp offers
        have notServed := List.find?_eq_none.mp found _ (mem_entriesFrom.mpr isEntry)
        exact notServed (decide_eq_true ⟨isType, isName, isLocal⟩)
    | some place =>
        have isEntry := mem_entriesFrom.mp (List.mem_of_find?_eq_some found)
        have serves := List.find?_some found
        obtain ⟨isType, isName, isLocal⟩ := of_decide_eq_true serves
        exact Or.inl ⟨place.1, place.2,
          offers_anywhere.mpr ⟨attached, isEntry, isType, isName⟩, isLocal, rfl⟩

/-- The list is right, and the choice is from it, exactly when some local entry is in the list or
none at all. -/
theorem serviceLookup_iff (tables : IpcTables) (svcname : List Byte) (flags : UInt32)
    (start another : Nat) :
    ((servicesByname tables start svcname flags).Exact tables svcname flags ∧
      ChosenFrom tables (servicesByname tables start svcname (anywhere flags))
        (tables.mwGetBestService another svcname flags)) ↔
      ((∃ index entry, Offers tables svcname (anywhere flags) index entry) →
        ∃ index entry, Offers tables svcname (anywhere flags) index entry ∧
          entry.location = .gwlocal) := by
  have ids := ids_servicesByname tables start svcname (anywhere flags)
  constructor
  · intro ⟨_, chosen⟩ ⟨index, entry, offers⟩
    have member : idx2svcid index ∈ (servicesByname tables start svcname (anywhere flags)).ids := by
      rw [ids]
      exact mem_mwGetServicesByname.mpr ⟨index, entry, offers, rfl⟩
    have notEmpty := List.ne_nil_of_mem member
    rcases mwGetBestService_cases tables another svcname flags with isLocal | ⟨_, none⟩
    · grind
    · exact absurd (chosen.none.mp none) notEmpty
  · intro condition
    refine ⟨servicesByname_exact tables start svcname flags, ?_⟩
    rcases mwGetBestService_cases tables another svcname flags with isLocal | ⟨noLocal, none⟩
    · obtain ⟨best, entry, offers, isLocal, isBest⟩ := isLocal
      have member : idx2svcid best ∈ (servicesByname tables start svcname (anywhere flags)).ids := by
        rw [ids]
        exact mem_mwGetServicesByname.mpr ⟨best, entry, offers, rfl⟩
      rw [isBest]
      exact ⟨iff_of_false (idx2svcid_ne_unassigned offers.2.1) (List.ne_nil_of_mem member),
        fun _ => ⟨member, best, entry, offers.2.1, isLocal, rfl⟩, fun _ => member⟩
    · have empty : (servicesByname tables start svcname (anywhere flags)).ids = [] := by
        rw [ids, List.eq_nil_iff_forall_not_mem]
        intro id member
        obtain ⟨index, entry, offers, -⟩ := mem_mwGetServicesByname.mp member
        obtain ⟨best, bestEntry, bestOffers, isLocal⟩ := condition ⟨index, entry, offers⟩
        exact noLocal best bestEntry bestOffers isLocal
      rw [none]
      constructor
      · exact iff_of_true rfl empty
      · simp [empty]
      · simp [empty]

def peerService : Serviceentry := ⟨.callsvc, .gwpeer, unassigned, 0x04000001, [115]⟩

theorem peerService_short : [peerService].length ≤ 16777216 := by decide

theorem noServer_short : ([] : List (Option Int)).length < 16777216 := by decide

def peerTables : IpcTables where
  attached := true
  svctbl := [peerService]
  srvtbl := []
  clttbl := []
  gwtbl := []
  mwdMqid := 1
  short := peerService_short
  servers := noServer_short

/-- The service is in the list, and is not found. -/
theorem serviceLookup_not_peer :
    (servicesByname peerTables 0 [115] 0).ids = [0x08000000] ∧
      ¬ChosenFrom peerTables (servicesByname peerTables 0 [115] 0)
        (peerTables.mwGetBestService 0 [115] 0) := by
  have ids : (servicesByname peerTables 0 [115] 0).ids = [0x08000000] := by decide
  refine ⟨ids, ?_⟩
  intro chosen
  have isNone : peerTables.mwGetBestService 0 [115] 0 = unassigned := by decide
  have empty := chosen.none.mp isNone
  rw [ids] at empty
  cases empty

end Best

end MidWay.Client

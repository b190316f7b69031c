import Mathlib.Data.List.Basic
import MidWay.Mwd.Tables

/-!
Contract: what the ids of the tables name, and what a search for a free entry
finds.

Owns: the arithmetic of ids, the search lemmas, and the effects of `addservice`,
`delservice` and `delallservices` on the service table.
-/

namespace MidWay.Mwd

open MidWay.CLib

variable {free : Int → Bool} {svcid type : Int}

def IsMask (mask : Int) : Prop :=
  mask = mwServerMask ∨ mask = mwClientMask ∨ mask = mwGatewayMask ∨ mask = mwServiceMask

theorem isMask_server : IsMask mwServerMask := Or.inl rfl
theorem isMask_client : IsMask mwClientMask := Or.inr (Or.inl rfl)
theorem isMask_gateway : IsMask mwGatewayMask := Or.inr (Or.inr (Or.inl rfl))
theorem isMask_service : IsMask mwServiceMask := Or.inr (Or.inr (Or.inr rfl))

section Ids

variable {mask idx : Int} (isMask : IsMask mask) (lower : 0 ≤ idx) (upper : idx < 16777216)
include isMask lower upper

theorem hasMask_index : hasMask mask idx = false := by
  rcases isMask with rfl | rfl | rfl | rfl <;>
    simp only [hasMask, mwServerMask, mwClientMask, mwGatewayMask, mwServiceMask,
      beq_eq_false_iff_ne] <;> omega

theorem hasMask_add : hasMask mask (idx + mask) = true := by
  rcases isMask with rfl | rfl | rfl | rfl <;>
    simp only [hasMask, mwServerMask, mwClientMask, mwGatewayMask, mwServiceMask, beq_iff_eq] <;>
    omega

theorem indexOf_add : indexOf (idx + mask) = idx := by
  rcases isMask with rfl | rfl | rfl | rfl <;>
    simp only [indexOf, mwServerMask, mwClientMask, mwGatewayMask, mwServiceMask] <;> omega

theorem add_mask_ne_unassigned : idx + mask ≠ unassigned := by
  rcases isMask with rfl | rfl | rfl | rfl <;>
    simp only [unassigned, mwServerMask, mwClientMask, mwGatewayMask, mwServiceMask] <;> omega

theorem orMask_index : orMask mask idx = idx + mask := by
  rw [orMask, hasMask_index isMask lower upper, if_neg (by decide)]

theorem idx2id_index : idx2id mask idx = idx + mask := by
  grind [idx2id, orMask_index, indexOf, Int.emod_eq_of_lt]

theorem id2idx_add : id2idx mask (idx + mask) = idx := by
  rw [id2idx, if_pos (add_mask_ne_unassigned isMask lower upper),
    hasMask_add isMask lower upper, if_pos rfl, indexOf_add isMask lower upper]

theorem filterId_add : filterId mask (idx + mask) = idx + mask := by
  rw [filterId, hasMask_add isMask lower upper, if_pos rfl]

end Ids

theorem indexOf_nonneg (id : Int) : 0 ≤ indexOf id := Int.emod_nonneg id (by decide)

theorem indexOf_lt (id : Int) : indexOf id < 16777216 := Int.emod_lt_of_pos id (by decide)

theorem firstFree_some {start found : Int} {count : Nat}
    (isFound : firstFree free start count = some found) :
    free found = true ∧ start ≤ found ∧ found < start + count := by
  induction count generalizing start with
  | zero => cases isFound
  | succ count ih =>
      grind [firstFree]

theorem firstFree_none {start : Int} {count : Nat} (isNone : firstFree free start count = none)
    {idx : Int} (lower : start ≤ idx) (upper : idx < start + count) : free idx = false := by
  induction count generalizing start with
  | zero => omega
  | succ count ih =>
      rw [firstFree] at isNone
      grind

theorem searchFrom_some {length : Nat} {nextidx : Fin (length + 1)} {found : Int}
    (isFound : searchFrom free nextidx length = some found) :
    free found = true ∧ 0 ≤ found ∧ found < length := by
  have within := nextidx.isLt
  rw [searchFrom] at isFound
  cases behind : firstFree free nextidx (length - nextidx) with
  | some other =>
      rw [behind] at isFound
      cases isFound
      rcases firstFree_some behind with ⟨isFree, lower, upper⟩
      exact ⟨isFree, by omega, by omega⟩
  | none =>
      rw [behind, Option.none_or] at isFound
      rcases firstFree_some isFound with ⟨isFree, lower, upper⟩
      exact ⟨isFree, lower, by omega⟩

theorem searchFrom_none {length : Nat} {nextidx : Fin (length + 1)}
    (isNone : searchFrom free nextidx length = none) {idx : Int} (lower : 0 ≤ idx)
    (upper : idx < length) : free idx = false := by
  have within := nextidx.isLt
  rw [searchFrom, Option.or_eq_none_iff] at isNone
  by_cases behind : (nextidx : Nat) ≤ idx
  · exact firstFree_none isNone.1 behind (by omega)
  · exact firstFree_none isNone.2 lower (by omega)

def Serviceentry.cleared (entry : Serviceentry) : Serviceentry :=
  { entry with type := unassigned, server := unassigned, gateway := unassigned, servicename := [] }

/-- The tables of the members and the lengths stay. -/
structure SameMembers (before after : Tables) : Prop where
  clttblLength : after.clttblLength = before.clttblLength
  srvtblLength : after.srvtblLength = before.srvtblLength
  svctblLength : after.svctblLength = before.svctblLength
  gwtblLength : after.gwtblLength = before.gwtblLength
  clttbl : after.clttbl = before.clttbl
  srvtbl : after.srvtbl = before.srvtbl
  gwtbl : after.gwtbl = before.gwtbl

theorem SameMembers.refl (tables : Tables) : SameMembers tables tables :=
  ⟨rfl, rfl, rfl, rfl, rfl, rfl, rfl⟩

theorem SameMembers.trans {first second third : Tables} (before : SameMembers first second)
    (after : SameMembers second third) : SameMembers first third :=
  ⟨after.clttblLength.trans before.clttblLength, after.srvtblLength.trans before.srvtblLength,
    after.svctblLength.trans before.svctblLength, after.gwtblLength.trans before.gwtblLength,
    after.clttbl.trans before.clttbl, after.srvtbl.trans before.srvtbl,
    after.gwtbl.trans before.gwtbl⟩

theorem delservice_sameMembers (tables : Tables) (svcid : Int) :
    SameMembers tables (tables.delservice svcid).2 := by
  rw [Tables.delservice]
  split_ifs
  · exact SameMembers.refl tables
  · exact ⟨rfl, rfl, rfl, rfl, rfl, rfl, rfl⟩

def unprovideEvent (idx : Int) (entry : Serviceentry) : ServiceEvent :=
  ⟨.unprovide, idx, copySvcname entry.servicename, entry.provider⟩

theorem svcid_ne_unassigned (isService : svcidOf svcid ≠ unassigned) :
    hasMask mwServiceMask svcid = true ∧ svcid ≠ unassigned := by
  simp_all [svcidOf, filterId]

theorem svcid2idx_of_ne (isService : svcidOf svcid ≠ unassigned) :
    svcid2idx svcid = indexOf svcid := by
  simp [svcid2idx, id2idx, svcid_ne_unassigned, isService]

theorem delservice_deleted (isService : svcidOf svcid ≠ unassigned) (tables : Tables) :
    (tables.delservice svcid).2.svctbl = Function.update tables.svctbl (indexOf svcid)
        (tables.svctbl (indexOf svcid)).cleared ∧
      (tables.delservice svcid).2.events =
        tables.events ++ [unprovideEvent (indexOf svcid) (tables.svctbl (indexOf svcid))] := by
  rw [Tables.delservice, if_neg isService, svcid2idx_of_ne isService]
  exact ⟨rfl, rfl⟩

theorem delservice_idx (tables : Tables) {idx : Nat} (inside : idx < tables.svctblLength) :
    (tables.delservice (idx2svcid idx)).2.svctbl =
        Function.update tables.svctbl idx (tables.svctbl idx).cleared ∧
      (tables.delservice (idx2svcid idx)).2.events =
        tables.events ++ [unprovideEvent idx (tables.svctbl idx)] := by
  have fits := tables.svctblFits
  have lower : (0 : Int) ≤ idx := Int.natCast_nonneg idx
  have upper : (idx : Int) < 16777216 := by omega
  have id : idx2svcid idx = idx + mwServiceMask := idx2id_index isMask_service lower upper
  have index : indexOf (idx2svcid idx) = idx := by
    rw [id]
    exact indexOf_add isMask_service lower upper
  have isService : svcidOf (idx2svcid idx) ≠ unassigned := by
    rw [id, svcidOf, filterId_add isMask_service lower upper]
    exact add_mask_ne_unassigned isMask_service lower upper
  simp [index, delservice_deleted, isService]

/-- The services of one provider are cleared, all others stay. -/
structure Dropped (srvid : Int) (count : Nat) (before after : Tables) : Prop where
  members : SameMembers before after
  gone : ∀ idx : Nat, idx < count → (before.svctbl idx).server = srvid →
    after.svctbl idx = (before.svctbl idx).cleared
  stays : ∀ idx : Int, (∀ nat : Nat, idx = nat → count ≤ nat ∨ (before.svctbl idx).server ≠ srvid) →
    after.svctbl idx = before.svctbl idx
  events : ∃ extra, after.events = before.events ++ extra ∧
    ∀ event ∈ extra, event.kind = .unprovide ∧ event.svcid < 16777216
  quiet : (∀ idx : Nat, idx < count → (before.svctbl idx).server ≠ srvid) →
    after.events = before.events

theorem delserviceOf_dropped (srvid : Int) (tables : Tables) {count : Nat}
    (within : count ≤ tables.svctblLength) :
    Dropped srvid count tables ((List.range count).foldl (Tables.delserviceOf srvid) tables) := by
  induction count with
  | zero =>
      refine ⟨SameMembers.refl tables, ?_, fun _ _ => rfl, ⟨[], ?_, nofun⟩, fun _ => rfl⟩
      · omega
      · exact (List.append_nil _).symm
  | succ count ih =>
      have before := ih (Nat.le_of_succ_le within)
      rw [List.range_succ, List.foldl_append, List.foldl_cons, List.foldl_nil]
      generalize (List.range count).foldl (Tables.delserviceOf srvid) tables = middle at before
      have here : middle.svctbl (count : Int) = tables.svctbl (count : Int) := by
        apply before.stays
        omega
      rw [Tables.delserviceOf, here]
      split_ifs with hit
      · have inside : count < middle.svctblLength := by
          rw [before.members.svctblLength]
          exact within
        rcases delservice_idx middle inside with ⟨svctbl, events⟩
        rw [here] at svctbl events
        refine ⟨before.members.trans (delservice_sameMembers middle _), ?_, ?_, ?_, ?_⟩
        · intro idx inside server
          rw [svctbl]
          by_cases same : idx = count
          · rw [same, Function.update_self]
          · rw [Function.update_of_ne (by omega)]
            exact before.gone idx (by omega) server
        · intro idx other
          rw [svctbl]
          have different : idx ≠ (count : Int) := by
            grind
          rw [Function.update_of_ne different]
          apply before.stays
          grind
        · rcases before.events with ⟨extra, append, all⟩
          refine ⟨extra ++ [unprovideEvent count (tables.svctbl count)], ?_, ?_⟩
          · rw [events, append, List.append_assoc]
          · intro event member
            rcases List.mem_append.mp member with old | new
            · exact all event old
            · rw [List.mem_singleton.mp new]
              have fits := tables.svctblFits
              refine ⟨rfl, ?_⟩
              change (count : Int) < 16777216
              omega
        · grind
      · refine ⟨before.members, ?_, ?_, before.events, ?_⟩
        · intro idx inside server
          by_cases same : idx = count
          · simp_all
          · exact before.gone idx (by omega) server
        · intro idx other
          apply before.stays
          grind
        · intro noServer
          exact before.quiet fun idx inside => noServer idx (by omega)

theorem delallservices_dropped (tables : Tables) (srvid : Int) :
    Dropped srvid tables.svctblLength tables (tables.delallservices srvid) :=
  delserviceOf_dropped srvid tables (Nat.le_refl _)

theorem addservice_spec (tables : Tables) (name : List Byte) (type : Int) :
    (tables.addservice name type = (rcOf .ENOSPC, tables)) ∨
      ∃ idx after, tables.addservice name type = (idx, after) ∧ 0 ≤ idx ∧
        idx < tables.svctblLength ∧ (tables.svctbl idx).type = unassigned ∧
        SameMembers tables after ∧ after.events = tables.events ∧
        after.svctbl = Function.update tables.svctbl idx
          { tables.svctbl idx with servicename := copySvcname name, type := type } := by
  have positive : (0 : Int) < tables.svctblLength := Int.natCast_pos.mpr tables.svctblNonempty
  rw [Tables.addservice]
  dsimp only
  cases found : firstFree (fun step =>
      (tables.svctbl ((tables.nextService + step) % tables.svctblLength)).type == unassigned) 0
      tables.svctblLength with
  | none => exact Or.inl rfl
  | some step =>
      have isFree := (firstFree_some found).1
      exact Or.inr ⟨_, _, rfl, Int.emod_nonneg _ (Int.ne_of_gt positive),
        Int.emod_lt_of_pos _ positive, eq_of_beq isFree, ⟨rfl, rfl, rfl, rfl, rfl, rfl, rfl⟩, rfl,
        rfl⟩

/-- Neither the service table nor the log of its events changes. -/
structure Unchanged (before after : Tables) : Prop where
  members : SameMembers before after
  svctbl : after.svctbl = before.svctbl
  events : after.events = before.events

theorem Unchanged.refl (tables : Tables) : Unchanged tables tables :=
  ⟨SameMembers.refl tables, rfl, rfl⟩

/-- The types `do_provide` gives a service. -/
def IsSvcType (type : Int) : Prop := type = mwCallSvc ∨ type = mwConvSvc

theorem IsSvcType.ne_unassigned (isType : IsSvcType type) : type ≠ unassigned := by
  rcases isType with rfl | rfl <;> decide

/-- A free entry is taken for a service of this provider. -/
structure Added (provider : Int) (before after : Tables) (idx : Int) (entry : Serviceentry) :
    Prop where
  members : SameMembers before after
  lower : 0 ≤ idx
  upper : idx < before.svctblLength
  free : (before.svctbl idx).type = unassigned
  isType : IsSvcType entry.type
  svctbl : after.svctbl = Function.update before.svctbl idx entry
  events : after.events =
    before.events ++ [⟨.provide, idx + mwServiceMask, entry.servicename, provider⟩]

theorem Unchanged.of_use {before after : Tables} {table : TableName} {index : Int} {write : Bool}
    (same : Unchanged (before.use table index write) after) : Unchanged before after :=
  ⟨⟨same.members.clttblLength, same.members.srvtblLength, same.members.svctblLength,
    same.members.gwtblLength, same.members.clttbl, same.members.srvtbl, same.members.gwtbl⟩,
    same.svctbl, same.events⟩

theorem Added.of_use {provider idx : Int} {before after : Tables} {entry : Serviceentry}
    {table : TableName} {index : Int} {write : Bool}
    (added : Added provider (before.use table index write) after idx entry) :
    Added provider before after idx entry :=
  ⟨⟨added.members.clttblLength, added.members.srvtblLength, added.members.svctblLength,
    added.members.gwtblLength, added.members.clttbl, added.members.srvtbl, added.members.gwtbl⟩,
    added.lower, added.upper, added.free, added.isType, added.svctbl, added.events⟩

theorem idx2svcid_eq {tables : Tables} {idx : Int} (lower : 0 ≤ idx)
    (upper : idx < tables.svctblLength) : idx2svcid idx = idx + mwServiceMask := by
  have fits := tables.svctblFits
  exact idx2id_index isMask_service lower (by omega)

/-- A free entry as `addlocalservice` leaves it. The cost stays what it was. -/
def Serviceentry.provided (entry : Serviceentry) (srvid : Int) (name : List Byte) (type : Int) :
    Serviceentry :=
  { entry with
    servicename := copySvcname name
    type := type
    server := srvid
    location := gwLocal }

/-- A free entry as `addremoteservice` leaves it. -/
def Serviceentry.imported (entry : Serviceentry) (gwid : Int) (name : List Byte)
    (location cost type : Int) : Serviceentry :=
  { entry with
    servicename := copySvcname name
    type := type
    gateway := gwid
    location := location
    cost := cost }

/-- A local service is refused without a trace, or gets an entry with its server. -/
theorem addlocalservice_spec (tables : Tables) (srvid : Int) (name : List Byte)
    (isType : IsSvcType type) :
    Unchanged tables (tables.addlocalservice srvid name type).2 ∨
      ∃ idx, Added srvid tables (tables.addlocalservice srvid name type).2 idx
        ((tables.svctbl idx).provided srvid name type) := by
  rw [Tables.addlocalservice]
  split_ifs with noServer
  · exact Or.inl (Unchanged.refl tables)
  cases tables.getserverentry srvid with
  | none => exact Or.inl (Unchanged.refl tables)
  | some srvidx =>
      dsimp only
      split_ifs with notAttached full
      · exact Or.inl ⟨⟨rfl, rfl, rfl, rfl, rfl, rfl, rfl⟩, rfl, rfl⟩
      · rcases addservice_spec (tables.use .server srvidx false) name type with
          refused | ⟨idx, after, added, lower, upper, free, members, events, svctbl⟩
        · rw [refused]
          exact Or.inl ⟨⟨rfl, rfl, rfl, rfl, rfl, rfl, rfl⟩, rfl, rfl⟩
        · grind
      · rcases addservice_spec (tables.use .server srvidx false) name type with
          refused | ⟨idx, after, added, lower, upper, free, members, events, svctbl⟩
        · rw [refused] at full
          exact absurd (rcOf_neg .ENOSPC) full
        · rw [added]
          have inside : idx < tables.svctblLength := upper
          refine Or.inr ⟨idx,
            ⟨members.clttblLength, members.srvtblLength, members.svctblLength, members.gwtblLength,
              members.clttbl, members.srvtbl, members.gwtbl⟩, lower, upper, free, isType, ?_, ?_⟩
          · change Function.update after.svctbl idx _ = _
            rw [svctbl, Function.update_self, Function.update_idem]
            rfl
          · change after.events ++ [_] = _
            rw [events, idx2svcid_eq lower inside]
            rfl

theorem addremoteservice_spec (tables : Tables) (gwid : Int) (name : List Byte) (cost : Int)
    (isType : IsSvcType type) {result : Int × Tables}
    (done : tables.addremoteservice gwid name cost type = .ok result) :
    Unchanged tables result.2 ∨
      ∃ gwidx idx, tables.getgatewayentry gwid = some gwidx ∧ Added gwid tables result.2 idx
        ((tables.svctbl idx).imported gwid name (tables.gwtbl gwidx).location cost type) := by
  rw [Tables.addremoteservice] at done
  split_ifs at done with noGateway
  · cases done
    exact Or.inl (Unchanged.refl tables)
  cases entry : tables.getgatewayentry gwid with
  | none =>
      simp [entry] at done
  | some gwidx =>
      rw [entry] at done
      dsimp only at done
      split_ifs at done with notAttached full
      · cases done
        exact Or.inl ⟨⟨rfl, rfl, rfl, rfl, rfl, rfl, rfl⟩, rfl, rfl⟩
      · cases done
        rcases addservice_spec (tables.use .gateway gwidx false) name type with
          refused | ⟨idx, after, added, lower, upper, free, members, events, svctbl⟩
        · rw [refused]
          exact Or.inl ⟨⟨rfl, rfl, rfl, rfl, rfl, rfl, rfl⟩, rfl, rfl⟩
        · grind
      · cases done
        rcases addservice_spec (tables.use .gateway gwidx false) name type with
          refused | ⟨idx, after, added, lower, upper, free, members, events, svctbl⟩
        · rw [refused] at full
          exact absurd (rcOf_neg .ENOSPC) full
        · rw [added]
          have inside : idx < tables.svctblLength := upper
          have gwtbl : after.gwtbl = tables.gwtbl := members.gwtbl
          refine Or.inr ⟨gwidx, idx, rfl,
            ⟨members.clttblLength, members.srvtblLength, members.svctblLength, members.gwtblLength,
              members.clttbl, members.srvtbl, members.gwtbl⟩, lower, upper, free, isType, ?_, ?_⟩
          · change Function.update after.svctbl idx _ = _
            rw [svctbl, Function.update_self, Function.update_idem, gwtbl]
            rfl
          · change after.events ++ [_] = _
            rw [events, idx2svcid_eq lower inside]
            rfl

end MidWay.Mwd

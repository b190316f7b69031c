import MidWay.Lib.Loops
import MidWay.Mwd.ServiceSteps
import MidWay.Mwd.ServiceEvents

/-!
Contract: what the watchdog removes from the tables, and when that is exactly the dead.

Clients are looked up among the processes; servers and gateways are sent the signal
0, which a process of another user does not accept. The services go with their
provider: those of a server at once, those of a gateway in a last pass over the
service table.

Owns: `check_tables` with its two ways to look at a process, what each of its four
passes leaves, and the exact case in which it removes the dead and nothing else.
-/

namespace MidWay.Mwd

open MidWay.CLib MidWay.Lib

variable {idx : Nat} {other : Int → Prop} {entry : Serviceentry}

/-- A process of another user is alive, and `kill` fails for it with `EPERM`. -/
inductive ProcessState where
  | alive
  | foreign
  | gone
deriving DecidableEq, Repr

/-- `_mw_procowner(pid, NULL) == 0`. -/
def noProcess : ProcessState → Bool
  | .alive | .foreign => false
  | .gone => true

/-- `kill(pid, 0) == -1`. -/
def killFails : ProcessState → Bool
  | .alive => false
  | .foreign | .gone => true

def Tables.checkTablesOf (process : Int → ProcessState) (tables : Tables) : Tables :=
  let tables := (List.range tables.clttblLength).foldl
    (Tables.checkClient fun pid => noProcess (process pid)) tables
  let tables := (List.range tables.srvtblLength).foldl
    (Tables.checkServer fun pid => killFails (process pid)) tables
  let tables := (List.range tables.gwtblLength).foldl
    (Tables.checkGateway fun pid => killFails (process pid)) tables
  (List.range tables.svctblLength).foldl Tables.checkService tables

/-- A client entry behind `delclient`. -/
def Cliententry.freed (entry : Cliententry) : Cliententry :=
  { entry with type := unassigned, mqid := unassigned, pid := unassigned, status := unassigned }

theorem delclient_idx (tables : Tables) (inside : idx < tables.clttblLength) :
    (tables.delclient (idx + mwClientMask)).2.clttbl =
      Function.update tables.clttbl idx (tables.clttbl idx).freed := by
  have fits := tables.clttblFits
  have index : id2idx mwClientMask (idx + mwClientMask) = idx :=
    id2idx_add isMask_client (Int.natCast_nonneg idx) (by omega)
  have found : tables.getcliententry (idx + mwClientMask) = some (idx : Int) := by
    have notZero : (idx : Int) + mwClientMask ≠ 0 := by
      grind [mwClientMask]
    have assigned : (idx : Int) ≠ unassigned := by
      simp [unassigned]
    have within : ¬(idx : Int) > tables.clttblLength := by omega
    simp_all [Tables.getcliententry, getEntry, if_neg]
  rw [Tables.delclient, found]
  rfl

structure ClientsFreed (hit : Int → Prop) (before after : Tables) : Prop where
  same : SameServices before after
  freed : ∀ idx, hit idx → after.clttbl idx = (before.clttbl idx).freed
  kept : ∀ idx, ¬hit idx → after.clttbl idx = before.clttbl idx

theorem sweepClients {turn : Tables → Nat → Tables} {hit : Cliententry → Prop} {before : Tables}
    (deletes : ∀ idx < before.clttblLength, ∀ tables, hit (tables.clttbl idx) →
      turn tables idx = (tables.delclient (idx + mwClientMask)).2)
    (passes : ∀ idx < before.clttblLength, ∀ tables, ¬hit (tables.clttbl idx) →
      turn tables idx = tables) :
    ClientsFreed (fun idx => 0 ≤ idx ∧ idx < before.clttblLength ∧ hit (before.clttbl idx)) before
      ((List.range before.clttblLength).foldl turn before) := by
  refine @foldl_range_rule Tables turn before.clttblLength before (fun count tables =>
    ClientsFreed (fun idx => 0 ≤ idx ∧ idx < count ∧ hit (before.clttbl idx)) before tables) ?_ ?_
  · exact ⟨SameServices.refl before, fun idx isHit => by omega, fun _ _ => rfl⟩
  · intro count inside tables held
    have here : tables.clttbl count = before.clttbl count := held.kept count (by omega)
    by_cases isHit : hit (tables.clttbl count)
    · have length : count < tables.clttblLength := by
        rw [held.same.clttblLength]
        exact inside
      rw [deletes count inside tables isHit]
      have cleared := delclient_idx tables length
      rw [here] at cleared isHit
      refine ⟨held.same.trans (delclient_sameServices tables _), ?_, ?_⟩
      · intro idx found
        rw [cleared]
        by_cases same : idx = count
        · rw [same, Function.update_self]
        · rw [Function.update_of_ne same]
          exact held.freed idx ⟨found.1, by omega, found.2.2⟩
      · intro idx notFound
        have other : idx ≠ count := by
          grind
        rw [cleared, Function.update_of_ne other]
        exact held.kept idx fun found => notFound ⟨found.1, by omega, found.2.2⟩
    · grind

theorem checkClients_freed (dead : Int → Bool) (tables : Tables) :
    ClientsFreed (fun idx => 0 ≤ idx ∧ idx < tables.clttblLength ∧
        ((tables.clttbl idx).pid > 1 ∧ dead (tables.clttbl idx).pid = true)) tables
      ((List.range tables.clttblLength).foldl (Tables.checkClient dead) tables) := by
  have fits := tables.clttblFits
  apply @sweepClients _ (fun entry => entry.pid > 1 ∧ dead entry.pid = true)
  · intro idx inside before isHit
    have id : orMask mwClientMask idx = idx + mwClientMask :=
      orMask_index isMask_client (Int.natCast_nonneg idx) (by omega)
    rw [Tables.checkClient, if_pos isHit, id]
  · simp_all [Tables.checkClient, if_neg]

theorem delclientsOf_freed (gwid : Int) (tables : Tables) :
    ClientsFreed (fun idx => 0 ≤ idx ∧ idx < tables.clttblLength ∧ (tables.clttbl idx).gwid = gwid)
      tables ((List.range tables.clttblLength).foldl (Tables.delclientOf gwid) tables) := by
  have fits := tables.clttblFits
  apply @sweepClients _ (fun entry => entry.gwid = gwid)
  · intro idx inside before isHit
    have id : idx2cltid idx = idx + mwClientMask :=
      idx2id_index isMask_client (Int.natCast_nonneg idx) (by omega)
    rw [Tables.delclientOf, if_pos isHit, id]
  · simp_all [Tables.delclientOf]

/-- A server entry behind `delserver`. -/
def Serverentry.freed (entry : Serverentry) : Serverentry :=
  { entry with status := unassigned, mqid := unassigned, pid := unassigned }

/-- The servers of a set of indexes were deleted, with the services under their ids. -/
structure ServersDropped (hit : Int → Prop) (before after : Tables) : Prop where
  lengths : SameLengths before after
  clttbl : after.clttbl = before.clttbl
  gwtbl : after.gwtbl = before.gwtbl
  freed : ∀ idx, hit idx → after.srvtbl idx = (before.srvtbl idx).freed
  kept : ∀ idx, ¬hit idx → after.srvtbl idx = before.srvtbl idx
  dropped : ∀ idx : Int, 0 ≤ idx → idx < before.svctblLength →
    (∃ srvidx, hit srvidx ∧ (before.svctbl idx).server = srvidx + mwServerMask) →
      after.svctbl idx = (before.svctbl idx).cleared
  remain : ∀ idx : Int, (¬∃ srvidx, hit srvidx ∧
    (before.svctbl idx).server = srvidx + mwServerMask) → after.svctbl idx = before.svctbl idx

theorem checkServer_drops {dead : Int → Bool} {tables : Tables} (inside : idx < tables.srvtblLength)
    (died : (tables.srvtbl idx).pid > 1 ∧ dead (tables.srvtbl idx).pid = true) :
    (tables.checkServer dead idx).srvtbl =
        Function.update tables.srvtbl idx (tables.srvtbl idx).freed ∧
      Dropped (idx + mwServerMask) tables.svctblLength
        (tables.delserver (idx + mwServerMask)) (tables.checkServer dead idx) := by
  have fits := tables.srvtblFits
  have small : (idx : Int) < 16777216 := by omega
  have lower : (0 : Int) ≤ idx := Int.natCast_nonneg idx
  have idOr : orMask mwServerMask idx = idx + mwServerMask := orMask_index isMask_server lower small
  have idIdx : idx2srvid idx = idx + mwServerMask := idx2id_index isMask_server lower small
  have index : srvid2idx (idx + mwServerMask) = idx := id2idx_add isMask_server lower small
  rw [Tables.checkServer, if_pos died, idOr, idIdx]
  have dropped := delallservices_dropped (tables.delserver (idx + mwServerMask)) (idx + mwServerMask)
  refine ⟨?_, dropped⟩
  rw [dropped.members.srvtbl, Tables.delserver, index]
  rfl

theorem checkServers_dropped (dead : Int → Bool) (before : Tables) :
    ServersDropped (fun idx => 0 ≤ idx ∧ idx < before.srvtblLength ∧
        ((before.srvtbl idx).pid > 1 ∧ dead (before.srvtbl idx).pid = true)) before
      ((List.range before.srvtblLength).foldl (Tables.checkServer dead) before) := by
  have fits := before.srvtblFits
  refine @foldl_range_rule Tables (Tables.checkServer dead) before.srvtblLength before
    (fun count tables => ServersDropped (fun idx => 0 ≤ idx ∧ idx < count ∧
      ((before.srvtbl idx).pid > 1 ∧ dead (before.srvtbl idx).pid = true)) before tables) ?_ ?_
  · refine ⟨⟨rfl, rfl, rfl, rfl⟩, rfl, rfl, fun idx isHit => by omega, fun _ _ => rfl, ?_,
      fun _ _ => rfl⟩
    omega
  · intro count inside tables held
    have here : tables.srvtbl count = before.srvtbl count := held.kept count (by omega)
    have length : count < tables.srvtblLength := by
      simp [held.lengths.srvtblLength, inside]
    by_cases died : (before.srvtbl count).pid > 1 ∧ dead (before.srvtbl count).pid = true
    · rw [← here] at died
      obtain ⟨servers, services⟩ := checkServer_drops length died
      rw [here] at died servers
      have members := services.members
      refine ⟨held.lengths.trans ⟨members.clttblLength, members.srvtblLength, members.svctblLength,
        members.gwtblLength⟩, members.clttbl.trans held.clttbl, members.gwtbl.trans held.gwtbl,
        ?_, ?_, ?_, ?_⟩
      · intro idx found
        rw [servers]
        by_cases same : idx = count
        · rw [same, Function.update_self]
        · rw [Function.update_of_ne same]
          exact held.freed idx ⟨found.1, by omega, found.2.2⟩
      · intro idx notFound
        have other : idx ≠ count := by
          grind
        rw [servers, Function.update_of_ne other]
        exact held.kept idx fun found => notFound ⟨found.1, by omega, found.2.2⟩
      · intro idx lower upper found
        by_cases earlier : ∃ srvidx : Int, (0 ≤ srvidx ∧ srvidx < count ∧
            ((before.srvtbl srvidx).pid > 1 ∧ dead (before.srvtbl srvidx).pid = true)) ∧
            (before.svctbl idx).server = srvidx + mwServerMask
        · -- the entry was cleared in an earlier turn and names no server now
          have cleared := held.dropped idx lower upper earlier
          rw [services.stays idx ?_]
          · exact cleared
          · intro _ _
            refine Or.inr ?_
            change (tables.svctbl idx).server ≠ _
            rw [cleared]
            exact (add_mask_ne_unassigned isMask_server (Int.natCast_nonneg count)
              (by omega)).symm
        · obtain ⟨srvidx, isHit, server⟩ := found
          have isThis : srvidx = count := by
            grind
          have same := held.remain idx earlier
          rw [isThis, ← same] at server
          obtain ⟨nat, isNat⟩ := Int.eq_ofNat_of_zero_le lower
          rw [isNat] at server upper same ⊢
          rw [services.gone nat ?_ server, ← same]
          · rfl
          · simp_all [held.lengths.svctblLength]
      · intro idx notFound
        have earlier : ¬∃ srvidx : Int, (0 ≤ srvidx ∧ srvidx < count ∧
            ((before.srvtbl srvidx).pid > 1 ∧ dead (before.srvtbl srvidx).pid = true)) ∧
            (before.svctbl idx).server = srvidx + mwServerMask := by
          intro found
          obtain ⟨srvidx, isHit, server⟩ := found
          exact notFound ⟨srvidx, ⟨isHit.1, by omega, isHit.2.2⟩, server⟩
        have same := held.remain idx earlier
        rw [services.stays idx ?_]
        · exact same
        · intro _ _
          refine Or.inr ?_
          change (tables.svctbl idx).server ≠ _
          grind
    · have passed : tables.checkServer dead count = tables := by
        rw [Tables.checkServer, here, if_neg died]
      rw [passed]
      refine ⟨held.lengths, held.clttbl, held.gwtbl, ?_, ?_, ?_, ?_⟩
      · intro idx found
        by_cases same : idx = count
        · simp_all
        · exact held.freed idx ⟨found.1, by omega, found.2.2⟩
      · intro idx notFound
        exact held.kept idx fun found => notFound ⟨found.1, by omega, found.2.2⟩
      · intro idx lower upper found
        obtain ⟨srvidx, isHit, server⟩ := found
        by_cases same : srvidx = count
        · simp_all
        · exact held.dropped idx lower upper ⟨srvidx, ⟨isHit.1, by omega, isHit.2.2⟩, server⟩
      · intro idx notFound
        apply held.remain idx
        grind

def goneGateway : Gatewayentry := ⟨unassigned, unassigned, unassigned, unassigned, unassigned⟩

/-- The gateways of a set of indexes were removed, with the clients under their ids. -/
structure GatewaysDropped (hit : Int → Prop) (before after : Tables) : Prop where
  lengths : SameLengths before after
  srvtbl : after.srvtbl = before.srvtbl
  svctbl : after.svctbl = before.svctbl
  freed : ∀ idx, hit idx → after.gwtbl idx = goneGateway
  kept : ∀ idx, ¬hit idx → after.gwtbl idx = before.gwtbl idx
  dropped : ∀ idx : Int, 0 ≤ idx → idx < before.clttblLength →
    (∃ gwidx, hit gwidx ∧ (before.clttbl idx).gwid = gwidx + mwGatewayMask) →
      after.clttbl idx = (before.clttbl idx).freed
  remain : ∀ idx : Int, (¬∃ gwidx, hit gwidx ∧
    (before.clttbl idx).gwid = gwidx + mwGatewayMask) → after.clttbl idx = before.clttbl idx

theorem checkGateway_drops {dead : Int → Bool} {tables : Tables} (inside : idx < tables.gwtblLength)
    (died : (tables.gwtbl idx).pid > 1 ∧ dead (tables.gwtbl idx).pid = true) :
    (tables.checkGateway dead idx).gwtbl = Function.update tables.gwtbl idx goneGateway ∧
      (∀ place : Int, 0 ≤ place ∧ place < tables.clttblLength ∧
          (tables.clttbl place).gwid = idx + mwGatewayMask →
        (tables.checkGateway dead idx).clttbl place = (tables.clttbl place).freed) ∧
      ∀ place : Int, ¬(0 ≤ place ∧ place < tables.clttblLength ∧
          (tables.clttbl place).gwid = idx + mwGatewayMask) →
        (tables.checkGateway dead idx).clttbl place = tables.clttbl place := by
  have fits := tables.gwtblFits
  have id : idx2gwid idx = idx + mwGatewayMask :=
    idx2id_index isMask_gateway (Int.natCast_nonneg idx) (by omega)
  have clients := delclientsOf_freed (idx + mwGatewayMask) tables
  rw [Tables.checkGateway, if_pos died, id]
  refine ⟨?_, clients.freed, clients.kept⟩
  change Function.update _ _ _ = _
  rw [clients.same.gwtbl]
  rfl

theorem checkGateways_dropped (dead : Int → Bool) (before : Tables) :
    GatewaysDropped (fun idx => 0 ≤ idx ∧ idx < before.gwtblLength ∧
        ((before.gwtbl idx).pid > 1 ∧ dead (before.gwtbl idx).pid = true)) before
      ((List.range before.gwtblLength).foldl (Tables.checkGateway dead) before) := by
  refine @foldl_range_rule Tables (Tables.checkGateway dead) before.gwtblLength before
    (fun count tables => GatewaysDropped (fun idx => 0 ≤ idx ∧ idx < count ∧
      ((before.gwtbl idx).pid > 1 ∧ dead (before.gwtbl idx).pid = true)) before tables) ?_ ?_
  · refine ⟨⟨rfl, rfl, rfl, rfl⟩, rfl, rfl, fun idx isHit => by omega, fun _ _ => rfl, ?_,
      fun _ _ => rfl⟩
    omega
  · intro count inside tables held
    have here : tables.gwtbl count = before.gwtbl count := held.kept count (by omega)
    have length : count < tables.gwtblLength := by
      simp [held.lengths.gwtblLength, inside]
    obtain ⟨lengths, srvtbl, svctbl, _⟩ := checkGateway_same dead tables count
    by_cases died : (before.gwtbl count).pid > 1 ∧ dead (before.gwtbl count).pid = true
    · rw [← here] at died
      obtain ⟨gateways, freed, kept⟩ := checkGateway_drops length died
      rw [here] at died
      -- an earlier turn leaves the gateway of a client as it was
      have gwid (idx : Int) (lower : 0 ≤ idx) (upper : idx < before.clttblLength) :
          (tables.clttbl idx).gwid = (before.clttbl idx).gwid := by
        by_cases earlier : ∃ gwidx : Int, (0 ≤ gwidx ∧ gwidx < count ∧
            ((before.gwtbl gwidx).pid > 1 ∧ dead (before.gwtbl gwidx).pid = true)) ∧
            (before.clttbl idx).gwid = gwidx + mwGatewayMask
        · rw [held.dropped idx lower upper earlier]
          rfl
        · rw [held.remain idx earlier]
      refine ⟨held.lengths.trans lengths, srvtbl.trans held.srvtbl, svctbl.trans held.svctbl,
        ?_, ?_, ?_, ?_⟩
      · intro idx found
        rw [gateways]
        by_cases same : idx = count
        · rw [same, Function.update_self]
        · rw [Function.update_of_ne same]
          exact held.freed idx ⟨found.1, by omega, found.2.2⟩
      · intro idx notFound
        have other : idx ≠ count := by
          grind
        rw [gateways, Function.update_of_ne other]
        exact held.kept idx fun found => notFound ⟨found.1, by omega, found.2.2⟩
      · intro idx lower upper found
        have sameFreed : (tables.clttbl idx).freed = (before.clttbl idx).freed := by
          by_cases earlier : ∃ gwidx : Int, (0 ≤ gwidx ∧ gwidx < count ∧
              ((before.gwtbl gwidx).pid > 1 ∧ dead (before.gwtbl gwidx).pid = true)) ∧
              (before.clttbl idx).gwid = gwidx + mwGatewayMask
          · rw [held.dropped idx lower upper earlier]
            rfl
          · rw [held.remain idx earlier]
        by_cases this : (before.clttbl idx).gwid = count + mwGatewayMask
        · simp_all [held.lengths.clttblLength]
        · rw [kept idx fun hit => this ((gwid idx lower upper).symm.trans hit.2.2)]
          apply held.dropped idx lower upper
          grind
      · intro idx notFound
        rw [kept idx ?_]
        · apply held.remain idx
          grind
        · intro hit
          rw [held.lengths.clttblLength] at hit
          grind
    · have passed : tables.checkGateway dead count = tables := by
        rw [Tables.checkGateway, here, if_neg died]
      rw [passed]
      refine ⟨held.lengths, held.srvtbl, held.svctbl, ?_, ?_, ?_, ?_⟩
      · intro idx found
        by_cases same : idx = count
        · simp_all
        · exact held.freed idx ⟨found.1, by omega, found.2.2⟩
      · intro idx notFound
        exact held.kept idx fun found => notFound ⟨found.1, by omega, found.2.2⟩
      · intro idx lower upper found
        obtain ⟨gwidx, isHit, gateway⟩ := found
        by_cases same : gwidx = count
        · simp_all
        · exact held.dropped idx lower upper ⟨gwidx, ⟨isHit.1, by omega, isHit.2.2⟩, gateway⟩
      · intro idx notFound
        apply held.remain idx
        grind

def Tables.Orphan (tables : Tables) (entry : Serviceentry) : Prop :=
  entry.type ≠ unassigned ∧
    ((entry.type = gwLocal ∧ entry.server > 0 ∧
        (tables.srvtbl (srvid2idx entry.server)).pid = unassigned) ∨
      (¬(entry.type = gwLocal ∧ entry.server > 0) ∧ entry.gateway > 0 ∧
        (tables.gwtbl (gwid2idx entry.gateway)).pid = unassigned))

theorem checkService_orphan {tables : Tables} (inside : idx < tables.svctblLength)
    (orphan : tables.Orphan (tables.svctbl idx)) :
    SameMembers tables (tables.checkService idx) ∧
      (tables.checkService idx).svctbl =
        Function.update tables.svctbl idx (tables.svctbl idx).cleared := by
  have used (table : TableName) (index : Int) :=
    (delservice_idx (tables.use table index false) inside).1
  have same (table : TableName) (index : Int) :
      SameMembers tables ((tables.use table index false).delservice (idx2svcid idx)).2 := by
    have members := delservice_sameMembers (tables.use table index false) (idx2svcid idx)
    exact ⟨members.clttblLength, members.srvtblLength, members.svctblLength, members.gwtblLength,
      members.clttbl, members.srvtbl, members.gwtbl⟩
  obtain ⟨inUse, ⟨isLocal, hasServer, noServer⟩ | ⟨notLocal, remote, noGateway⟩⟩ := orphan
  · rw [Tables.checkService]
    dsimp only
    rw [if_neg inUse, if_pos ⟨isLocal, hasServer⟩]
    have noPid : ((tables.use .server (srvid2idx (tables.svctbl idx).server) false).srvtbl
        (srvid2idx (tables.svctbl idx).server)).pid = unassigned := noServer
    rw [if_pos noPid]
    exact ⟨same _ _, used _ _⟩
  · rw [Tables.checkService]
    dsimp only
    rw [if_neg inUse, if_neg notLocal, if_pos remote]
    have noPid : ((tables.use .gateway (gwid2idx (tables.svctbl idx).gateway) false).gwtbl
        (gwid2idx (tables.svctbl idx).gateway)).pid = unassigned := noGateway
    rw [if_pos noPid]
    exact ⟨same _ _, used _ _⟩

theorem checkService_kept {tables : Tables} (provided : ¬tables.Orphan (tables.svctbl idx)) :
    SameMembers tables (tables.checkService idx) ∧
      (tables.checkService idx).svctbl = tables.svctbl := by
  have read (table : TableName) (index : Int) : SameMembers tables (tables.use table index false) :=
    ⟨rfl, rfl, rfl, rfl, rfl, rfl, rfl⟩
  rw [Tables.checkService]
  dsimp only
  split_ifs with free isLocal noServer remote noGateway
  · exact ⟨SameMembers.refl tables, rfl⟩
  · exact absurd ⟨free, Or.inl ⟨isLocal.1, isLocal.2, noServer⟩⟩ provided
  · exact ⟨read _ _, rfl⟩
  · exact absurd ⟨free, Or.inr ⟨isLocal, remote, noGateway⟩⟩ provided
  · exact ⟨read _ _, rfl⟩
  · exact ⟨SameMembers.refl tables, rfl⟩

theorem SameMembers.orphan {before after : Tables} (members : SameMembers before after)
    (entry : Serviceentry) : after.Orphan entry ↔ before.Orphan entry := by
  rw [Tables.Orphan, Tables.Orphan, members.srvtbl, members.gwtbl]

structure OrphansCleared (before after : Tables) : Prop where
  members : SameMembers before after
  cleared : ∀ idx : Int, 0 ≤ idx → idx < before.svctblLength → before.Orphan (before.svctbl idx) →
    after.svctbl idx = (before.svctbl idx).cleared
  kept : ∀ idx : Int, ¬before.Orphan (before.svctbl idx) → after.svctbl idx = before.svctbl idx

theorem checkServices_cleared (before : Tables) :
    OrphansCleared before
      ((List.range before.svctblLength).foldl Tables.checkService before) := by
  have whole := @foldl_range_rule Tables Tables.checkService before.svctblLength before
    (fun count tables => SameMembers before tables ∧
      (∀ idx : Int, 0 ≤ idx → idx < count → before.Orphan (before.svctbl idx) →
        tables.svctbl idx = (before.svctbl idx).cleared) ∧
      ∀ idx : Int, (¬before.Orphan (before.svctbl idx) ∨ count ≤ idx) →
        tables.svctbl idx = before.svctbl idx) ?_ ?_
  · obtain ⟨members, cleared, kept⟩ := whole
    exact ⟨members, cleared, fun idx provided => kept idx (Or.inl provided)⟩
  · grind [SameMembers.refl]
  · intro count inside tables held
    obtain ⟨members, cleared, kept⟩ := held
    have here : tables.svctbl count = before.svctbl count := kept count (Or.inr (Int.le_refl _))
    have length : count < tables.svctblLength := by
      simp [members.svctblLength, inside]
    by_cases orphan : before.Orphan (before.svctbl count)
    · have orphanNow : tables.Orphan (tables.svctbl count) := by
        rw [here]
        exact (members.orphan _).mpr orphan
      obtain ⟨same, svctbl⟩ := checkService_orphan length orphanNow
      rw [here] at svctbl
      refine ⟨members.trans same, ?_, ?_⟩
      · intro idx lower upper isOrphan
        rw [svctbl]
        grind
      · intro idx stays
        have other : idx ≠ count := by
          grind
        rw [svctbl, Function.update_of_ne other]
        exact kept idx (stays.imp_right fun behind => by omega)
    · have providedNow : ¬tables.Orphan (tables.svctbl count) := by
        rw [here]
        exact fun isOrphan => orphan ((members.orphan _).mp isOrphan)
      obtain ⟨same, svctbl⟩ := checkService_kept providedNow
      refine ⟨members.trans same, ?_, ?_⟩
      · grind
      · grind

/-- The four passes one behind the other. -/
theorem checkTablesOf_passes (process : Int → ProcessState) (before : Tables) :
    ∃ first second third,
      ClientsFreed (fun idx => 0 ≤ idx ∧ idx < before.clttblLength ∧
        ((before.clttbl idx).pid > 1 ∧ noProcess (process (before.clttbl idx).pid) = true))
        before first ∧
      ServersDropped (fun idx => 0 ≤ idx ∧ idx < first.srvtblLength ∧
        ((first.srvtbl idx).pid > 1 ∧ killFails (process (first.srvtbl idx).pid) = true))
        first second ∧
      GatewaysDropped (fun idx => 0 ≤ idx ∧ idx < second.gwtblLength ∧
        ((second.gwtbl idx).pid > 1 ∧ killFails (process (second.gwtbl idx).pid) = true))
        second third ∧
      OrphansCleared third (before.checkTablesOf process) :=
  ⟨_, _, _, checkClients_freed (fun pid => noProcess (process pid)) before,
    checkServers_dropped (fun pid => killFails (process pid)) _,
    checkGateways_dropped (fun pid => killFails (process pid)) _, checkServices_cleared _⟩

/-- A free entry names no provider, and one in use is of a type of services and has at most one. -/
def ProviderOk (entry : Serviceentry) : Prop :=
  (entry.type = unassigned ∧ entry.server = unassigned ∧ entry.gateway = unassigned) ∨
    (IsSvcType entry.type ∧ (entry.server = unassigned ∨ entry.gateway = unassigned))

def ProvidersOk (tables : Tables) : Prop := ∀ idx, ProviderOk (tables.svctbl idx)

theorem ProvidersOk.steps {adds : Int → Int → Serviceentry → Prop} {before after : Tables}
    (ok : ProvidersOk before) (allowed : ∀ provider idx entry, adds provider idx entry →
      ProviderOk entry) (steps : ServiceSteps adds before after) : ProvidersOk after := by
  induction steps with
  | refl => exact ok
  | tail _ step ih =>
      intro idx
      rcases step with ⟨_, svctbl, _⟩ | ⟨provider, place, entry, added, isAllowed⟩ |
        ⟨_, place, svctbl, _⟩
      · rw [svctbl]
        exact ih idx
      · rw [added.svctbl]
        by_cases same : idx = place
        · grind
        · rw [Function.update_of_ne same]
          exact ih idx
      · rw [svctbl]
        by_cases same : idx = place
        · rw [same, Function.update_self]
          exact Or.inl ⟨rfl, rfl, rfl⟩
        · rw [Function.update_of_ne same]
          exact ih idx

/-- A service that a request adds takes a free entry, which names no provider. -/
theorem ProvidersOk.adds {tables : Tables} (ok : ProvidersOk tables) {request : Request}
    {provider idx : Int} (adds : tables.Adds request provider idx entry) :
    ProviderOk entry := by
  cases request with
  | provide status pmesg =>
      obtain ⟨isFree, added⟩ := adds
      have none : (tables.svctbl idx).server = unassigned ∧
          (tables.svctbl idx).gateway = unassigned := by
        rcases ok idx with free | inUse
        · exact free.2
        · exact absurd isFree inUse.1.ne_unassigned
      rcases added with ⟨_, _, rfl⟩ | ⟨_, _, gwidx, _, rfl⟩
      · exact Or.inr ⟨pmesg.isSvcType, Or.inr none.2⟩
      · exact Or.inr ⟨pmesg.isSvcType, Or.inl none.1⟩
  | attach _ _ => exact absurd adds id
  | detach _ => exact absurd adds id
  | unprovide _ => exact absurd adds id
  | check _ => exact absurd adds id
  | gateways _ => exact absurd adds id

theorem checkTablesOf_steps {adds : Int → Int → Serviceentry → Prop} (tables : Tables)
    (process : Int → ProcessState) : ServiceSteps adds tables (tables.checkTablesOf process) :=
  (((checkClients_steps _ _ _).trans (checkServers_steps _ _ _)).trans
    (checkGateways_steps _ _ _)).trans (foldl_steps checkService_steps _ _)

def mwdWatched : Machine Tables (Request ⊕ (Int → ProcessState)) TableFailure where
  start := Initial
  enabled := fun _ _ => True
  step
    | tables, .inl request => tables.handle request
    | tables, .inr process => .ok (tables.checkTablesOf process)

theorem providersOk_kept : mwdWatched.Preserves (fun _ _ => True) ProvidersOk := by
  intro tables action next ok _ _ stepped
  cases action with
  | inl request => exact ok.steps (fun _ _ _ adds => ok.adds adds) (handle_steps stepped)
  | inr process =>
      cases stepped
      exact @ProvidersOk.steps (fun _ _ _ => False) _ _ ok (fun _ _ _ => False.elim)
        (checkTablesOf_steps tables process)

theorem Initial.providersOk {tables : Tables} (initial : Initial tables) : ProvidersOk tables := by
  intro idx
  obtain ⟨type, server, gateway, _⟩ := initial.svctbl idx
  exact Or.inl ⟨type, server, gateway⟩

section

variable (tables : Tables) (state : Int → Prop)

def Tables.ServerOf (idx : Int) : Prop :=
  0 ≤ idx ∧ idx < tables.srvtblLength ∧
    ((tables.srvtbl idx).pid > 1 ∧ state (tables.srvtbl idx).pid)

def Tables.GatewayOf (idx : Int) : Prop :=
  0 ≤ idx ∧ idx < tables.gwtblLength ∧
    ((tables.gwtbl idx).pid > 1 ∧ state (tables.gwtbl idx).pid)

def Tables.BehindGateway (idx : Int) : Prop :=
  ∃ gwidx, tables.GatewayOf state gwidx ∧ (tables.clttbl idx).gwid = gwidx + mwGatewayMask

def Tables.OfServer (entry : Serviceentry) : Prop :=
  ∃ srvidx, tables.ServerOf state srvidx ∧ entry.server = srvidx + mwServerMask

def Tables.OfGateway (entry : Serviceentry) : Prop :=
  ∃ gwidx, tables.GatewayOf state gwidx ∧ entry.gateway = gwidx + mwGatewayMask

end

def Tables.ClientDied (process : Int → ProcessState) (tables : Tables) (idx : Int) : Prop :=
  ((tables.clttbl idx).pid > 1 ∧ process (tables.clttbl idx).pid = .gone) ∨
    tables.BehindGateway (fun pid => process pid = .gone) idx

/-- No entry of a process that is gone is in use, and those of the others are unchanged, each
with the services and clients that belong to it. -/
structure RemovesDead (process : Int → ProcessState) (before after : Tables) : Prop where
  clients : ∀ idx : Int, 0 ≤ idx → idx < before.clttblLength → before.ClientDied process idx →
    (after.clttbl idx).status = unassigned
  servers : ∀ idx, before.ServerOf (fun pid => process pid = .gone) idx →
    (after.srvtbl idx).status = unassigned
  gateways : ∀ idx, before.GatewayOf (fun pid => process pid = .gone) idx →
    (after.gwtbl idx).status = unassigned
  services : ∀ idx : Int, 0 ≤ idx → idx < before.svctblLength →
    (after.svctbl idx).type ≠ unassigned →
    ¬before.OfServer (fun pid => process pid = .gone) (after.svctbl idx) ∧
      ¬before.OfGateway (fun pid => process pid = .gone) (after.svctbl idx)
  liveClients : ∀ idx : Int, 0 ≤ idx → idx < before.clttblLength →
    (before.clttbl idx).pid > 1 ∨ before.BehindGateway (fun pid => process pid ≠ .gone) idx →
    ¬before.ClientDied process idx → after.clttbl idx = before.clttbl idx
  liveServers : ∀ idx, before.ServerOf (fun pid => process pid ≠ .gone) idx →
    after.srvtbl idx = before.srvtbl idx
  liveGateways : ∀ idx, before.GatewayOf (fun pid => process pid ≠ .gone) idx →
    after.gwtbl idx = before.gwtbl idx
  liveServices : ∀ idx : Int, 0 ≤ idx → idx < before.svctblLength →
    (before.svctbl idx).type ≠ unassigned →
    before.OfServer (fun pid => process pid ≠ .gone) (before.svctbl idx) ∨
      before.OfGateway (fun pid => process pid ≠ .gone) (before.svctbl idx) →
    after.svctbl idx = before.svctbl idx

def NoForeign (process : Int → ProcessState) (tables : Tables) : Prop :=
  (∀ idx, ¬tables.ServerOf (fun pid => process pid = .foreign) idx) ∧
    ∀ idx, ¬tables.GatewayOf (fun pid => process pid = .foreign) idx

theorem noProcess_iff (state : ProcessState) : noProcess state = true ↔ state = .gone := by
  cases state <;> decide

theorem killFails_iff {state : ProcessState} (own : state ≠ .foreign) :
    killFails state = true ↔ state = .gone := by
  cases state with
  | alive => decide
  | foreign => exact absurd rfl own
  | gone => decide

/-- What the watchdog leaves, by what the tables were: `kill` fails for the processes of
`fails`. -/
structure Checked (process : Int → ProcessState) (fails : Int → Prop) (before after : Tables) :
    Prop where
  clientsFreed : ∀ idx : Int, 0 ≤ idx → idx < before.clttblLength →
    ((before.clttbl idx).pid > 1 ∧ process (before.clttbl idx).pid = .gone) ∨
      before.BehindGateway fails idx → (after.clttbl idx).status = unassigned
  clientsKept : ∀ idx : Int, 0 ≤ idx → idx < before.clttblLength →
    ¬(((before.clttbl idx).pid > 1 ∧ process (before.clttbl idx).pid = .gone) ∨
      before.BehindGateway fails idx) → after.clttbl idx = before.clttbl idx
  serversFreed : ∀ idx, before.ServerOf fails idx → after.srvtbl idx = (before.srvtbl idx).freed
  serversKept : ∀ idx, ¬before.ServerOf fails idx → after.srvtbl idx = before.srvtbl idx
  gatewaysFreed : ∀ idx, before.GatewayOf fails idx → after.gwtbl idx = goneGateway
  gatewaysKept : ∀ idx, ¬before.GatewayOf fails idx → after.gwtbl idx = before.gwtbl idx
  services : ∀ idx : Int, 0 ≤ idx → idx < before.svctblLength →
    (after.svctbl idx = (before.svctbl idx).cleared ∧
        (before.OfServer fails (before.svctbl idx) ∨ after.Orphan (before.svctbl idx))) ∨
      (after.svctbl idx = before.svctbl idx ∧ ¬after.Orphan (before.svctbl idx) ∧
        ¬before.OfServer fails (before.svctbl idx))

theorem cleared_notOrphan (tables : Tables) (entry : Serviceentry) : ¬tables.Orphan entry.cleared :=
  fun orphan => orphan.1 rfl

theorem checkTablesOf_checked (process : Int → ProcessState) (before : Tables) :
    Checked process (fun pid => killFails (process pid) = true) before
      (before.checkTablesOf process) := by
  obtain ⟨first, second, third, clients, servers, gateways, services⟩ :=
    checkTablesOf_passes process before
  have srvtbl := clients.same.srvtbl
  have srvtblLength := clients.same.srvtblLength
  have gwtbl : second.gwtbl = before.gwtbl := servers.gwtbl.trans clients.same.gwtbl
  have gwtblLength : second.gwtblLength = before.gwtblLength :=
    servers.lengths.gwtblLength.trans clients.same.gwtblLength
  have clttblLength : second.clttblLength = before.clttblLength :=
    servers.lengths.clttblLength.trans clients.same.clttblLength
  have svctblLength : third.svctblLength = before.svctblLength :=
    (gateways.lengths.svctblLength.trans servers.lengths.svctblLength).trans
      clients.same.svctblLength
  have gwid (idx : Int) : (first.clttbl idx).gwid = (before.clttbl idx).gwid := by
    by_cases hit : 0 ≤ idx ∧ idx < before.clttblLength ∧
        ((before.clttbl idx).pid > 1 ∧ noProcess (process (before.clttbl idx).pid) = true)
    · rw [clients.freed idx hit]
      rfl
    · rw [clients.kept idx hit]
  rw [srvtbl, srvtblLength] at servers
  rw [gwtbl, gwtblLength] at gateways
  constructor
  · intro idx lower upper died
    rw [services.members.clttbl]
    by_cases behind : ∃ gwidx,
        before.GatewayOf (fun pid => killFails (process pid) = true) gwidx ∧
          (second.clttbl idx).gwid = gwidx + mwGatewayMask
    · rw [gateways.dropped idx lower (by omega) behind]
      rfl
    · rw [gateways.remain idx behind, servers.clttbl]
      rw [servers.clttbl, gwid] at behind
      have own := died.resolve_right behind
      rw [clients.freed idx ⟨lower, upper, own.1, (noProcess_iff _).mpr own.2⟩]
      rfl
  · intro idx lower upper stays
    have notOwn : ¬(0 ≤ idx ∧ idx < before.clttblLength ∧
        ((before.clttbl idx).pid > 1 ∧ noProcess (process (before.clttbl idx).pid) = true)) :=
      fun hit => stays (Or.inl ⟨hit.2.2.1, (noProcess_iff _).mp hit.2.2.2⟩)
    rw [services.members.clttbl, gateways.remain idx, servers.clttbl, clients.kept idx notOwn]
    rw [servers.clttbl, gwid]
    exact fun behind => stays (Or.inr behind)
  · intro idx hit
    rw [services.members.srvtbl, gateways.srvtbl, servers.freed idx hit, srvtbl]
  · intro idx notHit
    rw [services.members.srvtbl, gateways.srvtbl, servers.kept idx notHit, srvtbl]
  · intro idx hit
    rw [services.members.gwtbl, gateways.freed idx hit]
  · intro idx notHit
    rw [services.members.gwtbl, gateways.kept idx notHit, gwtbl]
  · intro idx lower upper
    have orphans (entry : Serviceentry) := services.members.orphan entry
    have upperFirst : idx < first.svctblLength := by
      simp [clients.same.svctblLength, upper]
    have upperThird : idx < third.svctblLength := by
      omega
    by_cases dropped :
        before.OfServer (fun pid => killFails (process pid) = true) (first.svctbl idx)
    · have cleared := servers.dropped idx lower upperFirst dropped
      rw [clients.same.svctbl] at cleared dropped
      have inThird : third.svctbl idx = (before.svctbl idx).cleared := by
        rw [gateways.svctbl, cleared]
      have notOrphan : ¬third.Orphan (third.svctbl idx) := by
        simp [inThird, cleared_notOrphan]
      refine Or.inl ⟨?_, Or.inl dropped⟩
      rw [services.kept idx notOrphan, inThird]
    · have inThird : third.svctbl idx = before.svctbl idx := by
        rw [gateways.svctbl, servers.remain idx dropped, clients.same.svctbl]
      rw [clients.same.svctbl] at dropped
      by_cases orphan : third.Orphan (third.svctbl idx)
      · have cleared := services.cleared idx lower upperThird orphan
        simp_all [Or.inl]
      · have kept := services.kept idx orphan
        simp_all [Or.inr]

section

variable {process : Int → ProcessState} {tables after : Tables}

theorem Tables.ServerOf.apart {state : Int → Prop} {idx : Int} (first : tables.ServerOf state idx)
    (differ : ∀ pid, state pid → ¬other pid) :
    ¬tables.ServerOf other idx :=
  fun second => differ _ first.2.2.2 second.2.2.2

theorem Tables.GatewayOf.apart {state : Int → Prop} {idx : Int} (first : tables.GatewayOf state idx)
    (differ : ∀ pid, state pid → ¬other pid) :
    ¬tables.GatewayOf other idx :=
  fun second => differ _ first.2.2.2 second.2.2.2

theorem Tables.ServerOf.imp {state : Int → Prop} {idx : Int} (first : tables.ServerOf state idx)
    (implies : ∀ pid, state pid → other pid) :
    tables.ServerOf other idx :=
  ⟨first.1, first.2.1, first.2.2.1, implies _ first.2.2.2⟩

theorem Tables.GatewayOf.imp {state : Int → Prop} {idx : Int} (first : tables.GatewayOf state idx)
    (implies : ∀ pid, state pid → other pid) :
    tables.GatewayOf other idx :=
  ⟨first.1, first.2.1, first.2.2.1, implies _ first.2.2.2⟩

theorem killFails_gone (pid : Int) (isGone : process pid = .gone) :
    killFails (process pid) = true := by
  rw [isGone]
  rfl

theorem killFails_foreign (pid : Int) (isForeign : process pid = .foreign) :
    killFails (process pid) = true := by
  rw [isForeign]
  rfl

theorem there_of_foreign (pid : Int) (isForeign : process pid = .foreign) :
    process pid ≠ .gone := by
  simp [isForeign]

theorem NoForeign.serverOf (noForeign : NoForeign process tables) (idx : Int) :
    tables.ServerOf (fun pid => killFails (process pid) = true) idx ↔
      tables.ServerOf (fun pid => process pid = .gone) idx := by
  have none := noForeign.1 idx
  constructor
  · intro fails
    refine ⟨fails.1, fails.2.1, fails.2.2.1, (killFails_iff ?_).mp fails.2.2.2⟩
    exact fun foreign => none ⟨fails.1, fails.2.1, fails.2.2.1, foreign⟩
  · intro died
    exact died.imp killFails_gone

theorem NoForeign.gatewayOf (noForeign : NoForeign process tables) (idx : Int) :
    tables.GatewayOf (fun pid => killFails (process pid) = true) idx ↔
      tables.GatewayOf (fun pid => process pid = .gone) idx := by
  have none := noForeign.2 idx
  constructor
  · intro fails
    refine ⟨fails.1, fails.2.1, fails.2.2.1, (killFails_iff ?_).mp fails.2.2.2⟩
    exact fun foreign => none ⟨fails.1, fails.2.1, fails.2.2.1, foreign⟩
  · intro died
    exact died.imp killFails_gone

/-- Where nothing is foreign, `kill` fails for the dead. -/
theorem Checked.of_noForeign (noForeign : NoForeign process tables)
    (checked : Checked process (fun pid => killFails (process pid) = true) tables after) :
    Checked process (fun pid => process pid = .gone) tables after := by
  have servers := noForeign.serverOf
  have gateways := noForeign.gatewayOf
  have behind (idx : Int) :
      tables.BehindGateway (fun pid => killFails (process pid) = true) idx ↔
        tables.BehindGateway (fun pid => process pid = .gone) idx := by
    simp only [Tables.BehindGateway, gateways]
  have ofServer (entry : Serviceentry) :
      tables.OfServer (fun pid => killFails (process pid) = true) entry ↔
        tables.OfServer (fun pid => process pid = .gone) entry := by
    simp only [Tables.OfServer, servers]
  obtain ⟨clientsFreed, clientsKept, serversFreed, serversKept, gatewaysFreed, gatewaysKept,
    services⟩ := checked
  simp only [behind] at clientsFreed clientsKept
  simp only [servers] at serversFreed serversKept
  simp only [gateways] at gatewaysFreed gatewaysKept
  simp only [ofServer] at services
  exact ⟨clientsFreed, clientsKept, serversFreed, serversKept, gatewaysFreed, gatewaysKept, services⟩

/-- The types of services are no location, so that a service is an orphan by its gateway. -/
theorem orphan_iff (isType : IsSvcType entry.type) :
    tables.Orphan entry ↔
      entry.gateway > 0 ∧ (tables.gwtbl (gwid2idx entry.gateway)).pid = unassigned := by
  have notLocation : entry.type ≠ gwLocal := by
    rcases isType with isCall | isConv
    · rw [isCall]
      decide
    · rw [isConv]
      decide
  constructor
  · intro orphan
    rcases orphan.2 with isLocal | isRemote
    · exact absurd isLocal.1 notLocation
    · exact isRemote.2
  · intro noGateway
    exact ⟨isType.ne_unassigned, Or.inr ⟨fun isLocal => notLocation isLocal.1, noGateway⟩⟩

theorem gateway_index {gwidx : Int} {state : Int → Prop} (isGateway : tables.GatewayOf state gwidx) :
    gwidx + mwGatewayMask > 0 ∧ gwid2idx (gwidx + mwGatewayMask) = gwidx := by
  have fits := tables.gwtblFits
  obtain ⟨lower, upper, _⟩ := isGateway
  refine ⟨?_, id2idx_add isMask_gateway lower (by omega)⟩
  rw [mwGatewayMask]
  omega

theorem ProviderOk.ofGateway (ok : ProviderOk entry) (inUse : entry.type ≠ unassigned)
    {state : Int → Prop} (ofGateway : tables.OfGateway state entry) :
    entry.server = unassigned := by
  obtain ⟨gwidx, isGateway, gateway⟩ := ofGateway
  rcases ok with free | used
  · exact absurd free.1 inUse
  · refine used.2.resolve_right ?_
    have positive := (gateway_index isGateway).1
    rw [gateway, unassigned]
    omega

theorem server_assigned {srvidx : Int} {state : Int → Prop} (isServer : tables.ServerOf state srvidx) :
    srvidx + mwServerMask ≠ unassigned := by
  have fits := tables.srvtblFits
  obtain ⟨lower, upper, _⟩ := isServer
  exact add_mask_ne_unassigned isMask_server lower (by omega)

theorem Checked.removesDead (ok : ProvidersOk tables)
    (checked : Checked process (fun pid => process pid = .gone) tables after) :
    RemovesDead process tables after := by
  constructor
  · intro idx lower upper died
    exact checked.clientsFreed idx lower upper died
  · intro idx died
    rw [checked.serversFreed idx died]
    rfl
  · intro idx died
    rw [checked.gatewaysFreed idx died]
    rfl
  · intro idx lower upper inUse
    rcases checked.services idx lower upper with ⟨cleared, _⟩ | ⟨kept, notOrphan, notDropped⟩
    · rw [cleared] at inUse
      exact absurd rfl inUse
    · rw [kept] at inUse ⊢
      refine ⟨notDropped, ?_⟩
      intro ofGateway
      obtain ⟨gwidx, died, gateway⟩ := ofGateway
      have isType : IsSvcType (tables.svctbl idx).type := by
        rcases ok idx with free | used
        · exact absurd free.1 inUse
        · exact used.1
      apply notOrphan
      obtain ⟨positive, index⟩ := gateway_index died
      rw [orphan_iff isType, gateway, index, checked.gatewaysFreed gwidx died]
      exact ⟨positive, rfl⟩
  · intro idx lower upper _ notDied
    exact checked.clientsKept idx lower upper notDied
  · intro idx lives
    exact checked.serversKept idx (lives.apart fun _ there gone => there gone)
  · intro idx lives
    exact checked.gatewaysKept idx (lives.apart fun _ there gone => there gone)
  · intro idx lower upper inUse provided
    rcases checked.services idx lower upper with ⟨_, dropped | orphan⟩ | ⟨kept, _⟩
    · exfalso
      obtain ⟨srvidx, died, server⟩ := dropped
      rcases provided with ⟨other, lives, sameServer⟩ | ofGateway
      · have same : other = srvidx := by omega
        rw [same] at lives
        exact lives.apart (fun _ there gone => there gone) died
      · have noServer := (ok idx).ofGateway inUse ofGateway
        exact server_assigned died (server.symm.trans noServer)
    · exfalso
      rcases ok idx with free | ⟨isType, single⟩
      · exact inUse free.1
      rw [orphan_iff isType] at orphan
      rcases provided with ⟨srvidx, lives, server⟩ | ⟨gwidx, lives, gateway⟩
      · grind [unassigned, server_assigned]
      · rw [gateway, (gateway_index lives).2, checked.gatewaysKept gwidx
          (lives.apart fun _ there gone => there gone)] at orphan
        have positive := lives.2.2.1
        rw [orphan.2, unassigned] at positive
        omega
    · exact kept

end

/-- In every state of every run, the watchdog removes the entries of the dead and leaves those of
the living exactly when no server and no gateway is a process of another user. -/
theorem watchdog_exact_iff {tables : Tables}
    (reachable : mwdWatched.Reachable (fun _ _ => True) tables) (process : Int → ProcessState) :
    RemovesDead process tables (tables.checkTablesOf process) ↔ NoForeign process tables := by
  have ok : ProvidersOk tables :=
    reachable.holds (fun _ (initial : Initial _) => initial.providersOk) providersOk_kept
  have checked := checkTablesOf_checked process tables
  constructor
  · intro removes
    constructor
    · intro idx foreign
      have positive := foreign.2.2.1
      have kept := removes.liveServers idx (foreign.imp there_of_foreign)
      have freed := checked.serversFreed idx (foreign.imp killFails_foreign)
      have pid : (tables.srvtbl idx).pid = unassigned := by
        rw [← kept, freed]
        rfl
      rw [pid, unassigned] at positive
      omega
    · intro idx foreign
      have positive := foreign.2.2.1
      have kept := removes.liveGateways idx (foreign.imp there_of_foreign)
      have freed := checked.gatewaysFreed idx (foreign.imp killFails_foreign)
      have pid : (tables.gwtbl idx).pid = unassigned := by
        rw [← kept, freed]
        rfl
      rw [pid, unassigned] at positive
      omega
  · intro noForeign
    exact (checked.of_noForeign noForeign).removesDead ok

theorem oneServerTables_watched : mwdWatched.Reachable (fun _ _ => True) oneServerTables :=
  .step (.start emptyTables_initial)
    (show mwdWatched.enabled emptyTables (.inl (.attach .ready oneServerAttach)) from trivial)
    trivial rfl

/-- The process of the only server is gone. -/
theorem watchdog_exact_iff_gone :
    RemovesDead (fun _ => .gone) oneServerTables (oneServerTables.checkTablesOf fun _ => .gone) :=
  (watchdog_exact_iff oneServerTables_watched fun _ => .gone).mpr
    ⟨fun _ foreign => ProcessState.noConfusion foreign.2.2.2,
      fun _ foreign => ProcessState.noConfusion foreign.2.2.2⟩

/-- A server that runs, under another user, loses its entry. -/
theorem watchdog_removes_foreign :
    mwdWatched.Reachable (fun _ _ => True) oneServerTables ∧
      ¬RemovesDead (fun _ => .foreign) oneServerTables
        (oneServerTables.checkTablesOf fun _ => .foreign) := by
  refine ⟨oneServerTables_watched, ?_⟩
  intro removes
  have lives : oneServerTables.ServerOf (fun _ => ProcessState.foreign ≠ .gone) 0 :=
    ⟨by decide, by decide, by decide, by decide⟩
  have kept := removes.liveServers 0 lives
  have lost : ((oneServerTables.checkTablesOf fun _ => .foreign).srvtbl 0).pid = unassigned := by
    decide
  rw [kept] at lost
  exact absurd lost (by decide)

end MidWay.Mwd

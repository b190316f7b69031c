import MidWay.Lib.Runs
import MidWay.Mwd.Lookup

/-!
Contract: the service table names providers that exist.

A service in use has one provider, and a server that provides one is in use. An
entry that is free names no provider, so that the next service of its slot
starts without one. `delserver` breaks this for the services of the server, and
`delallservices` behind it mends it, because the id of a server is compared as a
whole and each server has one id.

Owns: the requests as steps of a machine, the invariant, and its preservation by
each of them.
-/

namespace MidWay.Mwd

open MidWay.CLib MidWay.Lib

variable {tables before after : Tables} {entry : Serviceentry} {idx : Int}

def Tables.Attached (tables : Tables) (id : Int) : Prop :=
  ∃ srvidx : Int, 0 ≤ srvidx ∧ srvidx < tables.srvtblLength ∧ id = srvidx + mwServerMask ∧
    (tables.srvtbl srvidx).status ≠ unassigned

/-- A free entry, one with a gateway, or one with an attached server. -/
def EntryOk (attached : Int → Prop) (entry : Serviceentry) : Prop :=
  (entry.type = unassigned ∧ entry.server = unassigned ∧ entry.gateway = unassigned) ∨
    (entry.type ≠ unassigned ∧ entry.server = unassigned ∧ entry.gateway ≠ unassigned) ∨
    (entry.type ≠ unassigned ∧ entry.gateway = unassigned ∧ attached entry.server)

def TablesOk (tables : Tables) : Prop :=
  ∀ idx : Int, 0 ≤ idx → idx < tables.svctblLength → EntryOk tables.Attached (tables.svctbl idx)

theorem Tables.Attached.ne_unassigned {id : Int} (attached : tables.Attached id) :
    id ≠ unassigned := by
  have fits := tables.srvtblFits
  rcases attached with ⟨srvidx, lower, upper, same, _⟩
  grind [add_mask_ne_unassigned, isMask_server]

theorem entryOk_cleared (attached : Int → Prop) (entry : Serviceentry) :
    EntryOk attached entry.cleared := Or.inl ⟨rfl, rfl, rfl⟩

theorem EntryOk.mono {first second : Int → Prop} (ok : EntryOk first entry)
    (weaker : first entry.server → second entry.server) : EntryOk second entry := by
  rcases ok with free | remote | ⟨inUse, gateway, attached⟩
  · exact Or.inl free
  · exact Or.inr (Or.inl remote)
  · exact Or.inr (Or.inr ⟨inUse, gateway, weaker attached⟩)

theorem EntryOk.free {attached : Int → Prop} (ok : EntryOk attached entry)
    (isFree : entry.type = unassigned) :
    entry.server = unassigned ∧ entry.gateway = unassigned := by
  rcases ok with free | remote | ⟨inUse, _⟩
  · exact free.2
  · exact absurd isFree remote.1
  · exact absurd isFree inUse

theorem SameMembers.attached (members : SameMembers before after) (id : Int) :
    after.Attached id ↔ before.Attached id := by
  rw [Tables.Attached, Tables.Attached, members.srvtbl, members.srvtblLength]

theorem TablesOk.of_unchanged (ok : TablesOk before) (same : Unchanged before after) :
    TablesOk after := by
  intro idx lower upper
  rw [same.members.svctblLength] at upper
  rw [same.svctbl]
  exact (ok idx lower upper).mono (same.members.attached _).mpr

theorem TablesOk.of_added {provider : Int} (ok : TablesOk before)
    (added : Added provider before after idx entry) (entryOk : EntryOk before.Attached entry) :
    TablesOk after := by
  intro other lower upper
  rw [added.members.svctblLength] at upper
  rw [added.svctbl]
  by_cases same : other = idx
  · simp [same, Function.update_self, entryOk.mono, added.members.attached]
  · rw [Function.update_of_ne same]
    exact (ok other lower upper).mono (added.members.attached _).mpr

theorem TablesOk.delservice (ok : TablesOk tables) (svcid : Int) :
    TablesOk (tables.delservice svcid).2 := by
  have members := delservice_sameMembers tables svcid
  by_cases isService : svcidOf svcid = unassigned
  · rw [Tables.delservice, if_pos isService]
    exact ok
  · intro idx lower upper
    rw [members.svctblLength] at upper
    rw [(delservice_deleted isService tables).1]
    by_cases same : idx = indexOf svcid
    · simp [same, Function.update_self, entryOk_cleared]
    · rw [Function.update_of_ne same]
      exact (ok idx lower upper).mono (members.attached _).mpr

theorem addserver_spec (tables : Tables) (mqid pid : Int) :
    tables.addserver mqid pid = (rcOf .ENOSPC, tables) ∨
      ∃ srvidx : Int, 0 ≤ srvidx ∧ srvidx < tables.srvtblLength ∧
        (tables.srvtbl srvidx).status = unassigned ∧
        tables.addserver mqid pid = (srvidx + mwServerMask,
          { tables.setServer srvidx ⟨mqid, pid, 0, unassigned⟩ with
            nextServer := Fin.ofNat (tables.srvtblLength + 1) (srvidx.toNat + 1) }) := by
  have fits := tables.srvtblFits
  rw [Tables.addserver]
  cases found : searchFrom (fun idx => (tables.srvtbl idx).status == unassigned) tables.nextServer
      tables.srvtblLength with
  | none => exact Or.inl rfl
  | some srvidx =>
      rcases searchFrom_some found with ⟨isFree, lower, upper⟩
      refine Or.inr ⟨srvidx, lower, upper, eq_of_beq isFree, ?_⟩
      grind [orMask_index, isMask_server]

theorem TablesOk.addserver (ok : TablesOk tables) (mqid pid : Int) :
    TablesOk (tables.addserver mqid pid).2 := by
  rcases addserver_spec tables mqid pid with full | ⟨srvidx, lower, upper, isFree, added⟩
  · simp [full, ok]
  · rw [added]
    intro idx idxLower idxUpper
    refine (ok idx idxLower idxUpper).mono ?_
    intro attached
    rcases attached with ⟨other, otherLower, otherUpper, same, inUse⟩
    refine ⟨other, otherLower, otherUpper, same, ?_⟩
    change (Function.update tables.srvtbl srvidx _ other).status ≠ unassigned
    grind

structure SameServices (before after : Tables) : Prop where
  clttblLength : after.clttblLength = before.clttblLength
  srvtblLength : after.srvtblLength = before.srvtblLength
  svctblLength : after.svctblLength = before.svctblLength
  gwtblLength : after.gwtblLength = before.gwtblLength
  srvtbl : after.srvtbl = before.srvtbl
  svctbl : after.svctbl = before.svctbl
  gwtbl : after.gwtbl = before.gwtbl
  events : after.events = before.events

theorem SameServices.refl (tables : Tables) : SameServices tables tables :=
  ⟨rfl, rfl, rfl, rfl, rfl, rfl, rfl, rfl⟩

theorem SameServices.trans {first second third : Tables} (before : SameServices first second)
    (after : SameServices second third) : SameServices first third :=
  ⟨after.clttblLength.trans before.clttblLength, after.srvtblLength.trans before.srvtblLength,
    after.svctblLength.trans before.svctblLength, after.gwtblLength.trans before.gwtblLength,
    after.srvtbl.trans before.srvtbl, after.svctbl.trans before.svctbl,
    after.gwtbl.trans before.gwtbl, after.events.trans before.events⟩

theorem addclient_sameServices (tables : Tables) (type mqid pid gwid : Int) :
    SameServices tables (tables.addclient type mqid pid gwid).2 := by
  rw [Tables.addclient]
  cases searchFrom (fun idx => (tables.clttbl idx).status == unassigned) tables.nextClient
      tables.clttblLength with
  | none => exact SameServices.refl tables
  | some cltidx =>
      dsimp only
      split_ifs <;> exact ⟨rfl, rfl, rfl, rfl, rfl, rfl, rfl, rfl⟩

theorem attachClient_sameServices (tables : Tables) (areq : Attach) :
    SameServices tables (tables.attachClient areq).2 := by
  grind [Tables.attachClient, SameServices.refl, addclient_sameServices]

theorem delclient_sameServices (tables : Tables) (cid : Int) :
    SameServices tables (tables.delclient cid).2 := by
  rw [Tables.delclient]
  cases tables.getcliententry cid with
  | none => exact SameServices.refl tables
  | some idx => exact ⟨rfl, rfl, rfl, rfl, rfl, rfl, rfl, rfl⟩

theorem TablesOk.of_sameServices (ok : TablesOk before) (same : SameServices before after) :
    TablesOk after := by
  intro idx lower upper
  rw [same.svctblLength] at upper
  rw [same.svctbl]
  refine (ok idx lower upper).mono ?_
  simp [Tables.Attached, same.srvtbl, same.srvtblLength]

def Tables.ServerId (tables : Tables) (id : Int) : Prop :=
  ∃ srvidx : Int, 0 ≤ srvidx ∧ srvidx < tables.srvtblLength ∧ id = srvidx + mwServerMask

/-- A server that goes takes its services with it. -/
theorem TablesOk.dropServer (ok : TablesOk tables) {sid : Int} (isServer : tables.ServerId sid) :
    TablesOk ((tables.delserver sid).delallservices sid) ∧
      ∀ idx : Int, 0 ≤ idx → idx < tables.svctblLength →
        (((tables.delserver sid).delallservices sid).svctbl idx).server ≠ sid := by
  have fits := tables.srvtblFits
  rcases isServer with ⟨srvidx, lower, upper, same⟩
  have small : srvidx < 16777216 := by omega
  have index : srvid2idx sid = srvidx := by
    rw [same]
    exact id2idx_add isMask_server lower small
  have assigned : sid ≠ unassigned := by
    grind [add_mask_ne_unassigned, isMask_server]
  have dropped := delallservices_dropped (tables.delserver sid) sid
  have statuses (other : Int) (different : other ≠ srvidx) :
      (tables.delserver sid).srvtbl other = tables.srvtbl other := by
    rw [Tables.delserver, index]
    exact Function.update_of_ne different _ _
  -- An entry of the table is cleared or it is another server's.
  have entries (idx : Int) (idxLower : 0 ≤ idx) (idxUpper : idx < tables.svctblLength) :
      (∃ entry, ((tables.delserver sid).delallservices sid).svctbl idx =
          Serviceentry.cleared entry) ∨
        (((tables.delserver sid).delallservices sid).svctbl idx = tables.svctbl idx ∧
          (tables.svctbl idx).server ≠ sid) := by
    rcases Int.eq_ofNat_of_zero_le idxLower with ⟨nat, isNat⟩
    by_cases server : (tables.svctbl idx).server = sid
    · refine Or.inl ⟨tables.svctbl idx, ?_⟩
      rw [isNat] at server ⊢
      apply dropped.gone nat ?_ server
      change nat < tables.svctblLength
      omega
    · exact Or.inr ⟨dropped.stays idx fun _ _ => Or.inr server, server⟩
  constructor
  · intro idx idxLower idxUpper
    rw [dropped.members.svctblLength] at idxUpper
    rcases entries idx idxLower idxUpper with ⟨entry, cleared⟩ | ⟨stays, other⟩
    · simp [cleared, entryOk_cleared]
    · rw [stays]
      refine (ok idx idxLower idxUpper).mono ?_
      intro attached
      rw [dropped.members.attached]
      rcases attached with ⟨found, foundLower, foundUpper, isFound, inUse⟩
      have different : found ≠ srvidx := by
        omega
      refine ⟨found, foundLower, foundUpper, isFound, ?_⟩
      rw [statuses found different]
      exact inUse
  · intro idx idxLower idxUpper
    rcases entries idx idxLower idxUpper with ⟨entry, cleared⟩ | ⟨stays, other⟩
    · rw [cleared]
      exact assigned.symm
    · simp [stays, other]

theorem TablesOk.doAttach (ok : TablesOk tables) (status : Status) (areq : Attach) :
    TablesOk (tables.doAttach status areq).2 := by
  rw [Tables.doAttach]
  dsimp only
  split_ifs
  · exact ok
  · exact ok
  · exact ok.of_sameServices (attachClient_sameServices tables _)
  · exact ok
  · exact ok.addserver areq.ipcqid areq.pid
  · exact (ok.addserver areq.ipcqid areq.pid).of_sameServices (attachClient_sameServices _ _)

theorem TablesOk.doDetach (ok : TablesOk tables) {dm : Attach}
    (issued : dm.server ≠ 0 → tables.ServerId dm.srvid) : TablesOk (tables.doDetach dm) := by
  have servers : TablesOk (if dm.server = 0 then tables
      else (tables.delserver dm.srvid).delallservices dm.srvid) := by
    split_ifs with noServer
    · exact ok
    · exact (ok.dropServer (issued noServer)).1
  rw [Tables.doDetach]
  generalize (if dm.server = 0 then tables
    else (tables.delserver dm.srvid).delallservices dm.srvid) = middle at servers
  split_ifs with noClient
  · exact servers
  · exact servers.of_sameServices (delclient_sameServices _ _)

theorem getServerById_attached {srvid srvidx : Int} (isServer : tables.ServerId srvid)
    (found : tables.getServerById srvid = some srvidx) :
    tables.Attached srvid := by
  have fits := tables.srvtblFits
  rcases isServer with ⟨index, lower, upper, same⟩
  refine ⟨index, lower, upper, same, ?_⟩
  rw [Tables.getServerById, entryById] at found
  have indexSame : indexOf srvid = index := by
    rw [same]
    exact indexOf_add isMask_server lower (by omega)
  simp_all

def Provide.type (pmesg : Provide) : Int := if pmesg.conv then mwConvSvc else mwCallSvc

theorem Provide.isSvcType (pmesg : Provide) : IsSvcType pmesg.type := by
  unfold Provide.type
  cases pmesg.conv with
  | false => exact Or.inl rfl
  | true => exact Or.inr rfl

/-- What a provide that is answered does: nothing, or one new service of its sender. -/
theorem doProvide_spec {status : Status} {pmesg : Provide} {result : Provide × Tables}
    (done : tables.doProvide status pmesg = .ok result) :
    Unchanged tables result.2 ∨
      (pmesg.srvid ≠ -1 ∧ (∃ srvidx, tables.getServerById pmesg.srvid = some srvidx) ∧
        ∃ idx, Added pmesg.srvid tables result.2 idx
          ((tables.svctbl idx).provided pmesg.srvid pmesg.svcname pmesg.type)) ∨
      (pmesg.srvid = -1 ∧ pmesg.gwid ≠ -1 ∧
        (∃ gwidx, tables.getGatewayById pmesg.gwid = some gwidx) ∧
        ∃ gwidx idx, tables.getgatewayentry pmesg.gwid = some gwidx ∧
          Added pmesg.gwid tables result.2 idx ((tables.svctbl idx).imported pmesg.gwid
            pmesg.svcname (tables.gwtbl gwidx).location pmesg.cost pmesg.type)) := by
  have isType := pmesg.isSvcType
  rw [Tables.doProvide] at done
  unfold Provide.type at isType ⊢
  generalize (if pmesg.conv then mwConvSvc else mwCallSvc) = type at done isType ⊢
  dsimp only at done
  split_ifs at done with down server gateway
  · cases found : tables.getServerById pmesg.srvid with
    | none =>
        rw [found] at done
        cases done
        exact Or.inl (Unchanged.refl tables)
    | some srvidx =>
        rw [found] at done
        cases done
        rcases addlocalservice_spec (tables.use .server srvidx false) pmesg.srvid pmesg.svcname
          isType with same | ⟨idx, added⟩
        · exact Or.inl same.of_use
        · exact Or.inr (Or.inl ⟨server, ⟨srvidx, rfl⟩, idx, added.of_use⟩)
  · cases found : tables.getGatewayById pmesg.gwid with
    | none =>
        rw [found] at done
        cases done
        exact Or.inl (Unchanged.refl tables)
    | some gwidx =>
        rw [found] at done
        dsimp only at done
        cases remote : (tables.use .gateway gwidx false).addremoteservice pmesg.gwid pmesg.svcname
            pmesg.cost type with
        | error failure =>
            simp [remote] at done
        | ok answer =>
            rw [remote] at done
            cases done
            rcases addremoteservice_spec _ pmesg.gwid pmesg.svcname pmesg.cost isType remote with
              same | ⟨gwentry, idx, isEntry, added⟩
            · exact Or.inl same.of_use
            · exact Or.inr (Or.inr ⟨not_not.mp server, gateway, ⟨gwidx, rfl⟩, gwentry, idx, isEntry,
                added.of_use⟩)
  · cases done
    exact Or.inl (Unchanged.refl tables)

theorem TablesOk.doProvide (ok : TablesOk tables) {status : Status} {pmesg : Provide}
    (issued : pmesg.srvid ≠ -1 → tables.ServerId pmesg.srvid) {result : Provide × Tables}
    (done : tables.doProvide status pmesg = .ok result) :
    TablesOk result.2 := by
  rcases doProvide_spec done with same | ⟨server, ⟨srvidx, found⟩, idx, added⟩ |
    ⟨_, gateway, _, _, idx, _, added⟩
  · exact ok.of_unchanged same
  · have free := (ok idx added.lower added.upper).free added.free
    exact ok.of_added added (Or.inr (Or.inr ⟨added.isType.ne_unassigned, free.2,
      getServerById_attached (issued server) found⟩))
  · have free := (ok idx added.lower added.upper).free added.free
    exact ok.of_added added
      (Or.inr (Or.inl ⟨added.isType.ne_unassigned, free.1, gateway⟩))

theorem useProvider_unchanged (tables : Tables) (entry : Serviceentry) :
    Unchanged tables (tables.useProvider entry) := by
  rw [Tables.useProvider]
  split_ifs
  · cases tables.getserverentry entry.server with
    | none => exact Unchanged.refl tables
    | some idx => exact ⟨⟨rfl, rfl, rfl, rfl, rfl, rfl, rfl⟩, rfl, rfl⟩
  · cases tables.getgatewayentry entry.gateway with
    | none => exact Unchanged.refl tables
    | some idx => exact ⟨⟨rfl, rfl, rfl, rfl, rfl, rfl, rfl⟩, rfl, rfl⟩

theorem use_unchanged (tables : Tables) (table : TableName) (index : Int) (write : Bool) :
    Unchanged tables (tables.use table index write) :=
  ⟨⟨rfl, rfl, rfl, rfl, rfl, rfl, rfl⟩, rfl, rfl⟩

theorem TablesOk.doUnprovide (ok : TablesOk tables) (pmesg : Provide) :
    TablesOk (tables.doUnprovide pmesg).2 := by
  rw [Tables.doUnprovide]
  cases tables.getserviceentry (svcidOf pmesg.svcid) with
  | none => exact ok
  | some idx =>
      have used := ok.of_unchanged (use_unchanged tables .service idx false)
      exact (used.of_unchanged (useProvider_unchanged _ _)).delservice pmesg.svcid

structure SameLengths (before after : Tables) : Prop where
  clttblLength : after.clttblLength = before.clttblLength
  srvtblLength : after.srvtblLength = before.srvtblLength
  svctblLength : after.svctblLength = before.svctblLength
  gwtblLength : after.gwtblLength = before.gwtblLength

theorem SameLengths.trans {first second third : Tables} (before : SameLengths first second)
    (after : SameLengths second third) : SameLengths first third :=
  ⟨after.clttblLength.trans before.clttblLength, after.srvtblLength.trans before.srvtblLength,
    after.svctblLength.trans before.svctblLength, after.gwtblLength.trans before.gwtblLength⟩

theorem foldl_range_keeps {property : Tables → Prop} {turn : Tables → Nat → Tables} {count : Nat}
    (keeps : ∀ before idx, idx < count → property before → property (turn before idx))
    {tables : Tables} (initially : property tables) :
    property ((List.range count).foldl turn tables) := by
  refine List.foldlRecOn (List.range count) turn initially ?_
  simp_all

theorem checkServer_kept {dead : Int → Bool} {start : Tables} {idx : Nat}
    (inside : idx < start.srvtblLength) (held : TablesOk tables ∧ SameLengths start tables) :
    TablesOk (tables.checkServer dead idx) ∧ SameLengths start (tables.checkServer dead idx) := by
  have fits := start.srvtblFits
  have lower : (0 : Int) ≤ idx := Int.natCast_nonneg idx
  have upper : (idx : Int) < 16777216 := by omega
  have idOr : orMask mwServerMask idx = idx + mwServerMask := orMask_index isMask_server lower upper
  have idIdx : idx2srvid idx = idx + mwServerMask := idx2id_index isMask_server lower upper
  rw [Tables.checkServer, idOr, idIdx]
  split_ifs with died
  · have isServer : tables.ServerId (idx + mwServerMask) := by
      refine ⟨idx, lower, ?_, rfl⟩
      rw [held.2.srvtblLength]
      exact Int.ofNat_lt.mpr inside
    have members :=
      (delallservices_dropped (tables.delserver (idx + mwServerMask)) (idx + mwServerMask)).members
    exact ⟨(held.1.dropServer isServer).1, held.2.trans
      ⟨members.clttblLength, members.srvtblLength, members.svctblLength, members.gwtblLength⟩⟩
  · exact held

theorem delclientOf_sameServices (gwid : Int) (tables : Tables) (idx : Nat) :
    SameServices tables (tables.delclientOf gwid idx) := by
  grind [Tables.delclientOf, delclient_sameServices, SameServices.refl]

theorem checkClient_sameServices (dead : Int → Bool) (tables : Tables) (idx : Nat) :
    SameServices tables (tables.checkClient dead idx) := by
  grind [Tables.checkClient, delclient_sameServices, SameServices.refl]

/-- The servers and services stay when a gateway goes. -/
theorem checkGateway_same (dead : Int → Bool) (tables : Tables) (idx : Nat) :
    SameLengths tables (tables.checkGateway dead idx) ∧
      (tables.checkGateway dead idx).srvtbl = tables.srvtbl ∧
      (tables.checkGateway dead idx).svctbl = tables.svctbl ∧
      (tables.checkGateway dead idx).events = tables.events := by
  rw [Tables.checkGateway]
  split_ifs
  · have same : SameServices tables
        ((List.range tables.clttblLength).foldl (Tables.delclientOf (idx2gwid idx)) tables) :=
      @foldl_range_keeps (fun after => SameServices tables after) _ _
        (fun before idx _ held => held.trans (delclientOf_sameServices _ before idx))
        tables (SameServices.refl tables)
    exact ⟨⟨same.clttblLength, same.srvtblLength, same.svctblLength, same.gwtblLength⟩, same.srvtbl,
      same.svctbl, same.events⟩
  · exact ⟨⟨rfl, rfl, rfl, rfl⟩, rfl, rfl, rfl⟩

theorem TablesOk.checkGateway (ok : TablesOk tables) (dead : Int → Bool) (idx : Nat) :
    TablesOk (tables.checkGateway dead idx) := by
  rcases checkGateway_same dead tables idx with ⟨lengths, srvtbl, svctbl, _⟩
  intro other lower upper
  rw [lengths.svctblLength] at upper
  rw [svctbl]
  refine (ok other lower upper).mono ?_
  simp [Tables.Attached, srvtbl, lengths.srvtblLength]

theorem TablesOk.checkService (ok : TablesOk tables) (idx : Nat) :
    TablesOk (tables.checkService idx) := by
  rw [Tables.checkService]
  dsimp only
  split_ifs
  · exact ok
  · exact (ok.of_unchanged (use_unchanged tables _ _ _)).delservice _
  · exact ok.of_unchanged (use_unchanged tables _ _ _)
  · exact (ok.of_unchanged (use_unchanged tables _ _ _)).delservice _
  · exact ok.of_unchanged (use_unchanged tables _ _ _)
  · exact ok

theorem TablesOk.checkTables (ok : TablesOk tables) (dead : Int → Bool) :
    TablesOk (tables.checkTables dead) := by
  rw [Tables.checkTables]
  have clients : TablesOk
      ((List.range tables.clttblLength).foldl (Tables.checkClient dead) tables) :=
    foldl_range_keeps
      (fun before idx _ held => held.of_sameServices (checkClient_sameServices dead before idx)) ok
  generalize (List.range tables.clttblLength).foldl (Tables.checkClient dead) tables = first
    at clients
  have servers : TablesOk
      ((List.range first.srvtblLength).foldl (Tables.checkServer dead) first) :=
    (@foldl_range_keeps (fun after => TablesOk after ∧ SameLengths first after) _ _
      (fun before idx inside held => checkServer_kept inside held) first
      ⟨clients, rfl, rfl, rfl, rfl⟩).1
  generalize (List.range first.srvtblLength).foldl (Tables.checkServer dead) first = second
    at servers
  have gateways : TablesOk
      ((List.range second.gwtblLength).foldl (Tables.checkGateway dead) second) :=
    foldl_range_keeps (fun before idx _ held => held.checkGateway dead idx) servers
  exact foldl_range_keeps (fun before idx _ held => held.checkService idx) gateways

/-- What changes the tables. Requests come with the status of the instance; `dead` are the
processes the watchdog finds gone; gateways write their own table. -/
inductive Request where
  | attach (status : Status) (areq : Attach)
  | detach (dm : Attach)
  | provide (status : Status) (pmesg : Provide)
  | unprovide (pmesg : Provide)
  | check (dead : Int → Bool)
  | gateways (gwtbl : Int → Gatewayentry)

def Tables.handle (tables : Tables) : Request → Except TableFailure Tables
  | .attach status areq => .ok (tables.doAttach status areq).2
  | .detach dm => .ok (tables.doDetach dm)
  | .provide status pmesg => (tables.doProvide status pmesg).map Prod.snd
  | .unprovide pmesg => .ok (tables.doUnprovide pmesg).2
  | .check dead => .ok (tables.checkTables dead)
  | .gateways gwtbl => .ok { tables with gwtbl := gwtbl }

/-- The server that detaches or provides has an id of the table. -/
def Tables.Issued (tables : Tables) : Request → Prop
  | .detach dm => dm.server ≠ 0 → tables.ServerId dm.srvid
  | .provide _ pmesg => pmesg.srvid ≠ -1 → tables.ServerId pmesg.srvid
  | .attach _ _ | .unprovide _ | .check _ | .gateways _ => True

/-- What `init_tables` leaves. -/
structure Initial (tables : Tables) : Prop where
  clttbl : ∀ idx, (tables.clttbl idx).status = unassigned
  srvtbl : ∀ idx, (tables.srvtbl idx).status = unassigned
  svctbl : ∀ idx, (tables.svctbl idx).type = unassigned ∧
    (tables.svctbl idx).server = unassigned ∧ (tables.svctbl idx).gateway = unassigned ∧
    (tables.svctbl idx).servicename = []
  gwtbl : ∀ idx, (tables.gwtbl idx).status = unassigned
  events : tables.events = []

def mwd : Machine Tables Request TableFailure where
  start := Initial
  enabled := Tables.Issued
  step := Tables.handle

theorem tablesOk_kept : mwd.Preserves (fun _ _ => True) TablesOk := by
  intro tables request next ok issued _ stepped
  cases request with
  | attach status areq =>
      cases stepped
      exact ok.doAttach status areq
  | detach dm =>
      cases stepped
      exact ok.doDetach issued
  | provide status pmesg =>
      change (tables.doProvide status pmesg).map Prod.snd = .ok next at stepped
      cases done : tables.doProvide status pmesg with
      | error failure =>
          rw [done] at stepped
          cases stepped
      | ok result =>
          rw [done] at stepped
          cases stepped
          exact ok.doProvide issued done
  | unprovide pmesg =>
      cases stepped
      exact ok.doUnprovide pmesg
  | check dead =>
      cases stepped
      exact ok.checkTables dead
  | gateways gwtbl =>
      cases stepped
      exact ok

theorem Initial.ok (initial : Initial tables) : TablesOk tables := by
  intro idx _ _
  rcases initial.svctbl idx with ⟨type, server, gateway, _⟩
  exact Or.inl ⟨type, server, gateway⟩

/-- A service in use has one provider, and its server is in use. -/
structure Consistent (tables : Tables) : Prop where
  oneProvider : ∀ idx : Int, 0 ≤ idx → idx < tables.svctblLength →
    (tables.svctbl idx).type ≠ unassigned →
    ((tables.svctbl idx).server ≠ unassigned ∧ (tables.svctbl idx).gateway = unassigned) ∨
      ((tables.svctbl idx).server = unassigned ∧ (tables.svctbl idx).gateway ≠ unassigned)
  served : ∀ idx : Int, 0 ≤ idx → idx < tables.svctblLength →
    (tables.svctbl idx).type ≠ unassigned → (tables.svctbl idx).server ≠ unassigned →
    0 ≤ srvid2idx (tables.svctbl idx).server ∧
      srvid2idx (tables.svctbl idx).server < tables.srvtblLength ∧
      (tables.srvtbl (srvid2idx (tables.svctbl idx).server)).status ≠ unassigned

theorem TablesOk.consistent (ok : TablesOk tables) : Consistent tables := by
  have fits := tables.srvtblFits
  constructor
  · intro idx lower upper inUse
    rcases ok idx lower upper with free | remote | ⟨_, gateway, attached⟩
    · exact absurd free.1 inUse
    · exact Or.inr remote.2
    · exact Or.inl ⟨attached.ne_unassigned, gateway⟩
  · intro idx lower upper inUse hasServer
    rcases ok idx lower upper with free | remote | ⟨_, _, attached⟩
    · exact absurd free.1 inUse
    · exact absurd remote.2.1 hasServer
    · rcases attached with ⟨srvidx, srvLower, srvUpper, same, status⟩
      have index : srvid2idx (tables.svctbl idx).server = srvidx := by
        rw [same]
        exact id2idx_add isMask_server srvLower (by omega)
      rw [index]
      exact ⟨srvLower, srvUpper, status⟩

theorem doDetach_withdraws (ok : TablesOk tables) {dm : Attach} (server : dm.server ≠ 0)
    (isServer : tables.ServerId dm.srvid) (lower : 0 ≤ idx) (upper : idx < tables.svctblLength) :
    ((tables.doDetach dm).svctbl idx).server ≠ dm.srvid := by
  have gone := (ok.dropServer isServer).2 idx lower upper
  rw [Tables.doDetach, if_neg server]
  split_ifs
  · exact gone
  · rw [(delclient_sameServices _ _).svctbl]
    exact gone

theorem attachClient_srvid (tables : Tables) (areq : Attach) :
    (tables.attachClient areq).1.srvid = areq.srvid := by
  grind [Tables.attachClient]

/-- The id a new server gets names none of the services there are. -/
theorem doAttach_fresh (ok : TablesOk tables) (status : Status) (areq : Attach)
    (attached : (tables.doAttach status areq).1.srvid ≠ unassigned) (lower : 0 ≤ idx)
    (upper : idx < tables.svctblLength) :
    ((tables.doAttach status areq).2.svctbl idx).server ≠ (tables.doAttach status areq).1.srvid := by
  have fits := tables.srvtblFits
  rw [Tables.doAttach] at attached ⊢
  dsimp only at attached ⊢
  split_ifs at attached ⊢ with dead down noServer gateway full
  · exact absurd rfl attached
  · exact absurd rfl attached
  · simp [attachClient_srvid] at attached
  · exact absurd rfl attached
  · exact absurd rfl attached
  · rw [attachClient_srvid, (attachClient_sameServices _ _).svctbl]
    rcases addserver_spec tables areq.ipcqid areq.pid with
      refused | ⟨srvidx, srvLower, srvUpper, isFree, added⟩
    · rw [refused] at full
      exact absurd (rcOf_neg .ENOSPC) full
    · rw [added]
      change (tables.svctbl idx).server ≠ srvidx + mwServerMask
      have assigned := add_mask_ne_unassigned isMask_server srvLower
        (by omega : srvidx < 16777216)
      intro same
      rcases ok idx lower upper with free | remote | ⟨_, _, other, _, _, isOther, inUse⟩
      · exact assigned (same.symm.trans free.2.1)
      · exact assigned (same.symm.trans remote.2.1)
      · simp_all

/-- In every state of every run the service table is consistent, a detach leaves none of the
services of the server, and a server that attaches finds none under its id. -/
theorem tables_consistent {tables : Tables}
    (reachable : mwd.Reachable (fun _ _ => True) tables) :
    Consistent tables ∧
      (∀ dm : Attach, dm.server ≠ 0 → tables.ServerId dm.srvid → ∀ idx : Int, 0 ≤ idx →
        idx < tables.svctblLength → ((tables.doDetach dm).svctbl idx).server ≠ dm.srvid) ∧
      ∀ status areq, (tables.doAttach status areq).1.srvid ≠ unassigned → ∀ idx : Int, 0 ≤ idx →
        idx < tables.svctblLength →
        ((tables.doAttach status areq).2.svctbl idx).server ≠
          (tables.doAttach status areq).1.srvid := by
  have ok : TablesOk tables := reachable.holds (fun _ (initial : Initial _) => initial.ok) tablesOk_kept
  refine ⟨ok.consistent, ?_, ?_⟩
  · simp_all [doDetach_withdraws]
  · simp_all [doAttach_fresh]

/-- Tables of two entries each, as `init_tables` leaves them. -/
def emptyTables : Tables where
  clttblLength := 2
  srvtblLength := 2
  svctblLength := 2
  gwtblLength := 2
  clttblFits := by decide
  srvtblFits := by decide
  svctblFits := by decide
  svctblNonempty := by decide
  gwtblFits := by decide
  clttbl := fun _ => ⟨unassigned, 0, unassigned, unassigned, unassigned, 0⟩
  srvtbl := fun _ => ⟨unassigned, unassigned, unassigned, 0⟩
  svctbl := fun _ => ⟨unassigned, 0, unassigned, unassigned, 0, []⟩
  gwtbl := fun _ => ⟨0, 0, unassigned, unassigned, unassigned⟩
  nextClient := 0
  nextServer := 0
  nextService := 0
  events := []
  used := []

theorem emptyTables_initial : Initial emptyTables :=
  ⟨fun _ => rfl, fun _ => rfl, fun _ => ⟨rfl, rfl, rfl, rfl⟩, fun _ => rfl, rfl⟩

/-- A process that attaches as a server, and then provides a service. -/
def oneServerAttach : Attach := ⟨5, 100, 1, unassigned, 0, unassigned, -1, 0⟩

def oneProvide : Provide := ⟨mwServerMask, 0, -1, [83], 0, false, 0⟩

def oneServerTables : Tables := (emptyTables.doAttach .ready oneServerAttach).2

theorem oneServerTables_reachable : mwd.Reachable (fun _ _ => True) oneServerTables :=
  .step (.start emptyTables_initial)
    (show mwd.enabled emptyTables (.attach .ready oneServerAttach) from trivial) trivial rfl

theorem tables_consistent_one_server :
    ∃ tables, oneServerTables.handle (.provide .ready oneProvide) = .ok tables ∧
      (tables.svctbl 0).server = mwServerMask ∧ Consistent tables := by
  have done : ∃ tables, oneServerTables.handle (.provide .ready oneProvide) = .ok tables :=
    ⟨_, rfl⟩
  rcases done with ⟨tables, stepped⟩
  have issued : mwd.enabled oneServerTables (.provide .ready oneProvide) :=
    fun _ => ⟨0, by decide, by decide, by decide⟩
  have reachable := Machine.Reachable.step oneServerTables_reachable issued trivial stepped
  refine ⟨tables, stepped, ?_, (tables_consistent reachable).1⟩
  cases stepped
  decide

end MidWay.Mwd

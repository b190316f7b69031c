import Mathlib.Data.Set.Insert
import MidWay.Mwd.Consistency

/-!
Contract: when the service events of `mwd` are a log of its service table.

The event of a new service has the id of the service, that of a deleted one its
index. So an unprovide event takes nothing out of what the provide events have
put in, and the log is right as long as no service in use is deleted.

Owns: the set of services a log describes, the steps that delete no service, and
what holds in every run of such steps.
-/

namespace MidWay.Mwd

open MidWay.CLib MidWay.Lib

variable {tables after before start : Tables} {dead : Int → Bool} {idx : Nat}

abbrev ServiceRecord := Int × List Byte × Int

def ServiceEvent.record (event : ServiceEvent) : ServiceRecord :=
  (event.svcid, event.name, event.provider)

def logEvent (services : Set ServiceRecord) (event : ServiceEvent) : Set ServiceRecord :=
  match event.kind with
  | .provide => insert event.record services
  | .unprovide => services \ {event.record}

def logged (events : List ServiceEvent) : Set ServiceRecord := events.foldl logEvent ∅

def serviceRecord (idx : Int) (entry : Serviceentry) : ServiceRecord :=
  (idx2svcid idx, entry.servicename, entry.provider)

structure Tables.InUse (tables : Tables) (idx : Int) : Prop where
  lower : 0 ≤ idx
  upper : idx < tables.svctblLength
  type : (tables.svctbl idx).type ≠ unassigned

def Tables.servicesInUse (tables : Tables) : Set ServiceRecord :=
  { record | ∃ idx, tables.InUse idx ∧ record = serviceRecord idx (tables.svctbl idx) }

/-- The request deletes no service in use: it names no such service or its provider, and the
watchdog finds the providers of all services alive. -/
def Tables.KeepsServices (tables : Tables) : Request → Prop
  | .detach dm => dm.server ≠ 0 → ∀ idx, tables.InUse idx → (tables.svctbl idx).server ≠ dm.srvid
  | .unprovide pmesg =>
      svcidOf pmesg.svcid ≠ unassigned → ¬tables.InUse (indexOf pmesg.svcid)
  | .check dead => ∀ idx, tables.InUse idx →
      (∀ srvidx : Nat, srvidx < tables.srvtblLength →
        (tables.svctbl idx).server = idx2srvid srvidx → (tables.srvtbl srvidx).pid > 1 →
        dead (tables.srvtbl srvidx).pid = false) ∧
      ((tables.svctbl idx).gateway > 0 →
        (tables.gwtbl (gwid2idx (tables.svctbl idx).gateway)).pid ≠ unassigned ∧
        (0 ≤ gwid2idx (tables.svctbl idx).gateway →
          gwid2idx (tables.svctbl idx).gateway < tables.gwtblLength →
          (tables.gwtbl (gwid2idx (tables.svctbl idx).gateway)).pid > 1 →
          dead (tables.gwtbl (gwid2idx (tables.svctbl idx).gateway)).pid = false))
  | .attach _ _ | .provide _ _ | .gateways _ => True

/-- The services in use stay as they are, no entry is taken, and all events are of deletions. -/
structure Silent (before after : Tables) : Prop where
  svctblLength : after.svctblLength = before.svctblLength
  kept : ∀ idx, before.InUse idx → after.svctbl idx = before.svctbl idx
  free : ∀ idx : Int, 0 ≤ idx → idx < before.svctblLength →
    (before.svctbl idx).type = unassigned →
    after.svctbl idx = before.svctbl idx ∨ after.svctbl idx = (before.svctbl idx).cleared
  events : ∃ extra, after.events = before.events ++ extra ∧
    ∀ event ∈ extra, event.kind = .unprovide ∧ event.svcid < 16777216

theorem Silent.of_same {before after : Tables} (length : after.svctblLength = before.svctblLength)
    (svctbl : after.svctbl = before.svctbl) (events : after.events = before.events) :
    Silent before after := by
  refine ⟨length, ?_, ?_, [], ?_, List.forall_mem_nil _⟩
  · simp [svctbl]
  · simp [svctbl, Or.inl]
  · rw [events, List.append_nil]

theorem Silent.refl (tables : Tables) : Silent tables tables := Silent.of_same rfl rfl rfl

theorem Unchanged.silent (same : Unchanged before after) :
    Silent before after := Silent.of_same same.members.svctblLength same.svctbl same.events
theorem SameServices.silent (same : SameServices before after) :
    Silent before after := Silent.of_same same.svctblLength same.svctbl same.events
theorem Silent.inUse (silent : Silent before after) {idx : Int} :
    after.InUse idx ↔ before.InUse idx := by
  constructor
  · intro isIn
    have upper : idx < before.svctblLength := by
      rw [← silent.svctblLength]
      exact isIn.upper
    refine ⟨isIn.lower, upper, ?_⟩
    intro isFree
    rcases silent.free idx isIn.lower upper isFree with same | cleared
    · exact isIn.type (by rw [same]; exact isFree)
    · exact isIn.type (by rw [cleared]; rfl)
  · intro isIn
    refine ⟨isIn.lower, ?_, ?_⟩
    · simp [silent.svctblLength, isIn.upper]
    · simp_all [silent.kept, isIn.type]

theorem Silent.trans {first second third : Tables} (before : Silent first second)
    (after : Silent second third) : Silent first third := by
  refine ⟨after.svctblLength.trans before.svctblLength, ?_, ?_, ?_⟩
  · intro idx isIn
    rw [after.kept idx (before.inUse.mpr isIn), before.kept idx isIn]
  · intro idx lower upper isFree
    have stillFree : (second.svctbl idx).type = unassigned := by
      rcases before.free idx lower upper isFree with same | cleared
      · simp [same, isFree]
      · rw [cleared]
        rfl
    have inside : idx < second.svctblLength := by
      simp [before.svctblLength, upper]
    rcases after.free idx lower inside stillFree with same | cleared
    · simp_all [before.free]
    · refine Or.inr ?_
      rcases before.free idx lower upper isFree with unchanged | again
      · rw [cleared, unchanged]
      · rw [cleared, again]
        rfl
  · rcases before.events with ⟨extra, append, all⟩
    rcases after.events with ⟨more, appendMore, allMore⟩
    grind

/-- The log is right, free entries have no server, and no service is of a type that is a
location. -/
structure Faithful (tables : Tables) : Prop where
  log : logged tables.events = tables.servicesInUse
  noServer : ∀ idx : Int, 0 ≤ idx → idx < tables.svctblLength →
    (tables.svctbl idx).type = unassigned → (tables.svctbl idx).server = unassigned
  types : ∀ idx, tables.InUse idx → IsSvcType (tables.svctbl idx).type

/-- An index is not the id of a service, so its deletion is not seen. -/
theorem logEvent_index {services : Set ServiceRecord} (ids : ∀ record ∈ services, 16777216 ≤ record.1)
    {event : ServiceEvent} (isDeletion : event.kind = .unprovide) (isIndex : event.svcid < 16777216) :
    logEvent services event = services := by
  unfold logEvent
  rw [isDeletion]
  dsimp only
  apply Set.ext
  intro record
  constructor
  · simp_all
  · intro member
    refine ⟨member, ?_⟩
    intro isEvent
    have isId := ids record member
    rw [Set.mem_singleton_iff.mp isEvent] at isId
    change 16777216 ≤ event.svcid at isId
    omega

theorem foldl_logEvent_index {services : Set ServiceRecord}
    (ids : ∀ record ∈ services, 16777216 ≤ record.1) (extra : List ServiceEvent)
    (all : ∀ event ∈ extra, event.kind = .unprovide ∧ event.svcid < 16777216) :
    extra.foldl logEvent services = services := by
  induction extra with
  | nil => rfl
  | cons event rest ih =>
      grind [logEvent_index]

theorem servicesInUse_ids (tables : Tables) :
    ∀ record ∈ tables.servicesInUse, 16777216 ≤ record.1 := by
  intro record member
  rcases member with ⟨idx, isIn, isRecord⟩
  have lower := isIn.lower
  rw [isRecord]
  change 16777216 ≤ idx2svcid idx
  rw [idx2svcid_eq lower isIn.upper, mwServiceMask]
  omega

theorem Silent.servicesInUse (silent : Silent before after) :
    after.servicesInUse = before.servicesInUse := by
  apply Set.ext
  intro record
  constructor
  · intro member
    rcases member with ⟨idx, isIn, isRecord⟩
    have wasIn := silent.inUse.mp isIn
    rw [silent.kept idx wasIn] at isRecord
    exact ⟨idx, wasIn, isRecord⟩
  · intro member
    rcases member with ⟨idx, wasIn, isRecord⟩
    rw [← silent.kept idx wasIn] at isRecord
    exact ⟨idx, silent.inUse.mpr wasIn, isRecord⟩

theorem Faithful.silent (faithful : Faithful before) (silent : Silent before after) :
    Faithful after := by
  refine ⟨?_, ?_, ?_⟩
  · rcases silent.events with ⟨extra, append, all⟩
    unfold logged
    rw [append, List.foldl_append, silent.servicesInUse, ← faithful.log]
    change extra.foldl logEvent (logged before.events) = logged before.events
    apply foldl_logEvent_index _ extra all
    rw [faithful.log]
    exact servicesInUse_ids before
  · intro idx lower upper isFree
    rw [silent.svctblLength] at upper
    by_cases wasFree : (before.svctbl idx).type = unassigned
    · rcases silent.free idx lower upper wasFree with same | cleared
      · simp_all [faithful.noServer]
      · rw [cleared]
        rfl
    · rw [silent.kept idx ⟨lower, upper, wasFree⟩] at isFree
      exact absurd isFree wasFree
  · intro idx isIn
    have wasIn := silent.inUse.mp isIn
    rw [silent.kept idx wasIn]
    exact faithful.types idx wasIn

/-- A new service is in the log and in the table. -/
theorem Faithful.added (faithful : Faithful before) {provider idx : Int} {entry : Serviceentry}
    (added : Added provider before after idx entry) (isProvider : entry.provider = provider) :
    Faithful after := by
  have length := added.members.svctblLength
  have here : after.svctbl idx = entry := by
    rw [added.svctbl, Function.update_self]
  have others {other : Int} (different : other ≠ idx) : after.svctbl other = before.svctbl other := by
    rw [added.svctbl, Function.update_of_ne different]
  have isNew : after.InUse idx := by
    refine ⟨added.lower, ?_, ?_⟩
    · rw [length]
      exact added.upper
    · rw [here]
      exact added.isType.ne_unassigned
  have sameUse {other : Int} (different : other ≠ idx) : after.InUse other ↔ before.InUse other := by
    constructor
    · intro isIn
      exact ⟨isIn.lower, by rw [← length]; exact isIn.upper, by
        rw [← others different]
        exact isIn.type⟩
    · intro isIn
      exact ⟨isIn.lower, by rw [length]; exact isIn.upper, by
        rw [others different]
        exact isIn.type⟩
  refine ⟨?_, ?_, ?_⟩
  · have record : serviceRecord idx (after.svctbl idx) =
        (idx + mwServiceMask, entry.servicename, provider) := by
      rw [serviceRecord, here, idx2svcid_eq added.lower added.upper, isProvider]
    unfold logged
    rw [added.events, List.foldl_append]
    change insert (idx + mwServiceMask, entry.servicename, provider) (logged before.events) = _
    rw [faithful.log, ← record]
    apply Set.ext
    intro other
    constructor
    · intro member
      rcases member with isHere | ⟨old, wasIn, isRecord⟩
      · exact ⟨idx, isNew, isHere⟩
      · have different : old ≠ idx := by
          intro same
          rw [same] at wasIn
          exact wasIn.type added.free
        rw [← others different] at isRecord
        exact ⟨old, (sameUse different).mpr wasIn, isRecord⟩
    · intro member
      rcases member with ⟨old, isIn, isRecord⟩
      by_cases same : old = idx
      · simp_all [Or.inl]
      · rw [others same] at isRecord
        exact Or.inr ⟨old, (sameUse same).mp isIn, isRecord⟩
  · intro other lower upper isFree
    have different : other ≠ idx := by
      intro same
      rw [same, here] at isFree
      exact added.isType.ne_unassigned isFree
    simp_all [length, others, faithful.noServer]
  · intro other isIn
    by_cases same : other = idx
    · rw [same, here]
      exact added.isType
    · simp_all [faithful.types]

theorem doAttach_silent (tables : Tables) (status : Status) (areq : Attach) :
    Silent tables (tables.doAttach status areq).2 := by
  unfold Tables.doAttach
  dsimp only
  split_ifs
  · exact Silent.refl tables
  · exact Silent.refl tables
  · exact (attachClient_sameServices tables _).silent
  · exact Silent.refl tables
  all_goals
    rcases addserver_spec tables areq.ipcqid areq.pid with refused | ⟨srvidx, _, _, _, added⟩
  · simp [refused, Silent.refl]
  · rw [added]
    exact Silent.of_same rfl rfl rfl
  · rw [refused]
    exact (attachClient_sameServices tables _).silent
  · rw [added]
    have server : Silent tables
        { tables.setServer srvidx ⟨areq.ipcqid, areq.pid, 0, unassigned⟩ with
          nextServer := Fin.ofNat (tables.srvtblLength + 1) (srvidx.toNat + 1) } :=
      Silent.of_same rfl rfl rfl
    exact server.trans (attachClient_sameServices _ _).silent

/-- Entries of a provider that are not in use are cleared once more. -/
theorem Dropped.silent {srvid : Int} (dropped : Dropped srvid before.svctblLength before after)
    (noneInUse : ∀ idx, before.InUse idx → (before.svctbl idx).server ≠ srvid) :
    Silent before after := by
  refine ⟨dropped.members.svctblLength, ?_, ?_, dropped.events⟩
  · intro idx isIn
    simp [dropped.stays, Or.inr, noneInUse, isIn]
  · intro idx lower upper _
    by_cases own : (before.svctbl idx).server = srvid
    · have isNat : ((idx.toNat : Nat) : Int) = idx := Int.toNat_of_nonneg lower
      have gone := dropped.gone idx.toNat (by omega)
      rw [isNat] at gone
      exact Or.inr (gone own)
    · apply Or.inl
      apply dropped.stays
      intro nat _
      exact Or.inr own

theorem delallservices_silent {sid srvid : Int}
    (noneInUse : ∀ idx, tables.InUse idx → (tables.svctbl idx).server ≠ srvid) :
    Silent tables ((tables.delserver sid).delallservices srvid) := by
  have server : Silent tables (tables.delserver sid) := Silent.of_same rfl rfl rfl
  apply server.trans
  apply (delallservices_dropped (tables.delserver sid) srvid).silent
  intro idx isIn
  exact noneInUse idx (server.inUse.mp isIn)

theorem doDetach_silent {dm : Attach}
    (noneInUse : dm.server ≠ 0 → ∀ idx, tables.InUse idx → (tables.svctbl idx).server ≠ dm.srvid) :
    Silent tables (tables.doDetach dm) := by
  have servers : Silent tables (if dm.server = 0 then tables
      else (tables.delserver dm.srvid).delallservices dm.srvid) := by
    split_ifs with noServer
    · exact Silent.refl tables
    · exact delallservices_silent (noneInUse noServer)
  rw [Tables.doDetach]
  generalize (if dm.server = 0 then tables
      else (tables.delserver dm.srvid).delallservices dm.srvid) = detached at servers ⊢
  split_ifs
  · exact servers
  · exact servers.trans (delclient_sameServices _ _).silent

theorem delservice_silent {svcid : Int}
    (notInUse : svcidOf svcid ≠ unassigned → ¬tables.InUse (indexOf svcid)) :
    Silent tables (tables.delservice svcid).2 := by
  have members := delservice_sameMembers tables svcid
  by_cases isService : svcidOf svcid = unassigned
  · simp_all [Tables.delservice, Silent.refl]
  · rcases delservice_deleted isService tables with ⟨svctbl, events⟩
    refine ⟨members.svctblLength, ?_, ?_, [unprovideEvent (indexOf svcid) _], events, ?_⟩
    · intro idx isIn
      have different : idx ≠ indexOf svcid := by
        grind
      rw [svctbl, Function.update_of_ne different]
    · intro idx _ _ _
      rw [svctbl]
      grind
    · intro event member
      rw [List.mem_singleton.mp member]
      exact ⟨rfl, indexOf_lt svcid⟩

theorem doUnprovide_silent {pmesg : Provide}
    (notInUse : svcidOf pmesg.svcid ≠ unassigned → ¬tables.InUse (indexOf pmesg.svcid)) :
    Silent tables (tables.doUnprovide pmesg).2 := by
  unfold Tables.doUnprovide
  cases tables.getserviceentry (svcidOf pmesg.svcid) with
  | none => exact Silent.refl tables
  | some idx =>
      dsimp only
      have read : Silent tables
          ((tables.use .service idx false).useProvider (tables.svctbl idx)) :=
        (use_unchanged tables _ _ _).silent.trans (useProvider_unchanged _ _).silent
      apply read.trans
      apply delservice_silent
      intro isService isIn
      exact notInUse isService (read.inUse.mp isIn)

/-- A provide answers without a trace, or adds one service to the table and to the log. -/
theorem Faithful.doProvide (faithful : Faithful tables) {status : Status} {pmesg : Provide}
    {result : Provide × Tables} (done : tables.doProvide status pmesg = .ok result) :
    Faithful result.2 := by
  rcases doProvide_spec done with same | ⟨server, _, idx, added⟩ |
    ⟨_, _, ⟨gwidx, found⟩, _, idx, _, added⟩
  · exact faithful.silent same.silent
  · exact faithful.added added (if_pos server)
  · apply faithful.added added
    have noServer := faithful.noServer idx added.lower added.upper added.free
    have notZero : pmesg.gwid ≠ 0 := by
      intro isZero
      rw [isZero] at found
      unfold Tables.getGatewayById entryById at found
      rw [if_pos (by decide)] at found
      cases found
    simp_all [noServer, if_neg, if_pos, Serviceentry.provider, Serviceentry.imported]

/-- What the watchdog has left after some turns: the services, and each server and gateway but
for those whose process is gone. -/
structure Watched (dead : Int → Bool) (start tables : Tables) : Prop where
  silent : Silent start tables
  srvtblLength : tables.srvtblLength = start.srvtblLength
  gwtblLength : tables.gwtblLength = start.gwtblLength
  servers : ∀ idx, (tables.srvtbl idx).pid > 1 → (tables.srvtbl idx).pid = (start.srvtbl idx).pid
  gateways : ∀ idx, (tables.gwtbl idx).pid = (start.gwtbl idx).pid ∨
    (0 ≤ idx ∧ idx < start.gwtblLength ∧ (start.gwtbl idx).pid > 1 ∧
      dead (start.gwtbl idx).pid = true)

theorem Watched.refl (dead : Int → Bool) (tables : Tables) : Watched dead tables tables :=
  ⟨Silent.refl tables, rfl, rfl, fun _ _ => rfl, fun _ => Or.inl rfl⟩

theorem Watched.of_sameServices (watched : Watched dead start tables)
    (same : SameServices tables after) :
    Watched dead start after := by
  refine ⟨watched.silent.trans same.silent, same.srvtblLength.trans watched.srvtblLength,
    same.gwtblLength.trans watched.gwtblLength, ?_, ?_⟩
  · rw [same.srvtbl]
    exact watched.servers
  · simp [same.gwtbl, watched.gateways]

theorem Watched.checkServer {dead : Int → Bool} {start tables : Tables}
    (watched : Watched dead start tables) {idx : Nat} (inside : idx < start.srvtblLength)
    (alive : ∀ svcidx, start.InUse svcidx → (start.svctbl svcidx).server = idx2srvid idx →
      (start.srvtbl idx).pid > 1 → dead (start.srvtbl idx).pid = false) :
    Watched dead start (tables.checkServer dead idx) := by
  unfold Tables.checkServer
  split_ifs with died
  · have fits := start.srvtblFits
    have index : srvid2idx (orMask mwServerMask idx) = idx := by
      rw [orMask_index isMask_server (Int.natCast_nonneg idx) (by omega)]
      exact id2idx_add isMask_server (Int.natCast_nonneg idx) (by omega)
    have samePid := watched.servers idx died.1
    rw [samePid] at died
    have noneInUse : ∀ svcidx, tables.InUse svcidx →
        (tables.svctbl svcidx).server ≠ idx2srvid idx := by
      intro svcidx isIn isServer
      have wasIn := watched.silent.inUse.mp isIn
      rw [watched.silent.kept svcidx wasIn] at isServer
      have isAlive := alive svcidx wasIn isServer died.1
      rw [died.2] at isAlive
      cases isAlive
    have members := (delallservices_dropped (tables.delserver (orMask mwServerMask idx))
      (idx2srvid idx)).members
    refine ⟨watched.silent.trans (delallservices_silent noneInUse),
      members.srvtblLength.trans watched.srvtblLength,
      members.gwtblLength.trans watched.gwtblLength, ?_, ?_⟩
    · intro other hasPid
      rw [members.srvtbl] at hasPid ⊢
      unfold Tables.delserver Tables.setServer at hasPid ⊢
      dsimp only at hasPid ⊢
      rw [index] at hasPid ⊢
      by_cases same : other = idx
      · rw [same, Function.update_self] at hasPid
        have noPid : ¬unassigned > 1 := by decide
        exact absurd hasPid noPid
      · rw [Function.update_of_ne same] at hasPid ⊢
        exact watched.servers other hasPid
    · rw [members.gwtbl]
      exact watched.gateways
  · exact watched

theorem Watched.checkGateway (watched : Watched dead start tables)
    (inside : idx < start.gwtblLength) :
    Watched dead start (tables.checkGateway dead idx) := by
  unfold Tables.checkGateway
  split_ifs with died
  · have clients : Watched dead start
        ((List.range tables.clttblLength).foldl (Tables.delclientOf (idx2gwid idx)) tables) :=
      foldl_range_keeps
        (fun before idx _ held => held.of_sameServices (delclientOf_sameServices _ before idx))
        watched
    have sameGateways : ((List.range tables.clttblLength).foldl
        (Tables.delclientOf (idx2gwid idx)) tables).gwtbl = tables.gwtbl :=
      (@foldl_range_keeps (fun after => SameServices tables after) _ _
        (fun before idx _ held => held.trans (delclientOf_sameServices _ before idx))
        tables (SameServices.refl tables)).gwtbl
    dsimp only
    generalize (List.range tables.clttblLength).foldl (Tables.delclientOf (idx2gwid idx)) tables =
      after at clients sameGateways
    refine ⟨clients.silent.trans (Silent.of_same rfl rfl rfl), clients.srvtblLength,
      clients.gwtblLength, clients.servers, ?_⟩
    intro other
    change (Function.update after.gwtbl (idx : Int) _ other).pid = _ ∨ _
    by_cases same : other = idx
    · rcases watched.gateways idx with samePid | isDead
      · simp_all [Or.inr]
      · simp_all [Or.inr]
    · rw [Function.update_of_ne same]
      exact clients.gateways other
  · exact watched

/-- Services whose providers are alive are passed over. -/
theorem Watched.checkService (watched : Watched dead start tables)
    (types : ∀ idx, start.InUse idx → IsSvcType (start.svctbl idx).type)
    (keeps : start.KeepsServices (.check dead)) (inside : idx < start.svctblLength) :
    Watched dead start (tables.checkService idx) := by
  have read (table : TableName) (index : Int) : Watched dead start (tables.use table index false) :=
    ⟨watched.silent.trans (Silent.of_same rfl rfl rfl), watched.srvtblLength, watched.gwtblLength,
      watched.servers, watched.gateways⟩
  unfold Tables.checkService
  dsimp only
  by_cases free : (tables.svctbl idx).type = unassigned
  · simp_all
  have isIn : tables.InUse idx := by
    refine ⟨Int.natCast_nonneg idx, ?_, free⟩
    simp_all [watched.silent.svctblLength]
  have wasIn := watched.silent.inUse.mp isIn
  have sameEntry := watched.silent.kept idx wasIn
  have notLocation : ¬((tables.svctbl idx).type = gwLocal ∧ (tables.svctbl idx).server > 0) := by
    intro isLocal
    rw [sameEntry] at isLocal
    rcases types idx wasIn with isCall | isConv
    · exact absurd (isCall.symm.trans isLocal.1) (by decide)
    · exact absurd (isConv.symm.trans isLocal.1) (by decide)
  rw [if_neg free, if_neg notLocation]
  split_ifs with remote gone
  · exfalso
    rw [sameEntry] at remote gone
    rcases (keeps idx wasIn).2 remote with ⟨hasPid, alive⟩
    rcases watched.gateways (gwid2idx (start.svctbl idx).gateway) with samePid |
      ⟨lower, upper, positive, isDead⟩
    · exact hasPid (samePid.symm.trans gone)
    · simp_all
  · exact read _ _
  · exact watched

theorem checkTables_silent (faithful : Faithful tables)
    (keeps : tables.KeepsServices (.check dead)) : Silent tables (tables.checkTables dead) := by
  rw [Tables.checkTables]
  have clients : Watched dead tables
      ((List.range tables.clttblLength).foldl (Tables.checkClient dead) tables) :=
    foldl_range_keeps
      (fun before idx _ held => held.of_sameServices (checkClient_sameServices dead before idx))
      (Watched.refl dead tables)
  generalize (List.range tables.clttblLength).foldl (Tables.checkClient dead) tables = first
    at clients
  have servers : Watched dead tables
      ((List.range first.srvtblLength).foldl (Tables.checkServer dead) first) := by
    apply foldl_range_keeps _ clients
    intro before idx inside held
    rw [clients.srvtblLength] at inside
    apply held.checkServer inside
    intro svcidx isIn isServer positive
    exact (keeps svcidx isIn).1 idx inside isServer positive
  generalize (List.range first.srvtblLength).foldl (Tables.checkServer dead) first = second
    at servers
  have gateways : Watched dead tables
      ((List.range second.gwtblLength).foldl (Tables.checkGateway dead) second) := by
    apply foldl_range_keeps _ servers
    intro before idx inside held
    rw [servers.gwtblLength] at inside
    exact held.checkGateway inside
  generalize (List.range second.gwtblLength).foldl (Tables.checkGateway dead) second = third
    at gateways
  have services : Watched dead tables
      ((List.range third.svctblLength).foldl Tables.checkService third) := by
    apply foldl_range_keeps _ gateways
    intro before idx inside held
    rw [gateways.silent.svctblLength] at inside
    exact held.checkService faithful.types keeps inside
  exact services.silent

/-- The machine `mwd` with requests of any ids. -/
def mwdAnyIds : Machine Tables Request TableFailure :=
  { mwd with enabled := fun _ _ => True }

theorem faithful_kept : mwdAnyIds.Preserves Tables.KeepsServices Faithful := by
  intro tables request next faithful _ keeps stepped
  cases request with
  | attach status areq =>
      cases stepped
      exact faithful.silent (doAttach_silent tables status areq)
  | detach dm =>
      cases stepped
      exact faithful.silent (doDetach_silent keeps)
  | provide status pmesg =>
      change (tables.doProvide status pmesg).map Prod.snd = .ok next at stepped
      cases done : tables.doProvide status pmesg with
      | error failure =>
          rw [done] at stepped
          cases stepped
      | ok result =>
          rw [done] at stepped
          cases stepped
          exact faithful.doProvide done
  | unprovide pmesg =>
      cases stepped
      exact faithful.silent (doUnprovide_silent keeps)
  | check dead =>
      cases stepped
      exact faithful.silent (checkTables_silent faithful keeps)
  | gateways gwtbl =>
      cases stepped
      exact faithful.silent (Silent.of_same rfl rfl rfl)

theorem Initial.faithful (initial : Initial tables) : Faithful tables := by
  have noneInUse (idx : Int) : ¬tables.InUse idx := by
    intro isIn
    exact isIn.type (initial.svctbl idx).1
  refine ⟨?_, fun idx _ _ _ => (initial.svctbl idx).2.1, ?_⟩
  · rw [initial.events]
    apply Set.ext
    intro record
    constructor
    · intro member
      exact absurd member (Set.notMem_empty record)
    · intro member
      rcases member with ⟨idx, isIn, _⟩
      exact absurd isIn (noneInUse idx)
  · simp [noneInUse]

/-- In every run that deletes no service in use, the events folded over the empty set are the
services in use. -/
theorem events_log_services {tables : Tables}
    (reachable : mwdAnyIds.Reachable Tables.KeepsServices tables) :
    logged tables.events = tables.servicesInUse :=
  (reachable.holds (fun _ (initial : Initial _) => initial.faithful) faithful_kept).log

def oneServiceTables : Except TableFailure Tables :=
  oneServerTables.handle (.provide .ready oneProvide)

theorem oneServiceTables_reachable (done : oneServiceTables = .ok tables) :
    mwdAnyIds.Reachable Tables.KeepsServices tables :=
  .step (.step (.start emptyTables_initial)
    (show mwdAnyIds.enabled emptyTables (.attach .ready oneServerAttach) from trivial) trivial rfl)
    (show mwdAnyIds.enabled oneServerTables (.provide .ready oneProvide) from trivial) trivial done

theorem events_log_services_provided :
    ∃ tables, oneServiceTables = .ok tables ∧ logged tables.events = tables.servicesInUse ∧
      (mwServiceMask, [83], mwServerMask) ∈ tables.servicesInUse := by
  have done : ∃ tables, oneServiceTables = .ok tables := ⟨_, rfl⟩
  rcases done with ⟨tables, provided⟩
  refine ⟨tables, provided, events_log_services (oneServiceTables_reachable provided), ?_⟩
  cases provided
  exact ⟨0, ⟨by decide, by decide, by decide⟩, by decide⟩

def oneUnprovide : Provide := ⟨mwServerMask, mwServiceMask, -1, [], 0, false, 0⟩

theorem events_log_services_not_withdrawn :
    ∃ tables next, oneServiceTables = .ok tables ∧
      tables.handle (.unprovide oneUnprovide) = .ok next ∧
      mwdAnyIds.Reachable (fun _ _ => True) next ∧ logged next.events ≠ next.servicesInUse := by
  have done : ∃ tables, oneServiceTables = .ok tables := ⟨_, rfl⟩
  rcases done with ⟨tables, provided⟩
  refine ⟨tables, (tables.doUnprovide oneUnprovide).2, provided, rfl, ?_, ?_⟩
  · exact .step (.step (.step (.start emptyTables_initial)
      (show mwdAnyIds.enabled emptyTables (.attach .ready oneServerAttach) from trivial) trivial rfl)
      (show mwdAnyIds.enabled oneServerTables (.provide .ready oneProvide) from trivial) trivial
        provided)
      (show mwdAnyIds.enabled tables (.unprovide oneUnprovide) from trivial) trivial rfl
  · cases provided
    intro same
    have stillLogged : (mwServiceMask, [83], mwServerMask) ∈
        logged [⟨.provide, mwServiceMask, [83], mwServerMask⟩,
          ⟨.unprovide, 0, [83], mwServerMask⟩] := by
      refine ⟨Or.inl rfl, ?_⟩
      intro isIndex
      exact absurd (congrArg Prod.fst isIndex) (by decide)
    change logged [⟨.provide, mwServiceMask, [83], mwServerMask⟩,
      ⟨.unprovide, 0, [83], mwServerMask⟩] = _ at same
    rw [same] at stillLogged
    rcases stillLogged with ⟨idx, isIn, _⟩
    apply isIn.type
    have upper : idx < 2 := isIn.upper
    have lower := isIn.lower
    rcases (by omega : idx = 0 ∨ idx = 1) with rfl | rfl <;> decide

end MidWay.Mwd

import MidWay.Mwd.Consistency

/-!
Contract: for which requests the handlers of `mwd` stay inside the tables.

Ids are decoded by helpers that test different things: `delserver` tests nothing,
`_mw_getcliententry` and its like take the id zero for the first entry and let an
index equal to the length through, and only `_mw_get_server_byid` and its like
test the range. A provide that arrives during shutdown follows a null pointer.

Owns: the requests `parse_request` dispatches, what it means that a handler stays
inside the tables and writes only what the request is about, and the exact ids
for which it does.
-/

namespace MidWay.Mwd

open MidWay.CLib

variable {tables middle : Tables} {length : Nat} {mask : Int}

/-- A service call to `mwd`. `expired` and `replies` say how it goes: the deadline has
passed, or a reply is still due after the service function. -/
structure CallRequest where
  cltid : Int
  gwid : Int
  srvid : Int
  service : List Byte
  expired : Bool
  replies : Bool
deriving DecidableEq, Repr

/-- A request of full length, with the fields the tables are reached through. `answered` says
whether the buffer could be made. -/
inductive RequestMessage where
  | attach (areq : Attach)
  | detach (dm : Attach)
  | provide (pmesg : Provide)
  | unprovide (pmesg : Provide)
  | subscribe (senderid : Int)
  | unsubscribe (senderid : Int)
  | event
  | eventack
  | admin
  | call (callmsg : CallRequest)
  | alloc (mwid : Int) (answered : Bool)
  | free

def Tables.getClientById (tables : Tables) : Int → Option Int :=
  entryById mwClientMask tables.clttblLength fun idx => (tables.clttbl idx).status

/-- The lookup of the queue a message to `dest` goes to. -/
def Tables.getMqidByMwid (tables : Tables) (dest : Int) : Tables :=
  if hasMask mwServerMask dest then
    match tables.getServerById dest with
    | none => tables
    | some srvidx => tables.use .server srvidx false
  else if hasMask mwClientMask dest then
    match tables.getClientById dest with
    | none => tables
    | some cltidx => tables.use .client cltidx false
  else if hasMask mwGatewayMask dest then
    match tables.getGatewayById dest with
    | none => tables
    | some gwidx => tables.use .gateway gwidx false
  else tables

/-- The entry of `mwd` itself gets a new status. -/
def Tables.setMyStatus (tables : Tables) (myserverid status : Int) : Tables :=
  match tables.getServerById myserverid with
  | none => tables
  | some srvidx => tables.setServer srvidx { tables.srvtbl srvidx with status := status }

def mwReady : Int := 0
def mwShutdown : Int := 1
def mwBusy : Int := 3

/-- The text `.(shutdown)`. -/
def shutdownStatus : List Byte := [46, 40, 115, 104, 117, 116, 100, 111, 119, 110, 41]

def Tables.doCall (myserverid : Int) (callmsg : CallRequest) (tables : Tables) : Tables :=
  if callmsg.expired then (tables.getMqidByMwid callmsg.cltid).setMyStatus myserverid mwReady
  else
    let tables := tables.setMyStatus myserverid
      (if cstr callmsg.service = shutdownStatus then mwShutdown else mwBusy)
    if callmsg.replies then
      tables.getMqidByMwid (if callmsg.gwid = unassigned then callmsg.cltid else callmsg.gwid)
    else tables

def Tables.parseRequest (myserverid : Int) (status : Status) (tables : Tables) :
    RequestMessage → Except TableFailure Tables
  | .attach areq => .ok (tables.doAttach status areq).2
  | .detach dm => .ok (tables.doDetach dm)
  | .provide pmesg => (tables.doProvide status pmesg).map Prod.snd
  | .unprovide pmesg => .ok (tables.doUnprovide pmesg).2
  | .subscribe senderid | .unsubscribe senderid => .ok (tables.getMqidByMwid senderid)
  | .event | .eventack | .admin | .free => .ok tables
  | .call callmsg => .ok (tables.doCall myserverid callmsg)
  | .alloc mwid answered => .ok (if answered then tables.getMqidByMwid mwid else tables)

structure Names (mask : Int) (length : Nat) (id idx : Int) : Prop where
  assigned : id ≠ unassigned
  masked : hasMask mask id = true
  index : indexOf id = idx
  inside : idx < length

def Tables.lengthOf (tables : Tables) : TableName → Nat
  | .client => tables.clttblLength
  | .server => tables.srvtblLength
  | .service => tables.svctblLength
  | .gateway => tables.gwtblLength

/-- What the request is about: an entry its id names, a service of the server its id names, or a
free entry that it is to be given. -/
def About (tables : Tables) : RequestMessage → TableName → Int → Prop
  | .attach _, .server, idx => (tables.srvtbl idx).status = unassigned
  | .attach _, .client, idx => (tables.clttbl idx).status = unassigned
  | .detach dm, .server, idx => Names mwServerMask tables.srvtblLength dm.srvid idx
  | .detach dm, .client, idx => Names mwClientMask tables.clttblLength dm.cltid idx
  | .detach dm, .service, idx => (tables.svctbl idx).server = dm.srvid ∧
      ∃ srvidx, Names mwServerMask tables.srvtblLength dm.srvid srvidx
  | .provide _, .service, idx => (tables.svctbl idx).type = unassigned
  | .unprovide pmesg, .service, idx => Names mwServiceMask tables.svctblLength pmesg.svcid idx
  | .call callmsg, .server, idx => Names mwServerMask tables.srvtblLength callmsg.srvid idx
  | _, _, _ => False

/-- The entry is one of the table, and when it is written the request is about it. -/
structure Proper (tables : Tables) (message : RequestMessage) (use : Use) : Prop where
  lower : 0 ≤ use.index
  upper : use.index < tables.lengthOf use.table
  about : use.write = true → About tables message use.table use.index

/-- The uses `after` has more than `before` are all of this kind. -/
def Adds (allowed : Use → Prop) (before after : Tables) : Prop :=
  ∃ extra, after.used = before.used ++ extra ∧ ∀ use ∈ extra, allowed use

def StaysInside (myserverid : Int) (status : Status) (tables : Tables) (message : RequestMessage) :
    Prop :=
  ∃ after, tables.parseRequest myserverid status message = .ok after ∧
    Adds (Proper tables message) tables after

section Adds

variable {allowed : Use → Prop} {before after : Tables}

theorem Adds.refl (tables : Tables) : Adds allowed tables tables :=
  ⟨[], (List.append_nil _).symm, List.forall_mem_nil _⟩

theorem Adds.of_same (same : after.used = before.used) : Adds allowed before after :=
  ⟨[], by rw [same, List.append_nil], List.forall_mem_nil _⟩

theorem Adds.one {use : Use} (appended : after.used = before.used ++ [use])
    (isAllowed : allowed use) : Adds allowed before after :=
  ⟨[use], appended, List.forall_mem_singleton.mpr isAllowed⟩

theorem Adds.trans (first : Adds allowed before middle) (second : Adds allowed middle after) :
    Adds allowed before after := by
  rcases first with ⟨extra, appended, all⟩
  rcases second with ⟨more, appendedMore, allMore⟩
  refine ⟨extra ++ more, ?_, ?_⟩
  · rw [appendedMore, appended, List.append_assoc]
  · grind

theorem Adds.mono {wider : Use → Prop} (adds : Adds allowed before after)
    (widens : ∀ use, allowed use → wider use) : Adds wider before after := by
  rcases adds with ⟨extra, appended, all⟩
  exact ⟨extra, appended, fun use member => widens use (all use member)⟩

theorem Adds.part {earlier own later : Use → Prop} {next : Tables}
    (adds : Adds allowed before after) (first : Adds earlier before middle)
    (part : Adds own middle next) (rest : Adds later next after) : Adds allowed middle next := by
  rcases adds with ⟨extra, isExtra, all⟩
  rcases first with ⟨some, isSome, _⟩
  rcases part with ⟨here, isHere, _⟩
  rcases rest with ⟨more, isMore, _⟩
  have same : before.used ++ extra = before.used ++ (some ++ (here ++ more)) := by
    simp_all [List.append_assoc]
  rw [List.append_cancel_left same] at all
  refine ⟨here, isHere, ?_⟩
  simp_all

theorem Adds.use {earlier later : Use → Prop} {next : Tables} {use : Use}
    (adds : Adds allowed before after) (first : Adds earlier before middle)
    (appended : next.used = middle.used ++ [use]) (rest : Adds later next after) :
    allowed use := by
  have one : Adds (fun _ => True) middle next := Adds.one appended trivial
  rcases adds.part first one rest with ⟨extra, isExtra, all⟩
  simp_all

end Adds

theorem entryById_names {status : Int → Int} {id idx : Int}
    (found : entryById mask length status id = some idx) :
    hasMask mask id = true ∧ idx = indexOf id ∧ 0 ≤ idx ∧ idx < length := by
  unfold entryById at found
  split_ifs at found with unmasked beyond free
  cases found
  exact ⟨eq_true_of_ne_false unmasked, rfl, indexOf_nonneg id, by omega⟩

theorem getEntry_unmasked {id : Int} (notZero : id ≠ 0)
    (unknown : ¬(id ≠ unassigned ∧ hasMask mask id = true)) : getEntry mask length id = none := by
  have noIndex : id2idx mask id = unassigned := by
    unfold id2idx
    simp_all
  simp_all [getEntry]

theorem getEntry_masked {mask : Int} {length : Nat} {id : Int} (notZero : id ≠ 0)
    (assigned : id ≠ unassigned) (masked : hasMask mask id = true) :
    getEntry mask length id = if indexOf id > length then none else some (indexOf id) := by
  have isIndex : id2idx mask id = indexOf id := by
    rw [id2idx, if_pos assigned, if_pos masked]
  have notUnassigned : indexOf id ≠ unassigned := by
    have lower := indexOf_nonneg id
    rw [unassigned]
    omega
  simp_all [getEntry]

def IdInside (mask : Int) (length : Nat) (id : Int) : Prop :=
  (id = 0 → 0 < length) ∧
    (id ≠ 0 → id ≠ unassigned → hasMask mask id = true → indexOf id ≠ length)

theorem getEntry_inside_iff (mask : Int) (length : Nat) (id : Int) :
    (∀ idx, getEntry mask length id = some idx → 0 ≤ idx ∧ idx < length) ↔
      IdInside mask length id := by
  by_cases isZero : id = 0
  · have first : getEntry mask length id = some 0 := by
      rw [getEntry, if_neg (not_not.mpr isZero)]
    constructor
    · intro inside
      refine ⟨fun _ => ?_, fun notZero => absurd isZero notZero⟩
      exact Int.natCast_pos.mp (inside 0 first).2
    · intro isInside idx found
      rw [first] at found
      cases found
      exact ⟨Int.le_refl 0, Int.natCast_pos.mpr (isInside.1 isZero)⟩
  · by_cases known : id ≠ unassigned ∧ hasMask mask id = true
    · have entry := @getEntry_masked mask length id isZero known.1 known.2
      rw [entry]
      constructor
      · intro inside
        refine ⟨fun zero => absurd zero isZero, fun _ _ _ isLength => ?_⟩
        simp_all
      · intro isInside idx found
        have notLength := isInside.2 isZero known.1 known.2
        split_ifs at found with beyond
        cases found
        exact ⟨indexOf_nonneg id, by omega⟩
    · rw [getEntry_unmasked isZero known]
      constructor
      · intro _
        refine ⟨fun zero => absurd zero isZero, fun _ assigned masked => ?_⟩
        exact absurd ⟨assigned, masked⟩ known
      · simp

theorem getMqidByMwid_adds {start tables : Tables} (lengths : SameLengths start tables)
    (message : RequestMessage) (dest : Int) :
    Adds (Proper start message) tables (tables.getMqidByMwid dest) := by
  have read {table : TableName} {idx : Int} (lower : 0 ≤ idx) (upper : idx < start.lengthOf table) :
      Adds (Proper start message) tables (tables.use table idx false) :=
    Adds.one rfl ⟨lower, upper, fun isWrite => absurd isWrite Bool.false_ne_true⟩
  unfold Tables.getMqidByMwid
  split_ifs
  · cases found : tables.getServerById dest with
    | none => exact Adds.refl tables
    | some srvidx =>
        rcases entryById_names found with ⟨_, _, lower, upper⟩
        rw [lengths.srvtblLength] at upper
        exact read lower upper
  · cases found : tables.getClientById dest with
    | none => exact Adds.refl tables
    | some cltidx =>
        rcases entryById_names found with ⟨_, _, lower, upper⟩
        rw [lengths.clttblLength] at upper
        exact read lower upper
  · cases found : tables.getGatewayById dest with
    | none => exact Adds.refl tables
    | some gwidx =>
        rcases entryById_names found with ⟨_, _, lower, upper⟩
        rw [lengths.gwtblLength] at upper
        exact read lower upper
  · exact Adds.refl tables

theorem addserver_adds (tables : Tables) (areq : Attach) (mqid pid : Int) :
    Adds (Proper tables (.attach areq)) tables (tables.addserver mqid pid).2 := by
  rcases addserver_spec tables mqid pid with refused | ⟨srvidx, lower, upper, isFree, added⟩
  · simp [refused, Adds.refl]
  · rw [added]
    exact Adds.one rfl ⟨lower, upper, fun _ => isFree⟩

theorem addclient_adds (tables : Tables) (areq : Attach) (type mqid pid gwid : Int) :
    Adds (fun use => use.table = .client ∧ Proper tables (.attach areq) use) tables
      (tables.addclient type mqid pid gwid).2 := by
  unfold Tables.addclient
  cases found : searchFrom (fun idx => (tables.clttbl idx).status == unassigned) tables.nextClient
      tables.clttblLength with
  | none => exact Adds.refl tables
  | some cltidx =>
      rcases searchFrom_some found with ⟨isFree, lower, upper⟩
      have proper : Proper tables (.attach areq) ⟨.client, cltidx, true⟩ :=
        ⟨lower, upper, fun _ => eq_of_beq isFree⟩
      dsimp only
      split_ifs
      · exact Adds.one rfl ⟨rfl, proper⟩
      · exact Adds.one rfl ⟨rfl, proper⟩
      · exact Adds.of_same rfl

theorem attachClient_adds (tables : Tables) (areq request : Attach) :
    Adds (fun use => use.table = .client ∧ Proper tables (.attach areq) use) tables
      (tables.attachClient request).2 := by
  unfold Tables.attachClient
  dsimp only
  split_ifs <;> first
    | exact Adds.refl tables
    | exact addclient_adds tables areq _ _ _ _

theorem Proper.before_addserver {areq : Attach} {mqid pid : Int} {use : Use}
    (isClient : use.table = .client)
    (proper : Proper (tables.addserver mqid pid).2 (.attach areq) use) :
    Proper tables (.attach areq) use := by
  rcases addserver_spec tables mqid pid with refused | ⟨srvidx, _, _, _, added⟩
  · simp_all
  · rw [added] at proper
    rcases use with ⟨table, index, write⟩
    cases isClient
    exact ⟨proper.lower, proper.upper, proper.about⟩

theorem doAttach_adds (tables : Tables) (status : Status) (areq : Attach) :
    Adds (Proper tables (.attach areq)) tables (tables.doAttach status areq).2 := by
  unfold Tables.doAttach
  dsimp only
  split_ifs
  · exact Adds.refl tables
  · exact Adds.refl tables
  · exact (attachClient_adds tables areq _).mono fun _ proper => proper.2
  · exact Adds.refl tables
  · exact addserver_adds tables areq _ _
  · apply (addserver_adds tables areq areq.ipcqid areq.pid).trans
    apply (attachClient_adds _ areq _).mono
    intro use proper
    exact proper.2.before_addserver proper.1

theorem delservice_used {svcid : Int} (isService : svcidOf svcid ≠ unassigned) (tables : Tables) :
    (tables.delservice svcid).2.used = tables.used ++ [⟨.service, indexOf svcid, true⟩] := by
  unfold Tables.delservice
  rw [if_neg isService, svcid2idx_of_ne isService]
  rfl

theorem idx2svcid_names {idx : Nat} (fits : length ≤ 16777216) (inside : idx < length) :
    svcidOf (idx2svcid idx) ≠ unassigned ∧ indexOf (idx2svcid idx) = idx := by
  have lower : (0 : Int) ≤ idx := Int.natCast_nonneg idx
  have upper : (idx : Int) < 16777216 := by omega
  have id : idx2svcid idx = idx + mwServiceMask := idx2id_index isMask_service lower upper
  rw [id]
  constructor
  · rw [svcidOf, filterId_add isMask_service lower upper]
    exact add_mask_ne_unassigned isMask_service lower upper
  · exact indexOf_add isMask_service lower upper

/-- Only services of the server are written. -/
theorem delallservices_adds (tables : Tables) (srvid : Int) :
    Adds (fun use => ∃ idx : Nat, idx < tables.svctblLength ∧ use = ⟨.service, idx, true⟩ ∧
      (tables.svctbl idx).server = srvid) tables (tables.delallservices srvid) := by
  have upTo (count : Nat) (within : count ≤ tables.svctblLength) :
      Adds (fun use => ∃ idx : Nat, idx < tables.svctblLength ∧ use = ⟨.service, idx, true⟩ ∧
        (tables.svctbl idx).server = srvid) tables
        ((List.range count).foldl (Tables.delserviceOf srvid) tables) := by
    induction count with
    | zero => exact Adds.refl tables
    | succ count ih =>
        have before := ih (by omega)
        have dropped := @delserviceOf_dropped srvid tables count (by omega)
        rw [List.range_succ, List.foldl_append, List.foldl_cons, List.foldl_nil]
        apply before.trans
        generalize (List.range count).foldl (Tables.delserviceOf srvid) tables = middle
          at dropped ⊢
        have here : middle.svctbl (count : Int) = tables.svctbl (count : Int) := by
          apply dropped.stays
          omega
        unfold Tables.delserviceOf
        rw [here]
        split_ifs with hit
        · rcases idx2svcid_names tables.svctblFits (by omega : count < tables.svctblLength) with
            ⟨isService, index⟩
          grind [Adds.one, delservice_used]
        · exact Adds.refl middle
  exact upTo tables.svctblLength (Nat.le_refl _)

theorem hasMask_zero (isMask : IsMask mask) : hasMask mask 0 = false :=
  hasMask_index isMask (Int.le_refl 0) (by decide)

theorem srvid2idx_names {srvid idx : Int} (names : Names mwServerMask length srvid idx) :
    srvid2idx srvid = idx := by
  rw [srvid2idx, id2idx, if_pos names.assigned, if_pos names.masked, names.index]

/-- The part of `do_detach` for a server. -/
theorem detachServer_adds {dm : Attach} {srvidx : Int}
    (names : Names mwServerMask tables.srvtblLength dm.srvid srvidx) :
    Adds (Proper tables (.detach dm)) tables
      ((tables.delserver dm.srvid).delallservices dm.srvid) := by
  have lower : 0 ≤ srvidx := by
    rw [← names.index]
    exact indexOf_nonneg dm.srvid
  have server : Adds (Proper tables (.detach dm)) tables (tables.delserver dm.srvid) := by
    have proper : Proper tables (.detach dm) ⟨.server, srvid2idx dm.srvid, true⟩ := by
      rw [srvid2idx_names names]
      exact ⟨lower, names.inside, fun _ => names⟩
    exact Adds.one rfl proper
  apply server.trans
  apply (delallservices_adds (tables.delserver dm.srvid) dm.srvid).mono
  intro use own
  rcases own with ⟨idx, inside, rfl, isServer⟩
  exact ⟨Int.natCast_nonneg idx, Int.ofNat_lt.mpr inside, fun _ => ⟨isServer, srvidx, names⟩⟩

theorem delclient_adds {start : Tables} (lengths : SameLengths start tables) {dm : Attach}
    (notZero : dm.cltid ≠ 0) (inside : IdInside mwClientMask start.clttblLength dm.cltid) :
    Adds (Proper start (.detach dm)) tables (tables.delclient dm.cltid).2 := by
  unfold Tables.delclient
  cases found : tables.getcliententry dm.cltid with
  | none => exact Adds.refl tables
  | some idx =>
      unfold Tables.getcliententry at found
      rw [lengths.clttblLength] at found
      rcases (getEntry_inside_iff _ _ _).mpr inside idx found with ⟨lower, upper⟩
      have names : Names mwClientMask start.clttblLength dm.cltid idx := by
        by_cases known : dm.cltid ≠ unassigned ∧ hasMask mwClientMask dm.cltid = true
        · rw [getEntry_masked notZero known.1 known.2] at found
          split_ifs at found
          cases found
          exact ⟨known.1, known.2, rfl, upper⟩
        · simp_all [getEntry_unmasked]
      exact Adds.one rfl ⟨lower, upper, fun _ => names⟩

/-- The tables after the part of `do_detach` for a server. -/
def Tables.detachServer (tables : Tables) (dm : Attach) : Tables :=
  if dm.server = 0 then tables else (tables.delserver dm.srvid).delallservices dm.srvid

theorem doDetach_eq (tables : Tables) (dm : Attach) :
    tables.doDetach dm = if dm.client = 0 then tables.detachServer dm
      else ((tables.detachServer dm).delclient dm.cltid).2 := rfl

theorem detachServer_lengths (tables : Tables) (dm : Attach) :
    SameLengths tables (tables.detachServer dm) := by
  unfold Tables.detachServer
  split_ifs
  · exact ⟨rfl, rfl, rfl, rfl⟩
  · have members := (delallservices_dropped (tables.delserver dm.srvid) dm.srvid).members
    exact ⟨members.clttblLength, members.srvtblLength, members.svctblLength, members.gwtblLength⟩

/-- Where the ids of a detach lead: the one of a server to an entry, the one of a client to an
entry or to none, and not to the first by default. -/
def DetachInside (tables : Tables) (dm : Attach) : Prop :=
  (dm.server ≠ 0 → ∃ idx, Names mwServerMask tables.srvtblLength dm.srvid idx) ∧
    (dm.client ≠ 0 → dm.cltid ≠ 0 ∧ IdInside mwClientMask tables.clttblLength dm.cltid)

theorem delclient_adds_any (tables : Tables) (cid : Int) :
    Adds (fun _ => True) tables (tables.delclient cid).2 := by
  unfold Tables.delclient
  cases tables.getcliententry cid with
  | none => exact Adds.refl tables
  | some idx => exact Adds.one rfl trivial

theorem detachServer_adds_any (tables : Tables) (dm : Attach) :
    Adds (fun _ => True) tables (tables.detachServer dm) := by
  unfold Tables.detachServer
  split_ifs
  · exact Adds.refl tables
  · have server : Adds (fun _ => True) tables (tables.delserver dm.srvid) := Adds.one rfl trivial
    exact server.trans ((delallservices_adds _ _).mono fun _ _ => trivial)

theorem doDetach_adds_iff (tables : Tables) (dm : Attach) :
    Adds (Proper tables (.detach dm)) tables (tables.doDetach dm) ↔ DetachInside tables dm := by
  rw [doDetach_eq]
  constructor
  · intro adds
    constructor
    · intro server
      have detached : tables.detachServer dm =
          (tables.delserver dm.srvid).delallservices dm.srvid := if_neg server
      have rest : Adds (fun _ => True) (tables.delserver dm.srvid) (if dm.client = 0
          then tables.detachServer dm else ((tables.detachServer dm).delclient dm.cltid).2) := by
        rw [detached]
        have services := (delallservices_adds (tables.delserver dm.srvid) dm.srvid).mono
          (fun _ _ => trivial : ∀ use, _ → (fun _ => True) use)
        split_ifs
        · exact services
        · exact services.trans (delclient_adds_any _ _)
      have proper := adds.use (@Adds.refl (fun _ => True) tables) rfl rest
      exact ⟨_, proper.about rfl⟩
    · intro client
      rw [if_neg client] at adds
      have lengths := detachServer_lengths tables dm
      have servers := detachServer_adds_any tables dm
      generalize tables.detachServer dm = middle at adds lengths servers
      have wrote {idx : Int} (found : getEntry mwClientMask tables.clttblLength dm.cltid = some idx) :
          Proper tables (.detach dm) ⟨.client, idx, true⟩ := by
        have entry : middle.getcliententry dm.cltid = some idx := by
          simp [lengths.clttblLength, Tables.getcliententry, found]
        unfold Tables.delclient at adds
        rw [entry] at adds
        exact adds.use servers rfl (@Adds.refl (fun _ => True) _)
      constructor
      · intro isZero
        have names : Names mwClientMask tables.clttblLength dm.cltid 0 :=
          (wrote (by rw [isZero]; rfl)).about rfl
        have masked := names.masked
        grind [hasMask_zero, isMask_client]
      · apply (getEntry_inside_iff _ _ _).mp
        intro idx found
        exact ⟨(wrote found).lower, (wrote found).upper⟩
  · intro inside
    have servers : Adds (Proper tables (.detach dm)) tables (tables.detachServer dm) := by
      unfold Tables.detachServer
      split_ifs with noServer
      · exact Adds.refl tables
      · rcases inside.1 noServer with ⟨srvidx, names⟩
        exact detachServer_adds names
    split_ifs with noClient
    · exact servers
    · rcases inside.2 noClient with ⟨notZero, isInside⟩
      exact servers.trans (delclient_adds (detachServer_lengths tables dm) notZero isInside)

def ProviderInside (tables : Tables) (entry : Serviceentry) : Prop :=
  if entry.server ≠ unassigned then IdInside mwServerMask tables.srvtblLength entry.server
  else IdInside mwGatewayMask tables.gwtblLength entry.gateway

def UnprovideInside (tables : Tables) (pmesg : Provide) : Prop :=
  svcidOf pmesg.svcid ≠ unassigned → indexOf pmesg.svcid ≠ tables.svctblLength ∧
    (indexOf pmesg.svcid < tables.svctblLength →
      ProviderInside tables (tables.svctbl (indexOf pmesg.svcid)))

def Tables.useEntry (tables : Tables) (table : TableName) (found : Option Int) : Tables :=
  match found with
  | none => tables
  | some idx => tables.use table idx false

theorem useEntry_adds_iff (start tables : Tables) (message : RequestMessage) (table : TableName)
    (found : Option Int) :
    Adds (Proper start message) tables (tables.useEntry table found) ↔
      ∀ idx, found = some idx → 0 ≤ idx ∧ idx < start.lengthOf table := by
  cases found with
  | none =>
      constructor
      · simp
      · intro _
        exact Adds.refl tables
  | some idx =>
      constructor
      · intro adds other same
        cases same
        have proper := adds.use (@Adds.refl (fun _ => True) tables) rfl
          (@Adds.refl (fun _ => True) _)
        exact ⟨proper.lower, proper.upper⟩
      · intro inside
        rcases inside idx rfl with ⟨lower, upper⟩
        exact Adds.one rfl ⟨lower, upper, fun isWrite => absurd isWrite Bool.false_ne_true⟩

theorem useProvider_adds_iff {start tables : Tables} (lengths : SameLengths start tables)
    (message : RequestMessage) (entry : Serviceentry) :
    Adds (Proper start message) tables (tables.useProvider entry) ↔ ProviderInside start entry := by
  unfold Tables.useProvider ProviderInside
  split_ifs with hasServer
  · have entries : tables.getserverentry entry.server =
        getEntry mwServerMask start.srvtblLength entry.server := by
      rw [Tables.getserverentry, lengths.srvtblLength]
    rw [← getEntry_inside_iff, entries]
    exact useEntry_adds_iff start tables message .server _
  · have entries : tables.getgatewayentry entry.gateway =
        getEntry mwGatewayMask start.gwtblLength entry.gateway := by
      rw [Tables.getgatewayentry, lengths.gwtblLength]
    rw [← getEntry_inside_iff, entries]
    exact useEntry_adds_iff start tables message .gateway _

theorem useProvider_adds_any (tables : Tables) (entry : Serviceentry) :
    Adds (fun _ => True) tables (tables.useProvider entry) := by
  unfold Tables.useProvider
  split_ifs
  · cases tables.getserverentry entry.server with
    | none => exact Adds.refl tables
    | some idx => exact Adds.one rfl trivial
  · cases tables.getgatewayentry entry.gateway with
    | none => exact Adds.refl tables
    | some idx => exact Adds.one rfl trivial

theorem getserviceentry_service (tables : Tables) {svcid : Int}
    (isService : svcidOf svcid ≠ unassigned) :
    tables.getserviceentry (svcidOf svcid) =
      if indexOf svcid > tables.svctblLength then none else some (indexOf svcid) := by
  rcases svcid_ne_unassigned isService with ⟨masked, assigned⟩
  have same : svcidOf svcid = svcid := by
    rw [svcidOf, filterId, if_pos masked]
  have notZero : svcid ≠ 0 := by
    grind [hasMask_zero, isMask_service]
  rw [same, Tables.getserviceentry, getEntry_masked notZero assigned masked]

theorem doUnprovide_found {pmesg : Provide} (isService : svcidOf pmesg.svcid ≠ unassigned)
    (found : indexOf pmesg.svcid ≤ tables.svctblLength) :
    (tables.doUnprovide pmesg).2 =
      (((tables.use .service (indexOf pmesg.svcid) false).useProvider
        (tables.svctbl (indexOf pmesg.svcid))).delservice pmesg.svcid).2 := by
  simp_all [getserviceentry_service, if_neg, Tables.doUnprovide]

theorem doUnprovide_adds_iff (tables : Tables) (pmesg : Provide) :
    Adds (Proper tables (.unprovide pmesg)) tables (tables.doUnprovide pmesg).2 ↔
      UnprovideInside tables pmesg := by
  by_cases isService : svcidOf pmesg.svcid = unassigned
  · have none : tables.getserviceentry (svcidOf pmesg.svcid) = none := by
      rw [isService]
      exact getEntry_unmasked (by decide) fun known => absurd rfl known.1
    grind [Tables.doUnprovide, UnprovideInside, Adds.refl]
  · by_cases beyond : indexOf pmesg.svcid > tables.svctblLength
    · unfold Tables.doUnprovide UnprovideInside
      rw [getserviceentry_service tables isService, if_pos beyond]
      constructor
      · omega
      · simp [Adds.refl]
    · rw [doUnprovide_found isService (by omega)]
      have lower := indexOf_nonneg pmesg.svcid
      have deleted := delservice_used isService
        ((tables.use .service (indexOf pmesg.svcid) false).useProvider
          (tables.svctbl (indexOf pmesg.svcid)))
      have provider := useProvider_adds_any (tables.use .service (indexOf pmesg.svcid) false)
        (tables.svctbl (indexOf pmesg.svcid))
      have readProvider := @useProvider_adds_iff tables
        (tables.use .service (indexOf pmesg.svcid) false) ⟨rfl, rfl, rfl, rfl⟩
        (.unprovide pmesg) (tables.svctbl (indexOf pmesg.svcid))
      generalize isMiddle : (tables.use .service (indexOf pmesg.svcid) false).useProvider
        (tables.svctbl (indexOf pmesg.svcid)) = middle at deleted provider readProvider ⊢
      have last : Adds (fun _ => True) middle (middle.delservice pmesg.svcid).2 :=
        Adds.one deleted trivial
      constructor
      · intro adds _
        have inside : indexOf pmesg.svcid < tables.svctblLength :=
          (adds.use (@Adds.refl (fun _ => True) tables) rfl (provider.trans last)).upper
        have read : Adds (fun _ => True) tables
            (tables.use .service (indexOf pmesg.svcid) false) := Adds.one rfl trivial
        exact ⟨by omega, fun _ => readProvider.mp (adds.part read provider last)⟩
      · intro unprovideInside
        rcases unprovideInside isService with ⟨notLength, providerInside⟩
        have inside : indexOf pmesg.svcid < tables.svctblLength := by omega
        have known := svcid_ne_unassigned isService
        have read : Adds (Proper tables (.unprovide pmesg)) tables
            (tables.use .service (indexOf pmesg.svcid) false) :=
          Adds.one rfl ⟨lower, inside, fun isWrite => absurd isWrite Bool.false_ne_true⟩
        have write : Adds (Proper tables (.unprovide pmesg)) middle
            (middle.delservice pmesg.svcid).2 :=
          Adds.one deleted ⟨lower, inside, fun _ => ⟨known.2, known.1, rfl, inside⟩⟩
        exact (read.trans (readProvider.mpr (providerInside inside))).trans write

/-- The entry of a new service was free. -/
theorem addservice_adds (tables : Tables) (pmesg : Provide) (name : List Byte) (type : Int) :
    (tables.addservice name type = (rcOf .ENOSPC, tables)) ∨
      ∃ idx after, tables.addservice name type = (idx, after) ∧
        after.used = tables.used ++ [⟨.service, idx, true⟩] ∧
        Proper tables (.provide pmesg) ⟨.service, idx, true⟩ := by
  have positive : (0 : Int) < tables.svctblLength := Int.natCast_pos.mpr tables.svctblNonempty
  unfold Tables.addservice
  dsimp only
  cases found : firstFree (fun step =>
      (tables.svctbl ((tables.nextService + step) % tables.svctblLength)).type == unassigned) 0
      tables.svctblLength with
  | none => exact Or.inl rfl
  | some step =>
      have isFree := (firstFree_some found).1
      exact Or.inr ⟨_, _, rfl, rfl, Int.emod_nonneg _ (Int.ne_of_gt positive),
        Int.emod_lt_of_pos _ positive, fun _ => eq_of_beq isFree⟩

theorem Proper.of_use {message : RequestMessage} {use : Use} {table : TableName} {index : Int}
    {write : Bool} (proper : Proper (tables.use table index write) message use) :
    Proper tables message use := by
  rcases use with ⟨usedTable, usedIndex, isWrite⟩
  refine ⟨proper.lower, ?_, ?_⟩
  · have upper := proper.upper
    cases usedTable <;> exact upper
  · intro written
    have about := proper.about written
    cases message <;> cases usedTable <;> exact about

theorem addlocalservice_adds {start : Tables} {pmesg : Provide}
    (same : ∀ use, Proper tables (.provide pmesg) use → Proper start (.provide pmesg) use)
    {srvid srvidx : Int} (found : tables.getServerById srvid = some srvidx) (name : List Byte)
    (type : Int) :
    Adds (Proper start (.provide pmesg)) tables (tables.addlocalservice srvid name type).2 := by
  rcases entryById_names found with ⟨masked, isIndex, lower, upper⟩
  unfold Tables.addlocalservice
  split_ifs with noServer
  · exact Adds.refl tables
  have assigned : srvid ≠ unassigned := by
    simp_all [srvidOf, filterId]
  have notZero : srvid ≠ 0 := by
    grind [hasMask_zero, isMask_server]
  have entry : tables.getserverentry srvid = some srvidx := by
    rw [Tables.getserverentry, getEntry_masked notZero assigned masked, ← isIndex,
      if_neg (by omega)]
  rw [entry]
  dsimp only
  have read : Adds (Proper start (.provide pmesg)) tables (tables.use .server srvidx false) :=
    Adds.one rfl (same _ ⟨lower, upper, fun isWrite => absurd isWrite Bool.false_ne_true⟩)
  rcases addservice_adds (tables.use .server srvidx false) pmesg name type with
    refused | ⟨idx, after, added, used, proper⟩
  · grind [absurd, rcOf_neg]
  · rw [added]
    have service := read.trans (Adds.one used (same _ proper.of_use))
    split_ifs with notAttached full
    · exact read
    · exact service
    · exact service.trans (Adds.one rfl (same _ proper.of_use))

theorem addremoteservice_adds {start tables : Tables} {pmesg : Provide}
    (same : ∀ use, Proper tables (.provide pmesg) use → Proper start (.provide pmesg) use)
    {gwid gwidx : Int} (found : tables.getGatewayById gwid = some gwidx) (assigned : gwid ≠ -1)
    (name : List Byte) (cost type : Int) :
    ∃ svcid after, tables.addremoteservice gwid name cost type = .ok (svcid, after) ∧
      Adds (Proper start (.provide pmesg)) tables after := by
  rcases entryById_names found with ⟨masked, isIndex, lower, upper⟩
  have isGateway : gwidOf gwid ≠ unassigned := by
    rw [gwidOf, filterId, if_pos masked]
    exact assigned
  have notZero : gwid ≠ 0 := by
    grind [hasMask_zero, isMask_gateway]
  have entry : tables.getgatewayentry gwid = some gwidx := by
    rw [Tables.getgatewayentry, getEntry_masked notZero assigned masked, ← isIndex,
      if_neg (by omega)]
  unfold Tables.addremoteservice
  rw [if_neg isGateway, entry]
  dsimp only
  have read : Adds (Proper start (.provide pmesg)) tables (tables.use .gateway gwidx false) :=
    Adds.one rfl (same _ ⟨lower, upper, fun isWrite => absurd isWrite Bool.false_ne_true⟩)
  rcases addservice_adds (tables.use .gateway gwidx false) pmesg name type with
    refused | ⟨idx, after, added, used, proper⟩
  · grind [absurd, rcOf_neg]
  · rw [added]
    have service := read.trans (Adds.one used (same _ proper.of_use))
    split_ifs with notAttached full
    · exact ⟨_, _, rfl, read⟩
    · exact ⟨_, _, rfl, service⟩
    · exact ⟨_, _, rfl, service.trans (Adds.one rfl (same _ proper.of_use))⟩

theorem doProvide_adds {status : Status} (running : status ≠ .shutdown) (tables : Tables)
    (pmesg : Provide) :
    ∃ result, tables.doProvide status pmesg = .ok result ∧
      Adds (Proper tables (.provide pmesg)) tables result.2 := by
  rw [Tables.doProvide, if_neg running]
  generalize (if pmesg.conv then mwConvSvc else mwCallSvc) = type
  dsimp only
  split_ifs with server gateway
  · cases found : tables.getServerById pmesg.srvid with
    | none => exact ⟨_, rfl, Adds.refl tables⟩
    | some srvidx =>
        rcases entryById_names found with ⟨_, _, lower, upper⟩
        have read : Adds (Proper tables (.provide pmesg)) tables (tables.use .server srvidx false) :=
          Adds.one rfl ⟨lower, upper, fun isWrite => absurd isWrite Bool.false_ne_true⟩
        have again : (tables.use .server srvidx false).getServerById pmesg.srvid = some srvidx := found
        exact ⟨_, rfl, read.trans (addlocalservice_adds (fun _ proper => proper.of_use) again _ _)⟩
  · cases found : tables.getGatewayById pmesg.gwid with
    | none => exact ⟨_, rfl, Adds.refl tables⟩
    | some gwidx =>
        rcases entryById_names found with ⟨_, _, lower, upper⟩
        have read : Adds (Proper tables (.provide pmesg)) tables
            (tables.use .gateway gwidx false) :=
          Adds.one rfl ⟨lower, upper, fun isWrite => absurd isWrite Bool.false_ne_true⟩
        have again : (tables.use .gateway gwidx false).getGatewayById pmesg.gwid = some gwidx := found
        dsimp only
        rcases @addremoteservice_adds tables (tables.use .gateway gwidx false) pmesg
          (fun _ proper => proper.of_use) pmesg.gwid gwidx again gateway pmesg.svcname pmesg.cost type
          with ⟨svcid, after, done, adds⟩
        rw [done]
        exact ⟨_, rfl, read.trans adds⟩
  · exact ⟨_, rfl, Adds.refl tables⟩

theorem setMyStatus_lengths (tables : Tables) (myserverid status : Int) :
    SameLengths tables (tables.setMyStatus myserverid status) := by
  unfold Tables.setMyStatus
  cases tables.getServerById myserverid <;> exact ⟨rfl, rfl, rfl, rfl⟩

theorem getMqidByMwid_same (tables : Tables) (dest myserverid : Int) :
    SameLengths tables (tables.getMqidByMwid dest) ∧
      (tables.getMqidByMwid dest).getServerById myserverid = tables.getServerById myserverid := by
  unfold Tables.getMqidByMwid
  split_ifs
  · cases tables.getServerById dest <;> exact ⟨⟨rfl, rfl, rfl, rfl⟩, rfl⟩
  · cases tables.getClientById dest <;> exact ⟨⟨rfl, rfl, rfl, rfl⟩, rfl⟩
  · cases tables.getGatewayById dest <;> exact ⟨⟨rfl, rfl, rfl, rfl⟩, rfl⟩
  · exact ⟨⟨rfl, rfl, rfl, rfl⟩, rfl⟩

/-- The server a call names is `mwd` itself, where it has an entry. -/
def CallInside (myserverid : Int) (tables : Tables) (callmsg : CallRequest) : Prop :=
  ∀ srvidx, tables.getServerById myserverid = some srvidx →
    Names mwServerMask tables.srvtblLength callmsg.srvid srvidx

theorem setMyStatus_adds_iff {start tables : Tables} {myserverid : Int}
    (same : tables.getServerById myserverid = start.getServerById myserverid)
    (callmsg : CallRequest) (status : Int) :
    Adds (Proper start (.call callmsg)) tables (tables.setMyStatus myserverid status) ↔
      CallInside myserverid start callmsg := by
  unfold Tables.setMyStatus CallInside
  rw [same]
  cases found : start.getServerById myserverid with
  | none =>
      simp [Adds.refl]
  | some srvidx =>
      rcases entryById_names found with ⟨_, _, lower, upper⟩
      constructor
      · intro adds other isOther
        cases isOther
        have proper := adds.use (@Adds.refl (fun _ => True) tables) rfl
          (@Adds.refl (fun _ => True) _)
        exact proper.about rfl
      · intro inside
        exact Adds.one rfl ⟨lower, upper, fun _ => inside srvidx rfl⟩

theorem setMyStatus_adds_any (tables : Tables) (myserverid status : Int) :
    Adds (fun _ => True) tables (tables.setMyStatus myserverid status) := by
  unfold Tables.setMyStatus
  cases tables.getServerById myserverid with
  | none => exact Adds.refl tables
  | some srvidx => exact Adds.one rfl trivial

theorem doCall_adds_iff (myserverid : Int) (tables : Tables) (callmsg : CallRequest) :
    Adds (Proper tables (.call callmsg)) tables (tables.doCall myserverid callmsg) ↔
      CallInside myserverid tables callmsg := by
  rw [Tables.doCall]
  generalize (if cstr callmsg.service = shutdownStatus then mwShutdown else mwBusy) = status
  generalize (if callmsg.gwid = unassigned then callmsg.cltid else callmsg.gwid) = dest
  split_ifs with expired replies
  · have sent := getMqidByMwid_same tables callmsg.cltid myserverid
    have lookup := @getMqidByMwid_adds tables tables ⟨rfl, rfl, rfl, rfl⟩ (.call callmsg)
      callmsg.cltid
    have wrote := setMyStatus_adds_iff sent.2 callmsg mwReady
    rw [← wrote]
    constructor
    · intro adds
      exact adds.part lookup (setMyStatus_adds_any _ _ _) (@Adds.refl (fun _ => True) _)
    · simp_all [lookup.trans]
  · have lookup := getMqidByMwid_adds (setMyStatus_lengths tables myserverid status) (.call callmsg)
      dest
    have wrote := @setMyStatus_adds_iff tables tables myserverid rfl callmsg status
    rw [← wrote]
    constructor
    · intro adds
      exact adds.part (@Adds.refl (fun _ => True) _) (setMyStatus_adds_any _ _ _) lookup
    · intro adds
      exact adds.trans lookup
  · exact setMyStatus_adds_iff rfl callmsg status

/-- The ids of the request lead into the tables, and no provide arrives during shutdown. -/
def LeadsInside (myserverid : Int) (status : Status) (tables : Tables) : RequestMessage → Prop
  | .detach dm => DetachInside tables dm
  | .provide _ => status ≠ .shutdown
  | .unprovide pmesg => UnprovideInside tables pmesg
  | .call callmsg => CallInside myserverid tables callmsg
  | _ => True

theorem staysInside_ok {myserverid : Int} {status : Status} {after : Tables}
    {message : RequestMessage}
    (parsed : tables.parseRequest myserverid status message = .ok after) :
    StaysInside myserverid status tables message ↔ Adds (Proper tables message) tables after := by
  constructor
  · intro stays
    rcases stays with ⟨other, parsedOther, adds⟩
    rw [parsed] at parsedOther
    cases parsedOther
    exact adds
  · intro adds
    exact ⟨after, parsed, adds⟩

/-- A handler stays inside the tables, follows no null pointer and writes only what its request is
about, exactly where the ids of the request lead inside. -/
theorem requests_stay_inside (myserverid : Int) (status : Status) (tables : Tables)
    (message : RequestMessage) :
    StaysInside myserverid status tables message ↔
      LeadsInside myserverid status tables message := by
  have same : SameLengths tables tables := ⟨rfl, rfl, rfl, rfl⟩
  cases message with
  | attach areq => exact (staysInside_ok rfl).trans (iff_true_intro (doAttach_adds _ _ _))
  | detach dm => exact (staysInside_ok rfl).trans (doDetach_adds_iff tables dm)
  | provide pmesg =>
      constructor
      · intro stays down
        rcases stays with ⟨after, parsed, _⟩
        change (tables.doProvide status pmesg).map Prod.snd = .ok after at parsed
        rw [Tables.doProvide, if_pos down] at parsed
        cases parsed
      · intro running
        rcases doProvide_adds running tables pmesg with ⟨result, done, adds⟩
        refine ⟨result.2, ?_, adds⟩
        change (tables.doProvide status pmesg).map Prod.snd = .ok result.2
        rw [done]
        rfl
  | unprovide pmesg => exact (staysInside_ok rfl).trans (doUnprovide_adds_iff tables pmesg)
  | subscribe senderid =>
      exact (staysInside_ok rfl).trans (iff_true_intro (getMqidByMwid_adds same _ senderid))
  | unsubscribe senderid =>
      exact (staysInside_ok rfl).trans (iff_true_intro (getMqidByMwid_adds same _ senderid))
  | event => exact (staysInside_ok rfl).trans (iff_true_intro (Adds.refl tables))
  | eventack => exact (staysInside_ok rfl).trans (iff_true_intro (Adds.refl tables))
  | admin => exact (staysInside_ok rfl).trans (iff_true_intro (Adds.refl tables))
  | call callmsg => exact (staysInside_ok rfl).trans (doCall_adds_iff myserverid tables callmsg)
  | alloc mwid answered =>
      apply (staysInside_ok rfl).trans (iff_true_intro _)
      split_ifs
      · exact getMqidByMwid_adds same _ mwid
      · exact Adds.refl tables
  | free => exact (staysInside_ok rfl).trans (iff_true_intro (Adds.refl tables))

def strayDetach : Attach := ⟨5, 100, 1, 2 + mwServerMask, 0, unassigned, -1, 0⟩

theorem requests_stay_inside_not_detach :
    ¬StaysInside mwServerMask .ready emptyTables (.detach strayDetach) := by
  intro stays
  have adds : Adds (Proper emptyTables (.detach strayDetach)) emptyTables
      (emptyTables.doDetach strayDetach) := (staysInside_ok rfl).mp stays
  rcases adds with ⟨extra, appended, all⟩
  have wrote : extra = [⟨.server, 2, true⟩] := by
    change [_] = [] ++ extra at appended
    exact appended.symm
  have proper := all ⟨.server, 2, true⟩ (by rw [wrote]; exact List.mem_cons_self)
  exact absurd proper.upper (by decide)

end MidWay.Mwd

import Mathlib.Data.List.Dedup
import MidWay.Gateway.Advertising
import MidWay.Gateway.EventMessages
import MidWay.Mwd.ServiceSteps
import MidWay.Mwd.Unprovide

/-!
Contract: a gateway together with the `mwd` of its instance, as a machine. `mwd` handles
requests, and sends the gateway an event for each service that comes or goes; the
gateway handles the events in any order, and its peers come, go, and tell it of their
own services.

The gateway reads the service table as it is when it handles an event, not as it was
when the event was sent. The names of services fit their arrays with a NUL.

Owns: `gwGetcostofservice`, the machine, and that the names stay names.
-/

namespace MidWay.Gateway

open MidWay.CLib MidWay.Url MidWay.Srb MidWay.Lib

variable {cost : Int} {request : Mwd.Request} {peer : Nat} {sent : Nat → List SRBmessage}

def gwPeer : Int := 1

/-- The loop starts at a random entry, which the functions below do not depend on. -/
def mwGetServicesByname (tables : Mwd.Tables) (svcname : List Byte) : List Mwd.Serviceentry :=
  ((List.range tables.svctblLength).map fun index : Nat => tables.svctbl index).filter fun entry =>
    entry.type == Mwd.mwCallSvc && Mwd.sameSvcname entry.servicename svcname

/-- The loop over the entries of a service; `cost` is the least so far. -/
def leastCost : Int → List Mwd.Serviceentry → Int
  | cost, [] => cost
  | cost, entry :: rest =>
      if entry.cost = 0 then 0
      else leastCost (if entry.cost > -1 ∧ entry.cost < cost then entry.cost else cost) rest

def gwGetcostofservice (tables : Mwd.Tables) (service : List Byte) : Int :=
  if mwGetServicesByname tables service = [] then -1
  else leastCost intMax (mwGetServicesByname tables service)

/-- The names that `gw_provideservices_to_peer` collects. -/
def svcnamelist (tables : Mwd.Tables) : List (List Byte) :=
  (((List.range tables.svctblLength).map fun index : Nat => tables.svctbl index).filter fun entry =>
    entry.type != Mwd.unassigned && entry.location != gwPeer).map Mwd.Serviceentry.servicename

def mwGetServiceByid (tables : Mwd.Tables) (svcid : Int) : Option Mwd.Serviceentry :=
  if Mwd.svcidOf svcid = Mwd.unassigned then none
  else if Mwd.svcid2idx svcid ≥ tables.svctblLength then none
  else if (tables.svctbl (Mwd.svcid2idx svcid)).server = Mwd.unassigned then none
  else some (tables.svctbl (Mwd.svcid2idx svcid))

/-- What `do_event_message` passes on of a service event. -/
def newsOf (tables : Mwd.Tables) (myGatewayid : Int) (pe : Mwd.ServiceEvent) : Option ServiceNews :=
  let svcent := mwGetServiceByid tables pe.svcid
  if svcent.any fun entry => entry.location == gwPeer then none
  else if pe.provider = myGatewayid then none
  else
    match pe.kind with
    | .provide =>
        if svcent.any fun entry => entry.location == Mwd.gwLocal then some (.provided pe.name)
        else none
    | .unprovide => some (.unprovided pe.name)

/-- `pending` are the events that the gateway has not handled, `up` the peers in state `UP`, and
`sent` what went to each on its connection. -/
structure InstanceState where
  mwd : Mwd.Tables
  pending : List Mwd.ServiceEvent
  tables : PeerTables
  up : Nat → Bool
  sent : Nat → List SRBmessage

inductive InstanceAction where
  /-- `mwd` handles a request. -/
  | request (request : Mwd.Request)
  /-- The gateway handles an event; `stale` is what it reads in freed memory. -/
  | event (index : Nat) (stale : Int)
  /-- The gateway hears of a peer. -/
  | known (name domain : List Byte)
  | peerUp (peer : Nat) (gwid : UInt32) (fd : Nat)
  | peerDown (peer : Nat)
  /-- A peer sends a `PROVIDE` or an `UNPROVIDE`. -/
  | provide (peer : Nat) (service : List Byte) (cost : Int)
  | unprovide (peer : Nat) (service : List Byte)
  /-- `mwd` answers a provide of the gateway. -/
  | provideReply (service : List Byte) (svcid gwid : UInt32)

inductive InstanceFailure where
  | mwd (failure : Mwd.TableFailure)
  | gateway (failure : GatewayFailure)

section

variable (around : Surroundings) (myGatewayid : Int)

def InstanceState.surroundings (state : InstanceState) : Surroundings :=
  { around with
    svcnames := svcnamelist state.mwd
    costofservice := gwGetcostofservice state.mwd }

def InstanceState.tell (state : InstanceState) (told : Told) : InstanceState :=
  { state with
    tables := told.1
    sent := hear state.sent told.2 }

/-- `doprovideevent` or `dounprovideevent`. -/
def InstanceState.hearNews (state : InstanceState) (stale : Int) : Option ServiceNews → InstanceState
  | none => state
  | some (.provided service) =>
      state.tell (state.tables.doprovideevent (state.surroundings around) state.up stale service)
  | some (.unprovided service) =>
      state.tell (state.tables.dounprovideevent (mwGetServicesByname state.mwd service ≠ []) service)

def InstanceState.handleEvent (state : InstanceState) (index : Nat) (stale : Int) : InstanceState :=
  match state.pending[index]? with
  | none => state
  | some event =>
      { state with pending := state.pending.eraseIdx index }.hearNews around stale
        (newsOf state.mwd myGatewayid event)

/-- The peer gets its id, and is told of the services. -/
def InstanceState.peerUp (state : InstanceState) (peer : Nat) (gwid : UInt32) (fd : Nat) :
    Except InstanceFailure InstanceState :=
  match (state.tables.setPeer peer gwid (some fd)).provideservicesToPeer (state.surroundings around)
      gwid with
  | .error failure => .error (.gateway failure)
  | .ok (tables, messages) =>
      .ok { state with
        tables := tables
        up := Function.update state.up peer true
        sent := hear state.sent (messages.map fun srbmsg => (peer, srbmsg)) }

/-- The connection is gone, and with it what was sent on it. -/
def InstanceState.peerDown (state : InstanceState) (peer : Nat) : InstanceState :=
  { state with
    tables := (state.tables.impexpCleanuppeer peer).setPeer peer unassigned none
    up := Function.update state.up peer false
    sent := Function.update state.sent peer [] }

def InstanceState.handleRequest (state : InstanceState) (request : Mwd.Request) :
    Except InstanceFailure InstanceState :=
  match state.mwd.handle request with
  | .error failure => .error (.mwd failure)
  | .ok mwd =>
      .ok { state with
        mwd := mwd
        pending := state.pending ++ mwd.events.drop state.mwd.events.length }

def InstanceState.importFrom (state : InstanceState) (peer : Nat) (service : List Byte)
    (cost : Int) : Except InstanceFailure InstanceState :=
  match state.tables.importservice around service cost (some peer) with
  | .error failure => .error (.gateway failure)
  | .ok tables => .ok { state with tables := tables }

def InstanceState.step (state : InstanceState) :
    InstanceAction → Except InstanceFailure InstanceState
  | .request request => state.handleRequest request
  | .event index stale => .ok (state.handleEvent around myGatewayid index stale)
  | .known name domain =>
      .ok { state with tables := (state.tables.gwAddknownpeer around name domain).2 }
  | .peerUp peer gwid fd => state.peerUp around peer gwid fd
  | .peerDown peer => .ok (state.peerDown peer)
  | .provide peer service cost => state.importFrom around peer service cost
  | .unprovide peer service =>
      .ok { state with tables := state.tables.unimportservice service (some peer) }
  | .provideReply service svcid gwid =>
      .ok { state with tables := state.tables.impsetsvcid service svcid gwid }

/-- Servers have ids of `mwd`, a peer comes up with an id of its own, and messages come from the
peers that are up. -/
def InstanceState.enabled (state : InstanceState) : InstanceAction → Prop
  | .request request => state.mwd.Issued request
  | .peerUp peer gwid _ => peer < state.tables.peers.length ∧ state.up peer = false ∧
      ∀ other, other ≠ peer → ∀ pi, state.tables.peers[other]? = some pi → pi.gwid ≠ gwid
  | .provide peer _ _ | .unprovide peer _ => state.up peer = true
  | .event _ _ | .known _ _ | .peerDown _ | .provideReply _ _ _ => True

/-- The gateway starts after `mwd`, which may have services by then. -/
def instanceMachine (allowed : Mwd.Tables → Mwd.Request → Prop) :
    Machine InstanceState InstanceAction InstanceFailure where
  start state := Mwd.mwd.Reachable allowed state.mwd ∧ state.pending = [] ∧
    state.tables.exportlist = [] ∧ (∀ peer, state.up peer = false) ∧ ∀ peer, state.sent peer = []
  enabled state := state.enabled
  step state := state.step around myGatewayid

end

theorem leastCost_nonneg (entries : List Mwd.Serviceentry) (isCost : 0 ≤ cost) :
    0 ≤ leastCost cost entries := by
  induction entries generalizing cost with
  | nil => exact isCost
  | cons entry rest ih =>
      rw [leastCost]
      grind

theorem gwGetcostofservice_nonneg {tables : Mwd.Tables} {service : List Byte}
    (hasCost : gwGetcostofservice tables service ≠ -1) : 0 ≤ gwGetcostofservice tables service := by
  unfold gwGetcostofservice at hasCost ⊢
  split_ifs with isNone
  · exact absurd (if_pos isNone) hasCost
  · exact leastCost_nonneg _ (by decide)

theorem gwGetcostofservice_of_mem {tables : Mwd.Tables} {service : List Byte}
    {entry : Mwd.Serviceentry} (member : entry ∈ mwGetServicesByname tables service) :
    0 ≤ gwGetcostofservice tables service := by
  rw [gwGetcostofservice, if_neg (List.ne_nil_of_mem member)]
  exact leastCost_nonneg _ (by decide)

def NameFits : Mwd.Request → Prop
  | .provide _ pmesg => (cstr pmesg.svcname).length < mwMaxSvcName
  | .attach _ _ | .detach _ | .unprovide _ | .check _ | .gateways _ => True

structure Named (tables : Mwd.Tables) : Prop where
  entries : ∀ idx, IsName (tables.svctbl idx).servicename
  events : ∀ event ∈ tables.events, IsName event.name

theorem isName_nil : IsName [] := ⟨rfl, by decide⟩

theorem IsName.copy {name : List Byte} (isName : IsName name) : Mwd.copySvcname name = name := by
  rw [Mwd.copySvcname, isName.text]
  exact List.take_of_length_le (Nat.le_of_lt isName.fits)

theorem isName_copy {name : List Byte} (fits : (cstr name).length < mwMaxSvcName) :
    IsName (Mwd.copySvcname name) := by
  have short : Mwd.copySvcname name = cstr name := List.take_of_length_le (Nat.le_of_lt fits)
  rw [short]
  exact ⟨List.takeWhile_idem, fits⟩

theorem adds_named {tables : Mwd.Tables} (fits : NameFits request) {provider idx : Int}
    {entry : Mwd.Serviceentry} (adds : tables.Adds request provider idx entry) :
    IsName entry.servicename := by
  cases request with
  | provide status pmesg =>
      rcases adds.2 with ⟨_, _, rfl⟩ | ⟨_, _, gwidx, _, rfl⟩
      · exact isName_copy fits
      · exact isName_copy fits
  | _ => exact adds.elim

theorem Named.steps {adds : Int → Int → Mwd.Serviceentry → Prop}
    (areNames : ∀ provider idx entry, adds provider idx entry → IsName entry.servicename)
    {before after : Mwd.Tables} (named : Named before) (steps : Mwd.ServiceSteps adds before after) :
    Named after := by
  induction steps with
  | refl => exact named
  | tail _ step ih =>
      cases step with
      | same _ svctbl events =>
          refine ⟨?_, ?_⟩
          · simp [svctbl, ih.entries]
          · simp_all [ih.events]
      | added provider idx entry added allowed =>
          have isName := areNames provider idx entry allowed
          refine ⟨?_, ?_⟩
          · intro other
            rw [added.svctbl]
            by_cases same : other = idx
            · simp [same, Function.update_self, isName]
            · simp_all [Function.update_of_ne, ih.entries]
          · rw [added.events]
            exact List.forall_mem_append.mpr
              ⟨ih.events, List.forall_mem_singleton.mpr isName⟩
      | deleted _ idx svctbl events =>
          have isName := ih.entries idx
          refine ⟨?_, ?_⟩
          · intro other
            rw [svctbl]
            by_cases same : other = idx
            · rw [same, Function.update_self]
              exact isName_nil
            · simp_all [Function.update_of_ne, ih.entries]
          · rw [events]
            refine List.forall_mem_append.mpr
              ⟨ih.events, List.forall_mem_singleton.mpr ?_⟩
            change IsName (Mwd.copySvcname _)
            rw [isName.copy]
            exact isName

theorem Named.handle {before after : Mwd.Tables} (named : Named before) (fits : NameFits request)
    (done : before.handle request = .ok after) : Named after :=
  named.steps (fun _ _ _ adds => adds_named fits adds) (Mwd.handle_steps done)

theorem initial_named {tables : Mwd.Tables} (initial : Mwd.Initial tables) : Named tables := by
  refine ⟨?_, ?_⟩
  · simp [initial.svctbl, isName_nil]
  · simp [initial.events]

theorem mwd_named {allowed : Mwd.Tables → Mwd.Request → Prop}
    (fits : ∀ tables request, allowed tables request → NameFits request) {tables : Mwd.Tables}
    (reachable : Mwd.mwd.Reachable allowed tables) : Named tables := by
  refine reachable.holds (fun _ => initial_named) ?_
  intro before request after named _ meets done
  exact named.handle (fits before request meets) done

theorem svcnamelist_named {tables : Mwd.Tables} (named : Named tables) :
    ∀ name ∈ svcnamelist tables, IsName name := by
  intro name member
  rcases List.mem_map.mp member with ⟨entry, isEntry, rfl⟩
  rcases List.mem_map.mp (List.mem_of_mem_filter isEntry) with ⟨idx, _, rfl⟩
  exact named.entries idx

theorem setPeer_found {tables : PeerTables} {fd : Nat} {gwid : UInt32}
    (inside : peer < tables.peers.length)
    (fresh : ∀ other, other ≠ peer → ∀ pi, tables.peers[other]? = some pi → pi.gwid ≠ gwid) :
    (tables.setPeer peer gwid (some fd)).peers.findIdx? (fun pi => pi.gwid == gwid) = some peer := by
  have length : (tables.setPeer peer gwid (some fd)).peers.length = tables.peers.length :=
    List.length_modify _ _ _
  rw [List.findIdx?_eq_some_iff_getElem]
  refine ⟨by rw [length]; exact inside, ?_, ?_⟩
  · simp [PeerTables.setPeer]
  · intro other before
    have isOther : other ≠ peer := by omega
    have isThere := List.getElem?_eq_getElem (show other < tables.peers.length by omega)
    grind [PeerTables.setPeer, List.getElem_modify]

/-- A peer that comes up is told of the names in the service table. -/
theorem peerUp_next {around : Surroundings} {state : InstanceState} {peer fd : Nat} {gwid : UInt32}
    (inside : peer < state.tables.peers.length)
    (fresh : ∀ other, other ≠ peer → ∀ pi, state.tables.peers[other]? = some pi → pi.gwid ≠ gwid) :
    ∃ told : Told,
      told = (svcnamelist state.mwd).dedup.foldl
        (fun told name => Told.export told (state.surroundings around) name peer)
        (state.tables.setPeer peer gwid (some fd), []) ∧
      state.peerUp around peer gwid fd = .ok { state with
        tables := told.1
        up := Function.update state.up peer true
        sent := hear state.sent told.2 } := by
  refine ⟨_, rfl, ?_⟩
  have names := @foldl_names_sent (state.surroundings around) peer (svcnamelist state.mwd).dedup
    (state.tables.setPeer peer gwid (some fd)) []
  rw [List.map_nil] at names
  rw [names, InstanceState.peerUp, PeerTables.provideservicesToPeer, setPeer_found inside fresh]
  rfl

section

variable {tables after : PeerTables} {around : Surroundings} {service : List Byte}

structure SameExports (before after : PeerTables) : Prop where
  exportlist : after.exportlist = before.exportlist
  peers : after.peers = before.peers

theorem unimportservice_same (pi : Option Nat) :
    SameExports tables (tables.unimportservice service pi) := by
  unfold PeerTables.unimportservice
  split
  · exact ⟨rfl, rfl⟩
  · exact ⟨rfl, rfl⟩
  · dsimp only
    split
    · exact ⟨rfl, rfl⟩
    · split_ifs <;> exact ⟨rfl, rfl⟩

theorem importservice_same {pi : Option Nat}
    (done : tables.importservice around service cost pi = .ok after) :
    SameExports tables after := by
  have new : SameExports tables (tables.condnewimport service).2 := by
    unfold PeerTables.condnewimport
    split <;> exact ⟨rfl, rfl⟩
  rw [PeerTables.importservice] at done
  cases pi with
  | none => cases done
  | some peer =>
      dsimp only at done
      split_ifs at done
      · simp_all
      · cases done
        have undone := @unimportservice_same ((tables.condnewimport service).2.setLinks
          (tables.condnewimport service).1
          (((tables.condnewimport service).2.importlist[(tables.condnewimport service).1]?.map
            ImportEntry.peerlist).getD [] ++ [⟨peer, unassigned⟩])) service (some peer)
        exact ⟨undone.exportlist.trans new.exportlist, undone.peers.trans new.peers⟩
      · cases done
        exact ⟨new.exportlist, new.peers⟩

theorem impsetsvcid_same (svcid gwid : UInt32) :
    SameExports tables (tables.impsetsvcid service svcid gwid) := by
  unfold PeerTables.impsetsvcid
  dsimp only
  split
  · exact ⟨rfl, rfl⟩
  · split <;> exact ⟨rfl, rfl⟩

theorem gwAddknownpeer_peers (name domain : List Byte) :
    (tables.gwAddknownpeer around name domain).2.exportlist = tables.exportlist ∧
      ∃ more, (tables.gwAddknownpeer around name domain).2.peers = tables.peers ++ more := by
  unfold PeerTables.gwAddknownpeer
  split_ifs
  · exact ⟨rfl, [], (List.append_nil _).symm⟩
  · dsimp only
    split
    · exact ⟨rfl, [], (List.append_nil _).symm⟩
    · exact ⟨rfl, _, rfl⟩

end

/-- A peer in state `UP` to which the service may be exported. -/
structure PeerTables.MayHear (tables : PeerTables) (up : Nat → Bool) (service : List Byte)
    (peer : Nat) : Prop where
  inside : peer < tables.peers.length
  isUp : up peer = true
  may : tables.MayExport service peer

abbrev InstanceState.MayHear (state : InstanceState) (service : List Byte) (peer : Nat) : Prop :=
  state.tables.MayHear state.up service peer

/-- What a peer was sent is what the exports say, and all names are names. -/
structure InstanceState.Sound (precise : Prop) (state : InstanceState) : Prop where
  heard : Heard precise state.tables state.sent
  named : Named state.mwd
  pending : ∀ event ∈ state.pending, IsName event.name

/-- Names fit, a service that is told has a cost, and with `precise` no peer of an export with
another cost was told before. -/
def InstanceState.Regular (myGatewayid : Int) (precise : Prop) (state : InstanceState) :
    InstanceAction → Prop
  | .request request => NameFits request
  | .event index _ => ∀ event, state.pending[index]? = some event → ∀ service,
      newsOf state.mwd myGatewayid event = some (.provided service) →
      gwGetcostofservice state.mwd service ≠ -1 ∧
        (precise → gwGetcostofservice state.mwd service ≠ (state.tables.exported service).1 →
          (state.tables.exported service).2 = [])
  | .peerUp _ _ _ => ∀ service ∈ svcnamelist state.mwd, service.head? ≠ some 46 →
      gwGetcostofservice state.mwd service ≠ -1
  | .known _ _ | .peerDown _ | .provide _ _ _ | .unprovide _ _ | .provideReply _ _ _ => True

section

variable {precise : Prop} {state next : InstanceState} {around : Surroundings} {myGatewayid : Int}

theorem newsOf_name {tables : Mwd.Tables} {event : Mwd.ServiceEvent} {service : List Byte}
    (isNews : newsOf tables myGatewayid event = some (.provided service) ∨
      newsOf tables myGatewayid event = some (.unprovided service)) : event.name = service := by
  unfold newsOf at isNews
  grind

/-- The event of a service with a cost. -/
theorem Heard.provided {tables : PeerTables} {service : List Byte}
    (heard : Heard precise tables sent) (isName : IsName service)
    (hasCost : 0 ≤ around.costofservice service)
    (unseen : precise → around.costofservice service ≠ (tables.exported service).1 → (tables.exported service).2 = [])
    (up : Nat → Bool) (stale : Int) :
    Heard precise (tables.doprovideevent around up stale service).1
      (hear sent (tables.doprovideevent around up stale service).2) := by
  have notNone : around.costofservice service ≠ -1 := by omega
  by_cases same : around.costofservice service = (tables.exported service).1
  · rcases @doprovideevent_same tables around service stale up heard.distinct isName notNone same with
      ⟨after, index, has, done⟩
    simp [done, hear_nil, heard.of_same, has.distinct, has.exported]
  · rcases @doprovideevent_changed tables around service stale up heard.distinct isName notNone same
      with ⟨middle, re, done⟩
    rw [done]
    have here := re.exported service
    rw [if_pos rfl] at here
    refine (heard.setCost re isName hasCost fun isPrecise => unseen isPrecise same).provide_to_peers
      isName ?_ up
    rw [here]
    exact notNone

theorem Heard.unprovided {tables : PeerTables} {service : List Byte}
    (heard : Heard precise tables sent) (isName : IsName service) (stillProvided : Bool) :
    Heard precise (tables.dounprovideevent stillProvided service).1
      (hear sent (tables.dounprovideevent stillProvided service).2) := by
  cases stillProvided with
  | true =>
      change Heard precise tables (hear sent [])
      rw [hear_nil]
      exact heard
  | false => exact heard.unexport isName

theorem Heard.up {gwid : UInt32} {peer fd : Nat} (sound : state.Sound precise)
    (costs : ∀ service ∈ svcnamelist state.mwd, service.head? ≠ some 46 →
      gwGetcostofservice state.mwd service ≠ -1)
    {told : Told} (isTold : told = (svcnamelist state.mwd).dedup.foldl
      (fun told name => Told.export told (state.surroundings around) name peer)
      (state.tables.setPeer peer gwid (some fd), [])) :
    Heard precise told.1 (hear state.sent told.2) ∧
      Reached (state.tables.setPeer peer gwid (some fd)) told.1 (state.surroundings around)
        (svcnamelist state.mwd).dedup peer := by
  rw [isTold]
  refine foldl_names_reached _ ?_ ?_ ?_
  · rw [hear_nil]
    exact sound.heard.of_same sound.heard.distinct rfl
  · intro name member
    exact svcnamelist_named sound.named name (List.mem_dedup.mp member)
  · intro name member noDot
    exact gwGetcostofservice_nonneg (costs name (List.mem_dedup.mp member) noDot)

theorem Heard.of_exportlist {before after : PeerTables} (heard : Heard precise before sent)
    (same : after.exportlist = before.exportlist) :
    Heard precise after sent := by
  refine heard.of_same ?_ ?_
  · simp [same, heard.distinct]
  · simp [same, PeerTables.exported]

theorem handleEvent_sound (sound : state.Sound precise) {index : Nat} {stale : Int}
    (regular : state.Regular myGatewayid precise (.event index stale)) :
    (state.handleEvent around myGatewayid index stale).Sound precise := by
  unfold InstanceState.handleEvent
  cases isAt : state.pending[index]? with
  | none => exact sound
  | some event =>
      have isName := sound.pending event (List.mem_of_getElem? isAt)
      have rest : ∀ event ∈ state.pending.eraseIdx index, IsName event.name :=
        fun event member => sound.pending event ((List.eraseIdx_sublist _ _).mem member)
      dsimp only
      cases news : newsOf state.mwd myGatewayid event with
      | none => exact ⟨sound.heard, sound.named, rest⟩
      | some news' =>
          cases news' with
          | provided service =>
              rcases regular event isAt service news with ⟨hasCost, unseen⟩
              rw [newsOf_name (Or.inl news)] at isName
              exact ⟨sound.heard.provided isName (gwGetcostofservice_nonneg hasCost) unseen _ _,
                sound.named, rest⟩
          | unprovided service =>
              rw [newsOf_name (Or.inr news)] at isName
              exact ⟨sound.heard.unprovided isName _, sound.named, rest⟩

theorem request_pending {mwd : Mwd.Tables} (named : Named mwd)
    (pending : ∀ event ∈ state.pending, IsName event.name) :
    ∀ event ∈ state.pending ++ mwd.events.drop state.mwd.events.length, IsName event.name := by
  refine List.forall_mem_append.mpr ⟨pending, ?_⟩
  intro event member
  exact named.events event ((List.drop_sublist _ _).mem member)

theorem handleRequest_ok (done : state.handleRequest request = .ok next) :
    ∃ mwd, state.mwd.handle request = .ok mwd ∧ next = { state with
      mwd := mwd
      pending := state.pending ++ mwd.events.drop state.mwd.events.length } := by
  unfold InstanceState.handleRequest at done
  grind

theorem importFrom_ok {service : List Byte}
    (done : state.importFrom around peer service cost = .ok next) :
    ∃ tables, state.tables.importservice around service cost (some peer) = .ok tables ∧
      next = { state with tables := tables } := by
  unfold InstanceState.importFrom at done
  grind

/-- Regular steps keep this. -/
theorem step_sound (sound : state.Sound precise) {action : InstanceAction}
    (isEnabled : state.enabled action) (regular : state.Regular myGatewayid precise action)
    (stepped : state.step around myGatewayid action = .ok next) : next.Sound precise := by
  cases action with
  | request request =>
      rcases handleRequest_ok stepped with ⟨mwd, handled, rfl⟩
      have named := sound.named.handle regular handled
      exact ⟨sound.heard, named, request_pending named sound.pending⟩
  | event index stale =>
      cases stepped
      exact handleEvent_sound sound regular
  | known name domain =>
      cases stepped
      exact ⟨sound.heard.of_exportlist (gwAddknownpeer_peers name domain).1, sound.named,
        sound.pending⟩
  | peerUp peer gwid fd =>
      rcases isEnabled with ⟨inside, _, fresh⟩
      rcases @peerUp_next around state peer fd gwid inside fresh with ⟨told, isTold, done⟩
      cases done.symm.trans stepped
      exact ⟨(Heard.up sound regular isTold).1, sound.named, sound.pending⟩
  | peerDown peer =>
      cases stepped
      exact ⟨(sound.heard.cleaned peer).of_exportlist rfl, sound.named, sound.pending⟩
  | provide peer service cost =>
      rcases importFrom_ok stepped with ⟨tables, imported, rfl⟩
      exact ⟨sound.heard.of_exportlist (importservice_same imported).exportlist, sound.named,
        sound.pending⟩
  | unprovide peer service =>
      cases stepped
      exact ⟨sound.heard.of_exportlist (unimportservice_same _).exportlist, sound.named, sound.pending⟩
  | provideReply service svcid gwid =>
      cases stepped
      exact ⟨sound.heard.of_exportlist (impsetsvcid_same _ _).exportlist, sound.named, sound.pending⟩

theorem start_sound {allowed : Mwd.Tables → Mwd.Request → Prop}
    (fits : ∀ tables request, allowed tables request → NameFits request)
    (isStart : (instanceMachine around myGatewayid allowed).start state) : state.Sound precise := by
  rcases isStart with ⟨reachable, noEvents, noExports, _, unsent⟩
  have none (service : List Byte) : state.tables.exported service = (-1, []) := by
    rw [PeerTables.exported, noExports]
    rfl
  refine ⟨⟨?_, ?_, ?_, ?_, ?_⟩, mwd_named fits reachable, ?_⟩
  · rw [noExports]
    exact List.nodup_nil
  · simp [none, List.nodup_nil]
  · simp [none]
  · simp [none]
  · intro service _ peer _ cost
    rw [unsent]
    intro isLast
    cases isLast
  · simp [noEvents]

end

def someSurroundings : Surroundings where
  myinstance := [97]
  mydomain := [100]
  svcnames := []
  costofservice := fun _ => -1
  gateways := []
  allocgwid := 0x04000001
  inet := true
  attachRc := 0
  provideRc := 0
  eventAlloc := true
  myMwid := 0x04000000

def knowsOne (mwd : Mwd.Tables) : InstanceState where
  mwd := mwd
  pending := []
  tables := ⟨[⟨[98], 0, unassigned, none⟩], [], [], []⟩
  up := fun _ => false
  sent := fun _ => []

theorem knowsOne_start {allowed : Mwd.Tables → Mwd.Request → Prop} {mwd : Mwd.Tables}
    (reachable : Mwd.mwd.Reachable allowed mwd) :
    (instanceMachine someSurroundings 0x04000000 allowed).start (knowsOne mwd) :=
  ⟨reachable, rfl, rfl, fun _ => rfl, fun _ => rfl⟩

theorem knowsOne_peerUp (allowed : Mwd.Tables → Mwd.Request → Prop) (mwd : Mwd.Tables)
    (gwid : UInt32) (fd : Nat) :
    (instanceMachine someSurroundings 0x04000000 allowed).enabled (knowsOne mwd)
      (.peerUp 0 gwid fd) := by
  refine ⟨Nat.zero_lt_one, rfl, ?_⟩
  grind [knowsOne, Nat.pos_of_ne_zero]

end MidWay.Gateway

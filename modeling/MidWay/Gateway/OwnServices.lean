import MidWay.Gateway.Instance

/-!
Contract: when a gateway advertises exactly the services of its own instance.

Whether a service is to be advertised is decided in three places with three tests: a
provide event looks at the entry its id names, an unprovide event at all entries of the
name, imports included, and a new peer at all entries that are no imports. They agree
as long as an unprovide event does not meet an import of the name, the entry of a
provide event has not been taken by another service, services are for calls, and a peer
does not come up between a change of the table and its event.

Owns: `OwnKept`, the steps in which this is so, and that in runs of such steps a peer
was last sent a `PROVIDE` exactly for the services of the instance.
-/

namespace MidWay.Gateway

open MidWay.CLib MidWay.Url MidWay.Srb MidWay.Lib

structure ServedAt (tables : Mwd.Tables) (idx : Int) (service : List Byte) : Prop where
  lower : 0 ≤ idx
  upper : idx < tables.svctblLength
  server : (tables.svctbl idx).server ≠ Mwd.unassigned
  isName : (tables.svctbl idx).servicename = service

def HasServer (tables : Mwd.Tables) (service : List Byte) : Prop := ∃ idx, ServedAt tables idx service

def Tidy (entry : Mwd.Serviceentry) : Prop :=
  (entry.type = Mwd.unassigned ∧ entry.server = Mwd.unassigned) ∨
    (entry.type = Mwd.mwCallSvc ∧ entry.server ≠ Mwd.unassigned ∧
      entry.server < Mwd.mwGatewayMask ∧ entry.location = Mwd.gwLocal) ∨
    (entry.type ≠ Mwd.unassigned ∧ entry.server = Mwd.unassigned ∧ entry.location = gwPeer)

/-- The name fits, a server provides for calls, and a gateway that provides is that of a peer. -/
def Advertisable (tables : Mwd.Tables) : Mwd.Request → Prop
  | .provide status pmesg => NameFits (.provide status pmesg) ∧
      (pmesg.srvid ≠ -1 → pmesg.conv = false) ∧
      (pmesg.srvid = -1 → ∀ gwidx, tables.getgatewayentry pmesg.gwid = some gwidx →
        (tables.gwtbl gwidx).location = gwPeer)
  | .attach _ _ | .detach _ | .unprovide _ | .check _ | .gateways _ => True

structure IsNew (event : Mwd.ServiceEvent) (idx : Int) (service : List Byte) : Prop where
  kind : event.kind = .provide
  svcid : event.svcid = idx + Mwd.mwServiceMask
  name : event.name = service
  provider : event.provider < Mwd.mwGatewayMask

structure IsGone (event : Mwd.ServiceEvent) (service : List Byte) : Prop where
  kind : event.kind = .unprovide
  lower : 0 ≤ event.svcid
  upper : event.svcid < 16777216
  name : event.name = service
  provider : event.provider < Mwd.mwGatewayMask

structure Announced (before after : Mwd.Tables) (extra : List Mwd.ServiceEvent) : Prop where
  length : after.svctblLength = before.svctblLength
  events : after.events = before.events ++ extra
  new : ∀ idx service, ServedAt after idx service →
    ServedAt before idx service ∨ ∃ event ∈ extra, IsNew event idx service
  gone : ∀ idx service, ServedAt before idx service →
    ServedAt after idx service ∨ ∃ event ∈ extra, IsGone event service

section

variable {before middle after tables : Mwd.Tables} {extra more : List Mwd.ServiceEvent}

theorem NameFits.of_advertisable {request : Mwd.Request} (allowed : Advertisable tables request) :
    NameFits request := by
  cases request with
  | provide status pmesg => exact allowed.1
  | _ => trivial

theorem ServedAt.of_same {idx : Int} {service : List Byte} (served : ServedAt before idx service)
    (length : after.svctblLength = before.svctblLength)
    (same : after.svctbl idx = before.svctbl idx) : ServedAt after idx service := by
  refine ⟨served.lower, ?_, ?_, ?_⟩
  · simp [length, served.upper]
  · simp [same, served.server]
  · simp [same, served.isName]

theorem Announced.trans (first : Announced before middle extra)
    (second : Announced middle after more) : Announced before after (extra ++ more) := by
  refine ⟨second.length.trans first.length, ?_, ?_, ?_⟩
  · rw [second.events, first.events, List.append_assoc]
  · intro idx service served
    rcases second.new idx service served with old | ⟨event, member, isNew⟩
    · rcases first.new idx service old with older | ⟨event, member, isNew⟩
      · exact Or.inl older
      · exact Or.inr ⟨event, List.mem_append_left _ member, isNew⟩
    · exact Or.inr ⟨event, List.mem_append_right _ member, isNew⟩
  · intro idx service served
    rcases first.gone idx service served with still | ⟨event, member, isGone⟩
    · rcases second.gone idx service still with yet | ⟨event, member, isGone⟩
      · exact Or.inl yet
      · exact Or.inr ⟨event, List.mem_append_right _ member, isGone⟩
    · exact Or.inr ⟨event, List.mem_append_left _ member, isGone⟩

theorem Tidy.served {entry : Mwd.Serviceentry} (tidy : Tidy entry)
    (server : entry.server ≠ Mwd.unassigned) :
    entry.type = Mwd.mwCallSvc ∧ entry.server < Mwd.mwGatewayMask ∧ entry.location = Mwd.gwLocal := by
  rcases tidy with free | ⟨type, _, id, location⟩ | ⟨_, none, _⟩
  · exact absurd free.2 server
  · exact ⟨type, id, location⟩
  · exact absurd none server

/-- What a request adds is tidy, and has a provider that is no gateway if it has a server. -/
theorem adds_tidy {request : Mwd.Request} (issued : tables.Issued request)
    (allowed : Advertisable tables request) (tidy : ∀ idx, Tidy (tables.svctbl idx))
    {provider idx : Int} {entry : Mwd.Serviceentry} (adds : tables.Adds request provider idx entry) :
    Tidy entry ∧ (entry.server ≠ Mwd.unassigned → provider < Mwd.mwGatewayMask) := by
  cases request with
  | provide status pmesg =>
      rcases adds with ⟨isFree, ⟨server, rfl, rfl⟩ | ⟨noServer, rfl, gwidx, isEntry, rfl⟩⟩
      · have small : pmesg.srvid < Mwd.mwGatewayMask := by
          rcases issued server with ⟨srvidx, lower, upper, isId⟩
          have fits := tables.srvtblFits
          rw [isId, Mwd.mwServerMask, Mwd.mwGatewayMask]
          omega
        refine ⟨Or.inr (Or.inl ⟨?_, server, small, rfl⟩), fun _ => small⟩
        change pmesg.type = Mwd.mwCallSvc
        rw [Mwd.Provide.type, allowed.2.1 server]
        rfl
      · have free : (tables.svctbl idx).server = Mwd.unassigned := by
          rcases tidy idx with free | ⟨type, _⟩ | ⟨inUse, _⟩
          · exact free.2
          · rw [isFree] at type
            exact absurd type (by decide)
          · exact absurd isFree inUse
        refine ⟨Or.inr (Or.inr ⟨pmesg.isSvcType.ne_unassigned, free, ?_⟩), ?_⟩
        · exact allowed.2.2 noServer gwidx isEntry
        · intro server
          exact absurd free server
  | _ => exact adds.elim

/-- A step that adds what is tidy keeps the table so, and announces what it does. -/
theorem step_announced {adds : Int → Int → Mwd.Serviceentry → Prop}
    (areTidy : ∀ provider idx entry, adds provider idx entry →
      Tidy entry ∧ (entry.server ≠ Mwd.unassigned → provider < Mwd.mwGatewayMask))
    (named : Named before) (tidy : ∀ idx, Tidy (before.svctbl idx))
    (step : Mwd.ServiceStep adds before after) :
    (∀ idx, Tidy (after.svctbl idx)) ∧ ∃ extra, Announced before after extra := by
  cases step with
  | same length svctbl events =>
      refine ⟨?_, [], length, ?_, ?_, ?_⟩
      · simp [svctbl, tidy]
      · rw [events, List.append_nil]
      · intro idx service served
        exact Or.inl (served.of_same length.symm (by rw [svctbl]))
      · intro idx service served
        exact Or.inl (served.of_same length (by rw [svctbl]))
  | added provider idx entry added allowed =>
      rcases areTidy provider idx entry allowed with ⟨isTidy, isProvider⟩
      have others (other : Int) (different : other ≠ idx) :
          after.svctbl other = before.svctbl other := by
        rw [added.svctbl, Function.update_of_ne different]
      have here : after.svctbl idx = entry := by rw [added.svctbl, Function.update_self]
      refine ⟨?_, _, added.members.svctblLength, added.events, ?_, ?_⟩
      · grind
      · intro other service served
        by_cases same : other = idx
        · have server := served.server
          have isName := served.isName
          rw [same, here] at server isName
          refine Or.inr ⟨_, List.mem_singleton.mpr rfl, rfl, ?_, isName, isProvider server⟩
          rw [same]
        · exact Or.inl (served.of_same added.members.svctblLength.symm (others other same).symm)
      · intro other service served
        by_cases same : other = idx
        · have free := added.free
          have server := served.server
          rw [same] at server
          rw [((tidy idx).served server).1] at free
          exact absurd free (by decide)
        · exact Or.inl (served.of_same added.members.svctblLength (others other same))
  | deleted length idx svctbl events =>
      have others (other : Int) (different : other ≠ idx) :
          after.svctbl other = before.svctbl other := by
        rw [svctbl, Function.update_of_ne different]
      have here : after.svctbl idx = (before.svctbl idx).cleared := by
        rw [svctbl, Function.update_self]
      refine ⟨?_, _, length, events, ?_, ?_⟩
      · intro other
        by_cases same : other = idx
        · rw [same, here]
          exact Or.inl ⟨rfl, rfl⟩
        · simp_all
      · intro other service served
        by_cases same : other = idx
        · have server := served.server
          rw [same, here] at server
          exact absurd rfl server
        · exact Or.inl (served.of_same length.symm (others other same).symm)
      · intro other service served
        by_cases same : other = idx
        · subst same
          have fits := before.svctblFits
          have upper := served.upper
          refine Or.inr ⟨_, List.mem_singleton.mpr rfl, rfl, served.lower, ?_, ?_, ?_⟩
          · change other < 16777216
            omega
          · change Mwd.copySvcname (before.svctbl other).servicename = service
            rw [(named.entries other).copy, served.isName]
          · change (before.svctbl other).provider < Mwd.mwGatewayMask
            rw [Mwd.Serviceentry.provider, if_pos served.server]
            exact ((tidy other).served served.server).2.1
        · exact Or.inl (served.of_same length (others other same))

theorem steps_announced {adds : Int → Int → Mwd.Serviceentry → Prop}
    (areTidy : ∀ provider idx entry, adds provider idx entry →
      Tidy entry ∧ (entry.server ≠ Mwd.unassigned → provider < Mwd.mwGatewayMask))
    (areNames : ∀ provider idx entry, adds provider idx entry → IsName entry.servicename)
    (named : Named before) (tidy : ∀ idx, Tidy (before.svctbl idx))
    (steps : Mwd.ServiceSteps adds before after) :
    (∀ idx, Tidy (after.svctbl idx)) ∧ ∃ extra, Announced before after extra := by
  induction steps with
  | refl =>
      refine ⟨tidy, [], rfl, (List.append_nil _).symm, ?_, ?_⟩
      · exact fun _ _ => Or.inl
      · exact fun _ _ => Or.inl
  | tail path step ih =>
      rcases ih with ⟨middleTidy, extra, announced⟩
      rcases step_announced areTidy (named.steps areNames path) middleTidy step with
        ⟨lastTidy, more, next⟩
      exact ⟨lastTidy, extra ++ more, announced.trans next⟩

theorem handle_announced {request : Mwd.Request} (issued : before.Issued request)
    (allowed : Advertisable before request) (named : Named before)
    (tidy : ∀ idx, Tidy (before.svctbl idx)) (done : before.handle request = .ok after) :
    (∀ idx, Tidy (after.svctbl idx)) ∧ ∃ extra, Announced before after extra :=
  steps_announced (fun _ _ _ adds => adds_tidy issued allowed tidy adds)
    (fun _ _ _ adds => adds_named (NameFits.of_advertisable allowed) adds) named tidy
    (Mwd.handle_steps done)

end

section

variable {tables : Mwd.Tables} {idx : Int} {service : List Byte} {event : Mwd.ServiceEvent}

theorem newsOf_new (own : Nat) (tidy : Tidy (tables.svctbl idx)) (served : ServedAt tables idx service)
    (isNew : IsNew event idx service) :
    newsOf tables (Mwd.mwGatewayMask + own) event = some (.provided service) := by
  have fits := tables.svctblFits
  have upper := served.upper
  have inside : idx < 16777216 := by omega
  have isId : Mwd.svcidOf event.svcid ≠ Mwd.unassigned := by
    rw [isNew.svcid, Mwd.svcidOf, Mwd.filterId_add Mwd.isMask_service served.lower inside]
    exact Mwd.add_mask_ne_unassigned Mwd.isMask_service served.lower inside
  have isIndex : Mwd.svcid2idx event.svcid = idx := by
    rw [isNew.svcid, Mwd.svcid2idx, Mwd.id2idx_add Mwd.isMask_service served.lower inside]
  have isEntry : mwGetServiceByid tables event.svcid = some (tables.svctbl idx) := by
    rw [mwGetServiceByid, if_neg isId, isIndex, if_neg (Int.not_le.mpr upper), if_neg served.server]
  have provider := isNew.provider
  have location := (tidy.served served.server).2.2
  have notOwn : event.provider ≠ Mwd.mwGatewayMask + own := by omega
  rw [newsOf, isEntry, isNew.kind, isNew.name]
  dsimp only
  rw [if_neg, if_neg notOwn, if_pos]
  · simp [Option.any_some, location]
  · rw [Option.any_some, location]
    decide

theorem newsOf_gone (own : Nat) (isGone : IsGone event service) :
    newsOf tables (Mwd.mwGatewayMask + own) event = some (.unprovided service) := by
  have notId : Mwd.svcidOf event.svcid = Mwd.unassigned := by
    rw [Mwd.svcidOf, Mwd.filterId,
      Mwd.hasMask_index Mwd.isMask_service isGone.lower isGone.upper]
    rfl
  have noEntry : mwGetServiceByid tables event.svcid = none := by
    rw [mwGetServiceByid, if_pos notId]
  have provider := isGone.provider
  have notOwn : event.provider ≠ Mwd.mwGatewayMask + own := by omega
  simp_all [newsOf, isGone.kind, isGone.name, Option.any_none]

theorem mem_entries (lower : 0 ≤ idx) (upper : idx < tables.svctblLength) :
    tables.svctbl idx ∈ (List.range tables.svctblLength).map fun index : Nat => tables.svctbl index := by
  refine List.mem_map.mpr ⟨idx.toNat, List.mem_range.mpr (by omega), ?_⟩
  rw [Int.toNat_of_nonneg lower]

theorem ServedAt.byname (tidy : Tidy (tables.svctbl idx)) (served : ServedAt tables idx service) :
    tables.svctbl idx ∈ mwGetServicesByname tables service := by
  refine List.mem_filter.mpr ⟨mem_entries served.lower served.upper, ?_⟩
  simp [tidy.served, served.isName, Mwd.sameSvcname, served.server]

/-- The names a new peer is told of are those of the servers. -/
theorem mem_svcnamelist (tidy : ∀ idx, Tidy (tables.svctbl idx)) :
    service ∈ svcnamelist tables ↔ HasServer tables service := by
  constructor
  · intro member
    rcases List.mem_map.mp member with ⟨entry, isEntry, isName⟩
    rcases List.mem_filter.mp isEntry with ⟨isIn, inUse⟩
    rcases List.mem_map.mp isIn with ⟨index, inside, rfl⟩
    rw [Bool.and_eq_true, bne_iff_ne, bne_iff_ne] at inUse
    refine ⟨index, Int.natCast_nonneg index, Int.ofNat_lt.mpr (List.mem_range.mp inside), ?_, isName⟩
    rcases tidy index with free | ⟨_, server, _⟩ | ⟨_, _, location⟩
    · exact absurd free.1 inUse.1
    · exact server
    · exact absurd location inUse.2
  · rintro ⟨idx, served⟩
    have isServed := (tidy idx).served served.server
    refine List.mem_map.mpr ⟨tables.svctbl idx, List.mem_filter.mpr
      ⟨mem_entries served.lower served.upper, ?_⟩, served.isName⟩
    rw [isServed.1, isServed.2.2]
    decide

end

/-- What goes on when every event still finds its service, and a peer comes up when the exports
are the services. -/
def InstanceState.OwnKept (own : Nat) (state : InstanceState) : InstanceAction → Prop
  | .request request => Advertisable state.mwd request
  | .event index _ => ∀ event, state.pending[index]? = some event → ∀ service,
      (newsOf state.mwd (Mwd.mwGatewayMask + own) event = some (.provided service) ∨
        (newsOf state.mwd (Mwd.mwGatewayMask + own) event = some (.unprovided service) ∧
          mwGetServicesByname state.mwd service ≠ [])) → HasServer state.mwd service
  | .peerUp _ _ _ => ∀ service, IsName service → service.head? ≠ some 46 →
      ((state.tables.exported service).1 ≠ -1 → HasServer state.mwd service) ∧
        (HasServer state.mwd service →
          (state.tables.exported service).1 ≠ -1 ∨ ∀ peer, ¬state.MayHear service peer)
  | .known _ _ | .peerDown _ | .provide _ _ _ | .unprovide _ _ | .provideReply _ _ _ => True

/-- A service that came and is not exported has its event under way, as has one that went and is.
All peers that are up were told of what is exported. -/
structure InstanceState.Advertises (state : InstanceState) : Prop where
  sound : state.Sound False
  tidy : ∀ idx, Tidy (state.mwd.svctbl idx)
  isPeer : ∀ peer, state.up peer = true → peer < state.tables.peers.length
  new : ∀ idx service, ServedAt state.mwd idx service → service.head? ≠ some 46 →
    (state.tables.exported service).1 = -1 →
    (∃ event ∈ state.pending, IsNew event idx service) ∨ ∀ peer, ¬state.MayHear service peer
  gone : ∀ service, IsName service → (state.tables.exported service).1 ≠ -1 →
    ¬HasServer state.mwd service → ∃ event ∈ state.pending, IsGone event service
  all : ∀ service, IsName service → (state.tables.exported service).1 ≠ -1 →
    ∀ peer, state.MayHear service peer → peer ∈ (state.tables.exported service).2

section

variable {around : Surroundings} {own : Nat} {state next : InstanceState}

theorem HasServer.cost (tidy : ∀ idx, Tidy (state.mwd.svctbl idx)) {service : List Byte}
    (has : HasServer state.mwd service) : gwGetcostofservice state.mwd service ≠ -1 := by
  rcases has with ⟨idx, served⟩
  have cost := gwGetcostofservice_of_mem (served.byname (tidy idx))
  omega

theorem OwnKept.regular (tidy : ∀ idx, Tidy (state.mwd.svctbl idx)) {action : InstanceAction}
    (kept : state.OwnKept own action) :
    state.Regular (Mwd.mwGatewayMask + own) False action := by
  cases action with
  | request request => exact NameFits.of_advertisable kept
  | event index stale =>
      intro event isAt service news
      exact ⟨(kept event isAt service (Or.inl news)).cost tidy, False.elim⟩
  | peerUp peer gwid fd =>
      intro service member _
      exact ((mem_svcnamelist tidy).mp member).cost tidy
  | _ => trivial

/-- When all events are handled, the last message about a service is a `PROVIDE` exactly if it
has a server. -/
theorem InstanceState.Advertises.last (advertises : state.Advertises) (handled : state.pending = [])
    {service : List Byte} (isName : IsName service) {peer : Nat} (hears : state.MayHear service peer) :
    (∃ cost, lastAbout service (state.sent peer) = some (provideMessage service cost)) ↔
      HasServer state.mwd service := by
  have heard := advertises.sound.heard
  constructor
  · rintro ⟨cost, isLast⟩
    by_cases isTold : peer ∈ (state.tables.exported service).2
    · have isCost := (heard.told service isName peer isTold).1
      by_contra noServer
      rcases advertises.gone service isName (by omega) noServer with ⟨event, member, _⟩
      rw [handled] at member
      cases member
    · exact absurd isLast (heard.notTold service isName peer isTold cost)
  · rintro ⟨idx, served⟩
    have exported : (state.tables.exported service).1 ≠ -1 := by
      intro notExported
      rcases advertises.new idx service served hears.may.noDot notExported with
        ⟨event, member, _⟩ | nobody
      · simp [handled] at member
      · exact nobody peer hears
    have isTold := advertises.all service isName exported peer hears
    rcases (heard.told service isName peer isTold).2 with ⟨cost, _, isLast⟩
    exact ⟨cost, isLast⟩

theorem mayHear_of {before after : PeerTables} {up up' : Nat → Bool} {service : List Byte}
    {peer : Nat}
    (domains : after.peers.map Gwpeerinfo.domainid = before.peers.map Gwpeerinfo.domainid)
    (wasUp : up' peer = true → up peer = true) (hears : after.MayHear up' service peer) :
    before.MayHear up service peer := by
  have lengths := congrArg List.length domains
  rw [List.length_map, List.length_map] at lengths
  refine ⟨?_, wasUp hears.isUp, ?_, hears.may.noDot⟩
  · rw [← lengths]
    exact hears.inside
  · rw [← List.getElem?_map, ← domains, List.getElem?_map]
    exact hears.may.domain

theorem setPeer_domains (tables : PeerTables) (peer : Nat) (gwid : UInt32) (conn : Option Nat) :
    (tables.setPeer peer gwid conn).peers.map Gwpeerinfo.domainid =
      tables.peers.map Gwpeerinfo.domainid := by
  apply List.ext_getElem?
  grind [PeerTables.setPeer]

theorem mem_eraseIdx_or {α : Type} {list : List α} {index : Nat} {handled value : α}
    (isAt : list[index]? = some handled) (member : value ∈ list) :
    value = handled ∨ value ∈ list.eraseIdx index := by
  rcases List.mem_iff_getElem?.mp member with ⟨place, isValue⟩
  by_cases same : place = index
  · simp_all [Or.inl]
  · exact Or.inr (List.mem_eraseIdx_iff_getElem?.mpr ⟨place, same, isValue⟩)

/-- The exports and the peers stay as they are. -/
theorem InstanceState.Advertises.of_same {tables : PeerTables} (advertises : state.Advertises)
    (same : SameExports state.tables tables)
    (sound : { state with tables := tables }.Sound False) :
    { state with tables := tables }.Advertises := by
  have exported : tables.exported = state.tables.exported := by
    simp [same.exportlist, PeerTables.exported]
  have hears {service : List Byte} {peer : Nat}
      (mayHear : tables.MayHear state.up service peer) : state.MayHear service peer :=
    mayHear_of (congrArg (List.map Gwpeerinfo.domainid) same.peers) id mayHear
  refine ⟨sound, advertises.tidy, ?_, ?_, ?_, ?_⟩
  · simp_all [same.peers, advertises.isPeer]
  · intro idx service served noDot notExported
    rw [exported] at notExported
    refine (advertises.new idx service served noDot notExported).imp_right ?_
    exact fun nobody peer mayHear => nobody peer (hears mayHear)
  · simp_all [advertises.gone]
  · simp_all [advertises.all]

/-- `mwd` handles a request, and sends the events of what it does. -/
theorem InstanceState.Advertises.request {request : Mwd.Request} {mwd : Mwd.Tables}
    (advertises : state.Advertises) (issued : state.mwd.Issued request)
    (allowed : Advertisable state.mwd request) (handled : state.mwd.handle request = .ok mwd)
    (sound : { state with
      mwd := mwd
      pending := state.pending ++ mwd.events.drop state.mwd.events.length }.Sound False) :
    { state with
      mwd := mwd
      pending := state.pending ++ mwd.events.drop state.mwd.events.length }.Advertises := by
  rcases handle_announced issued allowed advertises.sound.named advertises.tidy handled with
    ⟨tidy, extra, announced⟩
  have isExtra : mwd.events.drop state.mwd.events.length = extra := by
    rw [announced.events, List.drop_left]
  rw [isExtra] at sound ⊢
  refine ⟨sound, tidy, advertises.isPeer, ?_, ?_, advertises.all⟩
  · intro idx service served noDot notExported
    rcases announced.new idx service served with old | ⟨event, member, isNew⟩
    · refine (advertises.new idx service old noDot notExported).imp_left ?_
      grind
    · exact Or.inl ⟨event, List.mem_append_right _ member, isNew⟩
  · intro service isName isExported noServer
    by_cases hadServer : HasServer state.mwd service
    · rcases hadServer with ⟨idx, served⟩
      rcases announced.gone idx service served with still | ⟨event, member, isGone⟩
      · exact absurd ⟨idx, still⟩ noServer
      · exact ⟨event, List.mem_append_right _ member, isGone⟩
    · rcases advertises.gone service isName isExported hadServer with ⟨event, member, isGone⟩
      exact ⟨event, List.mem_append_left _ member, isGone⟩

/-- An event that is handled is not under way any more. What it does is known when it was the
event of this service. -/
theorem InstanceState.Advertises.handled {tables : PeerTables} {sent : Nat → List SRBmessage}
    {index : Nat} {event : Mwd.ServiceEvent} (advertises : state.Advertises)
    (isAt : state.pending[index]? = some event) (peers : tables.peers = state.tables.peers)
    (sound : { state with
      pending := state.pending.eraseIdx index, tables := tables, sent := sent }.Sound False)
    (new : ∀ idx service, ServedAt state.mwd idx service → service.head? ≠ some 46 →
      (tables.exported service).1 = -1 →
      (state.tables.exported service).1 = -1 ∧ ¬IsNew event idx service)
    (gone : ∀ service, IsName service → (tables.exported service).1 ≠ -1 →
      ¬HasServer state.mwd service →
      (state.tables.exported service).1 ≠ -1 ∧ ¬IsGone event service)
    (all : ∀ service, IsName service → (tables.exported service).1 ≠ -1 →
      ∀ peer, state.MayHear service peer → peer ∈ (tables.exported service).2) :
    { state with
      pending := state.pending.eraseIdx index, tables := tables, sent := sent }.Advertises := by
  have hears {service : List Byte} {peer : Nat} (mayHear : tables.MayHear state.up service peer) :
      state.MayHear service peer :=
    mayHear_of (congrArg (List.map Gwpeerinfo.domainid) peers) id mayHear
  refine ⟨sound, advertises.tidy, ?_, ?_, ?_, ?_⟩
  · simp_all [advertises.isPeer]
  · intro idx service served noDot notExported
    rcases new idx service served noDot notExported with ⟨wasNot, isOther⟩
    rcases advertises.new idx service served noDot wasNot with ⟨other, member, isNew⟩ | nobody
    · rcases mem_eraseIdx_or isAt member with rfl | still
      · exact absurd isNew isOther
      · exact Or.inl ⟨other, still, isNew⟩
    · exact Or.inr fun peer mayHear => nobody peer (hears mayHear)
  · intro service isName isExported noServer
    rcases gone service isName isExported noServer with ⟨wasExported, isOther⟩
    rcases advertises.gone service isName wasExported noServer with ⟨other, member, isGone⟩
    grind [mem_eraseIdx_or]
  · simp_all

theorem InstanceState.Advertises.unheard {index : Nat} {event : Mwd.ServiceEvent}
    (advertises : state.Advertises) (isAt : state.pending[index]? = some event)
    (sound : { state with pending := state.pending.eraseIdx index }.Sound False)
    (new : ∀ idx service, ServedAt state.mwd idx service → ¬IsNew event idx service)
    (gone : ∀ service, ¬HasServer state.mwd service → ¬IsGone event service) :
    { state with pending := state.pending.eraseIdx index }.Advertises := by
  refine advertises.handled isAt rfl sound ?_ ?_ advertises.all
  · simp_all
  · simp_all

section

variable {index : Nat} {event : Mwd.ServiceEvent} {service : List Byte} {stale : Int}

theorem InstanceState.Advertises.provided (advertises : state.Advertises)
    (isAt : state.pending[index]? = some event)
    (news : newsOf state.mwd (Mwd.mwGatewayMask + own) event = some (.provided service))
    (isName : IsName service) (hasServer : HasServer state.mwd service)
    (sound : { state with
      pending := state.pending.eraseIdx index
      tables := (state.tables.doprovideevent (state.surroundings around) state.up stale service).1
      sent := hear state.sent (state.tables.doprovideevent (state.surroundings around) state.up stale
        service).2 }.Sound False) :
    { state with
      pending := state.pending.eraseIdx index
      tables := (state.tables.doprovideevent (state.surroundings around) state.up stale service).1
      sent := hear state.sent (state.tables.doprovideevent (state.surroundings around) state.up stale
        service).2 }.Advertises := by
  have hasCost : (state.surroundings around).costofservice service ≠ -1 :=
    hasServer.cost advertises.tidy
  have spec := doprovideevent_provided advertises.sound.heard.distinct isName hasCost state.up stale
  have others {other : List Byte} (otherName : IsName other) (isOther : service ≠ other) :=
    spec.others other (by rw [isName.text, otherName.text]; exact isOther)
  refine advertises.handled isAt (by rw [spec.rest]) sound ?_ ?_ ?_
  · intro idx other served _ notExported
    have otherName := advertises.sound.named.entries idx
    rw [served.isName] at otherName
    have isOther : service ≠ other := by
      rintro rfl
      simp [spec.isCost, hasCost] at notExported
    rw [others otherName isOther] at notExported
    refine ⟨notExported, ?_⟩
    intro isNew
    rw [newsOf_new own (advertises.tidy idx) served isNew] at news
    cases news
    exact isOther rfl
  · intro other otherName isExported noServer
    have isOther : service ≠ other := by
      grind
    rw [others otherName isOther] at isExported
    refine ⟨isExported, ?_⟩
    intro isGone
    cases news.symm.trans (newsOf_gone own isGone)
  · intro other otherName isExported peer mayHear
    by_cases isService : service = other
    · subst isService
      by_cases same : (state.surroundings around).costofservice service =
          (state.tables.exported service).1
      · refine spec.kept peer (advertises.all service isName ?_ peer mayHear)
        rw [← same]
        exact hasCost
      · exact spec.told same peer mayHear.inside mayHear.isUp mayHear.may
    · simp_all [advertises.all]

theorem InstanceState.Advertises.unprovided (advertises : state.Advertises)
    (isAt : state.pending[index]? = some event)
    (news : newsOf state.mwd (Mwd.mwGatewayMask + own) event = some (.unprovided service))
    (isName : IsName service) (noServer : ¬HasServer state.mwd service)
    (sound : { state with
      pending := state.pending.eraseIdx index
      tables := (state.tables.unexportservice service).1
      sent := hear state.sent (state.tables.unexportservice service).2 }.Sound False) :
    { state with
      pending := state.pending.eraseIdx index
      tables := (state.tables.unexportservice service).1
      sent := hear state.sent (state.tables.unexportservice service).2 }.Advertises := by
  have re := (@unexportservice_spec state.tables service advertises.sound.heard.distinct).1
  have others {other : List Byte} (otherName : IsName other) (isOther : service ≠ other) :
      (state.tables.unexportservice service).1.exported other = state.tables.exported other := by
    rw [re.exported, if_neg]
    rw [isName.text, otherName.text]
    exact isOther
  have isOther {other : List Byte}
      (isExported : ((state.tables.unexportservice service).1.exported other).1 ≠ -1) :
      service ≠ other := by
    rintro rfl
    rw [re.exported, if_pos rfl] at isExported
    exact isExported rfl
  refine advertises.handled isAt (by rw [re.rest]) sound ?_ ?_ ?_
  · intro idx other served _ notExported
    have otherName := advertises.sound.named.entries idx
    rw [served.isName] at otherName
    have different : service ≠ other := by
      rintro rfl
      exact noServer ⟨idx, served⟩
    rw [others otherName different] at notExported
    refine ⟨notExported, ?_⟩
    intro isNew
    cases news.symm.trans (newsOf_new own (advertises.tidy idx) served isNew)
  · intro other otherName isExported _
    have different := isOther isExported
    rw [others otherName different] at isExported
    refine ⟨isExported, ?_⟩
    intro isGone
    rw [newsOf_gone own isGone] at news
    cases news
    exact different rfl
  · intro other otherName isExported peer mayHear
    have different := isOther isExported
    simp_all [advertises.all]

end

theorem InstanceState.Advertises.event (advertises : state.Advertises) {index : Nat} {stale : Int}
    (kept : state.OwnKept own (.event index stale)) :
    (state.handleEvent around (Mwd.mwGatewayMask + own) index stale).Advertises := by
  have sound := @handleEvent_sound False state around (Mwd.mwGatewayMask + own) advertises.sound
    index stale (OwnKept.regular advertises.tidy kept)
  unfold InstanceState.handleEvent at sound ⊢
  cases isAt : state.pending[index]? with
  | none => exact advertises
  | some event =>
      rw [isAt] at sound
      dsimp only at sound ⊢
      have isName := advertises.sound.pending event (List.mem_of_getElem? isAt)
      cases news : newsOf state.mwd (Mwd.mwGatewayMask + own) event with
      | none =>
          rw [news] at sound
          refine advertises.unheard isAt sound ?_ ?_
          · intro idx service served isNew
            cases news.symm.trans (newsOf_new own (advertises.tidy idx) served isNew)
          · intro service _ isGone
            cases news.symm.trans (newsOf_gone own isGone)
      | some news' =>
          rw [news] at sound
          cases news' with
          | provided service =>
              rw [newsOf_name (Or.inl news)] at isName
              exact advertises.provided isAt news isName (kept event isAt service (Or.inl news)) sound
          | unprovided service =>
              rw [newsOf_name (Or.inr news)] at isName
              unfold InstanceState.hearNews PeerTables.dounprovideevent at sound ⊢
              dsimp only at sound ⊢
              by_cases isThere : mwGetServicesByname state.mwd service = []
              · rw [decide_eq_false (not_not.mpr isThere)] at sound ⊢
                refine advertises.unprovided isAt news isName ?_ sound
                rintro ⟨idx, served⟩
                have member := served.byname (advertises.tidy idx)
                rw [isThere] at member
                cases member
              · rw [decide_eq_true isThere] at sound ⊢
                unfold InstanceState.tell at sound ⊢
                dsimp only at sound ⊢
                rw [if_pos rfl, hear_nil] at sound ⊢
                refine advertises.unheard isAt sound ?_ ?_
                · intro idx other served isNew
                  cases news.symm.trans (newsOf_new own (advertises.tidy idx) served isNew)
                · intro other noServer isGone
                  rw [newsOf_gone own isGone] at news
                  cases news
                  exact noServer (kept event isAt service (Or.inr ⟨newsOf_gone own isGone, isThere⟩))

theorem InstanceState.Advertises.known (advertises : state.Advertises) (name domain : List Byte)
    (sound : { state with
      tables := (state.tables.gwAddknownpeer around name domain).2 }.Sound False) :
    { state with tables := (state.tables.gwAddknownpeer around name domain).2 }.Advertises := by
  rcases @gwAddknownpeer_peers state.tables around name domain with ⟨exportlist, more, peers⟩
  have exported : (state.tables.gwAddknownpeer around name domain).2.exported =
      state.tables.exported := by
    unfold PeerTables.exported
    rw [exportlist]
  have hears {service : List Byte} {peer : Nat}
      (mayHear : (state.tables.gwAddknownpeer around name domain).2.MayHear state.up service peer) :
      state.MayHear service peer := by
    have inside := advertises.isPeer peer mayHear.isUp
    refine ⟨inside, mayHear.isUp, ?_, mayHear.may.noDot⟩
    have isOwn := mayHear.may.domain
    rw [peers, List.getElem?_append_left inside] at isOwn
    exact isOwn
  refine ⟨sound, advertises.tidy, ?_, ?_, ?_, ?_⟩
  · intro peer isUp
    have inside := advertises.isPeer peer isUp
    dsimp only
    rw [peers, List.length_append]
    omega
  · intro idx service served noDot notExported
    rw [exported] at notExported
    refine (advertises.new idx service served noDot notExported).imp_right ?_
    exact fun nobody peer mayHear => nobody peer (hears mayHear)
  · simp_all [advertises.gone]
  · simp_all [advertises.all]

/-- A new peer is told of all services, which are the exports, unless nobody could hear. -/
theorem InstanceState.Advertises.up {tables : PeerTables} {sent : Nat → List SRBmessage}
    {peer fd : Nat} {gwid : UInt32} (advertises : state.Advertises)
    (inside : peer < state.tables.peers.length)
    (kept : state.OwnKept own (.peerUp peer gwid fd))
    (reached : Reached (state.tables.setPeer peer gwid (some fd)) tables (state.surroundings around)
      (svcnamelist state.mwd).dedup peer)
    (sound : { state with
      tables := tables, up := Function.update state.up peer true, sent := sent }.Sound False) :
    { state with
      tables := tables, up := Function.update state.up peer true, sent := sent }.Advertises := by
  have domains : tables.peers.map Gwpeerinfo.domainid =
      state.tables.peers.map Gwpeerinfo.domainid := by
    rw [reached.rest]
    exact setPeer_domains _ _ _ _
  have lengths := congrArg List.length domains
  rw [List.length_map, List.length_map] at lengths
  have isListed {service : List Byte} :
      service ∈ (svcnamelist state.mwd).dedup ↔ HasServer state.mwd service :=
    List.mem_dedup.trans (mem_svcnamelist advertises.tidy)
  -- the other peers hear what they did
  have hears {service : List Byte} {who : Nat} (isOther : who ≠ peer)
      (mayHear : tables.MayHear (Function.update state.up peer true) service who) :
      state.MayHear service who := by
    refine mayHear_of domains ?_ mayHear
    rw [Function.update_of_ne isOther]
    exact id
  have mayExport {service : List Byte}
      (mayHear : tables.MayHear (Function.update state.up peer true) service peer) :
      (state.tables.setPeer peer gwid (some fd)).MayExport service peer :=
    (mayExport_rest reached.rest).mp mayHear.may
  have told {service : List Byte} (hasServer : HasServer state.mwd service)
      (isName : IsName service)
      (may : (state.tables.setPeer peer gwid (some fd)).MayExport service peer) :=
    reached.told service (isListed.mpr hasServer) isName may
  have newCost {service : List Byte} (hasServer : HasServer state.mwd service) :
      (state.tables.setPeer peer gwid (some fd)).exportCost (state.surroundings around) service ≠ -1 := by
    rw [PeerTables.exportCost]
    split_ifs with noCost
    · exact hasServer.cost advertises.tidy
    · exact noCost
  refine ⟨sound, advertises.tidy, ?_, ?_, ?_, ?_⟩
  · intro who isUp
    dsimp only at isUp ⊢
    rw [lengths]
    by_cases isPeer : who = peer
    · omega
    · simp_all [Function.update_of_ne, advertises.isPeer]
  · intro idx service served noDot notExported
    have isName := advertises.sound.named.entries idx
    rw [served.isName] at isName
    by_cases may : (state.tables.setPeer peer gwid (some fd)).MayExport service peer
    · rw [(told ⟨idx, served⟩ isName may).1] at notExported
      exact absurd notExported (newCost ⟨idx, served⟩)
    · have same := reached.others service isName (Or.inr may)
      rw [show (tables.exported service) = state.tables.exported service from same] at notExported
      refine (advertises.new idx service served noDot notExported).imp_right ?_
      grind
  · intro service isName isExported noServer
    have same := reached.others service isName (Or.inl fun listed => noServer (isListed.mp listed))
    rw [show (tables.exported service) = state.tables.exported service from same] at isExported
    exact advertises.gone service isName isExported noServer
  · intro service isName isExported who mayHear
    have noDot := mayHear.may.noDot
    rcases kept service isName noDot with ⟨exportsServed, servedExports⟩
    by_cases reaches : HasServer state.mwd service ∧
        (state.tables.setPeer peer gwid (some fd)).MayExport service peer
    · refine ((told reaches.1 isName reaches.2).2 who).mpr ?_
      by_cases isPeer : who = peer
      · exact Or.inl isPeer
      · refine Or.inr ?_
        rcases servedExports reaches.1 with wasExported | nobody
        · exact advertises.all service isName wasExported who (hears isPeer mayHear)
        · exact absurd (hears isPeer mayHear) (nobody who)
    · have same : tables.exported service = state.tables.exported service := by
        refine reached.others service isName ?_
        by_cases hasServer : HasServer state.mwd service
        · exact Or.inr fun may => reaches ⟨hasServer, may⟩
        · exact Or.inl fun listed => hasServer (isListed.mp listed)
      dsimp only at isExported ⊢
      rw [same] at isExported ⊢
      by_cases isPeer : who = peer
      · simp_all
      · exact advertises.all service isName isExported who (hears isPeer mayHear)

theorem InstanceState.Advertises.down (advertises : state.Advertises) (peer : Nat)
    (sound : (state.peerDown peer).Sound False) : (state.peerDown peer).Advertises := by
  have exported (service : List Byte) : (state.peerDown peer).tables.exported service =
      ((state.tables.exported service).1, (state.tables.exported service).2.erase peer) :=
    exportedIn_map_erase peer
  have domains : (state.peerDown peer).tables.peers.map Gwpeerinfo.domainid =
      state.tables.peers.map Gwpeerinfo.domainid := setPeer_domains _ _ _ _
  have lengths := congrArg List.length domains
  rw [List.length_map, List.length_map] at lengths
  have notDown {who : Nat} (isUp : (state.peerDown peer).up who = true) :
      who ≠ peer ∧ state.up who = true := by
    have isOther : who ≠ peer := by
      rintro rfl
      rw [show (state.peerDown who).up who = false from Function.update_self _ _ _] at isUp
      cases isUp
    refine ⟨isOther, ?_⟩
    rw [show (state.peerDown peer).up who = state.up who from
      Function.update_of_ne isOther _ _] at isUp
    exact isUp
  have hears {service : List Byte} {who : Nat} (mayHear : (state.peerDown peer).MayHear service who) :
      state.MayHear service who :=
    mayHear_of domains (fun isUp => (notDown isUp).2) mayHear
  refine ⟨sound, advertises.tidy, ?_, ?_, ?_, ?_⟩
  · simp_all [advertises.isPeer]
  · intro idx service served noDot notExported
    rw [exported] at notExported
    refine (advertises.new idx service served noDot notExported).imp_right ?_
    exact fun nobody who mayHear => nobody who (hears mayHear)
  · intro service isName
    rw [exported]
    exact advertises.gone service isName
  · intro service isName isExported who mayHear
    rw [exported] at isExported ⊢
    exact (List.mem_erase_of_ne (notDown mayHear.isUp).1).mpr
      (advertises.all service isName isExported who (hears mayHear))

theorem advertises_kept (allowed : Mwd.Tables → Mwd.Request → Prop) :
    (instanceMachine around (Mwd.mwGatewayMask + own) allowed).Preserves
      (fun state => state.OwnKept own) InstanceState.Advertises := by
  intro state action next advertises isEnabled kept stepped
  change state.enabled action at isEnabled
  have sound := step_sound advertises.sound isEnabled (OwnKept.regular advertises.tidy kept) stepped
  cases action with
  | request request =>
      rcases handleRequest_ok stepped with ⟨mwd, handled, rfl⟩
      exact advertises.request isEnabled kept handled sound
  | event index stale =>
      cases stepped
      exact advertises.event kept
  | known name domain =>
      cases stepped
      exact advertises.known name domain sound
  | peerUp peer gwid fd =>
      rcases isEnabled with ⟨inside, _, fresh⟩
      rcases @peerUp_next around state peer fd gwid inside fresh with ⟨told, isTold, done⟩
      cases done.symm.trans stepped
      exact advertises.up inside kept
        (Heard.up advertises.sound (OwnKept.regular advertises.tidy kept) isTold).2 sound
  | peerDown peer =>
      cases stepped
      exact advertises.down peer sound
  | provide peer service cost =>
      rcases importFrom_ok stepped with ⟨tables, imported, rfl⟩
      exact advertises.of_same (importservice_same imported) sound
  | unprovide peer service =>
      cases stepped
      exact advertises.of_same (unimportservice_same _) sound
  | provideReply service svcid gwid =>
      cases stepped
      exact advertises.of_same (impsetsvcid_same _ _) sound

theorem mwd_tidy {tables : Mwd.Tables} (reachable : Mwd.mwd.Reachable Advertisable tables) :
    ∀ idx, Tidy (tables.svctbl idx) := by
  have kept : Mwd.mwd.Preserves Advertisable
      fun tables => Named tables ∧ ∀ idx, Tidy (tables.svctbl idx) := by
    intro before request after held issued allowed done
    exact ⟨held.1.handle (NameFits.of_advertisable allowed) done,
      (handle_announced issued allowed held.1 held.2 done).1⟩
  refine (reachable.holds ?_ kept).2
  intro start initial
  refine ⟨initial_named initial, ?_⟩
  intro idx
  exact Or.inl ⟨(initial.svctbl idx).1, (initial.svctbl idx).2.1⟩

theorem start_advertises
    (isStart : (instanceMachine around (Mwd.mwGatewayMask + own) Advertisable).start state) :
    state.Advertises := by
  have sound := @start_sound False state around (Mwd.mwGatewayMask + own) Advertisable
    (fun _ _ => NameFits.of_advertisable) isStart
  rcases isStart with ⟨reachable, _, noExports, nobody, _⟩
  have none (service : List Byte) : state.tables.exported service = (-1, []) := by
    rw [PeerTables.exported, noExports]
    rfl
  refine ⟨sound, mwd_tidy reachable, ?_, ?_, ?_, ?_⟩
  · simp [nobody]
  · intro _ _ _ _ _
    refine Or.inr fun peer mayHear => ?_
    have isUp := mayHear.isUp
    rw [nobody] at isUp
    cases isUp
  · simp [none]
  · simp [none]

end

/-- The gateways of a domain: each advertises exactly the services of its own instance once it has
handled the events sent to it, so none advertises a service that has no server anywhere. -/
theorem advertises_own_services {Gateway : Type} {around : Gateway → Surroundings}
    {own : Gateway → Nat} {state : Gateway → InstanceState}
    (reachable : ∀ gateway, (instanceMachine (around gateway) (Mwd.mwGatewayMask + own gateway)
      Advertisable).Reachable (fun state => state.OwnKept (own gateway)) (state gateway))
    {service : List Byte} (isName : IsName service) :
    (∀ gateway peer, (state gateway).pending = [] → (state gateway).MayHear service peer →
      ((∃ cost, lastAbout service ((state gateway).sent peer) = some (provideMessage service cost)) ↔
        HasServer (state gateway).mwd service)) ∧
    ((∀ gateway, ¬HasServer (state gateway).mwd service) →
      ∀ gateway peer, (state gateway).pending = [] → (state gateway).MayHear service peer →
        ∀ cost, lastAbout service ((state gateway).sent peer) ≠ some (provideMessage service cost)) := by
  have exactly (gateway : Gateway) (peer : Nat) (handled : (state gateway).pending = [])
      (hears : (state gateway).MayHear service peer) :=
    ((reachable gateway).holds (fun _ => start_advertises)
      (advertises_kept Advertisable)).last handled isName hears
  refine ⟨exactly, ?_⟩
  intro noServer gateway peer handled hears cost isLast
  exact noServer gateway ((exactly gateway peer handled hears).mp ⟨cost, isLast⟩)

abbrev ownMachine := instanceMachine someSurroundings (Mwd.mwGatewayMask + (0 : Nat)) Advertisable

theorem oneServer_advertisable : Mwd.mwd.Reachable Advertisable Mwd.oneServerTables :=
  .step (.start Mwd.emptyTables_initial)
    (show Mwd.mwd.enabled Mwd.emptyTables (.attach .ready Mwd.oneServerAttach) from trivial)
    trivial rfl

def ownActions : List InstanceAction :=
  [.peerUp 0 0x04000001 7, .request (.provide .ready Mwd.oneProvide), .event 0 0]

def ownInstance : InstanceState := ownActions.foldl ownMachine.next (knowsOne Mwd.oneServerTables)

theorem ownInstance_reachable :
    ownMachine.Reachable (fun state => state.OwnKept 0) ownInstance := by
  refine (Machine.Reachable.start (knowsOne_start oneServer_advertisable)).runs ?_
  refine ⟨knowsOne_peerUp _ _ _ _, ?_, rfl, ?_, ⟨?_, ?_, ?_⟩, rfl, trivial, ?_, rfl, trivial⟩
  · intro service _ _
    refine ⟨fun isExported => absurd rfl isExported, fun _ => Or.inr ?_⟩
    intro peer mayHear
    cases mayHear.isUp
  · exact fun _ => ⟨0, by decide, by decide, by decide⟩
  · change (cstr Mwd.oneProvide.svcname).length < mwMaxSvcName
    decide
  · exact fun _ => rfl
  · intro noServer
    exact absurd noServer (by decide)
  · intro event isAt service news
    cases isAt
    rcases news with provided | ⟨unprovided, _⟩
    · cases provided
      exact ⟨0, by decide, by decide, by decide, by decide⟩
    · cases unprovided

theorem advertises_own_services_one : HasServer ownInstance.mwd [83] ∧
    ∃ cost, lastAbout [83] (ownInstance.sent 0) = some (provideMessage [83] cost) := by
  have served : HasServer ownInstance.mwd [83] := ⟨0, by decide, by decide, by decide, by decide⟩
  have holds := @advertises_own_services Unit (fun _ => someSurroundings) (fun _ => 0)
    (fun _ => ownInstance) (fun _ => ownInstance_reachable) [83] ⟨by decide, by decide⟩
  exact ⟨served, (holds.1 () 0 (by decide) ⟨by decide, by decide, by decide, by decide⟩).mpr served⟩

/-- After that the peer also provides the service, and the server withdraws it. -/
def importedActions : List InstanceAction := ownActions ++
  [.request (.gateways fun _ => ⟨gwPeer, 0, 5, 100, 0⟩),
    .request (.provide .ready ⟨-1, -1, Mwd.mwGatewayMask + 1, [83], 5, false, 0⟩),
    .event 0 0,
    .request (.unprovide ⟨Mwd.mwServerMask, Mwd.mwServiceMask, -1, [83], 0, false, 0⟩),
    .event 0 0]

def importedInstance : InstanceState :=
  importedActions.foldl ownMachine.next (knowsOne Mwd.oneServerTables)

/-- The service stays advertised, because the gateway that withdraws it imports it. -/
theorem advertises_imported_service :
    ownMachine.Reachable (fun _ _ => True) importedInstance ∧ importedInstance.pending = [] ∧
      importedInstance.MayHear [83] 0 ∧ ¬HasServer importedInstance.mwd [83] ∧
      lastAbout [83] (importedInstance.sent 0) = some (provideMessage [83] 0) := by
  refine ⟨?_, by decide, ⟨by decide, by decide, by decide, by decide⟩, ?_, by decide⟩
  · refine (Machine.Reachable.start (knowsOne_start oneServer_advertisable)).runs ?_
    refine ⟨knowsOne_peerUp _ _ _ _, trivial, rfl, ?_, trivial, rfl, trivial, trivial, rfl, trivial,
      trivial, rfl, ?_, trivial, rfl, trivial, trivial, rfl, trivial, trivial, rfl, trivial, trivial,
      rfl, trivial⟩
    · exact fun _ => ⟨0, by decide, by decide, by decide⟩
    · intro server
      exact absurd rfl server
  · rintro ⟨idx, served⟩
    have lower := served.lower
    have upper : idx < 2 := served.upper
    have first : (importedInstance.mwd.svctbl 0).server = Mwd.unassigned := by decide
    have second : (importedInstance.mwd.svctbl 1).server = Mwd.unassigned := by decide
    obtain rfl | rfl : idx = 0 ∨ idx = 1 := by omega
    · exact served.server first
    · exact served.server second

end MidWay.Gateway

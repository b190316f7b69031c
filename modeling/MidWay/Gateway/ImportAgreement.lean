import MidWay.Lib.Runs
import MidWay.Gateway.Imports
import MidWay.Gateway.Instance
import MidWay.Mwd.ImportedServices

/-!
Contract: when the imports of a gateway and the service table of `mwd` agree.

The gateway acts before `mwd` has answered. A link that goes before its id has come is
to be made good when the reply comes, by an unprovide with the id zero, which `mwd` does
not take for an id. A peer that is cleaned up is unprovided only where it was the last
one, the import of a last link takes those in front of it with it, and a provide that
fails leaves its link.

Owns: the gateway and `mwd` with the messages between them, the phases that a service of
a peer goes through, and that in runs in which none of this happens the two sides agree
whenever no message is under way.
-/

namespace MidWay.Gateway

open MidWay.CLib MidWay.Srb MidWay.Lib

variable {service : List Byte} {rest : List ServiceRequest} {cost idx : Int} {reply : Mwd.Provide}
  {mwd : Mwd.Tables} {id : UInt32}

/-- An id as the `int` it is, and back. -/
def asInt (id : UInt32) : Int := id.toBitVec.toInt

def asId (id : Int) : UInt32 := UInt32.ofBitVec (BitVec.ofInt 32 id)

inductive ImportFailure where
  | gateway (failure : GatewayFailure)
  | mwd (failure : Mwd.TableFailure)
deriving DecidableEq, Repr

/-- The requests of the tables are those that `mwd` has not taken, and `replies` are the
replies to provides that the gateway has not read, oldest first. -/
structure ImportState where
  tables : PeerTables
  mwd : Mwd.Tables
  replies : List Mwd.Provide

/-- `others` is what the other processes of the instance do to the tables of `mwd`. -/
inductive ImportAction where
  | importservice (around : Surroundings) (service : List Byte) (cost : Int) (peer : Nat)
  | unimportservice (service : List Byte) (peer : Nat)
  | cleanuppeer (peer : Nat)
  | request (status : Mwd.Status)
  | reply
  | others (mwd : Mwd.Tables)

/-- `mwd` takes a request. It has no queue for the reply to a gateway it does not know, and the
reply to an unprovide is dropped. -/
def ImportState.handleRequest (state : ImportState) (status : Mwd.Status) :
    Except ImportFailure ImportState :=
  match state.tables.requests with
  | [] => .ok state
  | .provide gwid service cost :: rest =>
      match state.mwd.doProvide status (Mwd.importMessage (asInt gwid) service cost) with
      | .error failure => .error (.mwd failure)
      | .ok (reply, mwd) =>
          .ok
            { tables := { state.tables with requests := rest }
              mwd := mwd
              replies := if (state.mwd.getGatewayById (asInt gwid)).isSome then
                state.replies ++ [reply] else state.replies }
  | .unprovide gwid service svcid :: rest =>
      .ok
        { state with
          tables := { state.tables with requests := rest }
          mwd := (state.mwd.doUnprovide
            (Mwd.unimportMessage (asInt gwid) service (asInt svcid))).2 }

/-- The gateway reads the reply to a provide, in `ipcmainloop`. -/
def ImportState.handleReply (state : ImportState) : ImportState :=
  match state.replies with
  | [] => state
  | reply :: rest =>
      { state with
        tables := state.tables.impsetsvcid reply.svcname (asId reply.svcid) (asId reply.gwid)
        replies := rest }

def ImportState.importFrom (state : ImportState) (around : Surroundings) (service : List Byte)
    (cost : Int) (peer : Nat) : Except ImportFailure ImportState :=
  match state.tables.importservice around service cost (some peer) with
  | .error failure => .error (.gateway failure)
  | .ok tables => .ok { state with tables := tables }

def ImportState.step (state : ImportState) : ImportAction → Except ImportFailure ImportState
  | .importservice around service cost peer => state.importFrom around service cost peer
  | .unimportservice service peer =>
      .ok { state with tables := state.tables.unimportservice service (some peer) }
  | .cleanuppeer peer => .ok { state with tables := state.tables.impexpCleanuppeer peer }
  | .request status => state.handleRequest status
  | .reply => .ok state.handleReply
  | .others mwd => .ok { state with mwd := mwd }

def PeerTables.Connected (tables : PeerTables) (peer : Nat) : Prop :=
  tables.gwidOf peer ≠ unassigned

def ImportState.PeersStay (state : ImportState) (mwd : Mwd.Tables) : Prop :=
  ∀ peer, state.tables.Connected peer →
    mwd.getGatewayById (asInt (state.tables.gwidOf peer)) =
        state.mwd.getGatewayById (asInt (state.tables.gwidOf peer)) ∧
      ∀ name idx, Mwd.Registered mwd (asInt (state.tables.gwidOf peer)) name idx ↔
        Mwd.Registered state.mwd (asInt (state.tables.gwidOf peer)) name idx

def ImportState.enabled (state : ImportState) : ImportAction → Prop
  | .importservice _ _ _ peer | .unimportservice _ peer | .cleanuppeer peer =>
      state.tables.Connected peer
  | .request _ => state.tables.requests ≠ []
  | .reply => state.replies ≠ []
  | .others mwd => state.PeersStay mwd

/-- Nothing is imported yet. The connected peers have ids of their own, which `mwd` knows. -/
structure ImportState.Starts (state : ImportState) : Prop where
  imports : state.tables.importlist = []
  requests : state.tables.requests = []
  replies : state.replies = []
  distinct : ∀ peer other, state.tables.Connected peer →
    state.tables.gwidOf other = state.tables.gwidOf peer → other = peer
  attached : ∀ peer, state.tables.Connected peer →
    (state.mwd.getGatewayById (asInt (state.tables.gwidOf peer))).isSome = true
  unregistered : ∀ peer, state.tables.Connected peer → ∀ name idx,
    ¬Mwd.Registered state.mwd (asInt (state.tables.gwidOf peer)) name idx

def importMachine : Machine ImportState ImportAction ImportFailure where
  start := ImportState.Starts
  enabled := ImportState.enabled
  step := ImportState.step

/-- The list of imports has a link from the service to the peer, with this id. -/
def PeerTables.HasLink (tables : PeerTables) (name : List Byte) (peer : Nat) (svcid : UInt32) :
    Prop :=
  ∃ imp ∈ tables.importlist, imp.servicename = name ∧ ⟨peer, svcid⟩ ∈ imp.peerlist

structure ImportState.Agrees (state : ImportState) (name : List Byte) (peer : Nat) : Prop where
  both : (∃ idx, Mwd.Registered state.mwd (asInt (state.tables.gwidOf peer)) name idx) ↔
    ∃ svcid, state.tables.HasLink name peer svcid
  svcid : ∀ idx svcid, Mwd.Registered state.mwd (asInt (state.tables.gwidOf peer)) name idx →
    state.tables.HasLink name peer svcid → asInt svcid = idx + Mwd.mwServiceMask
  once : ∀ first second, Mwd.Registered state.mwd (asInt (state.tables.gwidOf peer)) name first →
    Mwd.Registered state.mwd (asInt (state.tables.gwidOf peer)) name second → first = second

def ImportState.Quiet (state : ImportState) : Prop :=
  state.tables.requests = [] ∧ state.replies = []

/-- Names fit their arrays. A link goes when its id has come, and with the last link of a service
its import is the first of the list. A peer that is cleaned up is the only one for its services.
`mwd` is not going down and has room. -/
def ImportState.Steady (state : ImportState) : ImportAction → Prop
  | .importservice _ service _ _ => (cstr service).length < mwMaxSvcName
  | .unimportservice service peer =>
      (∀ svcid, state.tables.Linked (cstr service) peer svcid → svcid ≠ unassigned) ∧
        ∀ svcid, linksIn state.tables.importlist (cstr service) = [⟨peer, svcid⟩] →
          state.tables.impfind service = some 0
  | .cleanuppeer peer => state.tables.SoleProvider peer
  | .request status => ∀ gwid service cost,
      state.tables.requests.head? = some (.provide gwid service cost) →
        status ≠ .shutdown ∧ state.mwd.Room
  | .reply | .others _ => True

/-- The id that `mwd` gives for an entry. -/
def svcidAt (idx : Int) : UInt32 := asId (idx + Mwd.mwServiceMask)

/-- Where a service of a peer is between the list of imports and the table of `mwd`; `idx` is
its entry. -/
inductive ImportPhase where
  | idle
  | withdrawn (idx : Int)
  | asked
  | again (idx : Int)
  | answered (idx : Int)
  | provided (idx : Int)

def ImportPhase.svcid : ImportPhase → Option UInt32
  | .idle | .withdrawn _ => none
  | .asked | .again _ | .answered _ => some unassigned
  | .provided idx => some (svcidAt idx)

def ImportPhase.asks : ImportPhase → List Ask
  | .idle | .answered _ | .provided _ => []
  | .withdrawn idx => [.unprovide (svcidAt idx)]
  | .asked => [.provide]
  | .again idx => [.unprovide (svcidAt idx), .provide]

def ImportPhase.answers : ImportPhase → List Int
  | .answered idx => [idx + Mwd.mwServiceMask]
  | .idle | .withdrawn _ | .asked | .again _ | .provided _ => []

def ImportPhase.entry : ImportPhase → Option Int
  | .idle | .asked => none
  | .withdrawn idx | .again idx | .answered idx | .provided idx => some idx

def answers (gwid : Int) (name : List Byte) (replies : List Mwd.Provide) : List Int :=
  replies.filterMap fun reply =>
    if reply.gwid = gwid ∧ reply.svcname = name then some reply.svcid else none

structure ImportState.InPhase (state : ImportState) (name : List Byte) (peer : Nat)
    (phase : ImportPhase) : Prop where
  linked : ∀ svcid, state.tables.Linked name peer svcid ↔ phase.svcid = some svcid
  asks : asks (state.tables.gwidOf peer) name state.tables.requests = phase.asks
  answers : answers (asInt (state.tables.gwidOf peer)) name state.replies = phase.answers
  entry : ∀ idx, Mwd.Registered state.mwd (asInt (state.tables.gwidOf peer)) name idx ↔
    phase.entry = some idx

def ServiceRequest.gwid : ServiceRequest → UInt32
  | .provide gwid _ _ | .unprovide gwid _ _ => gwid

/-- Every message is about a connected peer, and every service of one is in a phase. -/
structure ImportState.InOrder (state : ImportState) : Prop where
  imports : ImportsOk state.tables.importlist
  distinct : ∀ peer other, state.tables.Connected peer →
    state.tables.gwidOf other = state.tables.gwidOf peer → other = peer
  attached : ∀ peer, state.tables.Connected peer →
    (state.mwd.getGatewayById (asInt (state.tables.gwidOf peer))).isSome = true
  requests : ∀ request ∈ state.tables.requests,
    ∃ peer, state.tables.Connected peer ∧ state.tables.gwidOf peer = request.gwid
  names : ∀ gwid service cost, .provide gwid service cost ∈ state.tables.requests → IsName service
  replies : ∀ reply ∈ state.replies, IsName reply.svcname ∧
    ∃ peer, state.tables.Connected peer ∧ asInt (state.tables.gwidOf peer) = reply.gwid
  phases : ∀ peer, state.tables.Connected peer → ∀ name, ∃ phase, state.InPhase name peer phase

theorem asId_asInt (id : UInt32) : asId (asInt id) = id := by
  rw [asId, asInt, BitVec.ofInt_toInt]

theorem asInt_inj {first second : UInt32} (same : asInt first = asInt second) : first = second := by
  rw [← asId_asInt first, same, asId_asInt]

theorem asInt_asId {id : Int} (lower : 0 ≤ id) (upper : id < 2147483648) : asInt (asId id) = id := by
  grind [asInt, asId, BitVec.toInt_ofInt, Int.bmod_eq_of_le]

theorem asInt_svcidAt (lower : 0 ≤ idx) (upper : idx < 16777216) :
    asInt (svcidAt idx) = idx + Mwd.mwServiceMask :=
  asInt_asId (by rw [Mwd.mwServiceMask]; omega) (by rw [Mwd.mwServiceMask]; omega)

theorem asInt_ne_unassigned (isId : id ≠ unassigned) : asInt id ≠ Mwd.unassigned := by
  intro same
  have negative : asInt unassigned = Mwd.unassigned := by decide
  exact isId (asInt_inj (same.trans negative.symm))

section

variable {state after : ImportState} {tables : PeerTables} {name any : List Byte}
  {peer other : Nat} {phase : ImportPhase}

theorem gwidOf_congr (peers : tables.peers = state.tables.peers) (peer : Nat) :
    tables.gwidOf peer = state.tables.gwidOf peer := by
  rw [PeerTables.gwidOf, peers, PeerTables.gwidOf]

theorem ImportState.InPhase.bounds (inPhase : state.InPhase name peer phase)
    (isEntry : phase.entry = some idx) : 0 ≤ idx ∧ idx < 16777216 := by
  have registered := (inPhase.entry idx).mpr isEntry
  have upper := registered.upper
  have fits := state.mwd.svctblFits
  exact ⟨registered.lower, by omega⟩

theorem ask_other {gwid : UInt32} {name : List Byte} (isOther : ¬(id = gwid ∧ service = name)) :
    asks gwid name [.provide id service cost] = [] := by
  simp_all [asks, List.filterMap_cons, ServiceRequest.ask, if_neg]

theorem ask_withdrawn_other {gwid svcid : UInt32} {name : List Byte}
    (isOther : ¬(id = gwid ∧ service = name)) :
    asks gwid name [.unprovide id service svcid] = [] := by
  simp_all [asks, List.filterMap_cons, ServiceRequest.ask, if_neg]

theorem ask_provide (gwid : UInt32) (name : List Byte) (cost : Int) :
    asks gwid name [.provide gwid name cost] = [.provide] := by
  simp [asks, ServiceRequest.ask]

theorem ask_unprovide (gwid svcid : UInt32) (name : List Byte) :
    asks gwid name [.unprovide gwid name svcid] = [.unprovide svcid] := by
  simp [asks, ServiceRequest.ask]

/-- A link is made and its service is asked for, whether an older entry is still to go or not. -/
theorem ImportState.InPhase.asked (inPhase : state.InPhase name peer phase)
    (asked : Asked state.tables tables name peer cost) :
    ∃ phase, ImportState.InPhase { state with tables := tables } name peer phase := by
  have gwid := gwidOf_congr asked.peers peer
  have noLink : phase.svcid = none := by
    cases isSome : phase.svcid with
    | none => rfl
    | some svcid => exact absurd ((inPhase.linked svcid).mpr isSome) (asked.new svcid)
  have linked (svcid : UInt32) : tables.Linked name peer svcid ↔ some unassigned = some svcid := by
    rw [asked.linked]
    constructor
    · rintro (before | ⟨_, _, rfl⟩)
      · exact absurd before (asked.new svcid)
      · rfl
    · simp_all [Or.inr]
  have asking : Gateway.asks (tables.gwidOf peer) name tables.requests = phase.asks ++ [.provide] := by
    rw [gwid, asked.requests, asks_append, inPhase.asks, ask_provide]
  have answering : Gateway.answers (asInt (tables.gwidOf peer)) name state.replies =
      phase.answers := by
    rw [gwid]
    exact inPhase.answers
  have entries (idx : Int) : Mwd.Registered state.mwd (asInt (tables.gwidOf peer)) name idx ↔
      phase.entry = some idx := by
    rw [gwid]
    exact inPhase.entry idx
  cases phase with
  | idle => exact ⟨.asked, linked, asking, answering, entries⟩
  | withdrawn idx => exact ⟨.again idx, linked, asking, answering, entries⟩
  | asked | again | answered | provided => cases noLink

/-- Another service, or another peer. -/
theorem ImportState.InPhase.stays (inPhase : state.InPhase name peer phase)
    (peers : after.tables.peers = state.tables.peers)
    (linked : ∀ svcid, after.tables.Linked name peer svcid ↔ state.tables.Linked name peer svcid)
    (asking : Gateway.asks (state.tables.gwidOf peer) name after.tables.requests =
      Gateway.asks (state.tables.gwidOf peer) name state.tables.requests)
    (answering : Gateway.answers (asInt (state.tables.gwidOf peer)) name after.replies =
      Gateway.answers (asInt (state.tables.gwidOf peer)) name state.replies)
    (entries : ∀ idx, Mwd.Registered after.mwd (asInt (state.tables.gwidOf peer)) name idx ↔
      Mwd.Registered state.mwd (asInt (state.tables.gwidOf peer)) name idx) :
    after.InPhase name peer phase := by
  have gwid := gwidOf_congr peers peer
  refine ⟨?_, ?_, ?_, ?_⟩
  · simp [linked, inPhase.linked]
  · rw [gwid, asking, inPhase.asks]
  · rw [gwid, answering, inPhase.answers]
  · simp [gwid, entries, inPhase.entry]

/-- What is kept as long as the peers are. -/
theorem ImportState.InOrder.keeps (inOrder : state.InOrder)
    (peers : tables.peers = state.tables.peers) (imports : ImportsOk tables.importlist)
    {requests : List ServiceRequest} (isRequests : tables.requests = state.tables.requests ++ requests)
    (senders : ∀ request ∈ requests,
      ∃ peer, state.tables.Connected peer ∧ state.tables.gwidOf peer = request.gwid)
    (names : ∀ gwid service cost, .provide gwid service cost ∈ requests → IsName service)
    {replies : List Mwd.Provide} (older : ∀ reply ∈ replies, reply ∈ state.replies)
    (phases : ∀ peer, state.tables.Connected peer → ∀ name, ∃ phase,
      ImportState.InPhase ⟨tables, state.mwd, replies⟩ name peer phase) :
    ImportState.InOrder ⟨tables, state.mwd, replies⟩ := by
  have gwid := gwidOf_congr peers
  have connected (peer : Nat) : tables.Connected peer ↔ state.tables.Connected peer := by
    simp [PeerTables.Connected, gwid]
  refine ⟨imports, ?_, ?_, ?_, ?_, ?_, ?_⟩
  · intro peer other isConnected same
    rw [gwid, gwid] at same
    exact inOrder.distinct peer other ((connected peer).mp isConnected) same
  · simp_all [inOrder.attached]
  · intro request member
    change request ∈ tables.requests at member
    rw [isRequests] at member
    have sender : ∃ peer, state.tables.Connected peer ∧ state.tables.gwidOf peer = request.gwid := by
      rcases List.mem_append.mp member with isOld | isNew
      · exact inOrder.requests request isOld
      · exact senders request isNew
    simp_all
  · intro id service cost member
    change _ ∈ tables.requests at member
    rw [isRequests] at member
    rcases List.mem_append.mp member with isOld | isNew
    · exact inOrder.names id service cost isOld
    · exact names id service cost isNew
  · intro reply member
    rcases inOrder.replies reply (older reply member) with ⟨isName, peer, isConnected, isGwid⟩
    grind
  · simp_all

theorem ImportState.InOrder.importservice (inOrder : state.InOrder) {around : Surroundings}
    (isConnected : state.tables.Connected peer) (fits : (cstr service).length < mwMaxSvcName)
    (done : state.tables.importservice around service cost (some peer) = .ok tables) :
    ImportState.InOrder { state with tables := tables } := by
  have isName : IsName (cstr service) := ⟨List.takeWhile_idem, fits⟩
  rcases importservice_spec inOrder.imports isName done with rfl | asked
  · exact inOrder
  · refine inOrder.keeps asked.peers asked.ok asked.requests ?_ ?_ (fun _ isIn => isIn) ?_
    · intro request member
      rw [List.mem_singleton.mp member]
      exact ⟨peer, isConnected, rfl⟩
    · simp_all
    · intro any anyConnected name
      rcases inOrder.phases any anyConnected name with ⟨phase, inPhase⟩
      by_cases same : any = peer ∧ name = cstr service
      · obtain ⟨rfl, rfl⟩ := same
        exact inPhase.asked asked
      · have notAsked : ¬(state.tables.gwidOf peer = state.tables.gwidOf any ∧
            cstr service = name) := by
          rintro ⟨sameGwid, rfl⟩
          exact same ⟨inOrder.distinct peer any isConnected sameGwid.symm, rfl⟩
        refine ⟨phase, inPhase.stays asked.peers ?_ ?_ rfl fun _ => Iff.rfl⟩
        · intro svcid
          rw [asked.linked, or_iff_left]
          grind
        · simp_all [asked.requests, asks_append, ask_other, List.append_nil]

/-- A link that had its id goes, and its service is withdrawn. -/
theorem ImportState.InPhase.withdrawn (inPhase : state.InPhase name peer phase) {svcid : UInt32}
    (linked : state.tables.Linked name peer svcid) (assigned : svcid ≠ unassigned)
    (peers : tables.peers = state.tables.peers)
    (gone : ∀ id, ¬tables.Linked name peer id)
    (asking : Gateway.asks (state.tables.gwidOf peer) name tables.requests =
      Gateway.asks (state.tables.gwidOf peer) name state.tables.requests ++ [.unprovide svcid]) :
    ∃ phase, ImportState.InPhase { state with tables := tables } name peer phase := by
  have gwid := gwidOf_congr peers peer
  have isSvcid := (inPhase.linked svcid).mp linked
  cases phase with
  | provided idx =>
      have isId : svcidAt idx = svcid := Option.some.inj isSvcid
      refine ⟨.withdrawn idx, ?_, ?_, ?_, ?_⟩
      · intro id
        exact ⟨fun isLinked => absurd isLinked (gone id), fun isNone => by cases isNone⟩
      · rw [gwid, asking, inPhase.asks, ← isId]
        rfl
      · rw [gwid]
        exact inPhase.answers
      · intro idx
        rw [gwid]
        exact inPhase.entry idx
  | asked | again | answered => exact absurd (Option.some.inj isSvcid).symm assigned
  | idle | withdrawn => cases isSvcid

theorem ImportState.InOrder.unimportservice (inOrder : state.InOrder)
    (isConnected : state.tables.Connected peer)
    (steady : state.Steady (.unimportservice service peer)) :
    ImportState.InOrder
      { state with tables := state.tables.unimportservice service (some peer) } := by
  rcases unimportservice_spec inOrder.imports steady.2 with ⟨same, _⟩ | ⟨svcid, unlinked⟩
  · simp [same, inOrder]
  · have assigned := steady.1 svcid unlinked.was
    have requests := unlinked.requests
    rw [if_pos assigned] at requests
    refine inOrder.keeps unlinked.peers unlinked.ok requests ?_ ?_ (fun _ isIn => isIn) ?_
    · intro request member
      rw [List.mem_singleton.mp member]
      exact ⟨peer, isConnected, rfl⟩
    · simp
    · intro any anyConnected name
      rcases inOrder.phases any anyConnected name with ⟨phase, inPhase⟩
      by_cases same : any = peer ∧ name = cstr service
      · obtain ⟨rfl, rfl⟩ := same
        refine inPhase.withdrawn unlinked.was assigned unlinked.peers ?_ ?_
        · simp [unlinked.linked]
        · rw [requests, asks_append, ask_unprovide]
      · have notAsked : ¬(state.tables.gwidOf peer = state.tables.gwidOf any ∧
            cstr service = name) := by
          rintro ⟨sameGwid, rfl⟩
          exact same ⟨inOrder.distinct peer any isConnected sameGwid.symm, rfl⟩
        refine ⟨phase, inPhase.stays unlinked.peers ?_ ?_ rfl fun _ => Iff.rfl⟩
        · intro id
          rw [unlinked.linked, and_iff_left]
          grind
        · simp_all [asks_append, ask_withdrawn_other, List.append_nil]

theorem PeerTables.SoleProvider.links (sole : tables.SoleProvider peer)
    (ok : ImportsOk tables.importlist) {svcid : UInt32} (linked : tables.Linked name peer svcid) :
    svcid ≠ unassigned ∧ linksIn tables.importlist name = [⟨peer, svcid⟩] := by
  rcases mem_linksIn linked with ⟨imp, member, rfl, isLink⟩
  rw [ok.linksIn_of_mem member]
  exact sole imp member _ isLink rfl

theorem ImportState.InOrder.cleanuppeer (inOrder : state.InOrder)
    (isConnected : state.tables.Connected peer) (sole : state.tables.SoleProvider peer) :
    ImportState.InOrder { state with tables := state.tables.impexpCleanuppeer peer } := by
  have cleaned : Cleaned state.tables (state.tables.impexpCleanuppeer peer) peer := by
    have lists : Cleaned (state.tables.expcleanuppeer peer)
        ((state.tables.expcleanuppeer peer).impcleanuppeer peer) peer :=
      impcleanuppeer_spec inOrder.imports sole
    exact ⟨lists.ok, lists.peers, lists.requests, lists.linked⟩
  rcases cleaned.requests with ⟨extra, requests, unprovides, asked⟩
  refine inOrder.keeps cleaned.peers cleaned.ok requests ?_ ?_ (fun _ isIn => isIn) ?_
  · intro request member
    rcases unprovides request member with ⟨name, svcid, rfl⟩
    exact ⟨peer, isConnected, rfl⟩
  · grind
  · intro any anyConnected name
    rcases inOrder.phases any anyConnected name with ⟨phase, inPhase⟩
    have asking : Gateway.asks (state.tables.gwidOf any) name
        (state.tables.impexpCleanuppeer peer).requests =
          Gateway.asks (state.tables.gwidOf any) name state.tables.requests ++
            Gateway.asks (state.tables.gwidOf any) name extra := by
      rw [requests, asks_append]
    rw [asked] at asking
    by_cases same : any = peer
    · subst same
      rw [if_pos rfl] at asking
      by_cases isLinked : ∃ svcid, state.tables.Linked name any svcid
      · rcases isLinked with ⟨svcid, linked⟩
        rcases sole.links inOrder.imports linked with ⟨assigned, only⟩
        rw [only] at asking
        refine inPhase.withdrawn linked assigned cleaned.peers ?_ ?_
        · simp [cleaned.linked]
        · simp [asking]
      · have noLink : (linksIn state.tables.importlist name).filter (fun pl => pl.peer = any) = [] := by
          rw [List.filter_eq_nil_iff]
          intro pl member isPeer
          rw [decide_eq_true_eq] at isPeer
          subst isPeer
          exact isLinked ⟨pl.svcid, member⟩
        rw [noLink, List.map_nil, List.append_nil] at asking
        refine ⟨phase, inPhase.stays cleaned.peers ?_ asking rfl fun _ => Iff.rfl⟩
        intro svcid
        exact ⟨fun linked => ((cleaned.linked _ _ _).mp linked).1,
          fun linked => absurd ⟨svcid, linked⟩ isLinked⟩
    · have otherGwid : state.tables.gwidOf any ≠ state.tables.gwidOf peer :=
        fun sameGwid => same (inOrder.distinct peer any isConnected sameGwid)
      rw [if_neg otherGwid, List.append_nil] at asking
      refine ⟨phase, inPhase.stays cleaned.peers ?_ asking rfl fun _ => Iff.rfl⟩
      simp_all [cleaned.linked, and_iff_left]

theorem copySvcname_of_isName (isName : IsName name) : Mwd.copySvcname name = name := by
  rw [Mwd.copySvcname, isName.text]
  exact List.take_of_length_le (Nat.le_of_lt isName.fits)

theorem asks_cons (gwid : UInt32) (name : List Byte) (request : ServiceRequest)
    (rest : List ServiceRequest) :
    asks gwid name (request :: rest) = asks gwid name [request] ++ asks gwid name rest :=
  asks_append gwid name [request] rest

theorem answers_append (gwid : Int) (name : List Byte) (first second : List Mwd.Provide) :
    answers gwid name (first ++ second) = answers gwid name first ++ answers gwid name second :=
  List.filterMap_append ..

theorem answers_of {gwid : Int} (isGwid : reply.gwid = gwid) (isName : reply.svcname = name) :
    answers gwid name [reply] = [reply.svcid] := by
  simp_all [answers]

theorem answers_other {gwid : Int} (isOther : ¬(reply.gwid = gwid ∧ reply.svcname = name)) :
    answers gwid name [reply] = [] := by
  simp_all [answers]

/-- The service that was asked for gets an entry, and its id is under way. -/
theorem ImportState.InPhase.answered (inPhase : state.InPhase name peer phase)
    (isHead : state.tables.requests = .provide (state.tables.gwidOf peer) name cost :: rest)
    (registered : ∀ index, Mwd.Registered mwd (asInt (state.tables.gwidOf peer)) name index ↔ Mwd.Registered state.mwd (asInt (state.tables.gwidOf peer)) name index ∨ index = idx)
    (isGwid : reply.gwid = asInt (state.tables.gwidOf peer)) (isName : reply.svcname = name)
    (isSvcid : reply.svcid = idx + Mwd.mwServiceMask) :
    ∃ phase, ImportState.InPhase
      ⟨{ state.tables with requests := rest }, mwd, state.replies ++ [reply]⟩ name peer phase := by
  have asking := inPhase.asks
  rw [isHead, asks_cons, ask_provide] at asking
  cases phase with
  | asked =>
      refine ⟨.answered idx, inPhase.linked, ?_, ?_, ?_⟩
      · exact List.append_cancel_left (asking : [Ask.provide] ++ _ = [Ask.provide] ++ [])
      · have answering : Gateway.answers (asInt (state.tables.gwidOf peer)) name state.replies = [] :=
          inPhase.answers
        change Gateway.answers (asInt (state.tables.gwidOf peer)) name (state.replies ++ [reply]) = _
        rw [answers_append, answers_of isGwid isName, answering, isSvcid]
        rfl
      · intro index
        have noEntry : ¬Mwd.Registered state.mwd (asInt (state.tables.gwidOf peer)) name index := by
          intro isIn
          cases (inPhase.entry index).mp isIn
        refine (registered index).trans ⟨?_, ?_⟩
        · rintro (isIn | rfl)
          · exact absurd isIn noEntry
          · rfl
        · intro same
          exact Or.inr (Option.some.inj same).symm
  | idle | answered | provided => cases asking
  | withdrawn | again => cases (List.cons.inj asking).1

/-- What is kept when `mwd` takes a request. -/
theorem ImportState.InOrder.taken (inOrder : state.InOrder) {request : ServiceRequest}
    {rest : List ServiceRequest} (isHead : state.tables.requests = request :: rest)
    {mwd : Mwd.Tables} (members : Mwd.SameMembers state.mwd mwd) {replies : List Mwd.Provide}
    (senders : ∀ reply ∈ replies, IsName reply.svcname ∧ ∃ peer, state.tables.Connected peer ∧
      asInt (state.tables.gwidOf peer) = reply.gwid)
    (phases : ∀ peer, state.tables.Connected peer → ∀ name, ∃ phase,
      ImportState.InPhase ⟨{ state.tables with requests := rest }, mwd, replies⟩ name peer phase) :
    ImportState.InOrder ⟨{ state.tables with requests := rest }, mwd, replies⟩ := by
  refine ⟨inOrder.imports, inOrder.distinct, ?_, ?_, ?_, senders, phases⟩
  · intro any anyConnected
    change (mwd.getGatewayById _).isSome = true
    rw [members.getGatewayById]
    exact inOrder.attached any anyConnected
  · intro request isIn
    refine inOrder.requests request ?_
    rw [isHead]
    exact List.mem_cons_of_mem _ isIn
  · intro id name any isIn
    refine inOrder.names id name any ?_
    rw [isHead]
    exact List.mem_cons_of_mem _ isIn

/-- `mwd` takes a provide while it has room, and replies with the id of the entry. -/
theorem ImportState.InOrder.provide (inOrder : state.InOrder) {gwid : UInt32}
    (isHead : state.tables.requests = .provide gwid service cost :: rest) {status : Mwd.Status}
    (notDown : status ≠ .shutdown) (room : state.mwd.Room)
    (done : state.handleRequest status = .ok after) : after.InOrder := by
  have member : ServiceRequest.provide gwid service cost ∈ state.tables.requests := by
    simp [isHead]
  have isName := inOrder.names gwid service cost member
  obtain ⟨peer, isConnected, isGwid⟩ := inOrder.requests _ member
  obtain rfl : state.tables.gwidOf peer = gwid := isGwid
  obtain ⟨gwidx, isGateway⟩ := Option.isSome_iff_exists.mp (inOrder.attached peer isConnected)
  rcases Mwd.doProvide_imports notDown (asInt_ne_unassigned isConnected) isGateway room service cost
    with ⟨idx, entry, mwd, provided, added, gateway, sameName⟩
  rw [copySvcname_of_isName isName] at sameName
  rw [ImportState.handleRequest, isHead] at done
  dsimp only at done
  rw [provided, isGateway] at done
  obtain rfl := Except.ok.inj done
  have registered (other : Int) (name : List Byte) (index : Int) :
      Mwd.Registered mwd other name index ↔ Mwd.Registered state.mwd other name index ∨
        (index = idx ∧ other = asInt (state.tables.gwidOf peer) ∧ name = service) :=
    added.registered gateway sameName
  refine inOrder.taken isHead added.members ?_ ?_
  · intro reply isIn
    rcases List.mem_append.mp isIn with isOld | isNew
    · exact inOrder.replies reply isOld
    · rw [List.mem_singleton.mp isNew]
      exact ⟨isName, peer, isConnected, rfl⟩
  · intro any anyConnected name
    rcases inOrder.phases any anyConnected name with ⟨phase, inPhase⟩
    by_cases same : any = peer ∧ name = service
    · obtain ⟨rfl, rfl⟩ := same
      refine inPhase.answered isHead ?_ rfl rfl rfl
      intro index
      rw [registered, and_iff_left ⟨rfl, rfl⟩]
    · have notAsked : ¬(state.tables.gwidOf peer = state.tables.gwidOf any ∧ service = name) := by
        rintro ⟨sameGwid, rfl⟩
        exact same ⟨inOrder.distinct peer any isConnected sameGwid.symm, rfl⟩
      refine ⟨phase, inPhase.stays rfl (fun _ => Iff.rfl) ?_ ?_ ?_⟩
      · grind [asks_cons, ask_other]
      · change answers _ name (state.replies ++ [_]) = _
        rw [answers_append, answers_other, List.append_nil]
        rintro ⟨sameGwid, sameName⟩
        exact notAsked ⟨asInt_inj sameGwid, sameName⟩
      · intro index
        rw [registered, or_iff_left]
        grind [asInt_inj]

/-- The entry of a service that was withdrawn goes. -/
theorem ImportState.InPhase.released (inPhase : state.InPhase name peer phase) {svcid : UInt32}
    {rest : List ServiceRequest} {mwd : Mwd.Tables}
    (isHead : state.tables.requests = .unprovide (state.tables.gwidOf peer) name svcid :: rest)
    (registered : ∀ idx, Mwd.Registered state.mwd (asInt (state.tables.gwidOf peer)) name idx →
      svcid = svcidAt idx →
        ∀ index, Mwd.Registered mwd (asInt (state.tables.gwidOf peer)) name index ↔
          Mwd.Registered state.mwd (asInt (state.tables.gwidOf peer)) name index ∧ index ≠ idx) :
    ∃ phase, ImportState.InPhase ⟨{ state.tables with requests := rest }, mwd, state.replies⟩ name
      peer phase := by
  have asking := inPhase.asks
  rw [isHead, asks_cons, ask_unprovide] at asking
  have released (idx : Int) (isEntry : phase.entry = some idx) (isSvcid : svcid = svcidAt idx)
      (index : Int) : Mwd.Registered mwd (asInt (state.tables.gwidOf peer)) name index ↔
        (none : Option Int) = some index := by
    have isIn := (inPhase.entry idx).mpr isEntry
    refine (registered idx isIn isSvcid index).trans ⟨?_, fun isNone => by cases isNone⟩
    rintro ⟨other, differs⟩
    have same := (inPhase.entry index).mp other
    rw [isEntry] at same
    exact absurd (Option.some.inj same).symm differs
  cases phase with
  | withdrawn idx =>
      have isSvcid : svcid = svcidAt idx := Ask.unprovide.inj (List.cons.inj asking).1
      exact ⟨.idle, inPhase.linked, (List.cons.inj asking).2, inPhase.answers,
        released idx rfl isSvcid⟩
  | again idx =>
      have isSvcid : svcid = svcidAt idx := Ask.unprovide.inj (List.cons.inj asking).1
      exact ⟨.asked, inPhase.linked, (List.cons.inj asking).2, inPhase.answers,
        released idx rfl isSvcid⟩
  | idle | answered | provided => cases asking
  | asked => cases (List.cons.inj asking).1

/-- The id in an unprovide is that of the entry of its service. -/
theorem ImportState.InPhase.entry_of_unprovide (inPhase : state.InPhase name peer phase)
    {svcid : UInt32}
    (isHead : state.tables.requests = .unprovide (state.tables.gwidOf peer) name svcid :: rest) :
    ∃ idx, Mwd.Registered state.mwd (asInt (state.tables.gwidOf peer)) name idx ∧
      asInt svcid = idx + Mwd.mwServiceMask := by
  have asking := inPhase.asks
  rw [isHead, asks_cons, ask_unprovide] at asking
  have found (idx : Int) (isEntry : phase.entry = some idx) (isSvcid : svcid = svcidAt idx) :
      ∃ idx, Mwd.Registered state.mwd (asInt (state.tables.gwidOf peer)) name idx ∧
        asInt svcid = idx + Mwd.mwServiceMask := by
    rcases inPhase.bounds isEntry with ⟨lower, upper⟩
    refine ⟨idx, (inPhase.entry idx).mpr isEntry, ?_⟩
    rw [isSvcid, asInt_svcidAt lower upper]
  cases phase with
  | withdrawn idx => exact found idx rfl (Ask.unprovide.inj (List.cons.inj asking).1)
  | again idx => exact found idx rfl (Ask.unprovide.inj (List.cons.inj asking).1)
  | idle | answered | provided => cases asking
  | asked => cases (List.cons.inj asking).1

theorem ImportState.InOrder.unprovide (inOrder : state.InOrder) {gwid svcid : UInt32}
    (isHead : state.tables.requests = .unprovide gwid service svcid :: rest) {status : Mwd.Status}
    (done : state.handleRequest status = .ok after) : after.InOrder := by
  have member : ServiceRequest.unprovide gwid service svcid ∈ state.tables.requests := by
    simp [isHead]
  obtain ⟨peer, isConnected, isGwid⟩ := inOrder.requests _ member
  obtain rfl : state.tables.gwidOf peer = gwid := isGwid
  rw [ImportState.handleRequest, isHead] at done
  obtain rfl := Except.ok.inj done
  rcases inOrder.phases peer isConnected service with ⟨phase, inPhase⟩
  rcases inPhase.entry_of_unprovide isHead with ⟨idx, isIn, isSvcid⟩
  have registered (other : Int) (name : List Byte) (index : Int) :
      Mwd.Registered (state.mwd.doUnprovide (Mwd.unimportMessage
          (asInt (state.tables.gwidOf peer)) service (asInt svcid))).2 other name index ↔
        Mwd.Registered state.mwd other name index ∧ index ≠ idx := by
    rw [isSvcid]
    exact Mwd.doUnprovide_registered isIn _ _
  refine inOrder.taken isHead (Mwd.doUnprovide_sameMembers _ _) inOrder.replies ?_
  intro any anyConnected name
  by_cases same : any = peer ∧ name = service
  · obtain ⟨rfl, rfl⟩ := same
    refine inPhase.released isHead ?_
    intro other otherIn otherSvcid index
    have isOther : other = idx := by
      have upper := otherIn.upper
      have fits := state.mwd.svctblFits
      rw [otherSvcid, asInt_svcidAt otherIn.lower (by omega)] at isSvcid
      omega
    rw [registered, isOther]
  · rcases inOrder.phases any anyConnected name with ⟨otherPhase, otherInPhase⟩
    have notAsked : ¬(state.tables.gwidOf peer = state.tables.gwidOf any ∧ service = name) := by
      rintro ⟨sameGwid, rfl⟩
      exact same ⟨inOrder.distinct peer any isConnected sameGwid.symm, rfl⟩
    refine ⟨otherPhase, otherInPhase.stays rfl (fun _ => Iff.rfl) ?_ rfl ?_⟩
    · grind [asks_cons, ask_withdrawn_other]
    · intro index
      rw [registered, and_iff_left_iff_imp]
      intro otherIn isIdx
      subst isIdx
      exact notAsked ⟨asInt_inj (isIn.gateway.symm.trans otherIn.gateway),
        isIn.isName.symm.trans otherIn.isName⟩

/-- The reply that is read gives the link its id. -/
theorem ImportState.InPhase.provided (inPhase : state.InPhase name peer phase)
    {rest : List Mwd.Provide} (isHead : state.replies = reply :: rest)
    (isGwid : reply.gwid = asInt (state.tables.gwidOf peer)) (isName : reply.svcname = name)
    (peers : tables.peers = state.tables.peers) (requests : tables.requests = state.tables.requests)
    (linked : ∀ svcid, tables.Linked name peer svcid ↔ svcid = asId reply.svcid) :
    ∃ phase, ImportState.InPhase ⟨tables, state.mwd, rest⟩ name peer phase := by
  have gwid := gwidOf_congr peers peer
  have answering := inPhase.answers
  rw [isHead] at answering
  have head : Gateway.answers (asInt (state.tables.gwidOf peer)) name (reply :: rest) =
      reply.svcid :: Gateway.answers (asInt (state.tables.gwidOf peer)) name rest := by
    have split := answers_append (asInt (state.tables.gwidOf peer)) name [reply] rest
    rw [answers_of isGwid isName] at split
    exact split
  rw [head] at answering
  cases phase with
  | answered idx =>
      have isSvcid : reply.svcid = idx + Mwd.mwServiceMask := (List.cons.inj answering).1
      refine ⟨.provided idx, ?_, ?_, ?_, ?_⟩
      · intro svcid
        rw [linked, isSvcid]
        exact ⟨fun same => congrArg some same.symm, fun same => (Option.some.inj same).symm⟩
      · change Gateway.asks (tables.gwidOf peer) name tables.requests = _
        rw [gwid, requests]
        exact inPhase.asks
      · change Gateway.answers (asInt (tables.gwidOf peer)) name rest = _
        rw [gwid]
        exact (List.cons.inj answering).2
      · intro index
        change Mwd.Registered state.mwd (asInt (tables.gwidOf peer)) name index ↔ _
        rw [gwid]
        exact inPhase.entry index
  | idle | withdrawn | asked | again | provided => cases answering

theorem ImportState.InPhase.waits (inPhase : state.InPhase name peer phase)
    (member : reply ∈ state.replies) (isGwid : reply.gwid = asInt (state.tables.gwidOf peer))
    (isName : reply.svcname = name) :
    state.tables.Linked name peer unassigned := by
  have isIn : reply.svcid ∈ phase.answers := by
    rw [← inPhase.answers]
    refine List.mem_filterMap.mpr ⟨reply, member, ?_⟩
    rw [if_pos ⟨isGwid, isName⟩]
  refine (inPhase.linked unassigned).mpr ?_
  cases phase with
  | answered => rfl
  | idle | withdrawn | asked | again | provided => cases isIn

theorem ImportState.InOrder.handleReply (inOrder : state.InOrder) : state.handleReply.InOrder := by
  cases isHead : state.replies with
  | nil =>
      rw [ImportState.handleReply, isHead]
      exact inOrder
  | cons reply rest =>
      have member : reply ∈ state.replies := by
        simp [isHead]
      obtain ⟨isName, peer, isConnected, isGwid⟩ := inOrder.replies reply member
      have isId : asId reply.gwid = state.tables.gwidOf peer := by
        rw [← isGwid, asId_asInt]
      have isText : cstr reply.svcname = reply.svcname := isName.text
      have waits : state.tables.Linked (cstr reply.svcname) peer unassigned := by
        rcases inOrder.phases peer isConnected reply.svcname with ⟨phase, inPhase⟩
        rw [isText]
        exact inPhase.waits member isGwid.symm rfl
      rcases impsetsvcid_spec inOrder.imports waits
        (fun other same => inOrder.distinct peer other isConnected same) (asId reply.svcid) with
        ⟨ok, peers, requests, linked⟩
      rw [ImportState.handleReply, isHead]
      dsimp only
      rw [isId]
      rw [isText] at linked
      refine inOrder.keeps peers ok (requests.trans (List.append_nil _).symm)
        (List.forall_mem_nil _) (fun _ _ _ isIn => by cases isIn) ?_ ?_
      · simp_all
      · intro any anyConnected name
        rcases inOrder.phases any anyConnected name with ⟨phase, inPhase⟩
        by_cases same : any = peer ∧ name = reply.svcname
        · obtain ⟨rfl, rfl⟩ := same
          simp_all [inPhase.provided]
        · refine ⟨phase, inPhase.stays peers ?_ ?_ ?_ fun _ => Iff.rfl⟩
          · grind
          · simp [requests]
          · have split := answers_append (asInt (state.tables.gwidOf any)) name [reply] rest
            rw [answers_other, List.nil_append] at split
            · simp [isHead, split.symm]
            · rintro ⟨sameGwid, sameName⟩
              have isPeer := inOrder.distinct peer any isConnected
                (asInt_inj (sameGwid.symm.trans isGwid.symm))
              exact same ⟨isPeer, sameName.symm⟩

theorem ImportState.InOrder.others (inOrder : state.InOrder) (stay : state.PeersStay mwd) :
    ImportState.InOrder { state with mwd := mwd } := by
  refine ⟨inOrder.imports, inOrder.distinct, ?_, inOrder.requests, inOrder.names, inOrder.replies, ?_⟩
  · intro peer isConnected
    change (mwd.getGatewayById (asInt (state.tables.gwidOf peer))).isSome = true
    rw [(stay peer isConnected).1]
    exact inOrder.attached peer isConnected
  · intro peer isConnected name
    rcases inOrder.phases peer isConnected name with ⟨phase, inPhase⟩
    refine ⟨phase, inPhase.stays ?_ ?_ ?_ ?_ ?_⟩
    · rfl
    · exact fun _ => Iff.rfl
    · rfl
    · rfl
    · exact (stay peer isConnected).2 name

/-- One step of a steady run. -/
theorem step_inOrder (inOrder : state.InOrder) {action : ImportAction}
    (isEnabled : state.enabled action) (steady : state.Steady action)
    (stepped : state.step action = .ok after) : after.InOrder := by
  cases action with
  | importservice around service cost peer =>
      change state.importFrom around service cost peer = .ok after at stepped
      unfold ImportState.importFrom at stepped
      cases imported : state.tables.importservice around service cost (some peer) with
      | error failure =>
          simp [imported] at stepped
      | ok tables =>
          rw [imported] at stepped
          cases stepped
          exact inOrder.importservice isEnabled steady imported
  | unimportservice service peer =>
      cases stepped
      exact inOrder.unimportservice isEnabled steady
  | cleanuppeer peer =>
      cases stepped
      exact inOrder.cleanuppeer isEnabled steady
  | request status =>
      change state.handleRequest status = .ok after at stepped
      cases isHead : state.tables.requests with
      | nil => exact absurd isHead isEnabled
      | cons request rest =>
          cases request with
          | provide gwid service cost =>
              have allowed := steady gwid service cost (by rw [isHead]; rfl)
              exact inOrder.provide isHead allowed.1 allowed.2 stepped
          | unprovide gwid service svcid => exact inOrder.unprovide isHead stepped
  | reply =>
      cases stepped
      exact inOrder.handleReply
  | others mwd =>
      cases stepped
      exact inOrder.others isEnabled

theorem ImportState.Starts.inOrder (starts : state.Starts) : state.InOrder := by
  have noImports : ImportsOk state.tables.importlist := by
    rw [starts.imports]
    exact ⟨List.nodup_nil, List.forall_mem_nil _⟩
  refine ⟨noImports, starts.distinct, starts.attached, ?_, ?_, ?_, ?_⟩
  · simp [starts.requests]
  · simp [starts.requests]
  · simp [starts.replies]
  · intro peer isConnected name
    refine ⟨.idle, ?_, ?_, ?_, ?_⟩
    · intro svcid
      refine ⟨fun linked => ?_, fun isNone => by cases isNone⟩
      rw [PeerTables.Linked, starts.imports] at linked
      cases linked
    · rw [starts.requests]
      rfl
    · rw [starts.replies]
      rfl
    · intro idx
      exact ⟨fun isIn => absurd isIn (starts.unregistered peer isConnected name idx),
        fun isNone => by cases isNone⟩

theorem reachable_inOrder (reachable : importMachine.Reachable ImportState.Steady state) :
    state.InOrder := by
  apply reachable.holds
  · exact fun _ starts => starts.inOrder
  · intro before action next inOrder isEnabled steady stepped
    exact step_inOrder inOrder isEnabled steady stepped

theorem hasLink_iff (ok : ImportsOk tables.importlist) (svcid : UInt32) :
    tables.HasLink name peer svcid ↔ tables.Linked name peer svcid := by
  constructor
  · rintro ⟨imp, member, rfl, isLink⟩
    simp_all [PeerTables.Linked, ok.linksIn_of_mem]
  · exact mem_linksIn

/-- Without a message in flight a service is either provided or has nothing. -/
theorem ImportState.InPhase.agrees (inPhase : state.InPhase name peer phase)
    (ok : ImportsOk state.tables.importlist) (quiet : state.Quiet) : state.Agrees name peer := by
  have noAsks := inPhase.asks
  have noAnswers := inPhase.answers
  rw [quiet.1] at noAsks
  rw [quiet.2] at noAnswers
  have once (first second : Int)
      (isFirst : Mwd.Registered state.mwd (asInt (state.tables.gwidOf peer)) name first)
      (isSecond : Mwd.Registered state.mwd (asInt (state.tables.gwidOf peer)) name second) :
      first = second := by
    have same := ((inPhase.entry first).mp isFirst).symm.trans ((inPhase.entry second).mp isSecond)
    exact Option.some.inj same
  cases phase with
  | idle =>
      have noEntry (idx : Int) :
          ¬Mwd.Registered state.mwd (asInt (state.tables.gwidOf peer)) name idx := by
        intro isIn
        cases (inPhase.entry idx).mp isIn
      have noLink (svcid : UInt32) : ¬state.tables.HasLink name peer svcid := by
        intro isLink
        cases (inPhase.linked svcid).mp ((hasLink_iff ok svcid).mp isLink)
      exact ⟨⟨fun ⟨idx, isIn⟩ => absurd isIn (noEntry idx),
        fun ⟨svcid, isLink⟩ => absurd isLink (noLink svcid)⟩,
        fun idx _ isIn => absurd isIn (noEntry idx), once⟩
  | provided idx =>
      have isIn := (inPhase.entry idx).mpr rfl
      have isLink := (hasLink_iff ok _).mpr ((inPhase.linked (svcidAt idx)).mpr rfl)
      refine ⟨⟨fun _ => ⟨_, isLink⟩, fun _ => ⟨idx, isIn⟩⟩, ?_, once⟩
      intro index svcid otherIn otherLink
      have sameIdx := once idx index isIn otherIn
      have sameId := (inPhase.linked svcid).mp ((hasLink_iff ok svcid).mp otherLink)
      rcases inPhase.bounds rfl with ⟨lower, upper⟩
      rw [← Option.some.inj sameId, ← sameIdx, asInt_svcidAt lower upper]
  | withdrawn | asked | again => cases noAsks
  | answered => cases noAnswers

end

/-- In a run of steady steps, whenever no message is in flight a service is registered for a peer
exactly when it is imported from it, once and under the id of the link. -/
theorem imports_agree_with_mwd {state : ImportState}
    (reachable : importMachine.Reachable ImportState.Steady state) (quiet : state.Quiet)
    {peer : Nat} (isConnected : state.tables.Connected peer) (name : List Byte) :
    state.Agrees name peer := by
  have inOrder := reachable_inOrder reachable
  rcases inOrder.phases peer isConnected name with ⟨phase, inPhase⟩
  exact inPhase.agrees inOrder.imports quiet

/-- A gateway with one peer, and an `mwd` that knows the id of the peer. -/
def onePeer : ImportState where
  tables := ⟨[⟨[98], 0, 0x04000000, some 5⟩], [], [], []⟩
  mwd := { Mwd.emptyTables with gwtbl := fun _ => ⟨0, 0, 1, 1, 1⟩ }
  replies := []

theorem onePeer_starts : onePeer.Starts := by
  have noOther (peer : Nat) (isConnected : onePeer.tables.Connected peer) : peer = 0 := by
    cases peer with
    | zero => rfl
    | succ peer => exact absurd rfl isConnected
  refine ⟨rfl, rfl, rfl, ?_, ?_, ?_⟩
  · intro peer other isConnected same
    have otherConnected : onePeer.tables.Connected other := by
      simp_all [PeerTables.Connected]
    rw [noOther peer isConnected, noOther other otherConnected]
  · intro peer isConnected
    rw [noOther peer isConnected]
    decide
  · intro peer _ name idx registered
    exact registered.inUse rfl

/-- The peer provides `S`, and `mwd` answers. -/
def importActions : List ImportAction :=
  [.importservice someSurroundings [83] 1 0, .request .ready, .reply]

theorem imports_agree_with_mwd_once :
    ∃ idx, Mwd.Registered (importActions.foldl importMachine.next onePeer).mwd 0x04000000 [83] idx := by
  have reachable : importMachine.Reachable ImportState.Steady
      (importActions.foldl importMachine.next onePeer) := by
    refine (Machine.Reachable.start onePeer_starts).runs ?_
    refine ⟨?_, ?_, rfl, ?_, ?_, rfl, ?_, trivial, rfl, trivial⟩
    · exact fun isUnassigned => absurd isUnassigned (by decide)
    · change (cstr [83]).length < mwMaxSvcName
      decide
    · exact List.cons_ne_nil _ _
    · intro gwid service cost _
      exact ⟨by decide, 0, by decide, by decide, rfl⟩
    · exact List.cons_ne_nil _ _
  have quiet : (importActions.foldl importMachine.next onePeer).Quiet := ⟨rfl, rfl⟩
  have isConnected : (importActions.foldl importMachine.next onePeer).tables.Connected 0 := by
    intro isUnassigned
    exact absurd isUnassigned (by decide)
  have agrees := imports_agree_with_mwd reachable quiet isConnected [83]
  exact agrees.both.mpr ⟨0x08000000, ⟨[83], [⟨0, 0x08000000⟩]⟩, by decide, rfl, List.mem_singleton.mpr rfl⟩

/-- The peer withdraws `S` before the gateway has read the reply. -/
def overtakingActions : List ImportAction :=
  [.importservice someSurroundings [83] 1 0, .request .ready, .unimportservice [83] 0, .reply,
    .request .ready]

theorem imports_disagree_with_mwd :
    ∃ state, importMachine.Reachable (fun _ _ => True) state ∧ state.Quiet ∧
      state.tables.Connected 0 ∧ ¬state.Agrees [83] 0 := by
  refine ⟨overtakingActions.foldl importMachine.next onePeer, ?_, ⟨rfl, rfl⟩, ?_, ?_⟩
  · refine (Machine.Reachable.start onePeer_starts).runs ?_
    refine ⟨?_, trivial, rfl, ?_, trivial, rfl, ?_, trivial, rfl, ?_, trivial, rfl, ?_, trivial, rfl,
      trivial⟩
    · exact fun isUnassigned => absurd isUnassigned (by decide)
    · exact List.cons_ne_nil _ _
    · exact fun isUnassigned => absurd isUnassigned (by decide)
    · exact List.cons_ne_nil _ _
    · exact List.cons_ne_nil _ _
  · exact fun isUnassigned => absurd isUnassigned (by decide)
  · intro agrees
    have registered : Mwd.Registered (overtakingActions.foldl importMachine.next onePeer).mwd
        (asInt 0x04000000) [83] 0 := by
      refine ⟨by decide, by decide, ?_, ?_, ?_⟩
      · decide
      · decide
      · decide
    rcases agrees.both.mp ⟨0, registered⟩ with ⟨svcid, imp, member, _⟩
    cases member

end MidWay.Gateway

import MidWay.Gateway.PeerLinks
import MidWay.Lib.Runs

/-!
Contract: whether a peer, its connection and its row of the gateway table belong
together, in every run of connects, `INIT` messages and closes.

A peer is linked when the connect is in progress or when it is let in, and unlinked by
`gw_closegateway`. Not every way through `gw_connectpeer` and `gw_peerconnected` sets
all of the links or takes back all that it set.

Owns: `gw_peerconnected` and the gateway part of `srbinit` on these links, the machine of
what happens to them, `Consistent`, and the steps that keep it.
-/

namespace MidWay.Gateway.PeerLinks

open MidWay.CLib MidWay.Lib MidWay.Lib.Mutexes MidWay.Srb
open MidWay.Gateway.AttachReplies (fdSetsize)

/-- What comes with an `INIT` request of a gateway; `locked` is as in `Attempt`. -/
structure GatewayInit where
  instanceName : List Byte
  name : List Byte
  peerdomain : List Byte
  locked : Bool

/-- The row is allocated when the peer is let in, and the result is not looked at. -/
def PeerState.gwPeerconnected (state : PeerState) (around : Surroundings) (fd : Nat)
    (request : GatewayInit) : Option Nat × PeerState :=
  let gwid := (state.allocgwid request.locked).1
  let entered := state.tables.gwPeerconnected { around with allocgwid := gwid } fd request.name
    request.peerdomain
  match entered.1 with
  | none => (none, { state with tables := entered.2 })
  | some peer =>
      (some peer, { (state.allocgwid request.locked).2 with tables := entered.2 }.setSlot fd
        fun conn => { conn with gwid := gwid, peerinfo := some peer })

/-- `gw_provideservices_to_peer`. -/
def provideservicesToPeer (thread : Thread) (around : Surroundings) (gwid : UInt32) : Outcome :=
  (getKnownPeerByGWID thread gwid).bind fun found =>
    match found.2.state.tables.provideservicesToPeer around gwid with
    | .error _ => .error (.failed .aborted)
    | .ok (tables, messages) =>
        .ok (found.2.modify fun state =>
          { state with
            tables := tables
            sent := state.sent ++ messages.map fun srbmsg => (found.1.getD 0, srbmsg) })

/-- `srbinit`, for a request of a gateway. A peer that is refused and has an id is closed twice,
the second time without a descriptor. -/
def initRequest (thread : Thread) (around : Surroundings) (fd : Nat) (request : GatewayInit) :
    Outcome :=
  if cstr request.instanceName ≠ around.myinstance then connDel thread fd
  else
    let connected := thread.state.gwPeerconnected around fd request
    let thread := thread.modify fun _ => connected.2
    match connected.1 with
    | none =>
        let closed : Outcome :=
          if (thread.state.slots fd).gwid ≠ unassigned then gwClosegateway thread (some fd)
          else .ok thread
        closed.bind fun thread =>
          if (thread.state.slots fd).isOpen = false then .error (.failed .wildSlot)
          else connDel thread fd
    | some _ =>
        let thread := thread.modify fun state =>
          state.setSlot fd fun conn => { conn with isGateway := true, up := true }
        provideservicesToPeer thread around (thread.state.slots fd).gwid

/-- `srbinit`, for a response with a return code. -/
def initReply (thread : Thread) (around : Surroundings) (fd : Nat) (rc : Int) : Outcome :=
  if rc = 0 then
    let thread := thread.modify fun state => state.setSlot fd fun conn => { conn with up := true }
    if (thread.state.slots fd).isGateway then
      provideservicesToPeer thread around (thread.state.slots fd).gwid
    else .ok thread
  else gwClosegateway thread (some fd)

/-- What happens to peers, connections and rows. `services` is anything that changes the imports
and exports, and `gateways` what other gateways do to their rows. -/
inductive LinkAction where
  /-- `conn_add`, for a connection that came in. -/
  | accepted (fd : Nat)
  /-- `gw_addknownpeer`. -/
  | knownpeer (around : Surroundings) (name domain : List Byte)
  | connectpeer (peer : Nat) (attempt : Attempt)
  | initRequest (around : Surroundings) (fd : Nat) (request : GatewayInit)
  | initReply (around : Surroundings) (fd : Nat) (rc : Int)
  /-- `conn_del`. -/
  | closed (fd : Nat)
  /-- `gw_closegateway`. -/
  | gatewayClosed (fd : Nat)
  | services (tables : PeerTables)
  | gateways (gwtblPid : Nat → Int) (gwtblNextidx : Nat)

def LinkAction.step (thread : Thread) : LinkAction → Outcome
  | .accepted fd => connAdd thread fd false
  | .knownpeer around name domain =>
      .ok (thread.modify fun state =>
        { state with tables := (state.tables.gwAddknownpeer around name domain).2 })
  | .connectpeer peer attempt => gwConnectpeer thread (some peer) attempt
  | .initRequest around fd request => PeerLinks.initRequest thread around fd request
  | .initReply around fd rc => PeerLinks.initReply thread around fd rc
  | .closed fd => connDel thread fd
  | .gatewayClosed fd => gwClosegateway thread (some fd)
  | .services tables =>
      .ok (thread.modify fun state =>
        { state with tables := { tables with peers := state.tables.peers } })
  | .gateways gwtblPid gwtblNextidx =>
      .ok (thread.modify fun state =>
        { state with gwtblPid := gwtblPid, gwtblNextidx := gwtblNextidx })

/-- The system gives a descriptor that is not open, and only an open connection is read from or
closed. Other gateways keep to their own rows. -/
def LinkAction.enabled (thread : Thread) : LinkAction → Prop
  | .accepted fd => (thread.state.slots fd).isOpen = false
  | .connectpeer peer attempt =>
      peer < thread.state.tables.peers.length ∧
        ∀ fd, attempt.socket = some fd → (thread.state.slots fd).isOpen = false
  | .initRequest _ fd _ => (thread.state.slots fd).isOpen = true
  | .initReply _ fd _ => (thread.state.slots fd).isOpen = true
  | .closed fd => (thread.state.slots fd).isOpen = true
  | .gatewayClosed fd => (thread.state.slots fd).isOpen = true
  | .gateways gwtblPid _ => ∀ idx,
      gwtblPid idx = thread.state.ipcserverpid ↔
        thread.state.gwtblPid idx = thread.state.ipcserverpid
  | _ => True

/-- The gateway holds no mutex and has no connections, and of the gateway table it has the row
`own`. -/
structure Initial (own : Nat) (thread : Thread) : Prop where
  free : ∀ mutex, thread.held mutex = false
  peers : ∀ pi ∈ thread.state.tables.peers, pi.conn = none ∧ pi.gwid = unassigned
  slots : ∀ fd, thread.state.slots fd = clearedSlot
  pid : thread.state.ipcserverpid ≠ -1
  ownFits : own < thread.state.gwtblLength
  ownRow : thread.state.gwtblPid own = thread.state.ipcserverpid
  rows : ∀ idx, idx < thread.state.gwtblLength →
    thread.state.gwtblPid idx = thread.state.ipcserverpid → idx = own

def linkMachine (own : Nat) : Machine Thread LinkAction (Stop PeerMutex PeerFailure) where
  start := Initial own
  enabled := LinkAction.enabled
  step := LinkAction.step

def PeerState.InUse (state : PeerState) (gwid : UInt32) : Prop :=
  ∃ idx, idx < state.gwtblLength ∧ gwid = idx2gwid idx ∧ state.gwtblPid idx = state.ipcserverpid

/-- The peer has no connection and no id, or it has an open connection that points back, with its
id, and the row of that id. -/
def PeerState.PeerOk (state : PeerState) (peer : Nat) (pi : Gwpeerinfo) : Prop :=
  (pi.conn = none ∧ pi.gwid = unassigned) ∨
    ∃ fd, pi.conn = some fd ∧ (state.slots fd).isOpen = true ∧
      (state.slots fd).peerinfo = some peer ∧ (state.slots fd).gwid = pi.gwid ∧
      state.InUse pi.gwid

def PeerState.Owned (state : PeerState) (fd : Nat) : Prop :=
  ∃ (peer : Nat) (pi : Gwpeerinfo), state.tables.peers[peer]? = some pi ∧ pi.conn = some fd

/-- Peers, connections to gateways and rows belong together, and none is left without a peer. -/
structure PeerState.Consistent (own : Nat) (state : PeerState) : Prop where
  peers : ∀ peer pi, state.tables.peers[peer]? = some pi → state.PeerOk peer pi
  slots : ∀ fd, (state.slots fd).isOpen = true →
    (state.slots fd).isGateway = true ∨ (state.slots fd).gwid ≠ unassigned → state.Owned fd
  rows : ∀ idx, idx < state.gwtblLength → state.gwtblPid idx = state.ipcserverpid → idx ≠ own →
    ∃ (peer : Nat) (pi : Gwpeerinfo), state.tables.peers[peer]? = some pi ∧ pi.gwid = idx2gwid idx

def firstTaken (res : List Address) : Option Connecting :=
  (res.find? fun address => address.inet && address.outcome != .failed).map Address.outcome

/-- The connect ends with nothing or with the links complete. When the host is resolved, either
a row is allocated and the connect is in progress on a descriptor that can be watched, or there is
no row for one that cannot be and is closed already. -/
def PeerState.ConnectSettles (state : PeerState) (attempt : Attempt) : Prop :=
  ∀ fd res, attempt.socket = some fd → attempt.lookup = some res →
    (fd + 1 < fdSetsize ∧ (state.allocgwid attempt.locked).1 ≠ unassigned ∧
        firstTaken res = some .inProgress) ∨
      (fdSetsize ≤ fd + 1 ∧ (state.allocgwid attempt.locked).1 = unassigned)

def NameFree (tables : PeerTables) (name : List Byte) : Prop :=
  ∀ peer, tables.getKnownPeerByInstance name = some peer →
    (tables.peers[peer]?).bind Gwpeerinfo.conn = none

/-- `gw_peerconnected` lets the peer in: its domain is known, and so is the peer, or it can be
added, and it is not connected. -/
def LetsIn (tables : PeerTables) (around : Surroundings) (request : GatewayInit) : Prop :=
  0 ≤ remdomGetid around request.peerdomain ∧ NameFree tables request.name ∧
    (tables.getKnownPeerByInstance request.name = none →
      around.inet = true ∧ NameFree tables ((cstr request.name).take mwMaxNameLen))

/-- A request that reaches `gw_peerconnected` does so on a connection without a gateway id, and
a peer that is let in gets a row. -/
def PeerState.RequestSettles (state : PeerState) (around : Surroundings) (fd : Nat)
    (request : GatewayInit) : Prop :=
  cstr request.instanceName = around.myinstance →
    (state.slots fd).gwid = unassigned ∧
      (LetsIn state.tables around request →
        (state.allocgwid request.locked).1 ≠ unassigned)

def LinkAction.Settles (thread : Thread) : LinkAction → Prop
  | .connectpeer peer attempt =>
      thread.state.connOf peer = none → thread.state.ConnectSettles attempt
  | .initRequest around fd request => thread.state.RequestSettles around fd request
  | _ => True

theorem idx2gwid_toNat {idx : Nat} (fits : idx < 16777216) :
    (idx2gwid idx).toNat = idx + 67108864 := by
  have inWord : idx < UInt32.size := by
    grind
  have apart : 2 ^ 24 * 4 + idx = 2 ^ 24 * 4 ||| idx := Nat.two_pow_add_eq_or_of_lt fits 4
  rw [idx2gwid, UInt32.toNat_or, UInt32.toNat_ofNat_of_lt' inWord, Nat.or_comm]
  exact apart.symm.trans (Nat.add_comm _ _)

theorem idx2gwid_index {idx : Nat} (fits : idx < 16777216) :
    (idx2gwid idx &&& 0x00FFFFFF).toNat = idx := by
  rw [UInt32.toNat_and, idx2gwid_toNat fits]
  have mask : (0x00FFFFFF : UInt32).toNat = 2 ^ 24 - 1 := rfl
  rw [mask, Nat.and_two_pow_sub_one_eq_mod]
  omega

theorem idx2gwid_assigned {idx : Nat} (fits : idx < 16777216) : idx2gwid idx ≠ unassigned := by
  intro same
  have value := congrArg UInt32.toNat same
  rw [idx2gwid_toNat fits] at value
  have all : unassigned.toNat = 4294967295 := rfl
  omega

theorem idx2gwid_inj {idx other : Nat} (fits : idx < 16777216) (otherFits : other < 16777216)
    (same : idx2gwid idx = idx2gwid other) : idx = other := by
  rw [← idx2gwid_index fits, same, idx2gwid_index otherFits]

/-- No id, or a row that was free. -/
theorem allocgwid_cases (state : PeerState) (locked : Bool) :
    state.allocgwid locked = (unassigned, state) ∨
      ∃ idx, idx < state.gwtblLength ∧ state.gwtblPid idx = -1 ∧
        state.allocgwid locked = (idx2gwid idx, { state with
          gwtblPid := Function.update state.gwtblPid idx state.ipcserverpid
          gwtblNextidx := idx + 1 }) := by
  unfold PeerState.allocgwid
  split_ifs
  · exact Or.inl rfl
  · cases found : state.gwtblFree with
    | none => exact Or.inl rfl
    | some idx =>
        refine Or.inr ⟨idx, ?_, ?_, rfl⟩
        all_goals unfold PeerState.gwtblFree at found
        · grind [Nat.mod_lt]
        · grind

theorem setSlot_tables (state : PeerState) (fd : Nat) (change : PeerSlot → PeerSlot) :
    (state.setSlot fd change).tables = state.tables := rfl

theorem setPeer_slots (state : PeerState) (peer : Nat) (change : Gwpeerinfo → Gwpeerinfo) :
    (state.setPeer peer change).slots = state.slots := rfl

variable {pi : Gwpeerinfo}

theorem setPeer_same {state : PeerState} {peer : Nat} (change : Gwpeerinfo → Gwpeerinfo)
    (known : state.tables.peers[peer]? = some pi) :
    (state.setPeer peer change).tables.peers[peer]? = some (change pi) := by
  simp [known, PeerState.setPeer]

theorem setPeer_other {peer other : Nat} (different : other ≠ peer) (state : PeerState)
    (change : Gwpeerinfo → Gwpeerinfo) :
    (state.setPeer peer change).tables.peers[other]? = state.tables.peers[other]? := by
  simp [PeerState.setPeer, different.symm]

structure PeerState.Sound (own : Nat) (state : PeerState) : Prop
    extends state.Consistent own where
  closed : ∀ fd, (state.slots fd).isOpen = false →
    (state.slots fd).gwid = unassigned ∧ (state.slots fd).peerinfo = none
  backs : ∀ fd peer, (state.slots fd).peerinfo = some peer →
    ∃ pi, state.tables.peers[peer]? = some pi ∧ pi.conn = some fd
  unique : ∀ (peer other : Nat) (pi otherPi : Gwpeerinfo), state.tables.peers[peer]? = some pi →
    state.tables.peers[other]? = some otherPi → pi.gwid = otherPi.gwid → pi.gwid ≠ unassigned →
      peer = other
  apart : ∀ (peer : Nat) (pi : Gwpeerinfo), state.tables.peers[peer]? = some pi →
    pi.gwid ≠ idx2gwid own
  pid : state.ipcserverpid ≠ -1
  ownFits : own < state.gwtblLength
  ownRow : state.gwtblPid own = state.ipcserverpid

structure Elsewhere (before after : PeerState) (peer fd idx : Nat) : Prop where
  peers : ∀ other, other ≠ peer → after.tables.peers[other]? = before.tables.peers[other]?
  slots : ∀ other, other ≠ fd → after.slots other = before.slots other
  rows : ∀ other, other ≠ idx → after.gwtblPid other = before.gwtblPid other
  length : after.gwtblLength = before.gwtblLength
  pid : after.ipcserverpid = before.ipcserverpid

structure Links (before after : PeerState) (peer fd idx : Nat) : Prop
    extends Elsewhere before after peer fd idx where
  entry : ∃ pi, after.tables.peers[peer]? = some pi ∧ pi.conn = some fd ∧ pi.gwid = idx2gwid idx
  isOpen : (after.slots fd).isOpen = true
  gwid : (after.slots fd).gwid = idx2gwid idx
  peerinfo : (after.slots fd).peerinfo = some peer
  row : after.gwtblPid idx = before.ipcserverpid

structure Unlinks (before after : PeerState) (peer fd idx : Nat) : Prop
    extends Elsewhere before after peer fd idx where
  entry : ∃ pi, after.tables.peers[peer]? = some pi ∧ pi.conn = none ∧ pi.gwid = unassigned
  slot : after.slots fd = clearedSlot
  row : after.gwtblPid idx = -1

section Sound

variable {own peer fd idx : Nat} {before after state : PeerState}

theorem PeerState.Sound.owner (sound : state.Sound own)
    (known : state.tables.peers[peer]? = some pi) (its : pi.conn = some fd) :
    (state.slots fd).isOpen = true ∧ (state.slots fd).peerinfo = some peer ∧
      (state.slots fd).gwid = pi.gwid ∧ state.InUse pi.gwid := by
  rcases sound.peers peer pi known with ⟨none, _⟩ | ⟨other, isOther, isOpen, back, same, inUse⟩
  · simp [none] at its
  · simp_all

theorem PeerState.Sound.disconnected (sound : state.Sound own)
    (known : state.tables.peers[peer]? = some pi) (none : pi.conn = none) :
    pi.gwid = unassigned := by
  rcases sound.peers peer pi known with ⟨_, noId⟩ | ⟨fd, its, _⟩
  · exact noId
  · simp [none] at its

theorem PeerState.Sound.links (sound : before.Sound own) (links : Links before after peer fd idx)
    (known : before.tables.peers[peer]? = some pi) (unconnected : pi.conn = none)
    (unowned : ¬before.Owned fd) (fits : idx < before.gwtblLength)
    (free : before.gwtblPid idx = -1) : after.Sound own := by
  have small : ∀ other, other < before.gwtblLength → other < 16777216 := by
    intro other below
    exact below.trans_le before.gwtblFits
  have isFree : ∀ other, before.gwtblPid other = before.ipcserverpid → other ≠ idx := by
    rintro other ours rfl
    exact sound.pid (ours.symm.trans free)
  have noId := sound.disconnected known unconnected
  have stays : ∀ (other : Nat) (otherPi : Gwpeerinfo), before.tables.peers[other]? = some otherPi →
      otherPi.conn ≠ none → after.tables.peers[other]? = some otherPi := by
    intro other otherPi its connected
    rw [links.peers other ?_, its]
    rintro rfl
    rw [known] at its
    cases its
    exact connected unconnected
  rcases links.entry with ⟨linked, isLinked, itsConn, itsId⟩
  have inUse : after.InUse (idx2gwid idx) :=
    ⟨idx, by rw [links.length]; exact fits, rfl, by rw [links.row, links.pid]⟩
  have stillInUse : ∀ gwid, before.InUse gwid → after.InUse gwid := by
    rintro gwid ⟨other, below, same, ours⟩
    refine ⟨other, by rw [links.length]; exact below, same, ?_⟩
    rw [links.rows other (isFree other ours), links.pid]
    exact ours
  refine ⟨⟨?_, ?_, ?_⟩, ?_, ?_, ?_, ?_, ?_, ?_, ?_⟩
  · intro other otherPi its
    by_cases same : other = peer
    · subst same
      cases isLinked.symm.trans its
      exact Or.inr ⟨fd, itsConn, links.isOpen, links.peerinfo, by rw [links.gwid, itsId],
        by rw [itsId]; exact inUse⟩
    · rw [links.peers other same] at its
      rcases sound.peers other otherPi its with apart | ⟨otherFd, has, isOpen, back, id, used⟩
      · exact Or.inl apart
      · have elsewhere : otherFd ≠ fd := by
          rintro rfl
          exact unowned ⟨other, otherPi, its, has⟩
        refine Or.inr ⟨otherFd, has, ?_⟩
        rw [links.slots otherFd elsewhere]
        exact ⟨isOpen, back, id, stillInUse _ used⟩
  · intro other isOpen isPeer
    by_cases same : other = fd
    · subst same
      exact ⟨peer, linked, isLinked, itsConn⟩
    · rw [links.slots other same] at isOpen isPeer
      rcases sound.slots other isOpen isPeer with ⟨owner, ownerPi, its, has⟩
      exact ⟨owner, ownerPi, stays owner ownerPi its (by rw [has]; exact Option.some_ne_none _), has⟩
  · intro other below ours notOwn
    by_cases same : other = idx
    · grind
    · rw [links.length] at below
      rw [links.rows other same, links.pid] at ours
      rcases sound.rows other below ours notOwn with ⟨owner, ownerPi, its, id⟩
      refine ⟨owner, ownerPi, ?_, id⟩
      rw [links.peers owner ?_, its]
      grind [idx2gwid_assigned]
  · intro other isClosed
    by_cases same : other = fd
    · subst same
      rw [links.isOpen] at isClosed
      cases isClosed
    · rw [links.slots other same] at isClosed ⊢
      exact sound.closed other isClosed
  · intro other back isBack
    by_cases same : other = fd
    · subst same
      rw [links.peerinfo] at isBack
      cases isBack
      exact ⟨linked, isLinked, itsConn⟩
    · rw [links.slots other same] at isBack
      rcases sound.backs other back isBack with ⟨owner, its, has⟩
      exact ⟨owner, stays back owner its (by rw [has]; exact Option.some_ne_none _), has⟩
  · have differs : ∀ (other : Nat) (otherPi : Gwpeerinfo), other ≠ peer →
        after.tables.peers[other]? = some otherPi → otherPi.gwid ≠ idx2gwid idx := by
      intro other otherPi different its id
      rw [links.peers other different] at its
      rcases sound.peers other otherPi its with ⟨_, none⟩ | ⟨_, _, _, _, _, used⟩
      · exact idx2gwid_assigned (small idx fits) (id.symm.trans none)
      · rcases used with ⟨row, below, same, ours⟩
        grind [idx2gwid_inj]
    intro one other onePi otherPi isOne isOther same assigned
    by_cases oneIs : one = peer
    · grind
    · by_cases otherIs : other = peer
      · grind
      · rw [links.peers one oneIs] at isOne
        rw [links.peers other otherIs] at isOther
        exact sound.unique one other onePi otherPi isOne isOther same assigned
  · intro other otherPi its
    by_cases same : other = peer
    · subst same
      cases isLinked.symm.trans its
      intro id
      have isOwn := idx2gwid_inj (small idx fits) (small own sound.ownFits) (itsId.symm.trans id)
      exact isFree own sound.ownRow isOwn.symm
    · rw [links.peers other same] at its
      exact sound.apart other otherPi its
  · rw [links.pid]
    exact sound.pid
  · rw [links.length]
    exact sound.ownFits
  · rw [links.rows own (isFree own sound.ownRow), links.pid]
    exact sound.ownRow

theorem PeerState.Sound.unlinks (sound : before.Sound own)
    (unlinks : Unlinks before after peer fd idx) (known : before.tables.peers[peer]? = some pi)
    (its : pi.conn = some fd) (id : pi.gwid = idx2gwid idx) (fits : idx < before.gwtblLength) :
    after.Sound own := by
  have small : ∀ other, other < before.gwtblLength → other < 16777216 := by
    intro other below
    exact below.trans_le before.gwtblFits
  rcases sound.owner known its with ⟨_, itsBack, _, _⟩
  have assigned : pi.gwid ≠ unassigned := by
    simp_all [idx2gwid_assigned]
  have notOwn : idx ≠ own := by
    rintro rfl
    exact sound.apart peer pi known id
  rcases unlinks.entry with ⟨cleared, isCleared, noConn, noId⟩
  have elsewhere : ∀ other, other ≠ peer → ∀ otherPi : Gwpeerinfo,
      before.tables.peers[other]? = some otherPi → otherPi.conn ≠ some fd := by
    intro other different otherPi isOther has
    rcases sound.owner isOther has with ⟨_, back, _, _⟩
    rw [itsBack] at back
    exact different (Option.some.inj back).symm
  have stays : ∀ (other : Nat) (otherPi : Gwpeerinfo) (otherFd : Nat), otherFd ≠ fd →
      before.tables.peers[other]? = some otherPi → otherPi.conn = some otherFd →
        after.tables.peers[other]? = some otherPi := by
    intro other otherPi otherFd different isOther has
    rw [unlinks.peers other ?_, isOther]
    rintro rfl
    cases known.symm.trans isOther
    exact different (Option.some.inj (has.symm.trans its))
  refine ⟨⟨?_, ?_, ?_⟩, ?_, ?_, ?_, ?_, ?_, ?_, ?_⟩
  · intro other otherPi isOther
    by_cases same : other = peer
    · subst same
      cases isCleared.symm.trans isOther
      exact Or.inl ⟨noConn, noId⟩
    · rw [unlinks.peers other same] at isOther
      rcases sound.peers other otherPi isOther with
        apart | ⟨otherFd, has, isOpen, back, sameId, row, below, isRow, ours⟩
      · exact Or.inl apart
      · have differs : otherFd ≠ fd := by
          rintro rfl
          exact elsewhere other same otherPi isOther has
        have otherRow : row ≠ idx := by
          rintro rfl
          exact same (sound.unique other peer otherPi pi isOther known (isRow.trans id.symm)
            (by rw [isRow]; exact idx2gwid_assigned (small row below)))
        refine Or.inr ⟨otherFd, has, ?_⟩
        rw [unlinks.slots otherFd differs]
        refine ⟨isOpen, back, sameId, row, by rw [unlinks.length]; exact below, isRow, ?_⟩
        rw [unlinks.rows row otherRow, unlinks.pid]
        exact ours
  · intro other isOpen isPeer
    by_cases same : other = fd
    · subst same
      rw [unlinks.slot] at isOpen
      cases isOpen
    · rw [unlinks.slots other same] at isOpen isPeer
      rcases sound.slots other isOpen isPeer with ⟨owner, ownerPi, isOwner, has⟩
      exact ⟨owner, ownerPi, stays owner ownerPi other same isOwner has, has⟩
  · intro other below ours otherOwn
    rw [unlinks.length] at below
    by_cases same : other = idx
    · subst same
      rw [unlinks.row, unlinks.pid] at ours
      exact absurd ours.symm sound.pid
    · rw [unlinks.rows other same, unlinks.pid] at ours
      rcases sound.rows other below ours otherOwn with ⟨owner, ownerPi, isOwner, ownerId⟩
      refine ⟨owner, ownerPi, ?_, ownerId⟩
      rw [unlinks.peers owner ?_, isOwner]
      grind [idx2gwid_inj]
  · intro other isClosed
    by_cases same : other = fd
    · subst same
      rw [unlinks.slot]
      exact ⟨rfl, rfl⟩
    · rw [unlinks.slots other same] at isClosed ⊢
      exact sound.closed other isClosed
  · intro other back isBack
    by_cases same : other = fd
    · subst same
      rw [unlinks.slot] at isBack
      cases isBack
    · rw [unlinks.slots other same] at isBack
      rcases sound.backs other back isBack with ⟨owner, isOwner, has⟩
      exact ⟨owner, stays back owner other same isOwner has, has⟩
  · have present : ∀ (other : Nat) (otherPi : Gwpeerinfo),
        after.tables.peers[other]? = some otherPi → otherPi.gwid ≠ unassigned →
          before.tables.peers[other]? = some otherPi := by
      intro other otherPi isOther hasId
      rw [← unlinks.peers other ?_, isOther]
      rintro rfl
      cases isCleared.symm.trans isOther
      exact hasId noId
    intro one other onePi otherPi isOne isOther same hasId
    exact sound.unique one other onePi otherPi (present one onePi isOne hasId)
      (present other otherPi isOther (by rw [← same]; exact hasId)) same hasId
  · intro other otherPi isOther
    by_cases same : other = peer
    · subst same
      cases isCleared.symm.trans isOther
      rw [noId]
      exact (idx2gwid_assigned (small own sound.ownFits)).symm
    · rw [unlinks.peers other same] at isOther
      exact sound.apart other otherPi isOther
  · rw [unlinks.pid]
    exact sound.pid
  · rw [unlinks.length]
    exact sound.ownFits
  · rw [unlinks.rows own notOwn.symm, unlinks.pid]
    exact sound.ownRow

/-- A slot changes, and keeps whether it is open, its id and its peer. Only a peer's connection
becomes one of a gateway. -/
theorem PeerState.Sound.retouch (sound : state.Sound own) (fd : Nat) (change : PeerSlot → PeerSlot)
    (isOpen : (change (state.slots fd)).isOpen = (state.slots fd).isOpen)
    (gwid : (change (state.slots fd)).gwid = (state.slots fd).gwid)
    (peerinfo : (change (state.slots fd)).peerinfo = (state.slots fd).peerinfo)
    (owned : (change (state.slots fd)).isOpen = true →
      (change (state.slots fd)).isGateway = true → state.Owned fd) :
    (state.setSlot fd change).Sound own := by
  have same : ∀ other, ((state.setSlot fd change).slots other).isOpen = (state.slots other).isOpen ∧
      ((state.setSlot fd change).slots other).gwid = (state.slots other).gwid ∧
      ((state.setSlot fd change).slots other).peerinfo = (state.slots other).peerinfo := by
    intro other
    by_cases isFd : other = fd
    · simp_all [setSlot_same]
    · simp_all [setSlot_other]
  refine ⟨⟨?_, ?_, sound.rows⟩, ?_, ?_, sound.unique, sound.apart, sound.pid, sound.ownFits,
    sound.ownRow⟩
  · intro peer pi known
    rcases sound.peers peer pi known with apart | ⟨other, has, isOpen, back, id, inUse⟩
    · exact Or.inl apart
    · refine Or.inr ⟨other, has, ?_⟩
      rw [(same other).1, (same other).2.1, (same other).2.2]
      exact ⟨isOpen, back, id, inUse⟩
  · intro other isOpen isPeer
    by_cases isFd : other = fd
    · subst isFd
      rw [setSlot_same] at isOpen isPeer
      rcases isPeer with isGateway | hasId
      · exact owned isOpen isGateway
      · rw [gwid] at hasId
        exact sound.slots other ((same other).1.symm.trans (by rwa [setSlot_same])) (Or.inr hasId)
    · rw [setSlot_other isFd] at isOpen isPeer
      exact sound.slots other isOpen isPeer
  · simp_all [sound.closed]
  · intro other peer back
    rw [(same other).2.2] at back
    exact sound.backs other peer back

/-- A slot without a peer is made one that is no gateway's. -/
theorem PeerState.Sound.unowned (sound : state.Sound own) (fd : Nat) (slot : PeerSlot)
    (unowned : ¬state.Owned fd) (noId : slot.gwid = unassigned) (noPeer : slot.peerinfo = none)
    (notGateway : slot.isOpen = true → slot.isGateway = false) :
    (state.setSlot fd fun _ => slot).Sound own := by
  refine ⟨⟨?_, ?_, sound.rows⟩, ?_, ?_, sound.unique, sound.apart, sound.pid, sound.ownFits,
    sound.ownRow⟩
  · intro peer pi known
    rcases sound.peers peer pi known with apart | ⟨other, has, its⟩
    · exact Or.inl apart
    · refine Or.inr ⟨other, has, ?_⟩
      rw [setSlot_other (by rintro rfl; exact unowned ⟨peer, pi, known, has⟩)]
      exact its
  · intro other isOpen isPeer
    by_cases same : other = fd
    · simp_all [setSlot_same]
    · rw [setSlot_other same] at isOpen isPeer
      exact sound.slots other isOpen isPeer
  · intro other isClosed
    by_cases same : other = fd
    · simp_all [setSlot_same]
    · simp_all [setSlot_other, sound.closed]
  · intro other peer back
    by_cases same : other = fd
    · simp_all [setSlot_same]
    · rw [setSlot_other same] at back
      exact sound.backs other peer back

/-- A slot that no peer has is without an id and a peer. -/
theorem PeerState.Sound.bare (sound : state.Sound own) (unowned : ¬state.Owned fd) :
    (state.slots fd).gwid = unassigned ∧ (state.slots fd).peerinfo = none := by
  have noPeer : (state.slots fd).peerinfo = none := by
    cases back : (state.slots fd).peerinfo with
    | none => rfl
    | some peer =>
        rcases sound.backs fd peer back with ⟨pi, known, its⟩
        exact absurd ⟨peer, pi, known, its⟩ unowned
  cases isOpen : (state.slots fd).isOpen with
  | false => exact sound.closed fd isOpen
  | true =>
      refine ⟨?_, noPeer⟩
      by_contra hasId
      exact unowned (sound.slots fd isOpen (Or.inr hasId))

theorem PeerState.Sound.unowned_of_noId (sound : state.Sound own)
    (noId : (state.slots fd).gwid = unassigned) : ¬state.Owned fd := by
  rintro ⟨peer, pi, known, its⟩
  rcases sound.owner known its with ⟨_, _, sameId, idx, fits, isRow, _⟩
  exact idx2gwid_assigned (fits.trans_le state.gwtblFits)
    (isRow.symm.trans (sameId.symm.trans noId))

end Sound

structure Grown (before after : PeerTables) : Prop where
  kept : ∀ (peer : Nat) (pi : Gwpeerinfo), before.peers[peer]? = some pi →
    after.peers[peer]? = some pi
  news : ∀ (peer : Nat) (pi : Gwpeerinfo), after.peers[peer]? = some pi →
    before.peers[peer]? = some pi ∨ (pi.conn = none ∧ pi.gwid = unassigned)

theorem Grown.of_same {before after : PeerTables} (same : after.peers = before.peers) :
    Grown before after := by
  refine ⟨?_, ?_⟩
  · simp [same]
  · simp_all [Or.inl]

theorem Grown.append (tables : PeerTables) (conn : pi.conn = none) (gwid : pi.gwid = unassigned) :
    Grown tables { tables with peers := tables.peers ++ [pi] } := by
  refine ⟨?_, ?_⟩
  · grind
  · grind

theorem PeerState.Sound.grown {own : Nat} {state : PeerState} (sound : state.Sound own)
    {tables : PeerTables} (grown : Grown state.tables tables) :
    { state with tables := tables }.Sound own := by
  refine ⟨⟨?_, ?_, ?_⟩, sound.closed, ?_, ?_, ?_, sound.pid, sound.ownFits, sound.ownRow⟩
  · intro peer pi known
    rcases grown.news peer pi known with old | isNew
    · exact sound.peers peer pi old
    · exact Or.inl isNew
  · intro fd isOpen isPeer
    rcases sound.slots fd isOpen isPeer with ⟨peer, pi, known, its⟩
    exact ⟨peer, pi, grown.kept peer pi known, its⟩
  · intro idx below ours notOwn
    rcases sound.rows idx below ours notOwn with ⟨peer, pi, known, its⟩
    exact ⟨peer, pi, grown.kept peer pi known, its⟩
  · intro fd peer back
    rcases sound.backs fd peer back with ⟨pi, known, its⟩
    exact ⟨pi, grown.kept peer pi known, its⟩
  · intro one other onePi otherPi isOne isOther same hasId
    have old : ∀ (peer : Nat) (pi : Gwpeerinfo), tables.peers[peer]? = some pi →
        pi.gwid ≠ unassigned → state.tables.peers[peer]? = some pi := by
      intro peer pi known assigned
      rcases grown.news peer pi known with isOld | ⟨_, none⟩
      · exact isOld
      · exact absurd none assigned
    exact sound.unique one other onePi otherPi (old one onePi isOne hasId)
      (old other otherPi isOther (by rw [← same]; exact hasId)) same hasId
  · intro peer pi known
    rcases grown.news peer pi known with isOld | ⟨_, noId⟩
    · exact sound.apart peer pi isOld
    · rw [noId]
      exact (idx2gwid_assigned (sound.ownFits.trans_le state.gwtblFits)).symm

theorem PeerState.Sound.told {own : Nat} {state : PeerState} (sound : state.Sound own)
    (sent : List (Nat × SRBmessage)) : { state with sent := sent }.Sound own :=
  ⟨⟨sound.peers, sound.slots, sound.rows⟩, sound.closed, sound.backs, sound.unique, sound.apart,
    sound.pid, sound.ownFits, sound.ownRow⟩

theorem gwAddknownpeer_grown (tables : PeerTables) (around : Surroundings)
    (name domain : List Byte) : Grown tables (tables.gwAddknownpeer around name domain).2 := by
  grind [PeerTables.gwAddknownpeer, Grown.of_same, Grown.append]

section Closing

variable {own fd peer : Nat} {thread : Thread}

theorem freegwid_row {state : PeerState} {idx : Nat} (fits : idx < state.gwtblLength) :
    state.freegwid (idx2gwid idx) =
      { state with gwtblPid := Function.update state.gwtblPid idx (-1) } := by
  have small : idx < 16777216 := fits.trans_le state.gwtblFits
  rw [PeerState.freegwid, if_neg (idx2gwid_assigned small), idx2gwid_index small,
    if_neg (by omega)]

theorem impexpCleanuppeer_free (free : thread.held .impmutex = false) (peer : Nat) :
    impexpCleanuppeer thread (some peer) = .ok (thread.modify fun state =>
      { state with tables := state.tables.impexpCleanuppeer peer }) := by
  have isFree : (thread.modify fun state =>
      { state with tables := state.tables.expcleanuppeer peer }).held .impmutex = false := free
  exact Thread.guarded_free isFree _

theorem clearConn_bare (isOpen : (thread.state.slots fd).isOpen = true)
    (noPeer : (thread.state.slots fd).peerinfo = none) :
    clearConn thread (some fd) = .ok (thread.modify fun state => state.closeSlot fd) := by
  simp [clearConn, isOpen, Thread.modify, noPeer]

theorem clearConn_back (isOpen : (thread.state.slots fd).isOpen = true)
    (back : (thread.state.slots fd).peerinfo = some peer) :
    clearConn thread (some fd) = .ok (thread.modify fun state =>
      (state.setPeer peer fun pi => { pi with conn := none }).closeSlot fd) := by
  simp [clearConn, isOpen, Thread.modify, back]

/-- The peer with an id is found by it. -/
theorem PeerState.Sound.findIdx (sound : thread.state.Sound own)
    (known : thread.state.tables.peers[peer]? = some pi) (hasId : pi.gwid ≠ unassigned) :
    (thread.state.tables.peers.findIdx? fun other => other.gwid == pi.gwid) = some peer := by
  rcases List.getElem?_eq_some_iff.mp known with ⟨below, isPi⟩
  rw [List.findIdx?_eq_some_iff_getElem]
  refine ⟨below, ?_, ?_⟩
  · simp [isPi]
  · intro other earlier
    have inList : other < thread.state.tables.peers.length := earlier.trans below
    intro same
    have equal := eq_of_beq same
    have isOther : thread.state.tables.peers[other]? = some thread.state.tables.peers[other] :=
      List.getElem?_eq_getElem inList
    have isPeer := sound.unique peer other pi _ known isOther equal.symm hasId
    omega

/-- What `gw_closegateway` does to a peer with a connection and a row. -/
def PeerState.unlink (state : PeerState) (peer fd idx : Nat) : PeerState :=
  ((({ state with
      tables := state.tables.impexpCleanuppeer peer
      gwtblPid := Function.update state.gwtblPid idx (-1) } : PeerState).setPeer peer fun pi =>
    { pi with gwid := unassigned, conn := none }).setPeer peer fun pi =>
      { pi with conn := none }).closeSlot fd

theorem PeerState.unlink_unlinks (state : PeerState) (fd idx : Nat)
    (known : state.tables.peers[peer]? = some pi) :
    Unlinks state (state.unlink peer fd idx) peer fd idx := by
  refine ⟨⟨?_, ?_, ?_, rfl, rfl⟩, ⟨{ pi with gwid := unassigned, conn := none }, ?_, rfl, rfl⟩, ?_,
    ?_⟩
  · intro other different
    unfold PeerState.unlink PeerState.closeSlot
    rw [setSlot_tables, setPeer_other different, setPeer_other different]
    rfl
  · intro other different
    unfold PeerState.unlink PeerState.closeSlot
    exact setSlot_other different _ _
  · intro other different
    exact Function.update_of_ne different _ _
  · unfold PeerState.unlink PeerState.closeSlot
    rw [setSlot_tables, setPeer_same _ (setPeer_same _ _)]
    exact known
  · simp [PeerState.unlink, PeerState.closeSlot, setSlot_same]
  · exact Function.update_self _ _ _

/-- A connection that a peer has is closed together with its peer and its row. -/
theorem gwClosegateway_owned (free : ∀ mutex, thread.held mutex = false)
    (sound : thread.state.Sound own) (known : thread.state.tables.peers[peer]? = some pi)
    (its : pi.conn = some fd) :
    ∃ idx, gwClosegateway thread (some fd) =
        .ok (thread.modify fun state => state.unlink peer fd idx) ∧
      pi.gwid = idx2gwid idx ∧ idx < thread.state.gwtblLength := by
  rcases sound.owner known its with ⟨isOpen, back, sameId, idx, fits, isRow, _⟩
  have hasId : (thread.state.slots fd).gwid ≠ unassigned := by
    simp [sameId, isRow, idx2gwid_assigned, fits.trans_le, thread.state.gwtblFits]
  have found := sound.findIdx known (by rw [← sameId]; exact hasId)
  have connOf : thread.state.connOf peer = some fd := by
    simp [PeerState.connOf, known, its]
  refine ⟨idx, ?_, isRow, fits⟩
  unfold gwClosegateway
  dsimp only
  rw [if_pos hasId, getKnownPeerByGWID_free (free .peersmutex), sameId, found]
  dsimp only [Except.bind]
  rw [impexpCleanuppeer_free (free .impmutex)]
  dsimp only
  have cleaned : (thread.modify fun state =>
      { state with tables := state.tables.impexpCleanuppeer peer }).state.connOf peer = some fd :=
    connOf
  rw [cleaned, isRow]
  have row := @freegwid_row (({ thread.state with
      tables := thread.state.tables.impexpCleanuppeer peer } : PeerState).setPeer peer fun pi =>
    { pi with gwid := unassigned, conn := none }) idx fits
  dsimp only [Thread.modify]
  rw [row]
  exact clearConn_back isOpen back

/-- What closing comes to: the slot is empty, and no mutex is held that was not. -/
def Closes (own : Nat) (thread : Thread) (fd : Nat) (result : Outcome) : Prop :=
  ∃ after, result = .ok ⟨thread.held, after⟩ ∧ after.Sound own ∧ after.slots fd = clearedSlot

theorem closeSlot_closes (sound : thread.state.Sound own) (unowned : ¬thread.state.Owned fd) :
    Closes own thread fd (.ok (thread.modify fun state => state.closeSlot fd)) :=
  ⟨_, rfl, sound.unowned fd clearedSlot unowned rfl rfl (fun _ => rfl),
    setSlot_same _ _ _⟩

theorem gwClosegateway_closes (free : ∀ mutex, thread.held mutex = false)
    (sound : thread.state.Sound own) (isOpen : (thread.state.slots fd).isOpen = true) :
    Closes own thread fd (gwClosegateway thread (some fd)) := by
  by_cases owned : thread.state.Owned fd
  · rcases owned with ⟨peer, pi, known, its⟩
    rcases gwClosegateway_owned free sound known its with ⟨idx, closed, isRow, fits⟩
    have unlinks := thread.state.unlink_unlinks fd idx known
    rw [closed]
    exact ⟨_, rfl, sound.unlinks unlinks known its isRow fits, unlinks.slot⟩
  · rcases sound.bare owned with ⟨noId, noPeer⟩
    simp_all [gwClosegateway, clearConn_bare, closeSlot_closes]

theorem connDel_closes (free : ∀ mutex, thread.held mutex = false)
    (sound : thread.state.Sound own) (isOpen : (thread.state.slots fd).isOpen = true) :
    Closes own thread fd (connDel thread fd) := by
  by_cases noId : (thread.state.slots fd).gwid = unassigned
  · rw [connDel_plain thread fd noId]
    exact closeSlot_closes sound (sound.unowned_of_noId noId)
  · simp_all [connDel, gwClosegateway_closes]

end Closing

section Connecting

variable {own fd peer : Nat} {thread : Thread}

theorem setSlot_twice (state : PeerState) (fd : Nat) (change last : PeerSlot → PeerSlot) :
    (state.setSlot fd change).setSlot fd last = state.setSlot fd fun conn => last (change conn) := by
  simp [PeerState.setSlot]

/-- A slot is opened, if its descriptor can be watched. -/
theorem connAdd_closed (sound : thread.state.Sound own)
    (isClosed : (thread.state.slots fd).isOpen = false) (isGateway : Bool) :
    ∃ slot : PeerSlot, connAdd thread fd isGateway =
        .ok (thread.modify fun state => state.setSlot fd fun _ => slot) ∧
      slot.isOpen = decide (fd + 1 < fdSetsize) ∧ slot.isGateway = isGateway ∧
      slot.gwid = unassigned ∧ slot.peerinfo = none := by
  rcases sound.closed fd isClosed with ⟨noId, noPeer⟩
  unfold connAdd
  rw [isClosed, if_neg Bool.false_ne_true]
  dsimp only
  by_cases unwatched : fd + 1 ≥ fdSetsize
  · have opened : ((thread.modify fun state =>
        state.setSlot fd fun conn => { conn with isOpen := true }).state.slots fd).gwid =
          unassigned := by
      dsimp only [Thread.modify]
      rw [setSlot_same]
      exact noId
    rw [if_pos unwatched, connDel_plain _ fd opened]
    refine ⟨{ clearedSlot with isGateway := isGateway }, ?_,
      (decide_eq_false (not_lt.mpr unwatched)).symm, rfl, rfl, rfl⟩
    simp [Except.map, Thread.modify, PeerState.closeSlot, setSlot_twice]
  · rw [if_neg unwatched]
    refine ⟨{ thread.state.slots fd with isOpen := true, isGateway := isGateway }, ?_,
      (decide_eq_true (not_le.mp unwatched)).symm, rfl, noId, noPeer⟩
    dsimp only [Except.map, Thread.modify]
    rw [setSlot_twice]
    rfl

theorem PeerState.Sound.isOpen {state : PeerState} (sound : state.Sound own)
    (owned : state.Owned fd) : (state.slots fd).isOpen = true := by
  rcases owned with ⟨peer, pi, known, its⟩
  exact (sound.owner known its).1

theorem connectAddrs_inProgress {res : List Address} (taken : firstTaken res = some .inProgress)
    (thread : Thread) (peer fd : Nat) :
    connectAddrs thread peer fd res = .ok (thread.modify fun state =>
      (state.setPeer peer fun pi => { pi with conn := some fd }).setSlot fd fun nc =>
        { nc with peerinfo := some peer }) := by
  induction res with
  | nil => cases taken
  | cons address res ih =>
      unfold firstTaken at taken
      unfold connectAddrs
      rw [List.find?_cons] at taken
      cases isInet : address.inet with
      | false =>
          rw [isInet, Bool.false_and] at taken
          rw [if_pos rfl]
          exact ih taken
      | true =>
          rw [isInet, Bool.true_and] at taken
          rw [if_neg Bool.true_eq_false_eq_False]
          cases outcome : address.outcome with
          | connected =>
              grind
          | inProgress => rfl
          | failed =>
              rw [outcome] at taken
              exact ih taken

/-- A connect in progress makes the links complete. -/
theorem assign_links {state : PeerState} {slot : PeerSlot} {locked : Bool} {pi : Gwpeerinfo}
    (known : state.tables.peers[peer]? = some pi) (isOpen : slot.isOpen = true)
    (allocated : (state.allocgwid locked).1 ≠ unassigned) :
    ∃ idx, idx < state.gwtblLength ∧ state.gwtblPid idx = -1 ∧
      Links state ((((state.setSlot fd fun _ => slot).connwait fd).assign peer fd
        locked |>.setPeer peer fun pi => { pi with conn := some fd }).setSlot fd fun nc =>
          { nc with peerinfo := some peer }) peer fd idx := by
  have start : (state.setSlot fd fun _ => slot).connwait fd =
      state.setSlot fd fun _ => { slot with up := false } := setSlot_twice _ _ _ _
  have sameId := allocgwid_setSlot state fd (fun _ => { slot with up := false }) locked
  rw [start]
  rcases allocgwid_cases (state.setSlot fd fun _ => { slot with up := false }) locked with
    none | ⟨idx, fits, isFree, row⟩
  · simp_all [sameId.symm]
  · refine ⟨idx, fits, isFree, ?_⟩
    unfold PeerState.assign
    rw [row]
    dsimp only
    refine ⟨⟨?_, ?_, ?_, rfl, rfl⟩, ⟨{ pi with gwid := idx2gwid idx, conn := some fd }, ?_, rfl, rfl⟩,
      ?_, ?_, ?_, ?_⟩
    · simp_all [setSlot_tables, setPeer_other]
    · simp_all [setSlot_other, setPeer_slots]
    · intro other different
      exact Function.update_of_ne different _ _
    · simp [setSlot_tables, setPeer_same, known]
    · simp [setSlot_same, setPeer_slots, isOpen]
    · rw [setSlot_same, setPeer_slots, setPeer_slots, setSlot_same]
    · rw [setSlot_same]
    · exact Function.update_self _ _ _

theorem connectSocket_sound (sound : thread.state.Sound own) {attempt : Attempt} {next : Thread}
    {slot : PeerSlot} {pi : Gwpeerinfo} (known : thread.state.tables.peers[peer]? = some pi)
    (unconnected : pi.conn = none) (unowned : ¬thread.state.Owned fd)
    (isOpen : slot.isOpen = decide (fd + 1 < fdSetsize)) (noId : slot.gwid = unassigned)
    (noPeer : slot.peerinfo = none) (socket : attempt.socket = some fd)
    (settles : thread.state.ConnectSettles attempt)
    (result : connectSocket (thread.modify fun state => state.setSlot fd fun _ => slot) peer fd
      attempt = .ok next) :
    next.held = thread.held ∧ next.state.Sound own := by
  have sameId := allocgwid_setSlot thread.state fd (fun _ => slot) attempt.locked
  cases lookup : attempt.lookup with
  | none =>
      have waits : (((thread.state.setSlot fd fun _ => slot).connwait fd).slots fd).gwid =
          unassigned := by
        rw [PeerState.connwait, setSlot_same, setSlot_same]
        exact noId
      rw [connectSocket_unresolved lookup, connDel_plain _ fd waits] at result
      cases result
      refine ⟨rfl, ?_⟩
      dsimp only [Thread.modify, PeerState.closeSlot, PeerState.connwait]
      rw [setSlot_twice, setSlot_twice]
      exact sound.unowned fd clearedSlot unowned rfl rfl (fun _ => rfl)
  | some res =>
      rcases settles fd res socket lookup with
        ⟨watched, allocated, taken⟩ | ⟨unwatched, full⟩
      · have goesOn : ((thread.state.setSlot fd fun _ => slot).allocgwid attempt.locked).1 ≠
            unassigned := by
          rw [sameId]
          exact allocated
        rw [connectSocket_allocated lookup goesOn, connectAddrs_inProgress taken] at result
        cases result
        rcases @assign_links fd peer thread.state slot attempt.locked pi known
          (by rw [isOpen]; exact decide_eq_true watched) allocated with ⟨idx, fits, free, links⟩
        exact ⟨rfl, sound.links links known unconnected unowned fits free⟩
      · have fails : ((thread.state.setSlot fd fun _ => slot).allocgwid attempt.locked).1 =
            unassigned := by
          rw [sameId]
          exact full
        rw [connectSocket_full lookup fails] at result
        cases result
        simp_all [Thread.modify, PeerState.connwait, setSlot_twice, sound.unowned]

theorem gwConnectpeer_sound (sound : thread.state.Sound own) {attempt : Attempt} {next : Thread}
    (below : peer < thread.state.tables.peers.length)
    (isClosed : ∀ fd, attempt.socket = some fd → (thread.state.slots fd).isOpen = false)
    (settles : thread.state.connOf peer = none → thread.state.ConnectSettles attempt)
    (result : gwConnectpeer thread (some peer) attempt = .ok next) :
    next.held = thread.held ∧ next.state.Sound own := by
  have known := List.getElem?_eq_getElem below
  unfold gwConnectpeer at result
  dsimp only at result
  cases connected : thread.state.connOf peer with
  | some other =>
      simp_all
  | none =>
      have unconnected : thread.state.tables.peers[peer].conn = none := by
        simp_all [PeerState.connOf]
      rw [connected] at result
      cases socket : attempt.socket with
      | none =>
          simp [socket] at result
      | some fd =>
          have unowned : ¬thread.state.Owned fd := by
            intro owned
            cases (sound.isOpen owned).symm.trans (isClosed fd socket)
          rcases connAdd_closed sound (isClosed fd socket) true with
            ⟨slot, added, isOpen, _, noId, noPeer⟩
          rw [socket] at result
          change (connAdd thread fd true).bind _ = _ at result
          rw [added] at result
          exact connectSocket_sound sound known unconnected unowned isOpen noId noPeer socket
            (settles connected) result

theorem connAdd_sound (sound : thread.state.Sound own) {next : Thread}
    (isClosed : (thread.state.slots fd).isOpen = false)
    (result : connAdd thread fd false = .ok next) :
    next.held = thread.held ∧ next.state.Sound own := by
  rcases connAdd_closed sound isClosed false with ⟨slot, added, _, notGateway, noId, noPeer⟩
  cases added.symm.trans result
  refine ⟨rfl, sound.unowned fd slot ?_ noId noPeer fun _ => notGateway⟩
  intro owned
  cases (sound.isOpen owned).symm.trans isClosed

end Connecting

/-- The end of `gw_peerconnected`, for a peer that is known or was added. -/
def PeerTables.letIn (tables : PeerTables) (around : Surroundings) (fd : Nat)
    (peerdomain : List Byte) (peer : Nat) : Option Nat × PeerTables :=
  if ((tables.peers[peer]?).bind Gwpeerinfo.conn).isSome then (none, tables)
  else
    (some peer, { tables with
      peers := tables.peers.modify peer fun pi =>
        { pi with
          domainid := remdomGetid around peerdomain
          gwid := around.allocgwid
          conn := some fd } })

/-- Of the known peers, with new ones, one that was not connected has the connection and the
id. -/
def LetIn (before after : PeerTables) (peer fd : Nat) (gwid : UInt32) : Prop :=
  ∃ grown pi domainid, Grown before grown ∧ grown.peers[peer]? = some pi ∧ pi.conn = none ∧
    after.peers = grown.peers.modify peer fun pi =>
      { pi with domainid := domainid, gwid := gwid, conn := some fd }

variable {request : GatewayInit}

section LettingIn

variable {tables grown : PeerTables} {around : Surroundings} {fd peer : Nat}
  {name peerdomain : List Byte}

theorem letIn_connected (connected : (grown.peers[peer]?).bind Gwpeerinfo.conn ≠ none) :
    PeerTables.letIn grown around fd peerdomain peer = (none, grown) := by
  rw [PeerTables.letIn, if_pos (Option.isSome_iff_ne_none.mpr connected)]

theorem letIn_unconnected (isGrown : Grown tables grown) (below : peer < grown.peers.length)
    (unconnected : (grown.peers[peer]?).bind Gwpeerinfo.conn = none) :
    ∃ after, PeerTables.letIn grown around fd peerdomain peer = (some peer, after) ∧
      LetIn tables after peer fd around.allocgwid := by
  have known := List.getElem?_eq_getElem below
  rw [PeerTables.letIn, unconnected]
  rw [known] at unconnected
  exact ⟨_, rfl, grown, _, _, isGrown, known, unconnected, rfl⟩

theorem getKnownPeerByInstance_below (known : tables.getKnownPeerByInstance name = some peer) :
    peer < tables.peers.length := by
  unfold PeerTables.getKnownPeerByInstance at known
  exact (List.findIdx?_eq_some_iff_getElem.mp known).1

theorem gwPeerconnected_known (domain : ¬remdomGetid around peerdomain < 0)
    (known : tables.getKnownPeerByInstance name = some peer) :
    tables.gwPeerconnected around fd name peerdomain =
      PeerTables.letIn tables around fd peerdomain peer := by
  rw [PeerTables.gwPeerconnected, if_neg domain, known]
  rfl

theorem gwPeerconnected_added (domain : ¬remdomGetid around peerdomain < 0)
    (unknown : tables.getKnownPeerByInstance name = none)
    (added : tables.gwAddknownpeer around name peerdomain = (some peer, grown)) :
    tables.gwPeerconnected around fd name peerdomain =
      PeerTables.letIn grown around fd peerdomain peer := by
  rw [PeerTables.gwPeerconnected, if_neg domain, unknown, added]
  rfl

theorem gwAddknownpeer_reached (inet : around.inet = true)
    (domain : ¬remdomGetid around peerdomain < 0) :
    ¬(around.inet = false ∨ remdomGetid around peerdomain < 0) := by
  simp_all

theorem gwAddknownpeer_known (inet : around.inet = true)
    (domain : ¬remdomGetid around peerdomain < 0)
    (known : tables.getKnownPeerByInstance ((cstr name).take mwMaxNameLen) = some peer) :
    tables.gwAddknownpeer around name peerdomain = (some peer, tables) := by
  simp_all [PeerTables.gwAddknownpeer, if_neg]

theorem gwAddknownpeer_new (inet : around.inet = true)
    (domain : ¬remdomGetid around peerdomain < 0)
    (unknown : tables.getKnownPeerByInstance ((cstr name).take mwMaxNameLen) = none) :
    tables.gwAddknownpeer around name peerdomain =
      (some tables.peers.length, { tables with
        peers := tables.peers ++ [⟨(cstr name).take mwMaxNameLen, remdomGetid around peerdomain,
          unassigned, none⟩] }) := by
  simp_all [PeerTables.gwAddknownpeer, if_neg]

theorem gwPeerconnected_noInet (domain : ¬remdomGetid around peerdomain < 0)
    (unknown : tables.getKnownPeerByInstance name = none) (noInet : around.inet = false) :
    tables.gwPeerconnected around fd name peerdomain = (none, tables) := by
  simp_all [PeerTables.gwAddknownpeer, PeerTables.gwPeerconnected]

theorem letIn_found (known : peer < tables.peers.length)
    (letsIn : (tables.peers[peer]?).bind Gwpeerinfo.conn = none → LetsIn tables around request) :
    (LetsIn tables around request ∧ ∃ other after,
        PeerTables.letIn tables around fd request.peerdomain peer = (some other, after) ∧
          LetIn tables after other fd around.allocgwid) ∨
      ∃ after, PeerTables.letIn tables around fd request.peerdomain peer = (none, after) ∧
        Grown tables after := by
  by_cases unconnected : (tables.peers[peer]?).bind Gwpeerinfo.conn = none
  · exact Or.inl
      ⟨letsIn unconnected, peer, letIn_unconnected (Grown.of_same rfl) known unconnected⟩
  · exact Or.inr ⟨tables, letIn_connected unconnected, Grown.of_same rfl⟩

/-- `gw_peerconnected` by whether it lets the peer in. -/
theorem gwPeerconnected_cases (tables : PeerTables) (around : Surroundings) (fd : Nat)
    (request : GatewayInit) :
    (LetsIn tables around request ∧ ∃ peer after,
        tables.gwPeerconnected around fd request.name request.peerdomain = (some peer, after) ∧
          LetIn tables after peer fd around.allocgwid) ∨
      ∃ after, tables.gwPeerconnected around fd request.name request.peerdomain = (none, after) ∧
        Grown tables after := by
  by_cases domain : remdomGetid around request.peerdomain < 0
  · refine Or.inr ⟨tables, ?_, Grown.of_same rfl⟩
    rw [PeerTables.gwPeerconnected, if_pos domain]
  · have accepted := not_lt.mp domain
    cases known : tables.getKnownPeerByInstance request.name with
    | some peer =>
        rw [gwPeerconnected_known domain known]
        apply letIn_found (getKnownPeerByInstance_below known)
        intro unconnected
        refine ⟨accepted, ?_, ?_⟩
        · intro other isOther
          cases known.symm.trans isOther
          exact unconnected
        · simp_all
    | none =>
        have free : NameFree tables request.name := by
          intro other isOther
          cases known.symm.trans isOther
        by_cases inet : around.inet = true
        · cases kept : tables.getKnownPeerByInstance ((cstr request.name).take mwMaxNameLen) with
          | some peer =>
              rw [gwPeerconnected_added domain known (gwAddknownpeer_known inet domain kept)]
              apply letIn_found (getKnownPeerByInstance_below kept)
              intro unconnected
              refine ⟨accepted, free, fun _ => ⟨inet, ?_⟩⟩
              intro other isOther
              simp_all
          | none =>
              rw [gwPeerconnected_added domain known (gwAddknownpeer_new inet domain kept)]
              refine Or.inl ⟨⟨accepted, free, fun _ => ⟨inet, ?_⟩⟩, _,
                letIn_unconnected (Grown.append tables rfl rfl) ?_ ?_⟩
              · intro other isOther
                cases kept.symm.trans isOther
              · simp
              · simp
        · exact Or.inr ⟨tables,
            gwPeerconnected_noInet domain known (eq_false_of_ne_true inet), Grown.of_same rfl⟩

end LettingIn

section Inits

variable {own fd : Nat} {thread next : Thread} {around : Surroundings}

/-- Only the exports change, and what is sent. -/
theorem provideservicesToPeer_sound (free : ∀ mutex, thread.held mutex = false)
    (sound : thread.state.Sound own) {gwid : UInt32}
    (result : provideservicesToPeer thread around gwid = .ok next) :
    next.held = thread.held ∧ next.state.Sound own := by
  unfold provideservicesToPeer at result
  rw [getKnownPeerByGWID_free (free .peersmutex)] at result
  dsimp only [Except.bind] at result
  cases provided : thread.state.tables.provideservicesToPeer around gwid with
  | error failure =>
      simp [provided] at result
  | ok told =>
      rcases told with ⟨tables, messages⟩
      rw [provided] at result
      cases result
      refine ⟨rfl, ?_⟩
      have grown := sound.grown (Grown.of_same (provideservicesToPeer_only provided).peers)
      exact grown.told _

/-- What `srbinit` does after a peer was let in. -/
theorem initReply_sound (free : ∀ mutex, thread.held mutex = false)
    (sound : thread.state.Sound own) (isOpen : (thread.state.slots fd).isOpen = true) {rc : Int}
    (result : initReply thread around fd rc = .ok next) :
    next.held = thread.held ∧ next.state.Sound own := by
  unfold initReply at result
  dsimp only at result
  by_cases accepted : rc = 0
  · rw [if_pos accepted] at result
    have up := sound.retouch fd (fun conn => { conn with up := true }) rfl rfl rfl
      (fun _ isGateway => sound.slots fd isOpen (Or.inl isGateway))
    split_ifs at result
    · exact @provideservicesToPeer_sound own (thread.modify fun state =>
        state.setSlot fd fun conn => { conn with up := true }) next around free up _ result
    · cases result
      exact ⟨rfl, up⟩
  · rw [if_neg accepted] at result
    rcases gwClosegateway_closes free sound isOpen with ⟨after, closed, isSound, _⟩
    cases closed.symm.trans result
    exact ⟨rfl, isSound⟩

/-- A peer that is let in is linked, when a row is allocated. -/
theorem gwPeerconnected_links {state : PeerState} {tables : PeerTables} {peer : Nat}
    {locked : Bool} (isOpen : (state.slots fd).isOpen = true)
    (letIn : LetIn state.tables tables peer fd (state.allocgwid locked).1)
    (allocated : (state.allocgwid locked).1 ≠ unassigned) :
    ∃ grown idx pi, Grown state.tables grown ∧ grown.peers[peer]? = some pi ∧ pi.conn = none ∧
      idx < state.gwtblLength ∧ state.gwtblPid idx = -1 ∧
      Links { state with tables := grown }
        ({ (state.allocgwid locked).2 with tables := tables }.setSlot fd fun conn =>
          { conn with gwid := (state.allocgwid locked).1, peerinfo := some peer }) peer fd idx := by
  rcases letIn with ⟨grown, pi, domainid, isGrown, known, unconnected, peers⟩
  rcases allocgwid_cases state locked with none | ⟨idx, fits, isFree, row⟩
  · simp [none] at allocated
  · rw [row] at peers ⊢
    refine ⟨grown, idx, pi, isGrown, known, unconnected, fits, isFree, ?_⟩
    refine ⟨⟨?_, ?_, ?_, rfl, rfl⟩,
      ⟨{ pi with domainid := domainid, gwid := idx2gwid idx, conn := some fd }, ?_, rfl, rfl⟩,
      ?_, ?_, ?_, ?_⟩
    · grind [setSlot_tables]
    · simp_all [setSlot_other]
    · intro other different
      exact Function.update_of_ne different _ _
    · simp [setSlot_tables, peers, known]
    · simp [setSlot_same, isOpen]
    · rw [setSlot_same]
    · rw [setSlot_same]
    · exact Function.update_self _ _ _

theorem initRequest_refused {state : PeerState}
    (mine : cstr request.instanceName = around.myinstance)
    (refused : thread.state.gwPeerconnected around fd request = (none, state))
    (noId : (state.slots fd).gwid = unassigned) (isOpen : (state.slots fd).isOpen = true) :
    initRequest thread around fd request = connDel (thread.modify fun _ => state) fd := by
  unfold initRequest
  rw [if_neg (not_not.mpr mine), refused]
  change Except.bind (if (state.slots fd).gwid ≠ unassigned then _ else _) _ = _
  rw [if_neg (not_not.mpr noId)]
  change (if (state.slots fd).isOpen = false then _ else _) = _
  rw [isOpen, if_neg Bool.true_eq_false_eq_False]

theorem initRequest_accepted {state : PeerState} {peer : Nat}
    (mine : cstr request.instanceName = around.myinstance)
    (accepted : thread.state.gwPeerconnected around fd request = (some peer, state)) :
    initRequest thread around fd request =
      provideservicesToPeer (thread.modify fun _ =>
        state.setSlot fd fun conn => { conn with isGateway := true, up := true }) around
        (((state.setSlot fd fun conn => { conn with isGateway := true, up := true }).slots
          fd).gwid) := by
  unfold initRequest
  rw [if_neg (not_not.mpr mine), accepted]
  rfl

theorem initRequest_sound (free : ∀ mutex, thread.held mutex = false)
    (sound : thread.state.Sound own) (isOpen : (thread.state.slots fd).isOpen = true)
    (settles : thread.state.RequestSettles around fd request)
    (result : initRequest thread around fd request = .ok next) :
    next.held = thread.held ∧ next.state.Sound own := by
  by_cases mine : cstr request.instanceName = around.myinstance
  · rcases settles mine with ⟨noId, allocates⟩
    have unowned := sound.unowned_of_noId noId
    rcases gwPeerconnected_cases thread.state.tables
        { around with allocgwid := (thread.state.allocgwid request.locked).1 } fd request with
      ⟨letsIn, peer, tables, entered, letIn⟩ | ⟨tables, entered, grown⟩
    · have accepted : thread.state.gwPeerconnected around fd request =
          (some peer, { (thread.state.allocgwid request.locked).2 with tables := tables }.setSlot fd
            fun conn => { conn with
              gwid := (thread.state.allocgwid request.locked).1
              peerinfo := some peer }) := by
        rw [PeerState.gwPeerconnected, entered]
      rcases gwPeerconnected_links isOpen letIn (allocates letsIn) with
        ⟨grown, idx, pi, isGrown, known, unconnected, fits, isFree, links⟩
      have unownedStill : ¬{ thread.state with tables := grown }.Owned fd :=
        (sound.grown isGrown).unowned_of_noId noId
      have linked := (sound.grown isGrown).links links known unconnected unownedStill fits isFree
      have isUp := linked.retouch fd (fun conn => { conn with isGateway := true, up := true }) rfl
        rfl rfl (fun _ _ => by
          rcases links.entry with ⟨entry, isEntry, its, _⟩
          exact ⟨peer, entry, isEntry, its⟩)
      have provided : ∀ (state : PeerState) (gwid : UInt32), state.Sound own →
          provideservicesToPeer (thread.modify fun _ => state) around gwid = .ok next →
            next.held = thread.held ∧ next.state.Sound own := by
        intro state gwid isSound told
        exact @provideservicesToPeer_sound own (thread.modify fun _ => state) next around free
          isSound gwid told
      grind [initRequest_accepted]
    · have refused : thread.state.gwPeerconnected around fd request =
          (none, { thread.state with tables := tables }) := by
        rw [PeerState.gwPeerconnected, entered]
      rw [initRequest_refused mine refused noId isOpen] at result
      rcases @connDel_closes own fd (thread.modify fun _ => { thread.state with tables := tables })
        free (sound.grown grown) isOpen with ⟨after, closed, isSound, _⟩
      cases closed.symm.trans result
      exact ⟨rfl, isSound⟩
  · have notMine : initRequest thread around fd request = connDel thread fd := by
      rw [initRequest, if_pos mine]
    rcases connDel_closes free sound isOpen with ⟨after, closed, isSound, _⟩
    grind

end Inits

section Runs

variable {own : Nat} {thread : Thread}

theorem PeerState.Sound.gateways {state : PeerState} (sound : state.Sound own)
    {gwtblPid : Nat → Int} (gwtblNextidx : Nat)
    (same : ∀ idx, gwtblPid idx = state.ipcserverpid ↔ state.gwtblPid idx = state.ipcserverpid) :
    { state with gwtblPid := gwtblPid, gwtblNextidx := gwtblNextidx }.Sound own := by
  refine ⟨⟨?_, sound.slots, ?_⟩, sound.closed, sound.backs, sound.unique, sound.apart, sound.pid,
    sound.ownFits, (same own).mpr sound.ownRow⟩
  · intro peer pi known
    rcases sound.peers peer pi known with apart | ⟨fd, its, isOpen, back, id, idx, fits, isRow, ours⟩
    · exact Or.inl apart
    · exact Or.inr ⟨fd, its, isOpen, back, id, idx, fits, isRow, (same idx).mpr ours⟩
  · simp_all [sound.rows]

theorem Initial.sound (initial : Initial own thread) : thread.state.Sound own := by
  refine ⟨⟨?_, ?_, ?_⟩, ?_, ?_, ?_, ?_, initial.pid, initial.ownFits, initial.ownRow⟩
  · intro peer pi known
    exact Or.inl (initial.peers pi (List.mem_of_getElem? known))
  · intro fd isOpen
    rw [initial.slots fd] at isOpen
    cases isOpen
  · intro idx below ours notOwn
    exact absurd (initial.rows idx below ours) notOwn
  · intro fd _
    rw [initial.slots fd]
    exact ⟨rfl, rfl⟩
  · intro fd peer back
    rw [initial.slots fd] at back
    cases back
  · intro peer other pi otherPi known _ _ hasId
    exact absurd (initial.peers pi (List.mem_of_getElem? known)).2 hasId
  · intro peer pi known
    rw [(initial.peers pi (List.mem_of_getElem? known)).2]
    exact (idx2gwid_assigned (initial.ownFits.trans_le thread.state.gwtblFits)).symm

def Settled (own : Nat) (thread : Thread) : Prop :=
  (∀ mutex, thread.held mutex = false) ∧ thread.state.Sound own

theorem LinkAction.step_settled {action : LinkAction} {next : Thread} (settled : Settled own thread)
    (isEnabled : action.enabled thread) (settles : action.Settles thread)
    (result : action.step thread = .ok next) :
    next.held = thread.held ∧ next.state.Sound own := by
  rcases settled with ⟨free, sound⟩
  cases action with
  | accepted fd => exact connAdd_sound sound isEnabled result
  | knownpeer around name domain =>
      cases result
      exact ⟨rfl, sound.grown (gwAddknownpeer_grown _ around name domain)⟩
  | connectpeer peer attempt =>
      exact gwConnectpeer_sound sound isEnabled.1 isEnabled.2 settles result
  | initRequest around fd request => exact initRequest_sound free sound isEnabled settles result
  | initReply around fd rc => exact initReply_sound free sound isEnabled result
  | closed fd =>
      rcases connDel_closes free sound isEnabled with ⟨after, closed, isSound, _⟩
      cases closed.symm.trans result
      exact ⟨rfl, isSound⟩
  | gatewayClosed fd =>
      rcases gwClosegateway_closes free sound isEnabled with ⟨after, closed, isSound, _⟩
      cases closed.symm.trans result
      exact ⟨rfl, isSound⟩
  | services tables =>
      cases result
      exact ⟨rfl, sound.grown (Grown.of_same rfl)⟩
  | gateways gwtblPid gwtblNextidx =>
      cases result
      exact ⟨rfl, sound.gateways gwtblNextidx isEnabled⟩

theorem linkMachine_preserves (own : Nat) :
    (linkMachine own).Preserves (fun thread action => action.Settles thread) (Settled own) := by
  intro thread action next settled isEnabled settles result
  rcases LinkAction.step_settled settled isEnabled settles result with ⟨same, sound⟩
  exact ⟨fun mutex => by rw [same]; exact settled.1 mutex, sound⟩

/-- In every run whose connects and requests settle, peers, connections and rows belong together
in every state. -/
theorem linkMachine_consistent (own : Nat) (thread : Thread)
    (reachable : (linkMachine own).Reachable (fun thread action => action.Settles thread) thread) :
    thread.state.Consistent own := by
  have settled := reachable.holds (fun _ initial => ⟨initial.free, initial.sound⟩)
    (linkMachine_preserves own)
  exact settled.2.toConsistent

def secondAddress : Attempt := ⟨some 5, some [⟨true, .failed⟩, ⟨true, .inProgress⟩], true⟩

theorem onePeer_initial : Initial 0 onePeer := by
  refine ⟨fun _ => rfl, ?_, fun _ => rfl, by decide, by decide, rfl, ?_⟩
  · intro pi member
    cases List.mem_singleton.mp member
    exact ⟨rfl, rfl⟩
  · intro idx _ ours
    by_contra other
    have isFree : onePeer.state.gwtblPid idx = -1 := if_neg other
    rw [isFree] at ours
    cases ours

theorem linkMachine_consistent_onePeer :
    ([LinkAction.connectpeer 0 secondAddress, .closed 5, .connectpeer 0 secondAddress].foldl
      (linkMachine 0).next onePeer).state.Consistent 0 := by
  have socket : ∀ fd, secondAddress.socket = some fd → fd = 5 := by
    intro fd isSocket
    exact (Option.some.inj isSocket).symm
  apply linkMachine_consistent 0
  apply (Machine.Reachable.start onePeer_initial).runs
  refine ⟨⟨by decide, ?_⟩, ?_, rfl, rfl, trivial, rfl, ⟨by decide, ?_⟩, ?_, rfl, trivial⟩
  · intro fd isSocket
    cases socket fd isSocket
    rfl
  · intro _ fd res isSocket lookup
    cases socket fd isSocket
    cases lookup
    exact Or.inl ⟨by decide, by decide, rfl⟩
  · intro fd isSocket
    cases socket fd isSocket
    rfl
  · intro _ fd res isSocket lookup
    cases socket fd isSocket
    cases lookup
    exact Or.inl ⟨by decide, by decide, rfl⟩

/-- No address takes the connect: the row is freed, and the connection stays open with its id,
while the peer knows of neither. -/
theorem refusedConnect_leaves :
    ∃ own thread, (linkMachine own).Reachable (fun _ _ => True) thread ∧
      (thread.state.slots 5).isOpen = true ∧ (thread.state.slots 5).gwid = idx2gwid 1 ∧
      thread.state.gwtblPid 1 = -1 ∧ thread.state.connOf 0 = none ∧
      ¬thread.state.Consistent own := by
  have enabled : (LinkAction.connectpeer 0 refusal).enabled onePeer := by
    refine ⟨by decide, ?_⟩
    intro fd _
    rfl
  refine ⟨0, (linkMachine 0).next onePeer (.connectpeer 0 refusal),
    (Machine.Reachable.start onePeer_initial).next enabled trivial rfl, rfl, rfl, rfl, rfl, ?_⟩
  intro consistent
  rcases consistent.slots 5 rfl (Or.inl rfl) with ⟨peer, pi, known, its⟩
  cases peer with
  | zero =>
      cases known
      cases its
  | succ peer => cases known

end Runs

end MidWay.Gateway.PeerLinks

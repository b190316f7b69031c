import Mathlib.Logic.Function.Basic
import MidWay.Gateway.AttachReplies
import MidWay.Gateway.Exports
import MidWay.Lib.Mutexes

/-!
Contract: the connections of a gateway to its peers, and the mutexes around them.

A peer, its connection and its row of the gateway table name each other. `conn_del` of
a connection with a gateway id leaves the work to `gw_closegateway`, which looks the
peer up under `peersmutex`, takes it out of the imports under `impmutex`, and closes
the connection that the peer has. The mutexes are not recursive. A connect that fails
closes the new connection, and `gw_connectpeers` holds `peersmutex` all along.

Owns: `allocgwid` to `gw_connectpeers` and the calls around imports as the mutexes see
them, and exactly when a call keeps to the discipline.
-/

namespace MidWay.Gateway.PeerLinks

open MidWay.CLib MidWay.Lib MidWay.Lib.Mutexes MidWay.Srb
open MidWay.Gateway.AttachReplies (fdSetsize)

inductive PeerMutex where
  | peersmutex
  | impmutex
deriving DecidableEq, Repr

inductive PeerFailure where
  /-- `abort`, or `Fatal`. -/
  | aborted
  /-- A null pointer is followed. -/
  | missingPeer
  /-- A slot of the connection table that does not exist. -/
  | wildSlot
deriving DecidableEq, Repr

/-- A `Connection`; `isGateway` is the type `CONN_TYPE_GATEWAY`, `up` the state
`CONNECT_STATE_UP`. -/
structure PeerSlot where
  isOpen : Bool
  isGateway : Bool
  up : Bool
  gwid : UInt32
  peerinfo : Option Nat
deriving DecidableEq, Repr

/-- The slot after `conn_clear`. -/
def clearedSlot : PeerSlot := ⟨false, false, false, unassigned, none⟩

/-- `gwtblPid` is the column of the gateway table that tells who has a row, -1 for a free one.
`sent` are the messages to peers. -/
structure PeerState where
  tables : PeerTables
  slots : Nat → PeerSlot
  gwtblPid : Nat → Int
  gwtblLength : Nat
  gwtblFits : gwtblLength ≤ 16777216
  gwtblNextidx : Nat
  ipcserverpid : Int
  sent : List (Nat × SRBmessage)

abbrev Thread := Mutexes.Thread PeerMutex PeerState

abbrev Outcome := Mutexes.Outcome PeerMutex PeerState PeerFailure

def PeerState.setSlot (state : PeerState) (fd : Nat) (change : PeerSlot → PeerSlot) : PeerState :=
  { state with slots := Function.update state.slots fd (change (state.slots fd)) }

def PeerState.setPeer (state : PeerState) (peer : Nat) (change : Gwpeerinfo → Gwpeerinfo) :
    PeerState :=
  { state with tables := { state.tables with peers := state.tables.peers.modify peer change } }

def PeerState.connOf (state : PeerState) (peer : Nat) : Option Nat :=
  (state.tables.peers[peer]?).bind Gwpeerinfo.conn

/-- `idx|MWGATEWAYMASK`. -/
def idx2gwid (idx : Nat) : UInt32 := UInt32.ofNat idx ||| mwGatewayMask

def PeerState.gwtblFree (state : PeerState) : Option Nat :=
  ((List.range state.gwtblLength).map fun i =>
    (state.gwtblNextidx + i) % state.gwtblLength).find? fun idx => state.gwtblPid idx = -1

/-- `locked` tells whether the table could be locked. -/
def PeerState.allocgwid (state : PeerState) (locked : Bool) : UInt32 × PeerState :=
  if locked = false then (unassigned, state)
  else
    match state.gwtblFree with
    | none => (unassigned, state)
    | some idx =>
        (idx2gwid idx, { state with
          gwtblPid := Function.update state.gwtblPid idx state.ipcserverpid
          gwtblNextidx := idx + 1 })

def PeerState.freegwid (state : PeerState) (gwid : UInt32) : PeerState :=
  if gwid = unassigned then state
  else if (gwid &&& 0x00FFFFFF).toNat > state.gwtblLength then state
  else { state with gwtblPid := Function.update state.gwtblPid (gwid &&& 0x00FFFFFF).toNat (-1) }

def getKnownPeerByGWID (thread : Thread) (gwid : UInt32) :
    Except (Stop PeerMutex PeerFailure) (Option Nat × Thread) :=
  (thread.lock .peersmutex).map fun inside =>
    (inside.state.tables.peers.findIdx? fun pi => pi.gwid == gwid, inside.unlock .peersmutex)

def impexpCleanuppeer (thread : Thread) (pi : Option Nat) : Outcome :=
  match pi with
  | none => .ok thread
  | some peer =>
      (thread.modify fun state =>
        { state with tables := state.tables.expcleanuppeer peer }).guarded .impmutex fun state =>
          { state with tables := state.tables.impcleanuppeer peer }

/-- The end of `conn_del`. -/
def PeerState.closeSlot (state : PeerState) (fd : Nat) : PeerState :=
  state.setSlot fd fun _ => clearedSlot

/-- The end of `gw_closegateway`. The id is taken off before `conn_del` is called, which then
closes. A slot that is not open has the descriptor -1. -/
def clearConn (thread : Thread) (conn : Option Nat) : Outcome :=
  match conn with
  | none => .ok thread
  | some fd =>
      if (thread.state.slots fd).isOpen = false then .error (.failed .wildSlot)
      else
        .ok (thread.modify fun state =>
          match (state.slots fd).peerinfo with
          | none => state.closeSlot fd
          | some peer => (state.setPeer peer fun pi => { pi with conn := none }).closeSlot fd)

def gwClosegateway (thread : Thread) (conn : Option Nat) : Outcome :=
  match conn with
  | none => .ok thread
  | some fd =>
      let gwid := (thread.state.slots fd).gwid
      if gwid ≠ unassigned then
        (getKnownPeerByGWID thread gwid).bind fun found =>
          match found.1 with
          | none => clearConn (found.2.modify fun state => state.freegwid gwid) (some fd)
          | some peer =>
              (impexpCleanuppeer found.2 (some peer)).bind fun thread =>
                let conn := thread.state.connOf peer
                clearConn (thread.modify fun state =>
                  (state.setPeer peer fun pi =>
                    { pi with gwid := unassigned, conn := none }).freegwid gwid) conn
      else clearConn thread (some fd)

def connDel (thread : Thread) (fd : Nat) : Outcome :=
  if (thread.state.slots fd).gwid ≠ unassigned then gwClosegateway thread (some fd)
  else .ok (thread.modify fun state => state.closeSlot fd)

/-- `conn_add`. What the slot has of its last connection stays, and a descriptor that `select`
cannot watch is closed at once. -/
def connAdd (thread : Thread) (fd : Nat) (isGateway : Bool) : Outcome :=
  if (thread.state.slots fd).isOpen then .ok thread
  else
    let opened := thread.modify fun state =>
      state.setSlot fd fun conn => { conn with isOpen := true }
    let polled := if fd + 1 ≥ fdSetsize then connDel opened fd else .ok opened
    polled.map fun thread => thread.modify fun state =>
      state.setSlot fd fun conn => { conn with isGateway := isGateway }

/-- What `connect` does, `EINPROGRESS` being `inProgress`. -/
inductive Connecting where
  | connected
  | inProgress
  | failed
deriving DecidableEq, Repr

/-- An address of a host; `inet` is the family `AF_INET`. -/
structure Address where
  inet : Bool
  outcome : Connecting
deriving DecidableEq, Repr

/-- What the system answers: the new socket, the addresses of the host when it is resolved, and
whether the gateway table could be locked. -/
structure Attempt where
  socket : Option Nat
  lookup : Option (List Address)
  locked : Bool

/-- The loop over the addresses. A connection that is made at once is not told whose it is. The
socket is closed once more after `conn_del`, which no slot knows of. -/
def connectAddrs (thread : Thread) (peer fd : Nat) : List Address → Outcome
  | [] => connDel thread fd
  | address :: res =>
      if address.inet = false then connectAddrs thread peer fd res
      else
        match address.outcome with
        | .connected =>
            .ok (thread.modify fun state => state.setPeer peer fun pi => { pi with conn := some fd })
        | .inProgress =>
            .ok (thread.modify fun state =>
              (state.setPeer peer fun pi => { pi with conn := some fd }).setSlot fd fun nc =>
                { nc with peerinfo := some peer })
        | .failed => connectAddrs thread peer fd res

def PeerState.connwait (state : PeerState) (fd : Nat) : PeerState :=
  state.setSlot fd fun nc => { nc with up := false }

def PeerState.assign (state : PeerState) (peer fd : Nat) (locked : Bool) : PeerState :=
  ((state.allocgwid locked).2.setSlot fd fun nc =>
    { nc with gwid := (state.allocgwid locked).1 }).setPeer peer fun pi =>
      { pi with gwid := (state.allocgwid locked).1 }

/-- `gw_connectpeer`, from `conn_add` on. When the gateway table is full, the new connection is
left as it is. -/
def connectSocket (thread : Thread) (peer fd : Nat) (attempt : Attempt) : Outcome :=
  let thread := thread.modify fun state => state.connwait fd
  match attempt.lookup with
  | none => connDel thread fd
  | some res =>
      if (thread.state.allocgwid attempt.locked).1 = unassigned then .ok thread
      else
        connectAddrs (thread.modify fun state => state.assign peer fd attempt.locked) peer fd res

def gwConnectpeer (thread : Thread) (peerinfo : Option Nat) (attempt : Attempt) : Outcome :=
  match peerinfo with
  | none => .ok thread
  | some peer =>
      if (thread.state.connOf peer).isSome then .ok thread
      else
        match attempt.socket with
        | none => .error (.failed .aborted)
        | some fd => (connAdd thread fd true).bind fun thread => connectSocket thread peer fd attempt

def connectTurn (thread : Thread) (peer : Nat) (attempt : Attempt) : Outcome :=
  if (thread.state.connOf peer).isNone then gwConnectpeer thread (some peer) attempt
  else .ok thread

def connectTurns (attempts : Nat → Attempt) : List Nat → Thread → Outcome
  | [], thread => .ok thread
  | peer :: peers, thread =>
      (connectTurn thread peer (attempts peer)).bind (connectTurns attempts peers)

def gwConnectpeers (thread : Thread) (attempts : Nat → Attempt) : Outcome :=
  (thread.lock .peersmutex).bind fun inside =>
    (connectTurns attempts (List.range inside.state.tables.peers.length) inside).map fun thread =>
      thread.unlock .peersmutex

/-- The peer has a connection in state `UP`. -/
def PeerState.peerUp (state : PeerState) (peer : Nat) : Bool :=
  match state.connOf peer with
  | none => false
  | some fd => (state.slots fd).up

def gwProvideserviceToPeers (thread : Thread) (around : Surroundings) (service : List Byte) :
    Outcome :=
  thread.guarded .peersmutex fun state =>
    let (tables, sent) := state.tables.gwProvideserviceToPeers around state.peerUp service
    { state with tables := tables, sent := state.sent ++ sent }

def gwSendToPeers (thread : Thread) (srbmsg : SRBmessage) : Outcome :=
  thread.guarded .peersmutex fun state =>
    { state with
      sent := state.sent ++ ((List.range state.tables.peers.length).filter state.peerUp).map fun peer =>
        (peer, srbmsg) }

def unimportservice (thread : Thread) (service : List Byte) (pi : Option Nat) : Outcome :=
  match pi with
  | none => .ok thread
  | some peer =>
      thread.guarded .impmutex fun state =>
        { state with tables := state.tables.unimportservice service (some peer) }

/-- When `mwd` cannot be told, the mutex is let go of before the service is taken back. -/
def importservice (thread : Thread) (around : Surroundings) (service : List Byte) (cost : Int)
    (peerinfo : Option Nat) : Outcome :=
  (thread.lock .impmutex).bind fun inside =>
    let (index, tables) := inside.state.tables.condnewimport service
    let links := (tables.importlist[index]?.map ImportEntry.peerlist).getD []
    match peerinfo with
    | none => .error (.failed .missingPeer)
    | some peer =>
        if links.any fun pl => pl.peer == peer then
          .ok ((inside.modify fun state => { state with tables := tables }).unlock .impmutex)
        else
          let tables := tables.setLinks index (links ++ [⟨peer, unassigned⟩])
          if around.provideRc < 0 then
            unimportservice
              ((inside.modify fun state => { state with tables := tables }).unlock .impmutex)
              service peerinfo
          else
            .ok ((inside.modify fun state =>
              { state with
                tables := { tables with
                  requests := tables.requests ++
                    [.provide (tables.gwidOf peer) (cstr service) cost] } }).unlock .impmutex)

inductive PeerCall where
  | connectpeers (attempts : Nat → Attempt)
  | connectpeer (peerinfo : Option Nat) (attempt : Attempt)
  | provideserviceToPeers (around : Surroundings) (service : List Byte)
  | sendToPeers (srbmsg : SRBmessage)
  | importservice (around : Surroundings) (service : List Byte) (cost : Int)
      (peerinfo : Option Nat)
  | unimportservice (service : List Byte) (pi : Option Nat)
  | impexpCleanuppeer (pi : Option Nat)
  | closegateway (conn : Option Nat)

def PeerCall.run (thread : Thread) : PeerCall → Outcome
  | .connectpeers attempts => gwConnectpeers thread attempts
  | .connectpeer peerinfo attempt => gwConnectpeer thread peerinfo attempt
  | .provideserviceToPeers around service => gwProvideserviceToPeers thread around service
  | .sendToPeers srbmsg => gwSendToPeers thread srbmsg
  | .importservice around service cost peerinfo =>
      PeerLinks.importservice thread around service cost peerinfo
  | .unimportservice service pi => PeerLinks.unimportservice thread service pi
  | .impexpCleanuppeer pi => PeerLinks.impexpCleanuppeer thread pi
  | .closegateway conn => gwClosegateway thread conn

def PeerState.LeftOver (state : PeerState) (fd : Nat) : Prop :=
  (state.slots fd).isOpen = false ∧ fd + 1 ≥ fdSetsize ∧ (state.slots fd).gwid ≠ unassigned

def Address.Takes (address : Address) : Prop :=
  address.inet = true ∧ address.outcome ≠ .failed

/-- A connect to the peer closes a connection that has a gateway id: one that was left in the
slot, or the one just allocated when no address takes the connect. -/
def PeerState.ClosesGateway (state : PeerState) (peer : Nat) (attempt : Attempt) : Prop :=
  state.connOf peer = none ∧ ∃ fd, attempt.socket = some fd ∧
    ((attempt.lookup = none ∧ (state.slots fd).gwid ≠ unassigned) ∨
      ∃ res, attempt.lookup = some res ∧
        (state.LeftOver fd ∨
          ((state.allocgwid attempt.locked).1 ≠ unassigned ∧ ¬∃ address ∈ res, address.Takes)))

def TurnsHarmless (attempts : Nat → Attempt) : List Nat → Thread → Prop
  | [], _ => True
  | peer :: peers, thread =>
      ¬thread.state.ClosesGateway peer (attempts peer) ∧
        ∀ next, connectTurn thread peer (attempts peer) = .ok next →
          TurnsHarmless attempts peers next

/-- Only `gw_connectpeers` can go wrong. -/
def PeerCall.Harmless (thread : Thread) : PeerCall → Prop
  | .connectpeers attempts =>
      ∀ inside, (thread.lock .peersmutex : Outcome) = .ok inside →
        TurnsHarmless attempts (List.range inside.state.tables.peers.length) inside
  | _ => True

variable {thread : Thread} {fd peer : Nat}

@[simp]
theorem setSlot_same (state : PeerState) (fd : Nat) (change : PeerSlot → PeerSlot) :
    (state.setSlot fd change).slots fd = change (state.slots fd) := by
  simp [PeerState.setSlot, Function.update_self]

theorem setSlot_other {other : Nat} (different : other ≠ fd) (state : PeerState)
    (change : PeerSlot → PeerSlot) :
    (state.setSlot fd change).slots other = state.slots other := by
  simp_all [PeerState.setSlot, Function.update_of_ne]

theorem allocgwid_setSlot (state : PeerState) (fd : Nat) (change : PeerSlot → PeerSlot)
    (locked : Bool) :
    ((state.setSlot fd change).allocgwid locked).1 = (state.allocgwid locked).1 := by
  have same : (state.setSlot fd change).gwtblFree = state.gwtblFree := rfl
  grind [PeerState.allocgwid]

theorem getKnownPeerByGWID_free (free : thread.held .peersmutex = false) (gwid : UInt32) :
    getKnownPeerByGWID thread gwid =
      .ok (thread.state.tables.peers.findIdx? fun pi => pi.gwid == gwid, thread) := by
  rw [getKnownPeerByGWID, Thread.lock_free free]
  exact congrArg (fun after => Except.ok (_, after)) (Thread.unlock_locked free _)

theorem getKnownPeerByGWID_held (held : thread.held .peersmutex = true) (gwid : UInt32) :
    getKnownPeerByGWID thread gwid = .error (.deadlock .peersmutex) := by
  rw [getKnownPeerByGWID, Thread.lock_held held]
  rfl

theorem impexpCleanuppeer_disciplined (free : thread.held .impmutex = false) (pi : Option Nat) :
    Disciplined thread.held (impexpCleanuppeer thread pi) := by
  cases pi with
  | none => exact Disciplined.ok rfl
  | some peer =>
      have isFree : (thread.modify fun state =>
          { state with tables := state.tables.expcleanuppeer peer }).held .impmutex = false := free
      exact Disciplined.guarded isFree _

theorem clearConn_disciplined (thread : Thread) (conn : Option Nat) :
    Disciplined thread.held (clearConn thread conn) := by
  cases conn with
  | none => exact Disciplined.ok rfl
  | some fd =>
      unfold clearConn
      dsimp only
      split_ifs
      · exact Disciplined.failed _
      · exact Disciplined.ok rfl

theorem gwClosegateway_disciplined (free : ∀ mutex, thread.held mutex = false)
    (conn : Option Nat) : Disciplined thread.held (gwClosegateway thread conn) := by
  cases conn with
  | none => exact Disciplined.ok rfl
  | some fd =>
      unfold gwClosegateway
      dsimp only
      split_ifs
      · rw [getKnownPeerByGWID_free (free .peersmutex)]
        cases found : thread.state.tables.peers.findIdx? fun pi =>
            pi.gwid == (thread.state.slots fd).gwid with
        | none =>
            exact clearConn_disciplined (thread.modify fun state =>
              state.freegwid (thread.state.slots fd).gwid) (some fd)
        | some peer =>
            have cleaned := impexpCleanuppeer_disciplined (free .impmutex) (some peer)
            refine cleaned.bind ?_
            intro between _ same
            have closed := clearConn_disciplined (between.modify fun state =>
              (state.setPeer peer fun pi => { pi with gwid := unassigned, conn := none }).freegwid
                (thread.state.slots fd).gwid) (between.state.connOf peer)
            rw [← same]
            exact closed
      · exact clearConn_disciplined thread (some fd)

theorem gwClosegateway_held (held : thread.held .peersmutex = true)
    (hasId : (thread.state.slots fd).gwid ≠ unassigned) :
    gwClosegateway thread (some fd) = .error (.deadlock .peersmutex) := by
  unfold gwClosegateway
  dsimp only
  rw [if_pos hasId, getKnownPeerByGWID_held held]
  rfl

theorem connDel_plain (thread : Thread) (fd : Nat) (noId : (thread.state.slots fd).gwid = unassigned) :
    connDel thread fd = .ok (thread.modify fun state => state.closeSlot fd) := by
  rw [connDel, if_neg (not_not.mpr noId)]

theorem connDel_disciplined (thread : Thread) (free : ∀ mutex, thread.held mutex = false) (fd : Nat) :
    Disciplined thread.held (connDel thread fd) := by
  unfold connDel
  split_ifs
  · exact gwClosegateway_disciplined free (some fd)
  · exact Disciplined.ok rfl

theorem connDel_held (thread : Thread) (held : thread.held .peersmutex = true)
    (hasId : (thread.state.slots fd).gwid ≠ unassigned) :
    connDel thread fd = .error (.deadlock .peersmutex) := by
  rw [connDel, if_pos hasId, gwClosegateway_held held hasId]

theorem connAdd_disciplined (free : ∀ mutex, thread.held mutex = false) (fd : Nat)
    (isGateway : Bool) : Disciplined thread.held (connAdd thread fd isGateway) := by
  unfold connAdd
  dsimp only
  split_ifs
  · exact Disciplined.ok rfl
  · have closed := connDel_disciplined (thread.modify fun state =>
      state.setSlot fd fun conn => { conn with isOpen := true }) free fd
    exact closed.bind fun between _ same => Disciplined.ok same
  · exact Disciplined.ok rfl

/-- No mutex is touched, and the id in the slot and the rows of the gateway table stay. -/
theorem connAdd_quiet (quiet : ¬thread.state.LeftOver fd) (isGateway : Bool) :
    ∃ state, connAdd thread fd isGateway = .ok ⟨thread.held, state⟩ ∧
      (state.slots fd).gwid = (thread.state.slots fd).gwid ∧
      ∀ locked, (state.allocgwid locked).1 = (thread.state.allocgwid locked).1 := by
  unfold connAdd
  dsimp only
  by_cases isOpen : (thread.state.slots fd).isOpen = true
  · rw [if_pos isOpen]
    exact ⟨thread.state, rfl, rfl, fun _ => rfl⟩
  · rw [if_neg isOpen]
    have opened : ((thread.state.setSlot fd fun conn => { conn with isOpen := true }).slots
        fd).gwid = (thread.state.slots fd).gwid := by
      rw [setSlot_same]
    by_cases unwatched : fd + 1 ≥ fdSetsize
    · have noId : (thread.state.slots fd).gwid = unassigned := by
        by_contra hasId
        exact quiet ⟨eq_false_of_ne_true isOpen, unwatched, hasId⟩
      rw [if_pos unwatched, connDel_plain _ fd (opened.trans noId)]
      refine ⟨_, rfl, ?_, ?_⟩
      · dsimp only [Thread.modify]
        rw [setSlot_same, PeerState.closeSlot, setSlot_same, noId]
        rfl
      · simp [Thread.modify, PeerState.closeSlot, allocgwid_setSlot]
    · rw [if_neg unwatched]
      refine ⟨_, rfl, ?_, ?_⟩
      · simp [Thread.modify, setSlot_same]
      · simp [Thread.modify, allocgwid_setSlot]

theorem connAdd_leftOver (held : thread.held .peersmutex = true)
    (leftOver : thread.state.LeftOver fd) (isGateway : Bool) :
    connAdd thread fd isGateway = .error (.deadlock .peersmutex) := by
  rcases leftOver with ⟨isClosed, unwatched, hasId⟩
  have opened : ((thread.state.setSlot fd fun conn => { conn with isOpen := true }).slots
      fd).gwid ≠ unassigned := by
    rw [setSlot_same]
    exact hasId
  have stuck := connDel_held (thread.modify fun state =>
    state.setSlot fd fun conn => { conn with isOpen := true }) held opened
  unfold connAdd
  dsimp only
  rw [isClosed, if_neg Bool.false_ne_true, if_pos unwatched, stuck]
  rfl

theorem connectAddrs_taken {res : List Address} (taken : ∃ address ∈ res, address.Takes)
    (thread : Thread) (peer fd : Nat) :
    ∃ state, connectAddrs thread peer fd res = .ok ⟨thread.held, state⟩ := by
  induction res with
  | nil =>
      simp_all
  | cons address res ih =>
      rcases taken with ⟨other, member, takes⟩
      unfold connectAddrs
      by_cases isInet : address.inet = false
      · rw [if_pos isInet]
        rcases List.mem_cons.mp member with rfl | later
        · rw [takes.1] at isInet
          cases isInet
        · exact ih ⟨other, later, takes⟩
      · rw [if_neg isInet]
        cases outcome : address.outcome with
        | connected => exact ⟨_, rfl⟩
        | inProgress => exact ⟨_, rfl⟩
        | failed =>
            rcases List.mem_cons.mp member with rfl | later
            · exact absurd outcome takes.2
            · exact ih ⟨other, later, takes⟩

/-- No address takes the connect, and the connection is closed. -/
theorem connectAddrs_refused {res : List Address} (refused : ¬∃ address ∈ res, address.Takes)
    (thread : Thread) (peer fd : Nat) :
    connectAddrs thread peer fd res = connDel thread fd := by
  induction res with
  | nil => rfl
  | cons address res ih =>
      have rest : ¬∃ other ∈ res, other.Takes := by
        simp_all
      unfold connectAddrs
      by_cases isInet : address.inet = false
      · rw [if_pos isInet, ih rest]
      · have failed : address.outcome = .failed := by
          by_contra other
          exact refused ⟨address, List.mem_cons_self, eq_true_of_ne_false isInet, other⟩
        rw [if_neg isInet, failed]
        exact ih rest

theorem connectAddrs_disciplined (thread : Thread) (free : ∀ mutex, thread.held mutex = false)
    (peer fd : Nat) (res : List Address) : Disciplined thread.held (connectAddrs thread peer fd res) := by
  by_cases taken : ∃ address ∈ res, address.Takes
  · rcases connectAddrs_taken taken thread peer fd with ⟨state, result⟩
    rw [result]
    exact Disciplined.ok rfl
  · simp_all [connectAddrs_refused, connDel_disciplined]

section Socket

variable {attempt : Attempt} {res : List Address}

theorem connectSocket_unresolved (lookup : attempt.lookup = none) :
    connectSocket thread peer fd attempt =
      connDel (thread.modify fun state => state.connwait fd) fd := by
  rw [connectSocket, lookup]

theorem connectSocket_full (lookup : attempt.lookup = some res)
    (full : (thread.state.allocgwid attempt.locked).1 = unassigned) :
    connectSocket thread peer fd attempt =
      .ok (thread.modify fun state => state.connwait fd) := by
  have same : ((thread.modify fun state => state.connwait fd).state.allocgwid attempt.locked).1 =
      unassigned := by
    rw [← full]
    exact allocgwid_setSlot thread.state fd _ attempt.locked
  rw [connectSocket, lookup]
  exact if_pos same

theorem connectSocket_allocated (lookup : attempt.lookup = some res)
    (allocated : (thread.state.allocgwid attempt.locked).1 ≠ unassigned) :
    connectSocket thread peer fd attempt =
      connectAddrs (thread.modify fun state =>
        (state.connwait fd).assign peer fd attempt.locked) peer fd res := by
  have same : ((thread.modify fun state => state.connwait fd).state.allocgwid attempt.locked).1 ≠
      unassigned := by
    intro full
    apply allocated
    rw [← full]
    exact (allocgwid_setSlot thread.state fd _ attempt.locked).symm
  rw [connectSocket, lookup]
  exact if_neg same

theorem assign_gwid (state : PeerState) (peer fd : Nat) (locked : Bool) :
    (((state.connwait fd).assign peer fd locked).slots fd).gwid = (state.allocgwid locked).1 := by
  unfold PeerState.assign PeerState.setPeer
  dsimp only
  rw [setSlot_same]
  exact allocgwid_setSlot state fd _ locked

theorem connectSocket_disciplined (free : ∀ mutex, thread.held mutex = false) (peer fd : Nat)
    (attempt : Attempt) : Disciplined thread.held (connectSocket thread peer fd attempt) := by
  cases lookup : attempt.lookup with
  | none =>
      rw [connectSocket_unresolved lookup]
      exact connDel_disciplined (thread.modify fun state => state.connwait fd) free fd
  | some res =>
      by_cases full : (thread.state.allocgwid attempt.locked).1 = unassigned
      · rw [connectSocket_full lookup full]
        exact Disciplined.ok rfl
      · rw [connectSocket_allocated lookup full]
        exact connectAddrs_disciplined (thread.modify fun state =>
          (state.connwait fd).assign peer fd attempt.locked) free peer fd res

/-- The new connection is not closed with a gateway id. -/
theorem connectSocket_quiet (thread : Thread)
    (unresolved : attempt.lookup = none → (thread.state.slots fd).gwid = unassigned)
    (resolved : ∀ res, attempt.lookup = some res →
      (thread.state.allocgwid attempt.locked).1 ≠ unassigned → ∃ address ∈ res, address.Takes)
    (peer : Nat) : ∃ state, connectSocket thread peer fd attempt = .ok ⟨thread.held, state⟩ := by
  cases lookup : attempt.lookup with
  | none =>
      have noId : ((thread.state.connwait fd).slots fd).gwid = unassigned := by
        simp_all [PeerState.connwait, setSlot_same]
      rw [connectSocket_unresolved lookup]
      exact ⟨_, connDel_plain _ fd noId⟩
  | some res =>
      by_cases full : (thread.state.allocgwid attempt.locked).1 = unassigned
      · rw [connectSocket_full lookup full]
        exact ⟨_, rfl⟩
      · rw [connectSocket_allocated lookup full]
        exact connectAddrs_taken (resolved res lookup full) (thread.modify _) peer fd

theorem connectSocket_closes (thread : Thread) (held : thread.held .peersmutex = true)
    (closes : (attempt.lookup = none ∧ (thread.state.slots fd).gwid ≠ unassigned) ∨
      ∃ res, attempt.lookup = some res ∧ (thread.state.allocgwid attempt.locked).1 ≠ unassigned ∧
        ¬∃ address ∈ res, address.Takes) (peer : Nat) :
    connectSocket thread peer fd attempt = .error (.deadlock .peersmutex) := by
  rcases closes with ⟨lookup, hasId⟩ | ⟨res, lookup, allocated, refused⟩
  · rw [connectSocket_unresolved lookup]
    simp_all [Thread.modify, PeerState.connwait, setSlot_same, connDel_held]
  · rw [connectSocket_allocated lookup allocated, connectAddrs_refused refused]
    simp_all [Thread.modify, assign_gwid, connDel_held]

end Socket

theorem gwConnectpeer_disciplined (free : ∀ mutex, thread.held mutex = false)
    (peerinfo : Option Nat) (attempt : Attempt) :
    Disciplined thread.held (gwConnectpeer thread peerinfo attempt) := by
  unfold gwConnectpeer
  cases peerinfo with
  | none => exact Disciplined.ok rfl
  | some peer =>
      dsimp only
      split_ifs
      · exact Disciplined.ok rfl
      · cases attempt.socket with
        | none => exact Disciplined.failed _
        | some fd =>
            refine (connAdd_disciplined free fd true).bind ?_
            intro between _ same
            rw [← same]
            exact connectSocket_disciplined (fun mutex => by rw [same]; exact free mutex) peer fd
              attempt

theorem connectTurn_harmless {attempt : Attempt}
    (harmless : ¬thread.state.ClosesGateway peer attempt) :
    Disciplined thread.held (connectTurn thread peer attempt) := by
  unfold connectTurn
  split_ifs with isNone
  · unfold gwConnectpeer
    have unconnected := Option.isNone_iff_eq_none.mp isNone
    dsimp only
    rw [unconnected, Option.isSome_none, if_neg Bool.false_ne_true]
    cases socket : attempt.socket with
    | none => exact Disciplined.failed _
    | some fd =>
        by_cases leftOver : thread.state.LeftOver fd
        · exfalso
          apply harmless
          refine ⟨unconnected, fd, socket, ?_⟩
          cases lookup : attempt.lookup with
          | none => exact Or.inl ⟨rfl, leftOver.2.2⟩
          | some res => exact Or.inr ⟨res, rfl, Or.inl leftOver⟩
        · rcases connAdd_quiet leftOver true with ⟨state, added, sameId, sameRows⟩
          have unresolved : attempt.lookup = none → (state.slots fd).gwid = unassigned := by
            intro lookup
            rw [sameId]
            by_contra hasId
            exact harmless ⟨unconnected, fd, socket, Or.inl ⟨lookup, hasId⟩⟩
          have resolved : ∀ res, attempt.lookup = some res →
              (state.allocgwid attempt.locked).1 ≠ unassigned →
              ∃ address ∈ res, address.Takes := by
            intro res lookup allocated
            rw [sameRows] at allocated
            by_contra refused
            exact harmless
              ⟨unconnected, fd, socket, Or.inr ⟨res, lookup, Or.inr ⟨allocated, refused⟩⟩⟩
          rcases connectSocket_quiet ⟨thread.held, state⟩ unresolved resolved peer with
            ⟨after, connected⟩
          have turn : (connAdd thread fd true).bind
              (fun thread => connectSocket thread peer fd attempt) = .ok ⟨thread.held, after⟩ := by
            rw [added]
            exact connected
          simp [turn, Disciplined.ok]
  · exact Disciplined.ok rfl

theorem connectTurn_closes (held : thread.held .peersmutex = true) {attempt : Attempt}
    (closes : thread.state.ClosesGateway peer attempt) :
    connectTurn thread peer attempt = .error (.deadlock .peersmutex) := by
  rcases closes with ⟨unconnected, fd, socket, cause⟩
  unfold connectTurn gwConnectpeer
  dsimp only
  rw [unconnected, Option.isNone_none, if_pos rfl, Option.isSome_none, if_neg Bool.false_ne_true,
    socket]
  dsimp only
  by_cases leftOver : thread.state.LeftOver fd
  · rw [connAdd_leftOver held leftOver]
    rfl
  · rcases connAdd_quiet leftOver true with ⟨state, added, sameId, sameRows⟩
    rw [added]
    apply connectSocket_closes ⟨thread.held, state⟩ held
    grind

theorem connectTurns_harmless (attempts : Nat → Attempt) (peers : List Nat) :
    ∀ thread : Thread, TurnsHarmless attempts peers thread →
      Disciplined thread.held (connectTurns attempts peers thread) := by
  induction peers with
  | nil =>
      intro thread _
      exact Disciplined.ok rfl
  | cons peer peers ih =>
      rintro thread ⟨harmless, later⟩
      refine (connectTurn_harmless harmless).bind ?_
      grind

/-- The first turn that closes a gateway is the last one. -/
theorem connectTurns_goesOn (attempts : Nat → Attempt) (peers : List Nat) :
    ∀ thread : Thread, thread.held .peersmutex = true →
      connectTurns attempts peers thread ≠ .error (.deadlock .peersmutex) →
        TurnsHarmless attempts peers thread := by
  induction peers with
  | nil =>
      intro thread _ _
      exact trivial
  | cons peer peers ih =>
      intro thread held goesOn
      rw [connectTurns] at goesOn
      have harmless : ¬thread.state.ClosesGateway peer (attempts peer) := by
        intro closes
        rw [connectTurn_closes held closes] at goesOn
        exact goesOn rfl
      refine ⟨harmless, ?_⟩
      intro next turned
      have same := (connectTurn_harmless harmless).returns next turned
      rw [turned] at goesOn
      rw [← same] at held
      exact ih next held goesOn

theorem gwConnectpeers_iff (free : ∀ mutex, thread.held mutex = false) (attempts : Nat → Attempt) :
    Disciplined thread.held (gwConnectpeers thread attempts) ↔
      (PeerCall.connectpeers attempts).Harmless thread := by
  have locked : (thread.lock .peersmutex : Outcome) =
      .ok ⟨Function.update thread.held .peersmutex true, thread.state⟩ :=
    Thread.lock_free (free .peersmutex)
  have run : gwConnectpeers thread attempts =
      (connectTurns attempts (List.range thread.state.tables.peers.length)
        ⟨Function.update thread.held .peersmutex true, thread.state⟩).map fun after =>
          after.unlock .peersmutex := by
    rw [gwConnectpeers, locked]
    rfl
  rw [run]
  constructor
  · intro disciplined inside result
    cases locked.symm.trans result
    have held : Function.update thread.held PeerMutex.peersmutex true .peersmutex = true :=
      Function.update_self _ _ _
    apply connectTurns_goesOn attempts _ _ held
    intro stuck
    rw [stuck] at disciplined
    exact not_disciplined_deadlock _ disciplined
  · intro harmless
    have turns := connectTurns_harmless attempts _ _ (harmless _ locked)
    refine ⟨?_, ?_⟩
    · intro after result
      cases turned : connectTurns attempts (List.range thread.state.tables.peers.length)
          ⟨Function.update thread.held .peersmutex true, thread.state⟩ with
      | error stop =>
          rw [turned] at result
          cases result
      | ok last =>
          rw [turned] at result
          cases result
          exact Thread.unlock_held (free .peersmutex) (turns.returns last turned)
    · intro mutex stuck
      cases turned : connectTurns attempts (List.range thread.state.tables.peers.length)
          ⟨Function.update thread.held .peersmutex true, thread.state⟩ with
      | error stop =>
          rw [turned] at stuck
          cases stuck
          exact turns.goesOn mutex turned
      | ok last =>
          rw [turned] at stuck
          cases stuck

theorem unimportservice_disciplined {held : PeerMutex → Bool} (free : held .impmutex = false)
    (same : thread.held = held) (service : List Byte) (pi : Option Nat) :
    Disciplined held (unimportservice thread service pi) := by
  subst same
  cases pi with
  | none => exact Disciplined.ok rfl
  | some peer => exact Disciplined.guarded free _

theorem importservice_disciplined (free : ∀ mutex, thread.held mutex = false)
    (around : Surroundings) (service : List Byte) (cost : Int) (peerinfo : Option Nat) :
    Disciplined thread.held (importservice thread around service cost peerinfo) := by
  have released : ∀ after : Thread,
      after.held = Function.update thread.held PeerMutex.impmutex true →
        (after.unlock .impmutex).held = thread.held :=
    fun after same => Thread.unlock_held (free .impmutex) same
  unfold importservice
  rw [Thread.lock_free (free .impmutex)]
  cases peerinfo with
  | none => exact Disciplined.failed _
  | some peer =>
      dsimp only [Except.bind]
      split_ifs
      · exact Disciplined.ok (released _ rfl)
      · exact unimportservice_disciplined (free .impmutex) (released _ rfl) service (some peer)
      · exact Disciplined.ok (released _ rfl)

/-- A call that begins with no mutex keeps to the discipline exactly when it is not
`gw_connectpeers` with a turn that closes a gateway. -/
theorem peerCall_disciplined_iff (thread : Thread) (free : ∀ mutex, thread.held mutex = false)
    (call : PeerCall) :
    Disciplined thread.held (call.run thread) ↔ call.Harmless thread := by
  cases call with
  | connectpeers attempts => exact gwConnectpeers_iff free attempts
  | connectpeer peerinfo attempt =>
      exact iff_of_true (gwConnectpeer_disciplined free peerinfo attempt) trivial
  | provideserviceToPeers around service =>
      exact iff_of_true (Disciplined.guarded (free .peersmutex) _) trivial
  | sendToPeers srbmsg =>
      exact iff_of_true (Disciplined.guarded (free .peersmutex) _) trivial
  | importservice around service cost peerinfo =>
      exact iff_of_true (importservice_disciplined free around service cost peerinfo) trivial
  | unimportservice service pi =>
      exact iff_of_true (unimportservice_disciplined (free .impmutex) rfl service pi) trivial
  | impexpCleanuppeer pi =>
      exact iff_of_true (impexpCleanuppeer_disciplined (free .impmutex) pi) trivial
  | closegateway conn =>
      exact iff_of_true (gwClosegateway_disciplined free conn) trivial

def onePeer : Thread where
  held := fun _ => false
  state :=
    { tables := ⟨[⟨[98], 0, unassigned, none⟩], [], [], []⟩
      slots := fun _ => clearedSlot
      gwtblPid := fun idx => if idx = 0 then 7 else -1
      gwtblLength := 4
      gwtblFits := by decide
      gwtblNextidx := 1
      ipcserverpid := 7
      sent := [] }

def refusal : Attempt := ⟨some 5, some [⟨true, .failed⟩], true⟩

theorem peerCall_disciplined_iff_onePeer :
    Disciplined onePeer.held ((PeerCall.connectpeers fun _ => refusal).run onePeer) ↔
      (PeerCall.connectpeers fun _ => refusal).Harmless onePeer :=
  peerCall_disciplined_iff onePeer (fun _ => rfl) _

/-- The thread waits for `peersmutex`, which it holds. -/
theorem connectpeers_hangs :
    ∃ thread attempts, (∀ mutex, thread.held mutex = false) ∧
      gwConnectpeers thread attempts = .error (.deadlock .peersmutex) ∧
      ¬Disciplined thread.held ((PeerCall.connectpeers attempts).run thread) := by
  have hangs : gwConnectpeers onePeer (fun _ => refusal) = .error (.deadlock .peersmutex) := by
    rfl
  refine ⟨onePeer, fun _ => refusal, fun _ => rfl, hangs, ?_⟩
  intro disciplined
  exact disciplined.goesOn .peersmutex hangs

end MidWay.Gateway.PeerLinks

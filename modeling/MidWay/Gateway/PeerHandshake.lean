import MidWay.Lib.Runs
import Mathlib.Logic.Function.Basic

/-!
Contract: how two gateways of a domain come to a link, when both may open one.

A gateway enters a connection in its entry for the peer when it begins to connect, and
refuses the `INIT` of the peer while the entry is taken. It learns that its own attempt
was refused when it reads the close. A gateway that refuses between the two refuses the
attempt for which its own was refused, and then no link is left.

Owns: the links, the messages on them and the entries of two gateways that know each
other, the steps of the source on them, the shapes a link goes through, and that in runs
in which an `INIT` never meets an entry whose close is under way, no two attempts are
refused for each other and the gateways end with one link or with nothing refused.
-/

namespace MidWay.Gateway.Handshake

open MidWay.Lib

inductive Side where
  | left
  | right
deriving DecidableEq, Repr

def Side.other : Side → Side
  | .left => .right
  | .right => .left

/-- `CONNECT_STATE_*`; `conn_add` leaves a connection in none of them. -/
inductive ConnectState where
  | fresh
  | connwait
  | readywait
  | initwait
  | up
deriving DecidableEq, Repr

/-- What an end of a connection reads. A `TERM` is a request when it has a grace, else a
notification; `close` is the end of the stream. -/
inductive PeerMessage where
  | ready
  | init
  | initReply
  | termRequest
  | termNotification
  | reject
  | close
deriving DecidableEq, Repr

/-- The connection at one end: its state, and whether its type is `CONN_TYPE_GATEWAY`. -/
structure LinkEnd where
  state : ConnectState
  isGateway : Bool
deriving DecidableEq, Repr

inductive Role where
  | opener
  | accepter
deriving DecidableEq, Repr

structure Link where
  opener : Side
  accepted : Bool
  opening : Option LinkEnd
  accepting : Option LinkEnd
  toOpener : List PeerMessage
  toAccepter : List PeerMessage
deriving DecidableEq, Repr

def Link.side (link : Link) : Role → Side
  | .opener => link.opener
  | .accepter => link.opener.other

def Link.endAt (link : Link) : Role → Option LinkEnd
  | .opener => link.opening
  | .accepter => link.accepting

def Link.waiting (link : Link) : Role → List PeerMessage
  | .opener => link.toOpener
  | .accepter => link.toAccepter

def Link.setEnd (link : Link) (role : Role) (conn : Option LinkEnd) : Link :=
  match role with
  | .opener => { link with opening := conn }
  | .accepter => { link with accepting := conn }

def Link.setWaiting (link : Link) (role : Role) (messages : List PeerMessage) : Link :=
  match role with
  | .opener => { link with toOpener := messages }
  | .accepter => { link with toAccepter := messages }

def Role.other : Role → Role
  | .opener => .accepter
  | .accepter => .opener

/-- `_mw_srbsendmessage`; what is sent to an end that is closed is lost. -/
def Link.send (link : Link) (role : Role) (message : PeerMessage) : Link :=
  match link.endAt role.other with
  | none => link
  | some _ => link.setWaiting role.other (link.waiting role.other ++ [message])

/-- `conn_clear` and `close`. -/
def Link.shut (link : Link) (role : Role) : Link :=
  ((link.setEnd role none).setWaiting role []).send role .close

/-- A gateway answered the `INIT` on `refused` with a `TERM`, its entry being `held`. -/
structure Refusal where
  refuser : Side
  refused : Nat
  held : Nat
deriving DecidableEq, Repr

/-- The links made so far, and `conn` of the entry each gateway has for the other. The last
two fields record the refusals: all of them, and whether a gateway refused since its last
attempt. -/
structure Gateways where
  count : Nat
  links : Nat → Link
  conn : Side → Option Nat
  refusals : List Refusal
  refusedSince : Side → Bool

def Gateways.setLink (state : Gateways) (index : Nat) (link : Link) : Gateways :=
  { state with links := Function.update state.links index link }

def Gateways.setConn (state : Gateways) (side : Side) (conn : Option Nat) : Gateways :=
  { state with conn := Function.update state.conn side conn }

/-- `gw_closegateway`: the entry found by the connection's `gwid` is that which holds it. -/
def Gateways.gwClosegateway (state : Gateways) (index : Nat) (role : Role) : Gateways :=
  let link := state.links index
  let cleared :=
    if state.conn (link.side role) = some index then state.setConn (link.side role) none else state
  cleared.setLink index (link.shut role)

/-- `conn_del`: a connection has a `gwid` when the entry holds it. -/
def Gateways.connDel (state : Gateways) (index : Nat) (role : Role) : Gateways :=
  let link := state.links index
  if state.conn (link.side role) = some index then state.gwClosegateway index role
  else state.setLink index (link.shut role)

def Gateways.tcpcloseconnection (state : Gateways) (index : Nat) (role : Role) (conn : LinkEnd) :
    Gateways :=
  if conn.isGateway then state.gwClosegateway index role else state.connDel index role

/-- `gw_connectpeer`, when the connect is in progress. -/
def Gateways.gwConnectpeer (state : Gateways) (side : Side) : Gateways :=
  match state.conn side with
  | some _ => state
  | none =>
      { state with
        count := state.count + 1
        links := Function.update state.links state.count
          { opener := side, accepted := false, opening := some ⟨.connwait, true⟩,
            accepting := none, toOpener := [], toAccepter := [] }
        conn := Function.update state.conn side (some state.count)
        refusedSince := Function.update state.refusedSince side false }

/-- `srbinit` with a request: `gw_peerconnected` fails when the entry is taken, and then a
`TERM` is sent and the connection closed. -/
def Gateways.srbinitRequest (state : Gateways) (index : Nat) (role : Role) : Gateways :=
  let link := state.links index
  match state.conn (link.side role) with
  | some held =>
      { (state.setLink index (link.send role .termRequest)).connDel index role with
        refusals := state.refusals ++ [⟨link.side role, index, held⟩]
        refusedSince := Function.update state.refusedSince (link.side role) true }
  | none =>
      (state.setConn (link.side role) (some index)).setLink index
        ((link.setEnd role (some ⟨.up, true⟩)).send role .initReply)

/-- `srbready` with a notification on a connection; only a gateway's is answered. -/
def Gateways.srbready (state : Gateways) (index : Nat) (role : Role) (conn : LinkEnd) : Gateways :=
  if conn.isGateway then
    state.setLink index
      (((state.links index).setEnd role (some { conn with state := .initwait })).send role .init)
  else state

def Gateways.srbterm (state : Gateways) (index : Nat) (role : Role) (conn : LinkEnd)
    (isRequest : Bool) : Gateways :=
  if isRequest then state.setLink index ((state.links index).send role .termNotification)
  else state.tcpcloseconnection index role conn

/-- `srbDoMessage`, and `gwreadmessage` at the end of the stream. Until the connection is up
all but `INIT` and `READY` are rejected. -/
def Gateways.srbDoMessage (state : Gateways) (index : Nat) (role : Role) (conn : LinkEnd) :
    PeerMessage → Gateways
  | .init => state.srbinitRequest index role
  | .initReply =>
      state.setLink index ((state.links index).setEnd role (some { conn with state := .up }))
  | .ready => state.srbready index role conn
  | .termRequest =>
      if conn.state = .up then state.srbterm index role conn true
      else state.setLink index ((state.links index).send role .reject)
  | .termNotification =>
      if conn.state = .up then state.srbterm index role conn false
      else state.setLink index ((state.links index).send role .reject)
  | .reject =>
      if conn.state = .up then state
      else state.setLink index ((state.links index).send role .reject)
  | .close => state.tcpcloseconnection index role conn

/-- The broker of the peer takes the connection and greets; it hands the connection over
with the `INIT` that follows. -/
def Gateways.accept (state : Gateways) (index : Nat) : Gateways :=
  state.setLink index
    (({ state.links index with accepted := true, accepting := some ⟨.fresh, false⟩ }).send
      .accepter .ready)

/-- `tcp_do_write_condition`. -/
def Gateways.writeCondition (state : Gateways) (index : Nat) : Gateways :=
  match (state.links index).opening with
  | some ⟨.connwait, true⟩ =>
      state.setLink index ((state.links index).setEnd .opener (some ⟨.readywait, true⟩))
  | _ => state

def Gateways.deliver (state : Gateways) (index : Nat) (role : Role) : Gateways :=
  match (state.links index).endAt role, (state.links index).waiting role with
  | some conn, message :: rest =>
      (state.setLink index ((state.links index).setWaiting role rest)).srbDoMessage index role conn
        message
  | _, _ => state

inductive Action where
  | connect (side : Side)
  | accept (index : Nat)
  | writable (index : Nat)
  | deliver (index : Nat) (role : Role)
deriving DecidableEq, Repr

def Gateways.enabled (state : Gateways) : Action → Prop
  | .connect _ => True
  | .accept index => index < state.count ∧ (state.links index).accepted = false
  | .writable index => index < state.count
  | .deliver index role => index < state.count ∧ (state.links index).waiting role ≠ []

instance (state : Gateways) : (action : Action) → Decidable (state.enabled action)
  | .connect _ => inferInstanceAs (Decidable True)
  | .accept index =>
      inferInstanceAs (Decidable (index < state.count ∧ (state.links index).accepted = false))
  | .writable index => inferInstanceAs (Decidable (index < state.count))
  | .deliver index role =>
      inferInstanceAs (Decidable (index < state.count ∧ (state.links index).waiting role ≠ []))

def Gateways.step (state : Gateways) : Action → Gateways
  | .connect side => state.gwConnectpeer side
  | .accept index => state.accept index
  | .writable index => state.writeCondition index
  | .deliver index role => state.deliver index role

def noLinks : Gateways where
  count := 0
  links _ := ⟨.left, false, none, none, [], []⟩
  conn _ := none
  refusals := []
  refusedSince _ := false

def handshakes : Machine Gateways Action Unit where
  start state := state = noLinks
  enabled state := state.enabled
  step state action := .ok (state.step action)

instance (state : Gateways) (action : Action) : Decidable (handshakes.enabled state action) :=
  inferInstanceAs (Decidable (state.enabled action))

inductive Shape (opener : Side) : Link → Prop
  | connecting {state : ConnectState} (waits : state = .connwait ∨ state = .readywait) :
      Shape opener ⟨opener, false, some ⟨state, true⟩, none, [], []⟩
  | greeted {state : ConnectState} (waits : state = .connwait ∨ state = .readywait) :
      Shape opener ⟨opener, true, some ⟨state, true⟩, some ⟨.fresh, false⟩, [.ready], []⟩
  | asked :
      Shape opener ⟨opener, true, some ⟨.initwait, true⟩, some ⟨.fresh, false⟩, [], [.init]⟩
  | refused :
      Shape opener ⟨opener, true, some ⟨.initwait, true⟩, none, [.termRequest, .close], []⟩
  | ended : Shape opener ⟨opener, true, some ⟨.initwait, true⟩, none, [.close], []⟩
  | agreed :
      Shape opener ⟨opener, true, some ⟨.initwait, true⟩, some ⟨.up, true⟩, [.initReply], []⟩
  | linked : Shape opener ⟨opener, true, some ⟨.up, true⟩, some ⟨.up, true⟩, [], []⟩
  | gone : Shape opener ⟨opener, true, none, none, [], []⟩

def Link.Refused (link : Link) : Prop := link.accepted = true ∧ link.accepting = none

def Link.Alive (link : Link) : Prop := link.opening.isSome = true ∧ ¬link.Refused

/-- The link at `index` is held by the entries that should hold it. -/
structure Held (conn : Side → Option Nat) (index : Nat) (link : Link) : Prop where
  shape : Shape link.opener link
  opening : conn link.opener = some index ↔ link.opening.isSome = true
  accepting : conn link.opener.other = some index ↔ link.accepting = some ⟨.up, true⟩

structure Orderly (state : Gateways) : Prop where
  links : ∀ index < state.count, Held state.conn index (state.links index)
  entries : ∀ side index, state.conn side = some index → index < state.count

@[simp] theorem Side.other_ne (side : Side) : side.other ≠ side := by
  cases side <;> decide

@[simp] theorem Side.ne_other (side : Side) : side ≠ side.other := by
  cases side <;> decide

@[simp] theorem Side.other_other (side : Side) : side.other.other = side := by
  cases side <;> rfl

theorem Side.eq_or_other (side known : Side) : side = known ∨ side = known.other := by
  cases side <;> cases known <;> decide

section

variable {state : Gateways} {index : Nat}

/-- A step on one link that leaves the entries of the others keeps the order. -/
theorem Orderly.moved (orderly : Orderly state) {after : Gateways} {link : Link}
    (below : index < state.count) (sameCount : after.count = state.count)
    (newLinks : after.links = Function.update state.links index link)
    (others : ∀ side other, other ≠ index →
      (after.conn side = some other ↔ state.conn side = some other))
    (held : Held after.conn index link) : Orderly after := by
  refine ⟨?_, ?_⟩
  · intro other otherBelow
    rw [newLinks]
    rw [sameCount] at otherBelow
    by_cases isOther : other = index
    · simp_all [Function.update_self]
    · rw [Function.update_of_ne isOther]
      have before := orderly.links other otherBelow
      exact ⟨before.shape, (others _ _ isOther).trans before.opening,
        (others _ _ isOther).trans before.accepting⟩
  · intro side other isEntry
    rw [sameCount]
    by_cases isOther : other = index
    · omega
    · exact orderly.entries side other ((others _ _ isOther).mp isEntry)

end

structure Advance (link new : Link) : Prop where
  shape : Shape link.opener new
  opener : new.opener = link.opener
  opening : new.opening.isSome = link.opening.isSome
  accepting : new.accepting = some ⟨.up, true⟩ ↔ link.accepting = some ⟨.up, true⟩
  refused : new.Refused ↔ link.Refused

def attempt (side : Side) : Link := ⟨side, false, some ⟨.connwait, true⟩, none, [], []⟩

inductive Moves (state : Gateways) : Action → Gateways → Prop
  | idle {action : Action} : Moves state action state
  | connects {side : Side} (free : state.conn side = none) :
      Moves state (.connect side)
        { state with
          count := state.count + 1
          links := Function.update state.links state.count (attempt side)
          conn := Function.update state.conn side (some state.count)
          refusedSince := Function.update state.refusedSince side false }
  | advances {action : Action} {index : Nat} {link : Link} (below : index < state.count)
      (advance : Advance (state.links index) link) :
      Moves state action (state.setLink index link)
  | agrees {index : Nat} {opener : Side} (below : index < state.count)
      (asked : state.links index =
        ⟨opener, true, some ⟨.initwait, true⟩, some ⟨.fresh, false⟩, [], [.init]⟩)
      (free : state.conn opener.other = none) :
      Moves state (.deliver index .accepter)
        ((state.setConn opener.other (some index)).setLink index
          ⟨opener, true, some ⟨.initwait, true⟩, some ⟨.up, true⟩, [.initReply], []⟩)
  | refuses {index held : Nat} {opener : Side} (below : index < state.count)
      (asked : state.links index =
        ⟨opener, true, some ⟨.initwait, true⟩, some ⟨.fresh, false⟩, [], [.init]⟩)
      (taken : state.conn opener.other = some held) :
      Moves state (.deliver index .accepter)
        { state.setLink index
            ⟨opener, true, some ⟨.initwait, true⟩, none, [.termRequest, .close], []⟩ with
          refusals := state.refusals ++ [⟨opener.other, index, held⟩]
          refusedSince := Function.update state.refusedSince opener.other true }
  | ends {index : Nat} {opener : Side} (below : index < state.count)
      (ended : state.links index = ⟨opener, true, some ⟨.initwait, true⟩, none, [.close], []⟩) :
      Moves state (.deliver index .opener)
        ((state.setConn opener none).setLink index ⟨opener, true, none, none, [], []⟩)

variable {link : Link} {role : Role} {action : Action}

section

variable {state : Gateways} {index : Nat}

@[simp] theorem Gateways.setLink_self (state : Gateways) (index : Nat) (link : Link) :
    (state.setLink index link).links index = link := Function.update_self ..

@[simp] theorem Gateways.setLink_conn (state : Gateways) (index : Nat) (link : Link) :
    (state.setLink index link).conn = state.conn := rfl

@[simp] theorem Gateways.setLink_refusals (state : Gateways) (index : Nat) (link : Link) :
    (state.setLink index link).refusals = state.refusals := rfl

@[simp] theorem Gateways.setLink_refusedSince (state : Gateways) (index : Nat) (link : Link) :
    (state.setLink index link).refusedSince = state.refusedSince := rfl

@[simp] theorem Gateways.setLink_setLink (state : Gateways) (index : Nat) (link new : Link) :
    (state.setLink index link).setLink index new = state.setLink index new := by
  rw [Gateways.setLink, Gateways.setLink, Gateways.setLink, Function.update_idem]

@[simp] theorem Gateways.setLink_setConn (state : Gateways) (index : Nat) (link : Link)
    (side : Side) (conn : Option Nat) :
    (state.setLink index link).setConn side conn = (state.setConn side conn).setLink index link :=
  rfl

theorem Gateways.deliver_head {conn : LinkEnd} {message : PeerMessage} {rest : List PeerMessage}
    (isLink : state.links index = link) (isOpen : link.endAt role = some conn)
    (isHead : link.waiting role = message :: rest) :
    state.deliver index role =
      (state.setLink index (link.setWaiting role rest)).srbDoMessage index role conn message := by
  rw [Gateways.deliver, isLink, isOpen, isHead]

theorem Orderly.accepts (orderly : Orderly state) (below : index < state.count)
    (fresh : (state.links index).accepted = false) :
    Moves state (.accept index) (state.accept index) := by
  have shape := (orderly.links index below).shape
  generalize (state.links index).opener = opener at shape
  generalize isLink : state.links index = link at shape fresh
  cases shape with
  | @connecting waiting waits =>
      have greets : state.accept index = state.setLink index
          ⟨opener, true, some ⟨waiting, true⟩, some ⟨.fresh, false⟩, [.ready], []⟩ := by
        rw [Gateways.accept, isLink]
        rfl
      rw [greets]
      refine .advances below ?_
      rw [isLink]
      exact ⟨.greeted waits, rfl, rfl, by simp, by simp [Link.Refused]⟩
  | greeted | asked | refused | ended | agreed | linked | gone => cases fresh

theorem Orderly.connected (orderly : Orderly state) (below : index < state.count) :
    Moves state (.writable index) (state.writeCondition index) := by
  have shape := (orderly.links index below).shape
  generalize (state.links index).opener = opener at shape
  generalize isLink : state.links index = link at shape
  cases shape with
  | connecting waits =>
      rcases waits with rfl | rfl
      · rw [Gateways.writeCondition, isLink]
        refine .advances below ?_
        rw [isLink]
        exact ⟨.connecting (Or.inr rfl), rfl, rfl, Iff.rfl, Iff.rfl⟩
      · rw [Gateways.writeCondition, isLink]
        exact .idle
  | greeted waits =>
      rcases waits with rfl | rfl
      · rw [Gateways.writeCondition, isLink]
        refine .advances below ?_
        rw [isLink]
        exact ⟨.greeted (Or.inr rfl), rfl, rfl, Iff.rfl, Iff.rfl⟩
      · rw [Gateways.writeCondition, isLink]
        exact .idle
  | asked | refused | ended | agreed | linked | gone =>
      rw [Gateways.writeCondition, isLink]
      exact .idle

theorem Orderly.opener_reads (orderly : Orderly state) (below : index < state.count)
    (waits : (state.links index).waiting .opener ≠ []) :
    Moves state (.deliver index .opener) (state.deliver index .opener) := by
  have held := orderly.links index below
  have shape := held.shape
  have openEntry := held.opening
  generalize isOpener : (state.links index).opener = opener at shape openEntry
  generalize isLink : state.links index = link at shape waits openEntry
  cases shape with
  | greeted _ =>
      have sent : state.deliver index .opener = state.setLink index
          ⟨opener, true, some ⟨.initwait, true⟩, some ⟨.fresh, false⟩, [], [.init]⟩ := by
        rw [Gateways.deliver_head isLink rfl rfl]
        simp only [Gateways.srbDoMessage, Gateways.srbready, if_true, Gateways.setLink_self,
          Gateways.setLink_setLink]
        rfl
      rw [sent]
      refine .advances below ?_
      rw [isLink]
      exact ⟨.asked, rfl, rfl, Iff.rfl, Iff.rfl⟩
  | refused =>
      have rejected : state.deliver index .opener = state.setLink index
          ⟨opener, true, some ⟨.initwait, true⟩, none, [.close], []⟩ := by
        rw [Gateways.deliver_head isLink rfl rfl]
        simp only [Gateways.srbDoMessage, reduceCtorEq, if_false, Gateways.setLink_self,
          Gateways.setLink_setLink]
        rfl
      rw [rejected]
      refine .advances below ?_
      rw [isLink]
      exact ⟨.ended, rfl, rfl, Iff.rfl, Iff.rfl⟩
  | ended =>
      have closed : state.deliver index .opener =
          (state.setConn opener none).setLink index ⟨opener, true, none, none, [], []⟩ := by
        have isEntry : state.conn opener = some index := openEntry.mpr rfl
        rw [Gateways.deliver_head isLink rfl rfl]
        simp only [Gateways.srbDoMessage, Gateways.tcpcloseconnection, Gateways.gwClosegateway,
          Link.side, Link.setWaiting, isEntry, if_true, Gateways.setLink_self,
          Gateways.setLink_conn, Gateways.setLink_setConn, Gateways.setLink_setLink]
        rfl
      rw [closed]
      exact .ends below isLink
  | agreed =>
      have up : state.deliver index .opener = state.setLink index
          ⟨opener, true, some ⟨.up, true⟩, some ⟨.up, true⟩, [], []⟩ := by
        rw [Gateways.deliver_head isLink rfl rfl]
        simp only [Gateways.srbDoMessage, Gateways.setLink_self, Gateways.setLink_setLink]
        rfl
      rw [up]
      refine .advances below ?_
      rw [isLink]
      exact ⟨.linked, rfl, rfl, Iff.rfl, Iff.rfl⟩
  | connecting | asked | linked | gone => exact absurd rfl waits

/-- An `INIT` that meets another connection in the entry. -/
theorem Gateways.deliver_refuses {opener : Side} {held : Nat}
    (asked : state.links index =
      ⟨opener, true, some ⟨.initwait, true⟩, some ⟨.fresh, false⟩, [], [.init]⟩)
    (taken : state.conn opener.other = some held) (isOther : held ≠ index) :
    state.deliver index .accepter =
      { state.setLink index
          ⟨opener, true, some ⟨.initwait, true⟩, none, [.termRequest, .close], []⟩ with
        refusals := state.refusals ++ [⟨opener.other, index, held⟩]
        refusedSince := Function.update state.refusedSince opener.other true } := by
  rw [Gateways.deliver_head asked rfl rfl]
  simp only [Gateways.srbDoMessage, Gateways.srbinitRequest, Gateways.connDel, Link.side,
    Link.setWaiting, Link.send, Link.endAt, Role.other, Link.waiting, taken, isOther,
    Option.some.injEq, if_false, List.nil_append, Gateways.setLink_self, Gateways.setLink_conn,
    Gateways.setLink_refusals, Gateways.setLink_refusedSince, Gateways.setLink_setLink]
  rfl

theorem Orderly.accepter_reads (orderly : Orderly state) (below : index < state.count)
    (waits : (state.links index).waiting .accepter ≠ []) :
    Moves state (.deliver index .accepter) (state.deliver index .accepter) := by
  have held := orderly.links index below
  have shape := held.shape
  have acceptEntry := held.accepting
  generalize isOpener : (state.links index).opener = opener at shape acceptEntry
  generalize isLink : state.links index = link at shape waits acceptEntry
  cases shape with
  | asked =>
      have notEntry : state.conn opener.other ≠ some index := by
        simp_all
      cases entry : state.conn opener.other with
      | none =>
          have agreed : state.deliver index .accepter =
              (state.setConn opener.other (some index)).setLink index
                ⟨opener, true, some ⟨.initwait, true⟩, some ⟨.up, true⟩, [.initReply], []⟩ := by
            rw [Gateways.deliver_head isLink rfl rfl]
            simp only [Gateways.srbDoMessage, Gateways.srbinitRequest, Link.side, Link.setWaiting,
              entry, Gateways.setLink_self, Gateways.setLink_conn, Gateways.setLink_setConn,
              Gateways.setLink_setLink]
            rfl
          rw [agreed]
          exact .agrees below isLink entry
      | some other =>
          have isOther : other ≠ index := by
            simp_all
          rw [Gateways.deliver_refuses isLink entry isOther]
          exact .refuses below isLink entry
  | connecting | greeted | refused | ended | agreed | linked | gone => exact absurd rfl waits

/-- All that a step can do while the links are in order. -/
theorem Orderly.moves (orderly : Orderly state) (isEnabled : state.enabled action) :
    Moves state action (state.step action) := by
  cases action with
  | connect side =>
      change Moves state _ (state.gwConnectpeer side)
      cases entry : state.conn side with
      | none =>
          rw [Gateways.gwConnectpeer, entry]
          exact .connects entry
      | some held =>
          rw [Gateways.gwConnectpeer, entry]
          exact .idle
  | accept index => exact orderly.accepts isEnabled.1 isEnabled.2
  | writable index => exact orderly.connected isEnabled
  | deliver index role =>
      cases role with
      | opener => exact orderly.opener_reads isEnabled.1 isEnabled.2
      | accepter => exact orderly.accepter_reads isEnabled.1 isEnabled.2

theorem entry_others {conn : Side → Option Nat} {side : Side} {new : Option Nat} {other : Nat}
    (before : conn side ≠ some other) (after : new ≠ some other) (any : Side) :
    Function.update conn side new any = some other ↔ conn any = some other := by
  grind

theorem Orderly.connects (orderly : Orderly state) {side : Side} (free : state.conn side = none)
    (since : Side → Bool) :
    Orderly
      { state with
        count := state.count + 1
        links := Function.update state.links state.count (attempt side)
        conn := Function.update state.conn side (some state.count)
        refusedSince := since } := by
  have others (other : Nat) (isOther : other ≠ state.count) (any : Side) :
      Function.update state.conn side (some state.count) any = some other ↔
        state.conn any = some other := by
    refine entry_others ?_ ?_ any
    · simp [free]
    · grind
  refine ⟨?_, ?_⟩
  · intro index below
    by_cases isNew : index = state.count
    · subst isNew
      change Held _ _ (Function.update state.links state.count (attempt side) _)
      rw [Function.update_self]
      refine ⟨.connecting (Or.inl rfl), ?_, ?_⟩
      · exact ⟨fun _ => rfl, fun _ => Function.update_self ..⟩
      · refine ⟨fun isEntry => ?_, fun isUp => by cases isUp⟩
        change Function.update state.conn side _ side.other = _ at isEntry
        rw [Function.update_of_ne side.other_ne] at isEntry
        exact absurd (orderly.entries _ _ isEntry) (Nat.lt_irrefl _)
    · have before := orderly.links index (Nat.lt_of_le_of_ne (Nat.le_of_lt_succ below) isNew)
      grind [Function.update_of_ne, Held, Function.update]
  · intro any index isEntry
    by_cases isNew : index = state.count
    · simp [isNew]
    · exact Nat.lt_succ_of_lt (orderly.entries any index ((others _ isNew _).mp isEntry))

theorem Moves.orderly {after : Gateways} (moves : Moves state action after)
    (orderly : Orderly state) : Orderly after := by
  cases moves with
  | idle => exact orderly
  | connects free => exact orderly.connects free _
  | @advances _ index link below advance =>
      have held := orderly.links index below
      refine orderly.moved below rfl rfl (fun _ _ _ => Iff.rfl) ⟨?_, ?_, ?_⟩
      · simp [advance.opener, advance.shape]
      · simp [advance.opener, advance.opening, held.opening]
      · simp [advance.opener, advance.accepting, held.accepting]
  | @agrees index opener below asked free =>
      have held := orderly.links index below
      rw [asked] at held
      refine orderly.moved below rfl rfl ?_ ⟨.agreed, ?_, ?_⟩
      · intro side other isOther
        refine entry_others ?_ ?_ side
        · simp [free]
        · grind
      · change Function.update state.conn opener.other _ opener = _ ↔ _
        simp [Function.update_of_ne, held.opening]
      · exact ⟨fun _ => rfl, fun _ => Function.update_self ..⟩
  | @refuses index entry opener below asked taken =>
      have held := orderly.links index below
      rw [asked] at held
      refine orderly.moved below rfl rfl (fun _ _ _ => Iff.rfl) ⟨.refused, held.opening, ?_⟩
      refine ⟨fun isEntry => ?_, fun isUp => by cases isUp⟩
      cases held.accepting.mp isEntry
  | @ends index opener below ended =>
      have held := orderly.links index below
      rw [ended] at held
      have isEntry : state.conn opener = some index := held.opening.mpr rfl
      refine orderly.moved below rfl rfl ?_ ⟨.gone, ?_, ?_⟩
      · intro side other isOther
        refine entry_others ?_ ?_ side
        · grind
        · exact (Option.some_ne_none other).symm
      · refine ⟨fun isEntry => ?_, fun isOpen => by cases isOpen⟩
        change Function.update state.conn opener none opener = _ at isEntry
        rw [Function.update_self] at isEntry
        cases isEntry
      · change Function.update state.conn opener none opener.other = _ ↔ _
        simp [Function.update_of_ne, held.accepting]

theorem reachable_orderly {condition : Gateways → Action → Prop}
    (reachable : handshakes.Reachable condition state) : Orderly state := by
  apply reachable.holds
  · rintro _ rfl
    exact ⟨fun _ below => absurd below (Nat.not_lt_zero _), fun _ _ isEntry => by cases isEntry⟩
  · intro before action next orderly isEnabled _ stepped
    cases stepped
    exact (orderly.moves isEnabled).orderly orderly

end

def Link.endOf (link : Link) (side : Side) : Option LinkEnd :=
  if side = link.opener then link.opening else link.accepting

def Link.waitingFor (link : Link) (side : Side) : List PeerMessage :=
  if side = link.opener then link.toOpener else link.toAccepter

/-- When an `INIT` is handled, the connection in the entry, if any, was not closed by the
peer: no close of it is under way. -/
def Gateways.CloseHandled (state : Gateways) : Action → Prop
  | .deliver index role =>
      ((state.links index).waiting role).head? = some .init →
        ∀ held, state.conn ((state.links index).side role) = some held →
          PeerMessage.close ∉ (state.links held).waitingFor ((state.links index).side role)
  | .connect _ | .accept _ | .writable _ => True

/-- No two gateways refused each other's `INIT`, each for the attempt the other refused. -/
def Gateways.NoMutualRefusal (state : Gateways) : Prop :=
  ∀ first ∈ state.refusals, ∀ second ∈ state.refusals,
    ¬(first.refuser ≠ second.refuser ∧ first.refused = second.held ∧ second.refused = first.held)

def Gateways.Quiet (state : Gateways) : Prop :=
  ∀ index < state.count, (state.links index).toOpener = [] ∧ (state.links index).toAccepter = [] ∧
    ∀ conn, (state.links index).opening = some conn → conn.state = .up

/-- Each gateway has one open connection to the other, and they are the ends of one link. -/
def Gateways.OneLink (state : Gateways) : Prop :=
  ∃ index < state.count, ∀ side, state.conn side = some index ∧
    ∀ other < state.count, ((state.links other).endOf side).isSome = true ↔ other = index

/-- Neither has a connection to the other, or has refused one since it last tried. -/
def Gateways.Untied (state : Gateways) : Prop :=
  ∀ side, state.conn side = none ∧ state.refusedSince side = false ∧
    ∀ index < state.count, (state.links index).endOf side = none

/-- What the refusals of a run have left. A link that was refused and whose opener does not
know it yet was refused for the attempt that the refuser still has. -/
structure Settling (state : Gateways) : Prop where
  refused : ∀ refusal ∈ state.refusals,
    refusal.refused < state.count ∧ (state.links refusal.refused).Refused
  answered : ∀ index < state.count, (state.links index).Refused →
    (state.links index).opening.isSome = true → ∃ held,
      ⟨(state.links index).opener.other, index, held⟩ ∈ state.refusals ∧
        state.conn (state.links index).opener.other = some held
  apart : state.NoMutualRefusal
  since : ∀ side, state.refusedSince side = true → ∃ index < state.count, (state.links index).Alive

structure Kin (link new : Link) : Prop where
  opener : new.opener = link.opener
  opening : new.opening.isSome = link.opening.isSome
  refused : new.Refused ↔ link.Refused

section

variable {state after : Gateways} {index held : Nat} {opener : Side}

theorem Kin.refl (link : Link) : Kin link link := ⟨rfl, rfl, Iff.rfl⟩

theorem Kin.update (kin : Kin (state.links index) link) (other : Nat) :
    Kin (state.links other) (Function.update state.links index link other) := by
  grind [Function.update_self, Function.update_of_ne, Kin.refl]

theorem Kin.alive {new : Link} (kin : Kin link new) (alive : link.Alive) : new.Alive := by
  refine ⟨?_, fun isRefused => alive.2 (kin.refused.mp isRefused)⟩
  rw [kin.opening]
  exact alive.1

/-- A step that refuses nothing and empties no entry. -/
theorem Settling.kept (settling : Settling state) (sameCount : after.count = state.count)
    (kin : ∀ index, Kin (state.links index) (after.links index))
    (entries : ∀ side held, state.conn side = some held → after.conn side = some held)
    (sameRefusals : after.refusals = state.refusals)
    (sameSince : after.refusedSince = state.refusedSince) : Settling after := by
  refine ⟨?_, ?_, ?_, ?_⟩
  · intro refusal isRefusal
    rw [sameRefusals] at isRefusal
    have before := settling.refused refusal isRefusal
    rw [sameCount]
    exact ⟨before.1, (kin _).refused.mpr before.2⟩
  · intro index below isRefused isOpen
    rw [sameCount] at below
    rw [(kin index).opening] at isOpen
    rw [(kin index).opener, sameRefusals]
    rcases settling.answered index below ((kin index).refused.mp isRefused) isOpen with
      ⟨held, isRefusal, isEntry⟩
    exact ⟨held, isRefusal, entries _ _ isEntry⟩
  · rw [Gateways.NoMutualRefusal, sameRefusals]
    exact settling.apart
  · intro side since
    rw [sameSince] at since
    rcases settling.since side since with ⟨index, below, alive⟩
    rw [sameCount]
    exact ⟨index, below, (kin index).alive alive⟩

theorem Settling.connects (settling : Settling state) {side : Side}
    (free : state.conn side = none) :
    Settling
      { state with
        count := state.count + 1
        links := Function.update state.links state.count (attempt side)
        conn := Function.update state.conn side (some state.count)
        refusedSince := Function.update state.refusedSince side false } := by
  have old (index : Nat) (below : index < state.count) :
      Function.update state.links state.count (attempt side) index = state.links index :=
    Function.update_of_ne (Nat.ne_of_lt below) ..
  refine ⟨?_, ?_, settling.apart, ?_⟩
  · intro refusal isRefusal
    have before := settling.refused refusal isRefusal
    grind
  · intro index below
    change (Function.update state.links state.count (attempt side) index).Refused →
      (Function.update state.links state.count (attempt side) index).opening.isSome = true →
      ∃ held, ⟨(Function.update state.links state.count (attempt side) index).opener.other, index,
        held⟩ ∈ state.refusals ∧ Function.update state.conn side (some state.count)
          (Function.update state.links state.count (attempt side) index).opener.other = some held
    intro isRefused isOpen
    by_cases isNew : index = state.count
    · subst isNew
      rw [Function.update_self] at isRefused
      cases isRefused.1
    · rw [Function.update_of_ne isNew] at isRefused isOpen ⊢
      have below : index < state.count := Nat.lt_of_le_of_ne (Nat.le_of_lt_succ below) isNew
      rcases settling.answered index below isRefused isOpen with ⟨held, isRefusal, isEntry⟩
      grind
  · intro any since
    have isOther : any ≠ side := by
      grind
    change Function.update state.refusedSince side false any = true at since
    rw [Function.update_of_ne isOther] at since
    rcases settling.since any since with ⟨index, below, alive⟩
    grind

/-- The entry of a gateway that is asked holds an attempt of its own. -/
theorem Orderly.own_attempt (orderly : Orderly state) (below : index < state.count)
    (asked : state.links index =
      ⟨opener, true, some ⟨.initwait, true⟩, some ⟨.fresh, false⟩, [], [.init]⟩)
    (taken : state.conn opener.other = some held) :
    held ≠ index ∧ held < state.count ∧ (state.links held).opener = opener.other ∧
      (state.links held).opening.isSome = true := by
  have askedHeld := orderly.links index below
  rw [asked] at askedHeld
  have isOther : held ≠ index := by
    rintro rfl
    cases askedHeld.accepting.mp taken
  have heldBelow := orderly.entries _ _ taken
  have entry := orderly.links held heldBelow
  have isOwn : (state.links held).opener = opener.other := by
    rcases Side.eq_or_other (state.links held).opener opener.other with isOwn | isTheirs
    · exact isOwn
    · -- it would be up at this end, but the entry of the other end holds the attempt
      rw [Side.other_other] at isTheirs
      have shape := entry.shape
      have isUp := entry.accepting.mp (by rw [isTheirs]; exact taken)
      have isOpen : (state.links held).opening.isSome = true := by
        generalize (state.links held).opener = any at shape
        generalize state.links held = link at shape isUp
        cases shape <;> first | rfl | cases isUp
      have theirs := entry.opening.mpr isOpen
      simp_all [askedHeld.opening.mpr]
  simp [isOwn, taken, isOther, heldBelow, entry.opening.mp]

theorem Shape.refused_iff_close (shape : Shape link.opener link)
    (isOpen : link.opening.isSome = true) :
    link.Refused ↔ PeerMessage.close ∈ link.waitingFor link.opener := by
  rw [Link.waitingFor, if_pos rfl]
  generalize link.opener = opener at shape
  cases shape with
  | connecting | greeted | asked | refused | ended | agreed | linked => simp [Link.Refused]
  | gone => cases isOpen

theorem Settling.refuses (settling : Settling state) (orderly : Orderly state)
    (below : index < state.count)
    (asked : state.links index =
      ⟨opener, true, some ⟨.initwait, true⟩, some ⟨.fresh, false⟩, [], [.init]⟩)
    (taken : state.conn opener.other = some held)
    (noClose : PeerMessage.close ∉ (state.links held).waitingFor opener.other) :
    Settling
      { state.setLink index
          ⟨opener, true, some ⟨.initwait, true⟩, none, [.termRequest, .close], []⟩ with
        refusals := state.refusals ++ [⟨opener.other, index, held⟩]
        refusedSince := Function.update state.refusedSince opener.other true } := by
  rcases orderly.own_attempt below asked taken with ⟨isOther, heldBelow, isOwn, isOpen⟩
  have notRefused : ¬(state.links held).Refused := by
    rw [(orderly.links held heldBelow).shape.refused_iff_close isOpen, isOwn]
    exact noClose
  have stillAsked : ¬(state.links index).Refused := by
    rw [asked]
    rintro ⟨_, isNone⟩
    cases isNone
  have new : (state.setLink index
      ⟨opener, true, some ⟨.initwait, true⟩, none, [.termRequest, .close], []⟩).links index =
        ⟨opener, true, some ⟨.initwait, true⟩, none, [.termRequest, .close], []⟩ :=
    Gateways.setLink_self ..
  have old (other : Nat) (differs : other ≠ index) : (state.setLink index
      ⟨opener, true, some ⟨.initwait, true⟩, none, [.termRequest, .close], []⟩).links other =
        state.links other := Function.update_of_ne differs ..
  refine ⟨?_, ?_, ?_, ?_⟩
  · intro refusal isRefusal
    rcases List.mem_append.mp isRefusal with isOld | isNew
    · have before := settling.refused refusal isOld
      have differs : refusal.refused ≠ index := by
        grind
      refine ⟨before.1, ?_⟩
      rw [old _ differs]
      exact before.2
    · rw [List.mem_singleton.mp isNew]
      refine ⟨below, ?_⟩
      rw [new]
      exact ⟨rfl, rfl⟩
  · intro other otherBelow isRefused otherOpen
    by_cases same : other = index
    · simp_all
    · rw [old _ same] at isRefused otherOpen ⊢
      rcases settling.answered other otherBelow isRefused otherOpen with
        ⟨entry, isRefusal, isEntry⟩
      exact ⟨entry, List.mem_append_left _ isRefusal, isEntry⟩
  · rintro first isFirst second isSecond ⟨differ, firstHeld, secondHeld⟩
    rcases List.mem_append.mp isFirst with firstOld | firstNew
    · rcases List.mem_append.mp isSecond with secondOld | secondNew
      · exact settling.apart first firstOld second secondOld ⟨differ, firstHeld, secondHeld⟩
      · rw [List.mem_singleton.mp secondNew] at firstHeld
        have isRefused := (settling.refused first firstOld).2
        simp [firstHeld, notRefused] at isRefused
    · rw [List.mem_singleton.mp firstNew] at secondHeld differ
      rcases List.mem_append.mp isSecond with secondOld | secondNew
      · have isRefused := (settling.refused second secondOld).2
        simp [secondHeld, notRefused] at isRefused
      · simp_all
  · intro _ _
    refine ⟨held, heldBelow, ?_⟩
    rw [old held isOther]
    exact ⟨isOpen, notRefused⟩

theorem Settling.ends (settling : Settling state) (orderly : Orderly state)
    (below : index < state.count)
    (ended : state.links index = ⟨opener, true, some ⟨.initwait, true⟩, none, [.close], []⟩) :
    Settling ((state.setConn opener none).setLink index ⟨opener, true, none, none, [], []⟩) := by
  have isEntry : state.conn opener = some index := by
    have entry := (orderly.links index below).opening
    rw [ended] at entry
    exact entry.mpr rfl
  have wasRefused : (state.links index).Refused := by
    rw [ended]
    exact ⟨rfl, rfl⟩
  have new : ((state.setConn opener none).setLink index ⟨opener, true, none, none, [], []⟩).links
      index = ⟨opener, true, none, none, [], []⟩ := Gateways.setLink_self ..
  have old (other : Nat) (differs : other ≠ index) :
      ((state.setConn opener none).setLink index ⟨opener, true, none, none, [], []⟩).links other =
        state.links other := Function.update_of_ne differs ..
  refine ⟨?_, ?_, settling.apart, ?_⟩
  · intro refusal isRefusal
    have before := settling.refused refusal isRefusal
    refine ⟨before.1, ?_⟩
    by_cases same : refusal.refused = index
    · rw [same, new]
      exact ⟨rfl, rfl⟩
    · simp_all
  · intro other otherBelow isRefused otherOpen
    have differs : other ≠ index := by
      grind
    rw [old _ differs] at isRefused otherOpen ⊢
    rcases settling.answered other otherBelow isRefused otherOpen with ⟨held, isRefusal, heldEntry⟩
    have isOther : (state.links other).opener.other ≠ opener := by
      -- each would have been refused for the other
      intro same
      rw [same] at isRefusal heldEntry
      have isHeld : held = index := Option.some.inj (heldEntry.symm.trans isEntry)
      have isTheirs : (state.links other).opener = opener.other := by
        rw [← same, Side.other_other]
      have indexOpen : (state.links index).opening.isSome = true := by rw [ended]; rfl
      rcases settling.answered index below wasRefused indexOpen with ⟨theirs, alsoRefusal, theirEntry⟩
      have isOpener : (state.links index).opener = opener := by rw [ended]
      rw [isOpener] at alsoRefusal theirEntry
      have otherEntry := (orderly.links other otherBelow).opening.mpr otherOpen
      rw [isTheirs, theirEntry] at otherEntry
      have isOtherHeld : theirs = other := Option.some.inj otherEntry
      exact settling.apart _ isRefusal _ alsoRefusal ⟨opener.ne_other, isOtherHeld.symm, isHeld.symm⟩
    refine ⟨held, isRefusal, ?_⟩
    change Function.update state.conn opener none _ = some held
    rw [Function.update_of_ne isOther]
    exact heldEntry
  · intro side since
    rcases settling.since side since with ⟨alive, aliveBelow, isAlive⟩
    refine ⟨alive, aliveBelow, ?_⟩
    rw [old]
    · exact isAlive
    · rintro rfl
      exact isAlive.2 wasRefused

theorem Moves.settling (moves : Moves state action after) (orderly : Orderly state)
    (closeHandled : state.CloseHandled action) (settling : Settling state) : Settling after := by
  cases moves with
  | idle => exact settling
  | connects free => exact settling.connects free
  | advances below advance =>
      have kin : Kin _ _ := ⟨advance.opener, advance.opening, advance.refused⟩
      exact settling.kept rfl kin.update (fun _ _ isEntry => isEntry) rfl rfl
  | @agrees index opener below asked free =>
      have kin : Kin (state.links index)
          ⟨opener, true, some ⟨.initwait, true⟩, some ⟨.up, true⟩, [.initReply], []⟩ := by
        rw [asked]
        exact ⟨rfl, rfl, by simp [Link.Refused]⟩
      refine settling.kept rfl kin.update ?_ rfl rfl
      intro side held isEntry
      change Function.update state.conn opener.other (some index) side = some held
      grind
  | @refuses index held opener below asked taken =>
      refine settling.refuses orderly below asked taken ?_
      rw [Gateways.CloseHandled, asked] at closeHandled
      exact closeHandled rfl held taken
  | ends below ended => exact settling.ends orderly below ended

theorem reachable_settling (reachable : handshakes.Reachable Gateways.CloseHandled state) :
    Orderly state ∧ Settling state := by
  apply reachable.holds
  · rintro _ rfl
    have isStart : handshakes.Reachable Gateways.CloseHandled noLinks := .start rfl
    refine ⟨reachable_orderly isStart, ?_, ?_, ?_, ?_⟩
    · intro _ isRefusal
      cases isRefusal
    · intro _ below
      exact absurd below (Nat.not_lt_zero _)
    · intro _ isRefusal
      cases isRefusal
    · intro _ since
      cases since
  · rintro before action next ⟨orderly, settling⟩ isEnabled closeHandled stepped
    cases stepped
    have moves := orderly.moves isEnabled
    exact ⟨moves.orderly orderly, moves.settling orderly closeHandled settling⟩

theorem Shape.asked_of_init (shape : Shape opener link)
    (isInit : (link.waiting role).head? = some .init) :
    role = .accepter ∧
      link = ⟨opener, true, some ⟨.initwait, true⟩, some ⟨.fresh, false⟩, [], [.init]⟩ := by
  cases role with
  | opener => cases shape <;> cases isInit
  | accepter =>
      cases shape with
      | asked => exact ⟨rfl, rfl⟩
      | connecting | greeted | refused | ended | agreed | linked | gone => cases isInit

/-- Refusing for a connection that the peer has closed is refusing the link for which it
did so. -/
theorem Settling.mutual (settling : Settling state) (orderly : Orderly state)
    (below : index < state.count) (isInit : ((state.links index).waiting role).head? = some .init)
    (taken : state.conn ((state.links index).side role) = some held)
    (closed : PeerMessage.close ∈ (state.links held).waitingFor ((state.links index).side role)) :
    ¬(state.deliver index role).NoMutualRefusal := by
  rcases (orderly.links index below).shape.asked_of_init isInit with ⟨rfl, asked⟩
  generalize (state.links index).opener = opener at asked
  have isSide : (state.links index).side .accepter = opener.other := by rw [asked]; rfl
  rw [isSide] at taken closed
  rcases orderly.own_attempt below asked taken with ⟨isOther, heldBelow, isOwn, isOpen⟩
  have heldRefused : (state.links held).Refused := by
    rw [(orderly.links held heldBelow).shape.refused_iff_close isOpen, isOwn]
    exact closed
  rcases settling.answered held heldBelow heldRefused isOpen with ⟨theirs, isRefusal, isEntry⟩
  rw [isOwn, Side.other_other] at isRefusal isEntry
  have askedEntry : state.conn opener = some index := by
    have entry := (orderly.links index below).opening
    rw [asked] at entry
    exact entry.mpr rfl
  have isIndex : theirs = index := Option.some.inj (isEntry.symm.trans askedEntry)
  rw [Gateways.deliver_refuses asked taken isOther]
  intro apart
  exact apart _ (List.mem_append_left _ isRefusal) _
    (List.mem_append_right _ (List.mem_singleton.mpr rfl)) ⟨opener.ne_other, rfl, isIndex.symm⟩

theorem Shape.quiet (shape : Shape opener link) (noneToOpener : link.toOpener = [])
    (noneToAccepter : link.toAccepter = [])
    (notPending : ∀ conn, link.opening = some conn → conn.state = .up) :
    link = ⟨opener, true, some ⟨.up, true⟩, some ⟨.up, true⟩, [], []⟩ ∨
      link = ⟨opener, true, none, none, [], []⟩ := by
  cases shape with
  | connecting waits =>
      simp_all
  | linked => exact Or.inl rfl
  | gone => exact Or.inr rfl
  | greeted | refused | ended | agreed => cases noneToOpener
  | asked => cases noneToAccepter

theorem Orderly.quiet (orderly : Orderly state) (quiet : state.Quiet) (below : index < state.count) :
    (∃ opener, state.links index =
        ⟨opener, true, some ⟨.up, true⟩, some ⟨.up, true⟩, [], []⟩ ∧
        ∀ side, state.conn side = some index) ∨
      ∃ opener, state.links index = ⟨opener, true, none, none, [], []⟩ := by
  have entry := orderly.links index below
  rcases quiet index below with ⟨noneToOpener, noneToAccepter, notPending⟩
  rcases entry.shape.quiet noneToOpener noneToAccepter notPending with isLinked | isGone
  · refine Or.inl ⟨_, isLinked, ?_⟩
    intro side
    rcases Side.eq_or_other side (state.links index).opener with isOpener | isAccepter
    · rw [isOpener, entry.opening, isLinked]
      rfl
    · rw [isAccepter, entry.accepting, isLinked]
  · exact Or.inr ⟨_, isGone⟩

theorem Orderly.oneLink (orderly : Orderly state) (quiet : state.Quiet)
    (below : index < state.count)
    (isLinked : state.links index = ⟨opener, true, some ⟨.up, true⟩, some ⟨.up, true⟩, [], []⟩)
    (entries : ∀ side, state.conn side = some index) : state.OneLink := by
  refine ⟨index, below, fun side => ⟨entries side, ?_⟩⟩
  intro other otherBelow
  constructor
  · intro isOpen
    rcases orderly.quiet quiet otherBelow with ⟨_, _, others⟩ | ⟨_, isGone⟩
    · exact Option.some.inj ((others side).symm.trans (entries side))
    · simp [isGone, Link.endOf, ite_self] at isOpen
  · simp_all [Link.endOf, ite_self]

theorem Settling.untied (settling : Settling state) (orderly : Orderly state)
    (allGone : ∀ index < state.count, ∃ opener,
      state.links index = ⟨opener, true, none, none, [], []⟩) : state.Untied := by
  intro side
  refine ⟨?_, ?_, ?_⟩
  · cases isEntry : state.conn side with
    | none => rfl
    | some index =>
        have below := orderly.entries side index isEntry
        have entry := orderly.links index below
        rcases allGone index below with ⟨opener, isGone⟩
        rw [isGone] at entry
        rcases Side.eq_or_other side opener with rfl | rfl
        · cases entry.opening.mp isEntry
        · cases entry.accepting.mp isEntry
  · cases since : state.refusedSince side with
    | false => rfl
    | true =>
        rcases settling.since side since with ⟨index, below, alive⟩
        rcases allGone index below with ⟨opener, isGone⟩
        rw [isGone] at alive
        cases alive.1
  · intro index below
    rcases allGone index below with ⟨opener, isGone⟩
    rw [isGone, Link.endOf, ite_self]

end

/-- In a run in which no `INIT` meets an entry whose close is under way, the gateways never
refuse each other for their own attempts, and when all is quiet they have one link, or none
and nothing refused. The first step that does not keep to this is a mutual refusal. -/
theorem peers_link_or_rest {state : Gateways}
    (reachable : handshakes.Reachable Gateways.CloseHandled state) :
    state.NoMutualRefusal ∧ (state.Quiet → state.OneLink ∨ state.Untied) ∧
      ∀ action, state.enabled action →
        (state.CloseHandled action ↔ (state.step action).NoMutualRefusal) := by
  rcases reachable_settling reachable with ⟨orderly, settling⟩
  refine ⟨settling.apart, ?_, ?_⟩
  · intro quiet
    by_cases someLink : ∃ index < state.count, ∀ side, state.conn side = some index
    · rcases someLink with ⟨index, below, entries⟩
      rcases orderly.quiet quiet below with ⟨opener, isLinked, _⟩ | ⟨opener, isGone⟩
      · exact Or.inl (orderly.oneLink quiet below isLinked entries)
      · have entry := (orderly.links index below).opening.mp (entries _)
        rw [isGone] at entry
        cases entry
    · refine Or.inr (settling.untied orderly ?_)
      intro index below
      rcases orderly.quiet quiet below with ⟨_, _, entries⟩ | isGone
      · exact absurd ⟨index, below, entries⟩ someLink
      · exact isGone
  · intro action isEnabled
    constructor
    · intro closeHandled
      exact ((orderly.moves isEnabled).settling orderly closeHandled settling).apart
    · intro apart
      cases action with
      | deliver index role =>
          intro isInit held taken closed
          exact settling.mutual orderly isEnabled.1 isInit taken closed apart
      | connect | accept | writable => trivial

def oneAttempt : List Action :=
  [.connect .left, .accept 0, .writable 0, .deliver 0 .opener, .deliver 0 .accepter,
    .deliver 0 .opener]

theorem oneAttempt_reachable : handshakes.Reachable Gateways.CloseHandled
    (oneAttempt.foldl handshakes.next noLinks) := by
  refine (Machine.Reachable.start rfl).runs ?_
  refine ⟨trivial, trivial, rfl, by decide, trivial, rfl, by decide, trivial, rfl, by decide, ?_, rfl,
    by decide, ?_, rfl, by decide, ?_, rfl, trivial⟩
  · intro isInit
    cases isInit
  · intro _ held taken
    cases taken
  · intro isInit
    cases isInit

theorem peers_link_or_rest_left :
    (oneAttempt.foldl handshakes.next noLinks).Quiet ∧
      (oneAttempt.foldl handshakes.next noLinks).OneLink := by
  have quiet : (oneAttempt.foldl handshakes.next noLinks).Quiet := by
    intro index below
    have isFirst : index = 0 := Nat.lt_one_iff.mp below
    subst isFirst
    refine ⟨rfl, rfl, ?_⟩
    rintro conn ⟨⟩
    rfl
  refine ⟨quiet, ?_⟩
  rcases (peers_link_or_rest oneAttempt_reachable).2.1 quiet with isLink | isUntied
  · exact isLink
  · cases (isUntied .left).1

/-- Both gateways connect, are greeted and ask; each then handles the other's `INIT`, and
reads the refusal of its own. -/
def twoAttempts : List Action :=
  [.connect .left, .connect .right, .accept 0, .accept 1, .deliver 0 .opener, .deliver 1 .opener,
    .deliver 0 .accepter, .deliver 1 .accepter, .deliver 0 .opener, .deliver 0 .opener,
    .deliver 1 .opener, .deliver 1 .opener]

theorem simultaneous_connects_refused :
    ∃ state, handshakes.Reachable (fun _ _ => True) state ∧ state.Quiet ∧
      ¬state.NoMutualRefusal ∧ ¬(state.OneLink ∨ state.Untied) := by
  refine ⟨twoAttempts.foldl handshakes.next noLinks, ?_, ?_, ?_, ?_⟩
  · refine (Machine.Reachable.start rfl).runs ?_
    refine ⟨trivial, trivial, rfl, trivial, trivial, rfl, by decide, trivial, rfl, by decide, trivial,
      rfl, by decide, trivial, rfl, by decide, trivial, rfl, by decide, trivial, rfl, by decide,
      trivial, rfl, by decide, trivial, rfl, by decide, trivial, rfl, by decide, trivial, rfl,
      by decide, trivial, rfl, trivial⟩
  · intro index below
    have isBelow : index < 2 := below
    obtain rfl | rfl : index = 0 ∨ index = 1 := by omega
    · exact ⟨by decide, by decide, fun conn isOpen => by cases isOpen⟩
    · exact ⟨by decide, by decide, fun conn isOpen => by cases isOpen⟩
  · intro apart
    exact apart ⟨.right, 0, 1⟩ (by decide) ⟨.left, 1, 0⟩ (by decide) (by decide)
  · rintro (⟨index, below, entries⟩ | isUntied)
    · cases (entries .left).1
    · cases (isUntied .left).2.1

end MidWay.Gateway.Handshake

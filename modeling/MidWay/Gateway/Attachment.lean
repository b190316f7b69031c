import MidWay.Gateway.Exports
import MidWay.Lib.Runs

/-!
Contract: what a connection can bring about before it is attached, and as a client.

An accepted connection is let in by an `INIT` request. A response to an `INIT` that was
never sent does it as well when its return code is zero, or is missing where the
variable for it happens to be zero. A client is told from a gateway by what it has, not
by what it may send: it has no peer, and a `PROVIDE` from it is stopped by that alone.

Owns: the machine of an unattached connection and that nothing is done for it, and the
machine of a client with a copy of the tables that its messages do not reach.
-/

namespace MidWay.Gateway

open MidWay.CLib MidWay.Lib MidWay.Url MidWay.Srb

variable {srbmsg : SRBmessage} {before : GatewayState}

structure LeftAlone (before after : GatewayState) : Prop where
  subscriptions : after.subscriptions = before.subscriptions
  events : after.events = before.events
  importlist : after.tables.importlist = before.tables.importlist
  store : after.store = before.store

theorem LeftAlone.respond (gateway : GatewayState) (messages : List SRBmessage) :
    LeftAlone gateway (gateway.respond messages) :=
  ⟨rfl, rfl, rfl, rfl⟩

theorem GatewayState.closeOwn_tables (gateway : GatewayState)
    (noPeer : gateway.session.peerinfo = none) : gateway.closeOwn.tables = gateway.tables := by
  simp [noPeer, GatewayState.closeOwn]

theorem provideServices_ok {handling : Handling} {gateway next : GatewayState}
    (result : gateway.provideServices handling = .ok next) :
    LeftAlone gateway next ∧ next.session = gateway.session := by
  unfold GatewayState.provideServices at result
  split at result
  · cases result
  · next tables sent provided =>
    cases result
    exact ⟨⟨rfl, rfl, (provideservicesToPeer_only provided).importlist, rfl⟩, rfl⟩

theorem gwAddknownpeer_importlist (tables : PeerTables) (around : Surroundings)
    (name domain : List Byte) :
    (tables.gwAddknownpeer around name domain).2.importlist = tables.importlist := by
  grind [PeerTables.gwAddknownpeer]

theorem gwPeerconnected_importlist (tables : PeerTables) (around : Surroundings) (fd : Nat)
    (name peerdomain : List Byte) :
    (tables.gwPeerconnected around fd name peerdomain).2.importlist = tables.importlist := by
  unfold PeerTables.gwPeerconnected
  split
  · rfl
  · grind [gwAddknownpeer_importlist]

structure Stranger (session : Session) : Prop where
  notUp : session.conn.up = false
  noCid : session.conn.cid = unassigned
  noGwid : session.conn.gwid = unassigned
  noRejects : session.conn.rejects = false
  notGateway : session.type ≠ .gateway
  noPeer : session.peerinfo = none
  notAccepted : session.accepted = false

theorem Stranger.clear {session : Session} (notAccepted : session.accepted = false) :
    Stranger session.clear :=
  ⟨rfl, rfl, rfl, rfl, by simp [Session.clear, Session.fresh], rfl, notAccepted⟩

structure ClientSession (session : Session) : Prop where
  noGwid : session.conn.gwid = unassigned
  noRejects : session.conn.rejects = false
  notGateway : session.type ≠ .gateway
  noGateways : session.gateways = false
  noPeer : session.peerinfo = none

/-- The return code of a response; `uninit` is what the variable for it held before. -/
def responseCode (srbmsg : SRBmessage) (uninit : Int) : Int :=
  ((((Exchange.mk srbmsg []).field srbReturncode).bind UrlmapEntry.value).bind sscanfD).getD uninit

/-- The message says that an `INIT` succeeded. -/
def AnswersInit (handling : Handling) (srbmsg : SRBmessage) : Prop :=
  strcaseeq srbmsg.command srbInit = true ∧ srbmsg.marker = srbResponseMarker ∧
    responseCode srbmsg handling.rc = 0

theorem iGetReqField_value (conn : Connection) (exchange : Exchange) (fieldname : List Byte)
    (value : Int) :
    (iGetReqField conn exchange fieldname value).2.1 =
      (((exchange.field fieldname).bind UrlmapEntry.value).bind sscanfD).getD value := by
  unfold iGetReqField iGetOptField
  grind

/-- Where a message of a stranger leads: nothing is touched, and it stays outside or comes in. -/
structure Outside (before after : GatewayState) : Prop where
  untouched : LeftAlone before after
  stranger : after.session.accepted = false → Stranger after.session
  client : after.session.accepted = true → after.session.type = .client →
    ClientSession after.session

theorem Outside.stays {after : GatewayState} (untouched : LeftAlone before after)
    (stranger : Stranger after.session) : Outside before after := by
  refine ⟨untouched, fun _ => stranger, ?_⟩
  simp [stranger.notAccepted]

theorem Outside.acceptPeer {handling : Handling} {gateway next : GatewayState} {tables : PeerTables}
    {peer : Nat} (kept : tables.importlist = gateway.tables.importlist)
    (result : { gateway with tables := tables }.acceptPeer handling peer srbmsg = .ok next) :
    Outside gateway next := by
  rcases provideServices_ok result with ⟨untouched, session⟩
  refine ⟨⟨untouched.subscriptions, untouched.events, untouched.importlist.trans kept,
    untouched.store⟩, ?_, ?_⟩
  · intro notAccepted
    rw [session] at notAccepted
    cases notAccepted
  · intro _ isClient
    rw [session] at isClient
    cases isClient

section

variable {handling : Handling} {gateway next : GatewayState} (stranger : Stranger gateway.session)
include stranger

theorem Stranger.respond (messages : List SRBmessage) :
    Outside gateway (gateway.respond messages) :=
  .stays (.respond gateway messages) stranger

theorem Stranger.connDel (messages : List SRBmessage) :
    Outside gateway (gateway.respond messages).connDel := by
  have own : (gateway.respond messages).connDel =
      { gateway.respond messages with session := gateway.session.clear } :=
    if_neg (not_not.mpr stranger.noGwid)
  rw [own]
  exact .stays ⟨rfl, rfl, rfl, rfl⟩ (.clear stranger.notAccepted)

theorem Stranger.gwClosegateway (messages : List SRBmessage) :
    Outside gateway (gateway.respond messages).gwClosegateway := by
  have own : (gateway.respond messages).gwClosegateway =
      (gateway.respond messages).closeOwn := if_neg (not_not.mpr stranger.noGwid)
  have tables : (gateway.respond messages).closeOwn.tables = gateway.tables :=
    (gateway.respond messages).closeOwn_tables stranger.noPeer
  rw [own]
  exact .stays ⟨rfl, rfl, congrArg _ tables, rfl⟩ (.clear stranger.notAccepted)

theorem Stranger.initClient (srbmsg : SRBmessage) :
    Outside gateway (gateway.initClient handling srbmsg) := by
  unfold GatewayState.initClient
  rw [if_neg (not_not.mpr stranger.noCid)]
  dsimp only
  split
  · refine ⟨⟨rfl, rfl, rfl, rfl⟩, ?_, ?_⟩
    · simp
    · intro _ _
      refine ⟨stranger.noGwid, stranger.noRejects, ?_, rfl, stranger.noPeer⟩
      intro isGateway
      cases isGateway
  · exact .stays ⟨rfl, rfl, rfl, rfl⟩ stranger

theorem Stranger.refusePeer {tables : PeerTables}
    (kept : tables.importlist = gateway.tables.importlist)
    (result : { gateway with tables := tables }.refusePeer = .ok next) : Outside gateway next := by
  have own : { gateway with tables := tables }.refusePeer =
      .ok ({ gateway with tables := tables }.respond [mwSrbsendterm 0]).connDel :=
    if_neg (not_not.mpr stranger.noGwid)
  rw [own] at result
  cases result
  have outside := @Stranger.connDel { gateway with tables := tables } stranger [mwSrbsendterm 0]
  exact ⟨⟨outside.untouched.subscriptions, outside.untouched.events,
    outside.untouched.importlist.trans kept, outside.untouched.store⟩, outside.stranger,
    outside.client⟩

theorem Stranger.initGateway {exchange : Exchange} {name : List Byte}
    (result : gateway.initGateway handling exchange name = .ok next) : Outside gateway next := by
  unfold GatewayState.initGateway at result
  split at result
  · cases result
    exact stranger.respond _
  · split at result
    · cases result
      exact stranger.respond _
    · next peerdomain exchange _ =>
      split at result
      · cases result
        exact stranger.connDel _
      · have kept := gwPeerconnected_importlist gateway.tables handling.around
          gateway.session.conn.fd name peerdomain
        split at result
        · next tables connected =>
          rw [connected] at kept
          exact stranger.refusePeer kept result
        · next peer tables connected =>
          rw [connected] at kept
          exact .acceptPeer kept result

theorem Stranger.initResponse (fails : responseCode srbmsg handling.rc ≠ 0)
    (result : gateway.initResponse handling srbmsg = .ok next) : Outside gateway next := by
  rw [responseCode, ← iGetReqField_value gateway.session.conn] at fails
  unfold GatewayState.initResponse at result
  generalize iGetReqField gateway.session.conn ⟨srbmsg, []⟩ srbReturncode handling.rc = read
    at fails result
  rcases read with ⟨_, rc, exchange⟩
  dsimp only at fails result
  rw [if_neg fails] at result
  cases result
  exact stranger.gwClosegateway _

/-- A message of a stranger that does not answer an `INIT`. -/
theorem Stranger.message (noAnswer : ¬AnswersInit handling srbmsg)
    (result : gateway.srbDoMessage handling srbmsg = .ok next) : Outside gateway next := by
  rw [GatewayState.srbDoMessage, dispatch, stranger.notUp] at result
  simp only [Bool.false_eq_true, if_false] at result
  by_cases isInit : strcaseeq srbmsg.command srbInit = true
  · rw [if_pos isInit] at result
    dsimp only at result
    unfold GatewayState.srbinit at result
    split_ifs at result with isRequest isResponse
    · split at result
      · cases result
        exact stranger.respond _
      · cases result
        exact stranger.initClient _
      · exact stranger.initGateway result
    · exact stranger.initResponse (fun succeeds => noAnswer ⟨isInit, isResponse, succeeds⟩) result
    · cases result
      exact stranger.respond _
  · rw [if_neg isInit] at result
    by_cases isReady : strcaseeq srbmsg.command srbReady = true
    · rw [if_pos isReady] at result
      dsimp only at result
      unfold GatewayState.srbready at result
      rw [if_neg fun isGateway => stranger.notGateway isGateway.1] at result
      cases result
      exact .stays ⟨rfl, rfl, rfl, rfl⟩ stranger
    · rw [if_neg isReady] at result
      cases result
      exact stranger.respond _

end

/-- A message of the connection, or anything else that happens to the gateway. -/
inductive SessionAction where
  | message (handling : Handling) (srbmsg : SRBmessage)
  | other (after : GatewayState)

def GatewayState.sessionStep (gateway : GatewayState) :
    SessionAction → Except GatewayFailure GatewayState
  | .message handling srbmsg => gateway.srbDoMessage handling srbmsg
  | .other after => .ok after

/-- The run ends when the connection is let in. What else happens leaves the connection as it is,
or closes it. -/
def GatewayState.sessionEnabled (gateway : GatewayState) : SessionAction → Prop
  | .message _ _ => gateway.session.accepted = false ∧ gateway.session.isOpen = true
  | .other after =>
      gateway.session.accepted = false ∧
        (after.session = gateway.session ∨ after.session = gateway.session.clear)

def sessionMachine : Machine GatewayState SessionAction GatewayFailure where
  start gateway := ∃ fd clients gateways type, type ≠ .gateway ∧
    gateway.session = Session.fresh fd clients gateways type
  enabled := GatewayState.sessionEnabled
  step := GatewayState.sessionStep

/-- No message answers an `INIT`. -/
def Unanswered (_ : GatewayState) : SessionAction → Prop
  | .message handling srbmsg => ¬AnswersInit handling srbmsg
  | .other _ => True

theorem sessionMachine_preserves :
    sessionMachine.Preserves Unanswered
      (fun gateway => gateway.session.accepted = false → Stranger gateway.session) := by
  intro gateway action next held enabled unanswered stepped
  change gateway.sessionEnabled action at enabled
  change gateway.sessionStep action = .ok next at stepped
  have stranger : Stranger gateway.session := by
    apply held
    cases action with
    | message handling srbmsg => exact enabled.1
    | other after => exact enabled.1
  cases action with
  | other after =>
      cases stepped
      intro notAccepted
      rcases enabled.2 with same | closed
      · simp [same, stranger]
      · rw [closed]
        exact .clear stranger.notAccepted
  | message handling srbmsg => exact (stranger.message unanswered stepped).stranger

/-- In every run without an answer to an `INIT`, as long as the connection is not let in, it is
not up, and no message of it touches anything. -/
theorem sessionMachine_nothing_done {gateway : GatewayState}
    (reachable : sessionMachine.Reachable Unanswered gateway)
    (notAccepted : gateway.session.accepted = false) :
    gateway.session.conn.up = false ∧
      ∀ handling srbmsg next, ¬AnswersInit handling srbmsg →
        gateway.srbDoMessage handling srbmsg = .ok next → LeftAlone gateway next := by
  have held : gateway.session.accepted = false → Stranger gateway.session := by
    apply reachable.holds _ sessionMachine_preserves
    intro start isStart notAccepted
    rcases isStart with ⟨fd, clients, gateways, type, notGateway, session⟩
    rw [session]
    exact ⟨rfl, rfl, rfl, rfl, notGateway, rfl, rfl⟩
  have stranger := held notAccepted
  refine ⟨stranger.notUp, ?_⟩
  intro handling srbmsg next noAnswer result
  exact (stranger.message noAnswer result).untouched

/-- What a gateway without services finds; `rc` holds something else than zero. -/
def quietHandling : Handling where
  around := ⟨[103], [100], [], fun _ => -1, [], unassigned, true, 0, 0, true, 0x04000001⟩
  domain := ⟨0x04000001, fun _ _ => unassigned, fun _ => unassigned, 41, fun _ => true⟩
  limit := 3000
  uninit := ⟨0, 0⟩
  rc := 1
  cost := 0
  id := 0
  now := [48]

def acceptedGateway : GatewayState :=
  ⟨Session.fresh 5 true false .client, ⟨[], [], [], []⟩, emptyStore, [], [], [], [], [], []⟩

def GatewayState.after (gateway : GatewayState) (srbmsg : SRBmessage) : GatewayState :=
  match gateway.srbDoMessage quietHandling srbmsg with
  | .error _ => gateway
  | .ok next => next

def subscribeMessage : SRBmessage :=
  ⟨srbSubscribe, srbNotificationMarker, [⟨srbPattern, some [42]⟩,
    ⟨srbMatch, some srbSubscribeGlob⟩, ⟨srbSubscriptionid, some [49]⟩]⟩

/-- `RETURNCODE=0` in a response to an `INIT`. -/
def initAnswer : SRBmessage := ⟨srbInit, srbResponseMarker, [⟨srbReturncode, some [48]⟩]⟩

/-- A stranger asks for events, twice. -/
theorem sessionMachine_nothing_done_subscribe :
    sessionMachine.Reachable Unanswered (acceptedGateway.after subscribeMessage) ∧
      LeftAlone (acceptedGateway.after subscribeMessage)
        ((acceptedGateway.after subscribeMessage).after subscribeMessage) := by
  have noAnswer : ¬AnswersInit quietHandling subscribeMessage := by
    rintro ⟨isInit, _⟩
    revert isInit
    decide
  have reachable : sessionMachine.Reachable Unanswered
      (acceptedGateway.after subscribeMessage) := by
    apply @Machine.Reachable.step _ _ _ _ _ acceptedGateway _
      (.message quietHandling subscribeMessage)
    · exact .start ⟨5, true, false, .client, by decide, rfl⟩
    · exact ⟨rfl, rfl⟩
    · exact noAnswer
    · rfl
  exact ⟨reachable, (sessionMachine_nothing_done reachable rfl).2 quietHandling _ _ noAnswer rfl⟩

/-- A stranger answers an `INIT` that was not sent, is up, and gets its events. -/
theorem sessionMachine_nothing_done_not_answered :
    sessionMachine.Reachable (fun _ _ => True) (acceptedGateway.after initAnswer) ∧
      (acceptedGateway.after initAnswer).session.accepted = false ∧
      (acceptedGateway.after initAnswer).session.conn.up = true ∧
      ¬LeftAlone (acceptedGateway.after initAnswer)
        ((acceptedGateway.after initAnswer).after subscribeMessage) := by
  have reachable : sessionMachine.Reachable (fun _ _ => True)
      (acceptedGateway.after initAnswer) := by
    apply @Machine.Reachable.step _ _ _ _ _ acceptedGateway _ (.message quietHandling initAnswer)
    · exact .start ⟨5, true, false, .client, by decide, rfl⟩
    · exact ⟨rfl, rfl⟩
    · trivial
    · rfl
  refine ⟨reachable, rfl, rfl, ?_⟩
  intro untouched
  have subscriptions := untouched.subscriptions
  revert subscriptions
  decide

theorem GatewayState.respond_nil (gateway : GatewayState) : gateway.respond [] = gateway := by
  simp [List.append_nil, GatewayState.respond]

/-- Only a connection that may be a gateway gets through as one. -/
theorem readInit_role {session : Session} {exchange : Exchange} {role : Role} {name : List Byte}
    (result : readInit session srbmsg = .complete exchange role name) :
    session.admits role = true := by
  unfold readInit at result
  split at result
  · cases result
  · split_ifs at result
    split at result
    · cases result
    · split at result
      · cases result
      · next asked _ =>
        split_ifs at result with admitted
        have same : asked = role := by
          grind [readInitRest]
        rw [← same]
        exact eq_true_of_ne_false admitted

theorem Exchange.field_reject {conn : Connection} (noRejects : conn.rejects = false)
    (exchange : Exchange) (causefield causevalue : Option (List Byte)) (rcode : Int)
    (fieldname : List Byte) :
    (exchange.reject conn causefield causevalue rcode).field fieldname =
      exchange.field fieldname := by
  unfold Exchange.reject mwSrbsendreject
  rw [noRejects]
  rfl

theorem field_iGetReqField {conn : Connection} (noRejects : conn.rejects = false)
    (exchange : Exchange) (fieldname : List Byte) (value : Int) (other : List Byte) :
    (iGetReqField conn exchange fieldname value).2.2.field other = exchange.field other := by
  unfold iGetReqField iGetOptField
  cases exchange.field fieldname with
  | none => exact exchange.field_reject noRejects _ _ _ other
  | some entry =>
      dsimp only
      cases entry.value with
      | none => exact exchange.field_reject noRejects _ _ _ other
      | some text =>
          dsimp only
          cases sscanfD text with
          | none => exact exchange.field_reject noRejects _ _ _ other
          | some number => rfl

theorem szGetReqField_value (conn : Connection) (exchange : Exchange) (fieldname : List Byte) :
    (szGetReqField conn exchange fieldname).1 =
      (exchange.field fieldname).bind UrlmapEntry.value := by
  grind [szGetReqField]

/-- A `PROVIDE` notification that names a service. -/
def ProvidesService (gateway : GatewayState) (srbmsg : SRBmessage) : Prop :=
  dispatch gateway.session.conn.up srbmsg = .provide ∧ srbmsg.marker = srbNotificationMarker ∧
    ((Exchange.mk srbmsg []).field srbSvcname).bind UrlmapEntry.value ≠ none

/-- A reply for which there is a pending call, or whose handle has no value to read. -/
def TakesReply (handling : Handling) (gateway : GatewayState) (srbmsg : SRBmessage) : Prop :=
  dispatch gateway.session.conn.up srbmsg = .svcreply ∧
    connGetinfo gateway.session.conn ≠ unassigned ∧
    match readReply handling.uninit gateway.session.conn srbmsg with
    | .ended _ => False
    | .failed _ => True
    | .complete request =>
        gateway.store.lookupPendingCall (connGetinfo gateway.session.conn) request.handle ≠ none

section

variable {handling : Handling} {gateway : GatewayState} (client : ClientSession gateway.session)
include client

theorem ClientSession.srbprovide (provides : dispatch gateway.session.conn.up srbmsg = .provide)
    (noService : ¬ProvidesService gateway srbmsg) :
    ∃ messages, gateway.srbprovide handling srbmsg = .ok (gateway.respond messages) := by
  unfold GatewayState.srbprovide GatewayState.notification
  split_ifs with isRequest isResponse isNotification
  · exact ⟨_, rfl⟩
  · exact ⟨_, rfl⟩
  · have nameless : (szGetReqField gateway.session.conn (iGetReqField gateway.session.conn
        ⟨srbmsg, []⟩ srbCost handling.cost).2.2 srbSvcname).1 = none := by
      rw [szGetReqField_value, field_iGetReqField client.noRejects]
      by_contra named
      exact noService ⟨provides, isNotification, named⟩
    generalize iGetReqField gateway.session.conn ⟨srbmsg, []⟩ srbCost handling.cost = read
      at nameless ⊢
    rcases read with ⟨_, cost, exchange⟩
    dsimp only at nameless ⊢
    generalize szGetReqField gateway.session.conn exchange srbSvcname = name at nameless ⊢
    rcases name with ⟨name, exchange⟩
    cases nameless
    exact ⟨_, rfl⟩
  · exact ⟨[], by rw [gateway.respond_nil]⟩

theorem ClientSession.srbunprovide (srbmsg : SRBmessage) :
    ∃ messages, gateway.srbunprovide srbmsg = .ok (gateway.respond messages) := by
  unfold GatewayState.srbunprovide GatewayState.notification
  split_ifs with isRequest isResponse isNotification
  · exact ⟨_, rfl⟩
  · exact ⟨_, rfl⟩
  · split
    · exact ⟨_, rfl⟩
    · rw [client.noPeer]
      exact ⟨_, rfl⟩
  · exact ⟨[], by rw [gateway.respond_nil]⟩

theorem ClientSession.srbready (srbmsg : SRBmessage) :
    ∃ messages, gateway.srbready handling srbmsg = .ok (gateway.respond messages) := by
  unfold GatewayState.srbready
  rw [if_neg fun isGateway => client.notGateway isGateway.1]
  exact ⟨[], by rw [gateway.respond_nil]⟩

omit client in
theorem GatewayState.svcreply_refused
    (isReply : dispatch gateway.session.conn.up srbmsg = .svcreply)
    (noCall : ¬TakesReply handling gateway srbmsg) :
    ∃ messages, gateway.storing (srbcallRpl handling.domain handling.limit handling.uninit
      gateway.store gateway.session.conn srbmsg) = .ok (gateway.respond messages) := by
  unfold srbcallRpl
  split_ifs with noInfo
  · exact ⟨_, rfl⟩
  · cases read : readReply handling.uninit gateway.session.conn srbmsg with
    | ended exchange => exact ⟨_, rfl⟩
    | failed failure =>
        exact absurd ⟨isReply, noInfo, by simp only [read]⟩ noCall
    | complete request =>
        have noPending : gateway.store.lookupPendingCall (connGetinfo gateway.session.conn)
            request.handle = none := by
          by_contra pending
          exact noCall ⟨isReply, noInfo, by simp only [read]; exact pending⟩
        have noReply : gateway.store.storeSRBReply handling.domain
            (connGetinfo gateway.session.conn) request.handle request.returncode
            request.appreturncode request.datatotal = .ok gateway.store := by
          unfold CallStore.storeSRBReply
          rw [noPending]
        have noData : storeRest handling.domain gateway.store gateway.session.conn request.handle
            request.data = .ok gateway.store := by
          unfold storeRest CallStore.storeSRBData
          rw [noPending, ite_self]
        simp only [noReply, noData]
        exact ⟨_, rfl⟩

end

/-- The tables are the same, and the connection is still a client's, unless it was closed. -/
structure Confined (before after : GatewayState) : Prop where
  tables : after.tables = before.tables
  session : after.session.isOpen = true → ClientSession after.session

theorem Confined.closes {after : GatewayState} (tables : after.tables = before.tables)
    (session : after.session = before.session.clear) : Confined before after := by
  refine ⟨tables, ?_⟩
  intro isOpen
  rw [session] at isOpen
  cases isOpen

section

variable {handling : Handling} {gateway next : GatewayState}
  (client : ClientSession gateway.session)
include client

theorem ClientSession.keeps {after : GatewayState} (tables : after.tables = gateway.tables)
    (session : after.session = gateway.session) : Confined gateway after := by
  refine ⟨tables, ?_⟩
  intro _
  rw [session]
  exact client

theorem ClientSession.closeOwn (tables : before.tables = gateway.tables)
    (session : before.session = gateway.session) : Confined gateway before.closeOwn := by
  apply Confined.closes
  · simp_all [client.noPeer, before.closeOwn_tables]
  · change before.session.clear = gateway.session.clear
    rw [session]

theorem ClientSession.gwClosegateway (tables : before.tables = gateway.tables)
    (session : before.session = gateway.session) :
    Confined gateway before.gwClosegateway := by
  have own : before.gwClosegateway = before.closeOwn := by
    apply if_neg
    rw [session]
    exact not_not.mpr client.noGwid
  rw [own]
  exact client.closeOwn tables session

theorem ClientSession.connDel {before : GatewayState} (tables : before.tables = gateway.tables)
    (session : before.session = gateway.session) : Confined gateway before.connDel := by
  have own : before.connDel = { before with session := before.session.clear } := by
    apply if_neg
    rw [session]
    exact not_not.mpr client.noGwid
  rw [own]
  exact .closes tables (congrArg Session.clear session)

theorem ClientSession.tcpcloseconnection : Confined gateway gateway.tcpcloseconnection := by
  unfold GatewayState.tcpcloseconnection
  dsimp only
  split_ifs with attached isGateway
  · exact client.connDel rfl rfl
  · exact absurd isGateway client.notGateway
  · exact client.connDel rfl rfl

theorem ClientSession.initClient (srbmsg : SRBmessage) :
    Confined gateway (gateway.initClient handling srbmsg) := by
  unfold GatewayState.initClient
  dsimp only
  split_ifs with attached succeeds
  · exact client.keeps rfl rfl
  · refine ⟨rfl, ?_⟩
    intro _
    refine ⟨client.noGwid, client.noRejects, ?_, rfl, client.noPeer⟩
    intro isGateway
    cases isGateway
  · exact client.keeps rfl rfl

theorem ClientSession.initResponse (srbmsg : SRBmessage) :
    ∃ next, gateway.initResponse handling srbmsg = .ok next ∧ Confined gateway next := by
  unfold GatewayState.initResponse
  generalize iGetReqField gateway.session.conn ⟨srbmsg, []⟩ srbReturncode handling.rc = read
  rcases read with ⟨_, rc, exchange⟩
  dsimp only
  split_ifs with succeeds isGateway
  · exact absurd isGateway client.notGateway
  · refine ⟨_, rfl, rfl, ?_⟩
    intro _
    exact ⟨client.noGwid, client.noRejects, client.notGateway, client.noGateways, client.noPeer⟩
  · exact ⟨_, rfl, client.gwClosegateway rfl rfl⟩

theorem ClientSession.srbinit (srbmsg : SRBmessage) :
    ∃ next, gateway.srbinit handling srbmsg = .ok next ∧ Confined gateway next := by
  unfold GatewayState.srbinit
  split_ifs with isRequest isResponse
  · split
    · exact ⟨_, rfl, client.keeps rfl rfl⟩
    · exact ⟨_, rfl, client.initClient _⟩
    · next exchange name complete =>
      have admitted := readInit_role complete
      rw [show gateway.session.admits .gateway = _ from client.noGateways] at admitted
      cases admitted
  · exact client.initResponse srbmsg
  · exact ⟨_, rfl, client.keeps rfl rfl⟩

theorem ClientSession.srbterm (srbmsg : SRBmessage) : Confined gateway (gateway.srbterm srbmsg) := by
  unfold GatewayState.srbterm
  split_ifs with isRequest closes
  · exact client.keeps rfl rfl
  · exact client.tcpcloseconnection
  · exact client.keeps rfl rfl

end

/-- A result that shows nothing of the tables; only the call store may end the gateway. -/
def Harmless (gateway : GatewayState) : Except GatewayFailure GatewayState → Prop
  | .ok next => Confined gateway next
  | .error failure => ∃ storeFailure, failure = .store storeFailure

theorem Harmless.of_ok {gateway : GatewayState} {result : Except GatewayFailure GatewayState}
    (confined : ∃ next, result = .ok next ∧ Confined gateway next) : Harmless gateway result := by
  rcases confined with ⟨next, same, confined⟩
  rw [same]
  exact confined

section

variable {handling : Handling} {gateway : GatewayState} (client : ClientSession gateway.session)
include client

theorem ClientSession.refused {result : Except GatewayFailure GatewayState}
    (refused : ∃ messages, result = .ok (gateway.respond messages)) : Harmless gateway result := by
  rcases refused with ⟨messages, same⟩
  exact .of_ok ⟨_, same, client.keeps rfl rfl⟩

theorem ClientSession.storing (handled : Handled) : Harmless gateway (gateway.storing handled) := by
  unfold GatewayState.storing
  split
  · exact ⟨_, rfl⟩
  · exact client.keeps rfl rfl

theorem ClientSession.notification (srbmsg : SRBmessage)
    {handler : Except GatewayFailure GatewayState} (harmless : Harmless gateway handler) :
    Harmless gateway (gateway.notification srbmsg handler) := by
  unfold GatewayState.notification
  split_ifs with isRequest isResponse
  · exact client.keeps rfl rfl
  · exact client.keeps rfl rfl
  · exact harmless

theorem ClientSession.mwIpcsendEvent (event : List Byte)
    (data username clientname : Option (List Byte)) (fromid : UInt32) (remote : Bool) :
    Confined gateway
      (gateway.mwIpcsendEvent handling event data username clientname fromid remote) := by
  rcases @mwIpcsendEvent_events handling event data username clientname fromid remote gateway
    with ⟨events, same⟩
  rw [same]
  exact client.keeps rfl rfl

theorem ClientSession.srbevent (srbmsg : SRBmessage) :
    Harmless gateway (gateway.srbevent handling srbmsg) := by
  apply client.notification
  split
  · exact client.keeps rfl rfl
  · exact client.mwIpcsendEvent _ _ _ _ _ _

theorem ClientSession.srbsubscribe (srbmsg : SRBmessage) :
    Harmless gateway (gateway.srbsubscribe handling srbmsg) := by
  apply client.notification
  split
  · exact client.keeps rfl rfl
  · split
    · exact client.keeps rfl rfl
    · unfold GatewayState.subscribe
      dsimp only
      split
      · exact client.keeps rfl rfl
      · exact client.keeps rfl rfl

theorem ClientSession.srbhello (srbmsg : SRBmessage) :
    Confined gateway (gateway.srbhello handling srbmsg) := by
  unfold GatewayState.srbhello
  split_ifs with isRequest isResponse
  · exact client.keeps rfl rfl
  · exact client.keeps rfl rfl
  · exact client.keeps rfl rfl

/-- A message of a client that does not provide a service. -/
theorem ClientSession.message (noService : ¬ProvidesService gateway srbmsg) :
    Harmless gateway (gateway.srbDoMessage handling srbmsg) := by
  rw [GatewayState.srbDoMessage]
  cases dispatched : dispatch gateway.session.conn.up srbmsg with
  | init => exact .of_ok (client.srbinit srbmsg)
  | ready => exact client.refused (client.srbready srbmsg)
  | noinit => exact client.keeps rfl rfl
  | term => exact client.srbterm srbmsg
  | hello => exact client.srbhello srbmsg
  | event => exact client.srbevent srbmsg
  | svccall => exact client.storing _
  | svcreply => exact client.storing _
  | provide => exact client.refused (client.srbprovide dispatched noService)
  | svcdata => exact client.storing _
  | unprovide => exact client.refused (client.srbunprovide srbmsg)
  | subscribe => exact client.srbsubscribe srbmsg
  | unsubscribe =>
      apply client.notification
      exact client.keeps rfl rfl
  | ignored => exact client.keeps rfl rfl
  | format => exact client.keeps rfl rfl

theorem ClientSession.gatewayOnly {srbmsg : SRBmessage}
    (noService : ¬ProvidesService gateway srbmsg) (noCall : ¬TakesReply handling gateway srbmsg)
    (gatewayCommand : dispatch gateway.session.conn.up srbmsg ∈
      [Dispatch.provide, .unprovide, .ready, .svcreply]) :
    ∃ messages, gateway.srbDoMessage handling srbmsg = .ok (gateway.respond messages) := by
  rw [GatewayState.srbDoMessage]
  simp only [List.mem_cons, List.not_mem_nil, or_false] at gatewayCommand
  rcases gatewayCommand with dispatched | dispatched | dispatched | dispatched
  · simp_all [client.srbprovide]
  · simp [dispatched, client.srbunprovide]
  · simp [dispatched, client.srbready]
  · simp_all [GatewayState.svcreply_refused]

end

/-- A gateway, and the tables it would have without the messages of one client. -/
structure ClientRun where
  gateway : GatewayState
  without : PeerTables

/-- A message of the client, or anything else that happens: it changes the tables in its own way,
whatever they hold. -/
inductive ClientAction where
  | message (handling : Handling) (srbmsg : SRBmessage)
  | other (change : PeerTables → PeerTables) (after : GatewayState)

/-- The messages of the client are the only thing that is not done to the other tables. -/
def ClientRun.step (run : ClientRun) : ClientAction → Except GatewayFailure ClientRun
  | .message handling srbmsg =>
      (run.gateway.srbDoMessage handling srbmsg).map fun next => { run with gateway := next }
  | .other change after =>
      .ok ⟨{ after with tables := change run.gateway.tables }, change run.without⟩

def ClientRun.enabled (run : ClientRun) : ClientAction → Prop
  | .message _ _ => run.gateway.session.isOpen = true
  | .other _ after =>
      after.session = run.gateway.session.clear ∨
        ∃ cid, after.session =
          { run.gateway.session with conn := { run.gateway.session.conn with cid := cid } }

/-- The run starts when the `INIT` request of a client is accepted. -/
def clientMachine : Machine ClientRun ClientAction GatewayFailure where
  start run := run.without = run.gateway.tables ∧
    ∃ (handling : Handling) (before : GatewayState) (srbmsg : SRBmessage),
      Stranger before.session ∧ srbmsg.marker = srbRequestMarker ∧
      before.srbDoMessage handling srbmsg = .ok run.gateway ∧
      run.gateway.session.accepted = true ∧ run.gateway.session.type = .client
  enabled := ClientRun.enabled
  step := ClientRun.step

def Modest (run : ClientRun) : ClientAction → Prop
  | .message handling srbmsg =>
      ¬ProvidesService run.gateway srbmsg ∧ ¬TakesReply handling run.gateway srbmsg
  | .other _ _ => True

structure ClientRun.Apart (run : ClientRun) : Prop where
  tables : run.gateway.tables = run.without
  session : run.gateway.session.isOpen = true → ClientSession run.gateway.session

theorem clientMachine_preserves : clientMachine.Preserves Modest ClientRun.Apart := by
  intro run action next apart enabled modest stepped
  change run.enabled action at enabled
  change run.step action = .ok next at stepped
  cases action with
  | message handling srbmsg =>
      rcases map_eq_ok stepped with ⟨after, handled, same⟩
      cases same
      have harmless : Harmless run.gateway (run.gateway.srbDoMessage handling srbmsg) :=
        (apart.session enabled).message modest.1
      rw [handled] at harmless
      exact ⟨harmless.tables.trans apart.tables, harmless.session⟩
  | other change after =>
      cases stepped
      refine ⟨congrArg change apart.tables, ?_⟩
      intro isOpen
      change after.session.isOpen = true at isOpen
      change ClientSession after.session
      rcases enabled with closed | ⟨cid, named⟩
      · rw [closed] at isOpen
        cases isOpen
      · rw [named] at isOpen ⊢
        have client := apart.session isOpen
        exact ⟨client.noGwid, client.noRejects, client.notGateway, client.noGateways,
          client.noPeer⟩

/-- In every run in which the client provides no service and answers no call, the tables are the
ones the gateway has without the client's messages; none of them follows a peer that is not
there, and the commands of gateways have no effect. -/
theorem clientMachine_confined {run : ClientRun}
    (reachable : clientMachine.Reachable Modest run) :
    run.gateway.tables = run.without ∧
      ∀ handling srbmsg, run.gateway.session.isOpen = true →
        ¬ProvidesService run.gateway srbmsg → ¬TakesReply handling run.gateway srbmsg →
        (∀ failure, run.gateway.srbDoMessage handling srbmsg = .error failure →
          ∃ storeFailure, failure = .store storeFailure) ∧
        (dispatch run.gateway.session.conn.up srbmsg ∈
            [Dispatch.provide, .unprovide, .ready, .svcreply] →
          ∃ messages, run.gateway.srbDoMessage handling srbmsg =
            .ok (run.gateway.respond messages)) := by
  have apart : run.Apart := by
    apply reachable.holds _ clientMachine_preserves
    rintro start ⟨same, handling, before, srbmsg, stranger, isRequest, handled, accepted, isClient⟩
    have noAnswer : ¬AnswersInit handling srbmsg := by
      rintro ⟨_, isResponse, _⟩
      rw [isRequest] at isResponse
      cases isResponse
    exact ⟨same.symm, fun _ => (stranger.message noAnswer handled).client accepted isClient⟩
  refine ⟨apart.tables, ?_⟩
  intro handling srbmsg isOpen noService noCall
  have client := apart.session isOpen
  refine ⟨?_, client.gatewayOnly noService noCall⟩
  intro failure fails
  have harmless : Harmless run.gateway (run.gateway.srbDoMessage handling srbmsg) :=
    client.message noService
  rw [fails] at harmless
  exact harmless

def clientInit : SRBmessage :=
  ⟨srbInit, srbRequestMarker, [⟨srbVersion, some srbprotocolversion⟩,
    ⟨srbType, some srbTypeClient⟩, ⟨srbName, some [99]⟩]⟩

/-- The connection of `acceptedGateway` is let in. -/
def attachedClient : ClientRun :=
  ⟨acceptedGateway.after clientInit, (acceptedGateway.after clientInit).tables⟩

theorem attachedClient_start : clientMachine.start attachedClient := by
  refine ⟨rfl, quietHandling, acceptedGateway, clientInit, ?_, rfl, rfl, rfl, rfl⟩
  exact ⟨rfl, rfl, rfl, rfl, by decide, rfl, rfl⟩

/-- `PROVIDE` or `UNPROVIDE`, with the name of a service. -/
def serviceMessage (command : List Byte) : SRBmessage :=
  ⟨command, srbNotificationMarker, [⟨srbSvcname, some [115]⟩, ⟨srbCost, some [49]⟩]⟩

/-- The client asks for events, and takes back a service. -/
theorem clientMachine_confined_unprovide :
    clientMachine.Reachable Modest
        { attachedClient with gateway := attachedClient.gateway.after subscribeMessage } ∧
      (attachedClient.gateway.after subscribeMessage).tables = attachedClient.without ∧
      ∃ messages, (attachedClient.gateway.after subscribeMessage).srbDoMessage quietHandling
          (serviceMessage srbUnprovide) =
        .ok ((attachedClient.gateway.after subscribeMessage).respond messages) := by
  have reachable : clientMachine.Reachable Modest
      { attachedClient with gateway := attachedClient.gateway.after subscribeMessage } := by
    apply @Machine.Reachable.step _ _ _ _ _ attachedClient _
      (.message quietHandling subscribeMessage)
    · exact .start attachedClient_start
    · rfl
    · constructor
      · rintro ⟨isProvide, _⟩
        cases isProvide
      · rintro ⟨isReply, _⟩
        cases isReply
    · rfl
  rcases clientMachine_confined reachable with ⟨tables, messages⟩
  refine ⟨reachable, tables, (messages quietHandling _ rfl ?_ ?_).2 (by decide)⟩
  · rintro ⟨isProvide, _⟩
    cases isProvide
  · rintro ⟨isReply, _⟩
    cases isReply

/-- The client provides a service. -/
theorem clientMachine_confined_not_provide :
    clientMachine.Reachable (fun _ _ => True) attachedClient ∧
      attachedClient.gateway.session.isOpen = true ∧
      attachedClient.gateway.srbDoMessage quietHandling (serviceMessage srbProvide) =
        .error .missingPeer :=
  ⟨.start attachedClient_start, rfl, rfl⟩

end MidWay.Gateway

import MidWay.Gateway.FieldReads
import MidWay.Gateway.Sessions

/-!
Contract: a handler of `SRBprotocolServer.c` reads fields first and acts then.

What it reads depends on the message and on what its variables hold before they are
written. A handler that ends while it reads has sent something, and has changed nothing.

Owns: what each handler reads, how far it comes with a message, and `Handler.run_ended`.
-/

namespace MidWay.Gateway

open MidWay.CLib MidWay.Url MidWay.Srb

section

variable (conn : Connection)

def readProvide (cost : Int) (srbmsg : SRBmessage) : Reading (Exchange × List Byte × Int) :=
  let (_, cost, exchange) := iGetReqField conn ⟨srbmsg, []⟩ srbCost cost
  match szGetReqField conn exchange srbSvcname with
  | (none, exchange) => .ended exchange
  | (some svcname, exchange) => .complete (exchange, svcname, cost)

def readUnprovide (srbmsg : SRBmessage) : Reading (Exchange × List Byte) :=
  match szGetReqField conn ⟨srbmsg, []⟩ srbSvcname with
  | (none, exchange) => .ended exchange
  | (some svcname, exchange) => .complete (exchange, svcname)

def readSubscribe (id : Int) (srbmsg : SRBmessage) :
    Reading (Exchange × List Byte × List Byte × Int) :=
  match szGetReqField conn ⟨srbmsg, []⟩ srbPattern with
  | (none, exchange) => .ended exchange
  | (some pattern, exchange) =>
      match szGetReqField conn exchange srbMatch with
      | (none, exchange) => .ended exchange
      | (some text, exchange) =>
          let (_, id, exchange) := iGetReqField conn exchange srbSubscriptionid id
          .complete (exchange, pattern, text, id)

def readUnsubscribe (id : Int) (srbmsg : SRBmessage) : Reading (Exchange × Int) :=
  let (_, id, exchange) := iGetReqField conn ⟨srbmsg, []⟩ srbSubscriptionid id
  .complete (exchange, id)

/-- What only the `INIT` of a gateway has. -/
def readPeer (exchange : Exchange) : Reading (Exchange × List Byte × List Byte) :=
  match szGetReqField conn exchange srbInstance with
  | (none, exchange) => .ended exchange
  | (some instanceName, exchange) =>
      match szGetReqField conn exchange srbPeerdomain with
      | (none, exchange) => .ended exchange
      | (some peerdomain, exchange) => .complete (exchange, instanceName, peerdomain)

end

def Reading.act {Request : Type} (gateway : GatewayState) (reading : Reading Request)
    (acts : Request → Except GatewayFailure GatewayState) : Except GatewayFailure GatewayState :=
  match reading with
  | .ended exchange => .ok (gateway.respond exchange.answers)
  | .failed failure => .error (.store failure)
  | .complete request => acts request

section

variable (handling : Handling) (gateway : GatewayState) (srbmsg : SRBmessage)

theorem srbprovide_reads : gateway.srbprovide handling srbmsg =
    gateway.notification srbmsg (if srbmsg.marker = srbNotificationMarker then
      (readProvide gateway.session.conn handling.cost srbmsg).act gateway
        fun (exchange, svcname, cost) =>
          (gateway.tables.importservice handling.around svcname (cost + gateway.session.cost)
            gateway.session.peerinfo).map
              fun tables => { gateway with tables := tables }.respond exchange.answers
      else .ok gateway) := by
  unfold GatewayState.srbprovide readProvide
  generalize iGetReqField gateway.session.conn ⟨srbmsg, []⟩ srbCost handling.cost = read
  dsimp only
  generalize szGetReqField gateway.session.conn read.2.2 srbSvcname = name
  obtain ⟨_ | svcname, exchange⟩ := name
  · rfl
  · rfl

theorem srbunprovide_reads : gateway.srbunprovide srbmsg =
    gateway.notification srbmsg (if srbmsg.marker = srbNotificationMarker then
      (readUnprovide gateway.session.conn srbmsg).act gateway fun (exchange, svcname) =>
        .ok ({ gateway with tables := gateway.tables.unimportservice svcname
                              gateway.session.peerinfo }.respond exchange.answers)
      else .ok gateway) := by
  unfold GatewayState.srbunprovide readUnprovide
  generalize szGetReqField gateway.session.conn ⟨srbmsg, []⟩ srbSvcname = name
  obtain ⟨_ | svcname, exchange⟩ := name
  · rfl
  · rfl

theorem srbsubscribe_reads : gateway.srbsubscribe handling srbmsg =
    gateway.notification srbmsg ((readSubscribe gateway.session.conn handling.id srbmsg).act gateway
      fun (exchange, pattern, text, id) =>
        .ok ((gateway.subscribe pattern id (matchFlags text)).respond exchange.answers)) := by
  unfold GatewayState.srbsubscribe readSubscribe
  generalize szGetReqField gateway.session.conn ⟨srbmsg, []⟩ srbPattern = first
  obtain ⟨_ | pattern, exchange⟩ := first
  · rfl
  · dsimp only
    generalize szGetReqField gateway.session.conn exchange srbMatch = second
    obtain ⟨_ | text, exchange⟩ := second
    · rfl
    · rfl

theorem srbunsubscribe_reads : gateway.srbunsubscribe handling srbmsg =
    gateway.notification srbmsg ((readUnsubscribe gateway.session.conn handling.id srbmsg).act
      gateway fun (exchange, id) =>
        .ok ({ gateway with
          subscriptions := gateway.subscriptions.eraseP
            fun sub => sub.fd = gateway.session.conn.fd ∧ sub.id = id }.respond
              exchange.answers)) := rfl

theorem initGateway_reads (exchange : Exchange) (name : List Byte) :
    gateway.initGateway handling exchange name =
      (readPeer gateway.session.conn exchange).act gateway
        fun (exchange, instanceName, peerdomain) =>
          if cstr instanceName ≠ handling.around.myinstance then
            .ok (gateway.respond
              [mwSrbsendinitreply exchange.srbmsg srbProtoGatewayError none]).connDel
          else
            match gateway.tables.gwPeerconnected handling.around gateway.session.conn.fd name
                peerdomain with
            | (none, tables) => { gateway with tables := tables }.refusePeer
            | (some peer, tables) =>
                { gateway with tables := tables }.acceptPeer handling peer exchange.srbmsg := by
  unfold GatewayState.initGateway readPeer
  generalize szGetReqField gateway.session.conn exchange srbInstance = first
  obtain ⟨_ | instanceName, exchange⟩ := first
  · rfl
  · dsimp only
    generalize szGetReqField gateway.session.conn exchange srbPeerdomain = second
    obtain ⟨_ | peerdomain, exchange⟩ := second
    · rfl
    · rfl

end

inductive Handler where
  | srbprovide
  | srbunprovide
  | srbsubscribe
  | srbunsubscribe
  | srbcallReq
  | srbcallRpl
  | srbinit
deriving DecidableEq, Repr

/-- How far a handler comes: it ends with what it sent back or by a failure, or it acts on what it
read. -/
inductive HandlerStage where
  | ended (answers : List SRBmessage)
  | failed (failure : GatewayFailure)
  | acts

def Reading.stage {Request : Type} : Reading Request → HandlerStage
  | .ended exchange => .ended exchange.answers
  | .failed failure => .failed (.store failure)
  | .complete _ => .acts

def InitReading.stage (conn : Connection) : InitReading → HandlerStage
  | .ended answers => .ended answers
  | .complete _ .client _ => .acts
  | .complete exchange .gateway _ => (readPeer conn exchange).stage

section

variable (handling : Handling) (gateway : GatewayState) (srbmsg : SRBmessage)

def Handler.run : Handler → Except GatewayFailure GatewayState
  | .srbprovide => gateway.srbprovide handling srbmsg
  | .srbunprovide => gateway.srbunprovide srbmsg
  | .srbsubscribe => gateway.srbsubscribe handling srbmsg
  | .srbunsubscribe => gateway.srbunsubscribe handling srbmsg
  | .srbcallReq =>
      gateway.storing (Gateway.srbcallReq handling.domain handling.limit handling.uninit
        gateway.store gateway.session.conn srbmsg)
  | .srbcallRpl =>
      gateway.storing (Gateway.srbcallRpl handling.domain handling.limit handling.uninit
        gateway.store gateway.session.conn srbmsg)
  | .srbinit => gateway.srbinit handling srbmsg

def notificationStage (conn : Connection) (srbmsg : SRBmessage) (stage : HandlerStage) :
    HandlerStage :=
  if srbmsg.marker = srbRequestMarker then
    .ended ((Exchange.mk srbmsg []).reject conn none none srbProtoNotnotification).answers
  else if srbmsg.marker = srbResponseMarker then
    .ended ((Exchange.mk srbmsg []).reject conn none none srbProtoUnexpected).answers
  else stage

/-- A client or a peer without an id is told that it has to send an `INIT` first. -/
def attachedStage (limit : Nat) (conn : Connection) (srbmsg : SRBmessage) (stage : HandlerStage) :
    HandlerStage :=
  if connGetinfo conn = unassigned then
    .ended (mwSrbsendcallreply limit srbmsg none 0 srbProtoNoinit)
  else stage

def initStage (session : Session) (srbmsg : SRBmessage) : HandlerStage :=
  if srbmsg.marker = srbRequestMarker then
    (readInit session srbmsg).stage session.conn
  else if srbmsg.marker = srbResponseMarker then .acts
  else .ended [mwSrbsendinitreply srbmsg srbProtoNotrequest none]

def Handler.stage (session : Session) : Handler → HandlerStage
  | .srbprovide =>
      notificationStage session.conn srbmsg (if srbmsg.marker = srbNotificationMarker then
        (readProvide session.conn handling.cost srbmsg).stage else .ended [])
  | .srbunprovide =>
      notificationStage session.conn srbmsg (if srbmsg.marker = srbNotificationMarker then
        (readUnprovide session.conn srbmsg).stage else .ended [])
  | .srbsubscribe =>
      notificationStage session.conn srbmsg (readSubscribe session.conn handling.id srbmsg).stage
  | .srbunsubscribe =>
      notificationStage session.conn srbmsg (readUnsubscribe session.conn handling.id srbmsg).stage
  | .srbcallReq =>
      attachedStage handling.limit session.conn srbmsg
        (readCall handling.uninit session.conn srbmsg).stage
  | .srbcallRpl =>
      attachedStage handling.limit session.conn srbmsg
        (readReply handling.uninit session.conn srbmsg).stage
  | .srbinit => initStage session srbmsg

end

section

variable {handling : Handling} {gateway : GatewayState} {srbmsg : SRBmessage}
  {answers : List SRBmessage}

theorem Reading.act_ended {Request : Type} {reading : Reading Request}
    (ended : reading.stage = .ended answers)
    (acts : Request → Except GatewayFailure GatewayState) :
    reading.act gateway acts = .ok (gateway.respond answers) := by
  cases reading with
  | ended exchange =>
      cases ended
      rfl
  | failed failure => cases ended
  | complete request => cases ended

theorem notification_ended {stage : HandlerStage} {handler : Except GatewayFailure GatewayState}
    (ended : notificationStage gateway.session.conn srbmsg stage = .ended answers)
    (inner : stage = .ended answers → handler = .ok (gateway.respond answers)) :
    gateway.notification srbmsg handler = .ok (gateway.respond answers) := by
  unfold notificationStage at ended
  unfold GatewayState.notification
  split_ifs at ended ⊢
  · cases ended
    rfl
  · cases ended
    rfl
  · exact inner ended

theorem respond_nil (gateway : GatewayState) : gateway.respond [] = gateway := by
  rw [GatewayState.respond, List.append_nil]

theorem attached_ended {limit : Nat} {stage : HandlerStage} {handled : Handled}
    (ended : attachedStage limit gateway.session.conn srbmsg stage = .ended answers)
    (inner : stage = .ended answers → handled = .ok (gateway.store, answers)) :
    gateway.storing (if connGetinfo gateway.session.conn = unassigned then
      .ok (gateway.store, mwSrbsendcallreply limit srbmsg none 0 srbProtoNoinit)
    else handled) = .ok (gateway.respond answers) := by
  unfold attachedStage at ended
  split_ifs at ended ⊢ with unattached
  · cases ended
    rfl
  · rw [inner ended]
    rfl

theorem srbcallReq_ended
    (ended : Handler.srbcallReq.stage handling srbmsg gateway.session = .ended answers) :
    Handler.srbcallReq.run handling gateway srbmsg = .ok (gateway.respond answers) := by
  apply attached_ended ended
  intro inner
  cases read : readCall handling.uninit gateway.session.conn srbmsg with
  | ended exchange =>
      rw [read] at inner
      cases inner
      rfl
  | failed failure =>
      rw [read] at inner
      cases inner
  | complete request =>
      rw [read] at inner
      cases inner

theorem srbcallRpl_ended
    (ended : Handler.srbcallRpl.stage handling srbmsg gateway.session = .ended answers) :
    Handler.srbcallRpl.run handling gateway srbmsg = .ok (gateway.respond answers) := by
  apply attached_ended ended
  intro inner
  cases read : readReply handling.uninit gateway.session.conn srbmsg with
  | ended exchange =>
      rw [read] at inner
      cases inner
      rfl
  | failed failure =>
      rw [read] at inner
      cases inner
  | complete request =>
      rw [read] at inner
      cases inner

theorem srbinit_ended (ended : initStage gateway.session srbmsg = .ended answers) :
    gateway.srbinit handling srbmsg = .ok (gateway.respond answers) := by
  unfold initStage at ended
  unfold GatewayState.srbinit
  split_ifs at ended ⊢
  · cases read : readInit gateway.session srbmsg with
    | ended sent =>
        rw [read] at ended
        cases ended
        rfl
    | complete exchange role name =>
        rw [read] at ended
        cases role with
        | client => cases ended
        | gateway =>
            dsimp only at ended ⊢
            rw [initGateway_reads]
            exact Reading.act_ended ended _
  · simp_all

/-- A handler that ends has done nothing else. -/
theorem Handler.run_ended {handler : Handler}
    (ended : handler.stage handling srbmsg gateway.session = .ended answers) :
    handler.run handling gateway srbmsg = .ok (gateway.respond answers) := by
  cases handler with
  | srbprovide =>
      refine (srbprovide_reads handling gateway srbmsg).trans (notification_ended ended ?_)
      grind [Reading.act_ended, respond_nil]
  | srbunprovide =>
      refine (srbunprovide_reads gateway srbmsg).trans (notification_ended ended ?_)
      grind [Reading.act_ended, respond_nil]
  | srbsubscribe =>
      refine (srbsubscribe_reads handling gateway srbmsg).trans (notification_ended ended ?_)
      intro inner
      exact Reading.act_ended inner _
  | srbunsubscribe =>
      refine (srbunsubscribe_reads handling gateway srbmsg).trans (notification_ended ended ?_)
      intro inner
      exact Reading.act_ended inner _
  | srbcallReq => exact srbcallReq_ended ended
  | srbcallRpl => exact srbcallRpl_ended ended
  | srbinit => exact srbinit_ended ended

end

end MidWay.Gateway

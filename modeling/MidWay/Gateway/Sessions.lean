import MidWay.Gateway.IpcServer
import MidWay.Gateway.Peers
import MidWay.Gateway.StoreFrame

/-!
Contract: what a gateway does with each message of one network connection, as
`srbDoMessage` and the handlers behind it do it.

A session is a connection that a listening socket or the broker handed over, or one to
a peer; the multicast socket and the connection to the broker are none. A message that
was decoded has a map, so the test for a null map in `srbinit` is left out, and so are
the addresses of the other end.

Owns: `Session`, `GatewayState`, the handlers of all commands, the end of a connection,
and `GatewayState.srbDoMessage`, with what it has to do with the call store alone.
-/

namespace MidWay.Gateway

open MidWay.CLib MidWay.Url MidWay.Srb

def srbInit : List Byte := ascii "SRB INIT".toList
def srbReady : List Byte := ascii "SRB READY".toList
def srbUnprovide : List Byte := ascii "UNPROVIDE".toList
def srbHello : List Byte := ascii "HELLO".toList
def srbEvent : List Byte := ascii "EVENT".toList
def srbSubscribe : List Byte := ascii "SUBSCRIBE".toList
def srbUnsubscribe : List Byte := ascii "UNSUBSCRIBE".toList

def srbAuthentication : List Byte := ascii "AUTHENTICATION".toList
def srbCause : List Byte := ascii "CAUSE".toList
def srbClientname : List Byte := ascii "CLIENTNAME".toList
def srbGrace : List Byte := ascii "GRACE".toList
def srbMatch : List Byte := ascii "MATCH".toList
def srbName : List Byte := ascii "NAME".toList
def srbPattern : List Byte := ascii "PATTERN".toList
def srbPeerdomain : List Byte := ascii "PEERDOMAIN".toList
def srbRejects : List Byte := ascii "REJECTS".toList
def srbRemotetime : List Byte := ascii "REMOTETIME".toList
def srbReverse : List Byte := ascii "REVERSE".toList
def srbSubscriptionid : List Byte := ascii "SUBSCRIPTIONID".toList
def srbType : List Byte := ascii "TYPE".toList
def srbUser : List Byte := ascii "USER".toList
def srbVersion : List Byte := ascii "VERSION".toList

def srbprotocolversion : List Byte := ascii "0.9".toList

def srbTypeClient : List Byte := ascii "CLIENT".toList
def srbTypeGateway : List Byte := ascii "GATEWAY".toList

def srbAuthNone : List Byte := ascii "NONE".toList
def srbAuthPass : List Byte := ascii "PASS".toList
def srbAuthX509 : List Byte := ascii "x509".toList

def srbSubscribeGlob : List Byte := ascii "GLOB".toList
def srbSubscribeRegexp : List Byte := ascii "REGEXP".toList
def srbSubscribeExtregexp : List Byte := ascii "EXTREGEXP".toList

def srbProtoIsconnected : Int := 301
def srbProtoUnexpected : Int := 302
def srbProtoVernotsupp : Int := 410
def srbProtoNotnotification : Int := 412
def srbProtoNotrequest : Int := 413
def srbProtoNoclients : Int := 520
def srbProtoNogateways : Int := 521

def mwEvglob : UInt32 := 0x00100000
def mwEvregexp : UInt32 := 0x00200000
def mwEveregexp : UInt32 := 0x00400000

inductive Role where
  | client
  | gateway
deriving DecidableEq, Repr

/-- The type of a connection; the broker hands connections over without one. -/
inductive ConnType where
  | unset
  | client
  | gateway
deriving DecidableEq, Repr

/-- A connection with the two bits of its role. `accepted` is not kept by the source: it says
that `gwattachclient` or `gw_peerconnected` succeeded for this connection. -/
structure Session where
  conn : Connection
  isOpen : Bool
  clients : Bool
  gateways : Bool
  type : ConnType
  cost : Int
  peerinfo : Option Nat
  accepted : Bool
deriving DecidableEq, Repr

def Session.fresh (fd : Nat) (clients gateways : Bool) (type : ConnType) : Session :=
  ⟨⟨fd, unassigned, unassigned, false, false⟩, true, clients, gateways, type, 100, none, false⟩

/-- `conn_clear`, after which every bit of the role is set. -/
def Session.clear (session : Session) : Session :=
  { Session.fresh session.conn.fd true true .unset with
    isOpen := false
    accepted := session.accepted }

def Session.admits (session : Session) : Role → Bool
  | .client => session.clients
  | .gateway => session.gateways

/-- An element of the list of subscriptions; `fd` names its connection. -/
structure Subscription where
  fd : Nat
  id : Int
  pattern : List Byte
  flags : UInt32
deriving DecidableEq, Repr

/-- An event that was sent to `mwd`. -/
structure PostedEvent where
  event : List Byte
  data : Option (List Byte)
  username : List Byte
  clientname : List Byte
  senderid : UInt32
  peerGenerated : Bool
deriving DecidableEq, Repr

/-- The gateway, seen from one connection: `sent` went out on it, `closed` are the other
connections that were closed. `attaches` and `detaches` were asked of `mwd`, by the descriptor
and by the id of a client. -/
structure GatewayState where
  session : Session
  tables : PeerTables
  store : CallStore
  subscriptions : List Subscription
  events : List PostedEvent
  attaches : List Nat
  detaches : List UInt32
  closed : List Nat
  sent : List SRBmessage

/-- What a message meets: the values of variables before they are written, and the time as a
text. -/
structure Handling where
  around : Surroundings
  domain : Domain
  limit : Nat
  uninit : Uninit
  rc : Int
  cost : Int
  id : Int
  now : List Byte

def GatewayState.respond (gateway : GatewayState) (messages : List SRBmessage) : GatewayState :=
  { gateway with sent := gateway.sent ++ messages }

def GatewayState.reject (gateway : GatewayState) (srbmsg : SRBmessage) (rcode : Int) :
    GatewayState :=
  gateway.respond ((Exchange.mk srbmsg []).reject gateway.session.conn none none rcode).answers

/-- The connection's own end: its peer, if it has one, is no longer connected. -/
def GatewayState.closeOwn (gateway : GatewayState) : GatewayState :=
  { gateway with
    session := gateway.session.clear
    tables :=
      match gateway.session.peerinfo with
      | none => gateway.tables
      | some peer =>
          { gateway.tables with
            peers := gateway.tables.peers.modify peer fun pi => { pi with conn := none } } }

/-- The connection that is closed is the one the peer with this id has, which need not be the
one the function was called for. -/
def GatewayState.gwClosegateway (gateway : GatewayState) : GatewayState :=
  let conn := gateway.session.conn
  if conn.gwid ≠ unassigned then
    match gateway.tables.peers.findIdx? fun pi => pi.gwid == conn.gwid with
    | none => gateway.closeOwn
    | some peer =>
        let owner := gateway.tables.peers[peer]?.bind Gwpeerinfo.conn
        let gateway := { gateway with
          tables := (gateway.tables.impexpCleanuppeer peer).setPeer peer unassigned none }
        match owner with
        | none => gateway
        | some fd =>
            if fd = conn.fd then gateway.closeOwn
            else { gateway with closed := gateway.closed ++ [fd] }
  else gateway.closeOwn

def GatewayState.connDel (gateway : GatewayState) : GatewayState :=
  if gateway.session.conn.gwid ≠ unassigned then gateway.gwClosegateway
  else { gateway with session := gateway.session.clear }

def GatewayState.tcpcloseconnection (gateway : GatewayState) : GatewayState :=
  let conn := gateway.session.conn
  if conn.cid ≠ unassigned then
    GatewayState.connDel { gateway with
      store := gateway.store.storeSRBClearClient conn.cid
      subscriptions := gateway.subscriptions.filter fun sub => sub.fd ≠ conn.fd
      detaches := gateway.detaches ++ [conn.cid] }
  else if gateway.session.type = .gateway then gateway.gwClosegateway
  else gateway.connDel

def mwSrbsendinitreply (srbmsg : SRBmessage) (rcode : Int) (field : Option (List Byte)) :
    SRBmessage :=
  let srbmsg := mwSrbSetfieldi { srbmsg with marker := srbResponseMarker } srbReturncode rcode
  if rcode ≠ 0 then
    let srbmsg := mwSrbSetfield srbmsg srbCause (mwSrbReason rcode)
    match field with
    | some field => mwSrbSetfield srbmsg srbCausefield field
    | none => srbmsg
  else srbmsg

def mwSrbsendterm (grace : Int) : SRBmessage :=
  if grace = -1 then mwSrbInit srbTerm srbNotificationMarker
  else mwSrbSetfieldi (mwSrbInit srbTerm srbRequestMarker) srbGrace grace

/-- What is read of an `INIT` request: it is answered, or a role is asked for. -/
inductive InitReading where
  | ended (answers : List SRBmessage)
  | complete (exchange : Exchange) (role : Role) (name : List Byte)

def optionalIs (exchange : Exchange) (fieldname : List Byte) (values : List (List Byte)) : Bool :=
  match szGetOptField exchange fieldname with
  | none => true
  | some text => values.any fun value => strcaseeq (cstr text) value

def initRole (text : List Byte) : Option Role :=
  if strcaseeq (cstr text) srbTypeClient then some .client
  else if strcaseeq (cstr text) srbTypeGateway then some .gateway
  else none

/-- The fields after the role; the switches are read and dropped. -/
def readInitRest (conn : Connection) (exchange : Exchange) (role : Role) : InitReading :=
  match szGetReqField conn exchange srbName with
  | (none, exchange) => .ended exchange.answers
  | (some name, exchange) =>
      let illegal (field : List Byte) :=
        InitReading.ended [mwSrbsendinitreply exchange.srbmsg srbProtoIllegalvalue (some field)]
      if optionalIs exchange srbReverse [srbYes, srbNo] = false then illegal srbReverse
      else if optionalIs exchange srbRejects [srbYes, srbNo] = false then illegal srbRejects
      else if optionalIs exchange srbAuthentication [srbAuthNone, srbAuthPass, srbAuthX509] = false
      then illegal srbAuthentication
      else .complete exchange role (cstr name)

def readInit (session : Session) (srbmsg : SRBmessage) : InitReading :=
  match szGetReqField session.conn ⟨srbmsg, []⟩ srbVersion with
  | (none, exchange) => .ended exchange.answers
  | (some version, exchange) =>
      if strcaseeq srbprotocolversion (cstr version) = false then
        .ended [mwSrbsendinitreply exchange.srbmsg srbProtoVernotsupp (some srbVersion)]
      else
        match szGetReqField session.conn exchange srbType with
        | (none, exchange) => .ended exchange.answers
        | (some type, exchange) =>
            match initRole type with
            | none =>
                .ended [mwSrbsendinitreply exchange.srbmsg srbProtoIllegalvalue (some srbType)]
            | some role =>
                if session.admits role = false then
                  .ended [mwSrbsendinitreply exchange.srbmsg
                    (if role = .client then srbProtoNoclients else srbProtoNogateways)
                    (some srbType)]
                else readInitRest session.conn exchange role

section

variable (handling : Handling)

/-- The result of a refused attach goes through the table of return codes twice. -/
def GatewayState.initClient (gateway : GatewayState) (srbmsg : SRBmessage) : GatewayState :=
  if gateway.session.conn.cid ≠ unassigned then
    gateway.respond [mwSrbsendinitreply srbmsg srbProtoIsconnected none]
  else
    let rc := handling.around.attachRc
    let gateway := { gateway with attaches := gateway.attaches ++ [gateway.session.conn.fd] }
    if rc ≥ 0 then
      { gateway with
        session :=
          { gateway.session with
            conn := { gateway.session.conn with up := true }
            clients := true
            gateways := false
            type := .client
            accepted := true } }
    else gateway.respond [mwSrbsendinitreply srbmsg (mwErrno2srbrc (-mwErrno2srbrc (-rc))) none]

/-- Every service goes to the peer behind the connection. -/
def GatewayState.provideServices (gateway : GatewayState) : Except GatewayFailure GatewayState :=
  match gateway.tables.provideservicesToPeer handling.around gateway.session.conn.gwid with
  | .error failure => .error failure
  | .ok (tables, sent) => .ok ({ gateway with tables := tables }.respond sent)

/-- A peer that is turned away and still has an id is closed twice, the second time without a
descriptor. -/
def GatewayState.refusePeer (gateway : GatewayState) : Except GatewayFailure GatewayState :=
  let gateway := gateway.respond [mwSrbsendterm 0]
  if gateway.session.conn.gwid ≠ unassigned then
    let gateway := gateway.gwClosegateway
    if gateway.session.isOpen = false then .error .wildSlot else .ok gateway.connDel
  else .ok gateway.connDel

def GatewayState.acceptPeer (gateway : GatewayState) (peer : Nat) (srbmsg : SRBmessage) :
    Except GatewayFailure GatewayState :=
  let session := gateway.session
  let gateway := { gateway with
    session :=
      { session with
        conn := { session.conn with gwid := handling.around.allocgwid, up := true }
        clients := false
        gateways := true
        type := .gateway
        peerinfo := some peer
        accepted := true } }
  (gateway.respond [mwSrbsendinitreply srbmsg 0 none]).provideServices handling

def GatewayState.initGateway (gateway : GatewayState) (exchange : Exchange) (name : List Byte) :
    Except GatewayFailure GatewayState :=
  match szGetReqField gateway.session.conn exchange srbInstance with
  | (none, exchange) => .ok (gateway.respond exchange.answers)
  | (some instanceName, exchange) =>
      match szGetReqField gateway.session.conn exchange srbPeerdomain with
      | (none, exchange) => .ok (gateway.respond exchange.answers)
      | (some peerdomain, exchange) =>
          if cstr instanceName ≠ handling.around.myinstance then
            .ok (gateway.respond
              [mwSrbsendinitreply exchange.srbmsg srbProtoGatewayError none]).connDel
          else
            match gateway.tables.gwPeerconnected handling.around gateway.session.conn.fd name
                peerdomain with
            | (none, tables) => { gateway with tables := tables }.refusePeer
            | (some peer, tables) =>
                { gateway with tables := tables }.acceptPeer handling peer exchange.srbmsg

/-- The test of the reader's result never ends the handler, and nothing asks whether an `INIT`
was sent on this connection. -/
def GatewayState.initResponse (gateway : GatewayState) (srbmsg : SRBmessage) :
    Except GatewayFailure GatewayState :=
  let (_, rc, exchange) := iGetReqField gateway.session.conn ⟨srbmsg, []⟩ srbReturncode handling.rc
  let gateway := gateway.respond exchange.answers
  if rc = 0 then
    let gateway := { gateway with
      session := { gateway.session with conn := { gateway.session.conn with up := true } } }
    if gateway.session.type = .gateway then gateway.provideServices handling else .ok gateway
  else .ok gateway.gwClosegateway

def GatewayState.srbinit (gateway : GatewayState) (srbmsg : SRBmessage) :
    Except GatewayFailure GatewayState :=
  if srbmsg.marker = srbRequestMarker then
    match readInit gateway.session srbmsg with
    | .ended answers => .ok (gateway.respond answers)
    | .complete exchange .client _ => .ok (gateway.initClient handling exchange.srbmsg)
    | .complete exchange .gateway name => gateway.initGateway handling exchange name
  else if srbmsg.marker = srbResponseMarker then gateway.initResponse handling srbmsg
  else .ok (gateway.respond [mwSrbsendinitreply srbmsg srbProtoNotrequest none])

/-- `_mw_srbsendgwinit`, to a peer without a password. -/
def mwSrbsendgwinit (pi : Gwpeerinfo) : SRBmessage :=
  [(srbVersion, srbprotocolversion), (srbType, srbTypeGateway),
    (srbName, handling.around.myinstance), (srbPeerdomain, handling.around.mydomain),
    (srbInstance, pi.instanceName), (srbDomain, handling.around.mydomain),
    (srbAuthentication, srbAuthNone)].foldl
    (fun srbmsg field => mwSrbSetfield srbmsg field.1 field.2) (mwSrbInit srbInit srbRequestMarker)

def GatewayState.srbready (gateway : GatewayState) (srbmsg : SRBmessage) :
    Except GatewayFailure GatewayState :=
  if gateway.session.type = .gateway ∧ srbmsg.marker = srbNotificationMarker then
    match gateway.session.peerinfo.bind fun peer => gateway.tables.peers[peer]? with
    | none => .error .fatal
    | some pi =>
        if pi.gwid ∈ handling.around.gateways ∧ pi.conn = none then .error .fatal
        else if pi.domainid ≠ 0 then .error .fatal
        else
          let session := gateway.session
          let gateway := { gateway with
            session := { session with conn := { session.conn with up := false } } }
          .ok (gateway.respond [mwSrbsendgwinit handling pi])
  else .ok gateway

def GatewayState.srbterm (gateway : GatewayState) (srbmsg : SRBmessage) : GatewayState :=
  if srbmsg.marker = srbRequestMarker then
    let (_, _, exchange) := iGetOptField gateway.session.conn ⟨srbmsg, []⟩ srbGrace 0
    gateway.respond (exchange.answers ++ [mwSrbsendterm (-1)])
  else if srbmsg.marker = srbResponseMarker ∨ srbmsg.marker = srbNotificationMarker then
    gateway.tcpcloseconnection
  else gateway

def GatewayState.srbhello (gateway : GatewayState) (srbmsg : SRBmessage) : GatewayState :=
  if srbmsg.marker = srbRequestMarker then
    gateway.respond
      [{ mwSrbSetfield srbmsg srbRemotetime handling.now with marker := srbResponseMarker }]
  else if srbmsg.marker = srbResponseMarker then gateway
  else gateway.reject srbmsg srbProtoNotrequest

/-- The commands that are only taken as notifications turn the others away. -/
def GatewayState.notification (gateway : GatewayState) (srbmsg : SRBmessage)
    (handler : Except GatewayFailure GatewayState) : Except GatewayFailure GatewayState :=
  if srbmsg.marker = srbRequestMarker then .ok (gateway.reject srbmsg srbProtoNotnotification)
  else if srbmsg.marker = srbResponseMarker then .ok (gateway.reject srbmsg srbProtoUnexpected)
  else handler

/-- The peer is not looked at before the service is imported from it. -/
def GatewayState.srbprovide (gateway : GatewayState) (srbmsg : SRBmessage) :
    Except GatewayFailure GatewayState :=
  gateway.notification srbmsg <|
    if srbmsg.marker = srbNotificationMarker then
      let (_, cost, exchange) := iGetReqField gateway.session.conn ⟨srbmsg, []⟩ srbCost handling.cost
      match szGetReqField gateway.session.conn exchange srbSvcname with
      | (none, exchange) => .ok (gateway.respond exchange.answers)
      | (some svcname, exchange) =>
          (gateway.tables.importservice handling.around svcname (cost + gateway.session.cost)
            gateway.session.peerinfo).map
            fun tables => { gateway with tables := tables }.respond exchange.answers
    else .ok gateway

def GatewayState.srbunprovide (gateway : GatewayState) (srbmsg : SRBmessage) :
    Except GatewayFailure GatewayState :=
  gateway.notification srbmsg <|
    if srbmsg.marker = srbNotificationMarker then
      match szGetReqField gateway.session.conn ⟨srbmsg, []⟩ srbSvcname with
      | (none, exchange) => .ok (gateway.respond exchange.answers)
      | (some svcname, exchange) =>
          .ok ({ gateway with
            tables := gateway.tables.unimportservice svcname gateway.session.peerinfo }.respond
              exchange.answers)
    else .ok gateway

/-- `_mw_ipcsend_event`; nothing is sent without room for the data or without a sender. -/
def GatewayState.mwIpcsendEvent (gateway : GatewayState) (event : List Byte)
    (data username clientname : Option (List Byte)) (fromid : UInt32) (remote : Bool) :
    GatewayState :=
  let id := if fromid = unassigned then handling.around.myMwid else fromid
  if (data.isSome ∧ handling.around.eventAlloc = false) ∨ id = unassigned then gateway
  else
    let text (name : List Byte) := (cstr name).take mwMaxNameLen
    { gateway with
      events := gateway.events ++
        [⟨text event, data, text (username.getD []), text (clientname.getD []), id, remote⟩] }

def GatewayState.srbevent (gateway : GatewayState) (srbmsg : SRBmessage) :
    Except GatewayFailure GatewayState :=
  gateway.notification srbmsg <|
    match szGetReqField gateway.session.conn ⟨srbmsg, []⟩ srbName with
    | (none, exchange) => .ok (gateway.respond exchange.answers)
    | (some event, exchange) =>
        let session := gateway.session
        let isClient := session.clients && !session.gateways
        .ok (gateway.mwIpcsendEvent handling event (szGetOptField exchange srbData)
          (szGetOptField exchange srbUser) (szGetOptField exchange srbClientname)
          (if isClient then session.conn.cid else session.conn.gwid) (!isClient))

/-- A second subscription with the same id is ignored. -/
def GatewayState.subscribe (gateway : GatewayState) (pattern : List Byte) (id : Int)
    (flags : UInt32) : GatewayState :=
  let fd := gateway.session.conn.fd
  if gateway.subscriptions.any fun sub => sub.fd = fd ∧ sub.id = id then gateway
  else
    { gateway with subscriptions := gateway.subscriptions ++ [⟨fd, id, cstr pattern, flags⟩] }

def matchFlags (text : List Byte) : UInt32 :=
  if cstr text = srbSubscribeGlob then mwEvglob
  else if cstr text = srbSubscribeRegexp then mwEvregexp
  else if cstr text = srbSubscribeExtregexp then mwEveregexp
  else 0

def GatewayState.srbsubscribe (gateway : GatewayState) (srbmsg : SRBmessage) :
    Except GatewayFailure GatewayState :=
  gateway.notification srbmsg <|
    match szGetReqField gateway.session.conn ⟨srbmsg, []⟩ srbPattern with
    | (none, exchange) => .ok (gateway.respond exchange.answers)
    | (some pattern, exchange) =>
        match szGetReqField gateway.session.conn exchange srbMatch with
        | (none, exchange) => .ok (gateway.respond exchange.answers)
        | (some text, exchange) =>
            let (_, id, exchange) :=
              iGetReqField gateway.session.conn exchange srbSubscriptionid handling.id
            .ok ((gateway.subscribe pattern id (matchFlags text)).respond exchange.answers)

def GatewayState.srbunsubscribe (gateway : GatewayState) (srbmsg : SRBmessage) :
    Except GatewayFailure GatewayState :=
  gateway.notification srbmsg <|
    let (_, id, exchange) :=
      iGetReqField gateway.session.conn ⟨srbmsg, []⟩ srbSubscriptionid handling.id
    .ok ({ gateway with
      subscriptions := gateway.subscriptions.eraseP
        fun sub => sub.fd = gateway.session.conn.fd ∧ sub.id = id }.respond exchange.answers)

/-- A handler of a call, at work on the whole gateway. -/
def GatewayState.storing (gateway : GatewayState) (handled : Handled) :
    Except GatewayFailure GatewayState :=
  match handled with
  | .error failure => .error (.store failure)
  | .ok (store, answers) => .ok ({ gateway with store := store }.respond answers)

/-- What `srbDoMessage` calls for a message. -/
inductive Dispatch where
  | init
  | ready
  | noinit
  | term
  | hello
  | event
  | svccall
  | svcreply
  | provide
  | svcdata
  | unprovide
  | subscribe
  | unsubscribe
  | ignored
  | format
deriving DecidableEq, Repr

def dispatchUp (srbmsg : SRBmessage) : Dispatch :=
  let isCommand (name : List Byte) : Bool := strcaseeq srbmsg.command name
  match srbmsg.command.length with
  | 4 => if isCommand srbTerm then .term else .ignored
  | 5 => if isCommand srbHello then .hello else if isCommand srbEvent then .event else .ignored
  | 6 => .ignored
  | 7 =>
      if isCommand srbSvccall then
        if srbmsg.marker = srbRequestMarker ∨ srbmsg.marker = srbNotificationMarker then .svccall
        else if srbmsg.marker = srbResponseMarker then .svcreply
        else .ignored
      else if isCommand srbProvide then .provide
      else if isCommand srbSvcdata then .svcdata
      else .ignored
  | 8 => if isCommand srbInit then .init else .ignored
  | 9 =>
      if isCommand srbReady then .ready
      else if isCommand srbUnprovide then .unprovide
      else if isCommand srbSubscribe then .subscribe
      else .ignored
  | 11 => if isCommand srbUnsubscribe then .unsubscribe else .format
  | _ => .format

def dispatch (up : Bool) (srbmsg : SRBmessage) : Dispatch :=
  if up then dispatchUp srbmsg
  else if strcaseeq srbmsg.command srbInit then .init
  else if strcaseeq srbmsg.command srbReady then .ready
  else .noinit

def GatewayState.srbDoMessage (gateway : GatewayState) (srbmsg : SRBmessage) :
    Except GatewayFailure GatewayState :=
  let conn := gateway.session.conn
  match dispatch conn.up srbmsg with
  | .init => gateway.srbinit handling srbmsg
  | .ready => gateway.srbready handling srbmsg
  | .noinit => .ok (gateway.reject srbmsg srbProtoNoinit)
  | .term => .ok (gateway.srbterm srbmsg)
  | .hello => .ok (gateway.srbhello handling srbmsg)
  | .event => gateway.srbevent handling srbmsg
  | .svccall =>
      gateway.storing (srbcallReq handling.domain handling.limit handling.uninit gateway.store conn
        srbmsg)
  | .svcreply =>
      gateway.storing (srbcallRpl handling.domain handling.limit handling.uninit gateway.store conn
        srbmsg)
  | .provide => gateway.srbprovide handling srbmsg
  | .svcdata => gateway.storing (srbsvcdata handling.domain gateway.store conn srbmsg)
  | .unprovide => gateway.srbunprovide srbmsg
  | .subscribe => gateway.srbsubscribe handling srbmsg
  | .unsubscribe => gateway.srbunsubscribe handling srbmsg
  | .ignored => .ok gateway
  | .format => .ok (gateway.reject srbmsg srbProtoFormat)

end

/-- What a dispatched message is for the call store. -/
def Dispatch.command (marker : Byte) : Dispatch → Command
  | .svccall => .svccall
  | .svcreply => .svcreply
  | .svcdata => .svcdata
  | .term =>
      if marker = srbRequestMarker then .other
      else if marker = srbResponseMarker ∨ marker = srbNotificationMarker then .term
      else .other
  | _ => .other

section

variable {handling : Handling} {gateway next : GatewayState}

section

variable (event : List Byte) (data username clientname : Option (List Byte)) (fromid : UInt32)
  (remote : Bool)

theorem mwIpcsendEvent_events (gateway : GatewayState) :
    ∃ events, gateway.mwIpcsendEvent handling event data username clientname fromid remote =
      { gateway with events := events } := by
  unfold GatewayState.mwIpcsendEvent
  generalize (if fromid = unassigned then handling.around.myMwid else fromid) = id
  dsimp only
  split_ifs with unsent
  · exact ⟨gateway.events, rfl⟩
  · exact ⟨_, rfl⟩

end

end

end MidWay.Gateway

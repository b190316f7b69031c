import MidWay.Gateway.CallStore
import MidWay.Srb.ServiceCall

/-!
Contract: how the gateway handles the messages of a service call, as
`SRBprotocolServer.c` does it.

A handler reads the fields of the message and hands what it found to the call
store. A reject turns the message itself into the reject, and several handlers go
on with it: a later test of the marker then sees the reject marker. What a
variable holds that was never written is a parameter, in `Uninit`.

Owns: the field readers, `srbcallReq`, `srbsvcdata` and `srbcallRpl`, each as
what it reads and what it then does with the store, the reply message `mwSrbsendcallreply`, and what `srbDoMessage` does to the call store.
Messages with other commands leave the store alone; only that is said of them.
-/

namespace MidWay.Gateway

open MidWay.CLib MidWay.Url MidWay.Srb

/-- The request becomes the reply. `data` is `none` for a null pointer, else it has
at least one byte. -/
def mwSrbsendcallreply (limit : Nat) (srbmsg : SRBmessage) (data : Option (List Byte))
    (apprcode rcode : Int) : List SRBmessage :=
  let srbmsg := { srbmsg with marker := srbResponseMarker }
  let (srbmsg, rest) :=
    match data with
    | some data =>
        if data.length > limit then
          (mwSrbNsetfield (mwSrbSetfieldi srbmsg srbDatatotal data.length) srbData
            (data.take limit), data.drop limit)
        else (mwSrbNsetfield srbmsg srbData data, [])
    | none => (mwSrbDelfield srbmsg srbData, [])
  let srbmsg := mwSrbDelfield (mwSrbDelfield srbmsg srbApplicationrc) srbReturncode
  let srbmsg := mwSrbSetfieldi (mwSrbSetfieldi srbmsg srbApplicationrc apprcode) srbReturncode rcode
  let srbmsg := mwSrbDelfield (mwSrbDelfield srbmsg srbNoreply) srbMultiple
  srbmsg ::
    (if rest.length > 0 then
      mwSrbsenddata limit (cstr ((urlmapgetvalue srbmsg.map srbHandle).getD [])) rest
    else [])

/-- The message a handler works on, as the rejects leave it, and what was sent back
so far. -/
structure Exchange where
  srbmsg : SRBmessage
  answers : List SRBmessage
deriving DecidableEq, Repr

def Exchange.reject (exchange : Exchange) (conn : Connection)
    (causefield causevalue : Option (List Byte)) (rcode : Int) : Exchange :=
  let (srbmsg, sent) := mwSrbsendreject conn.rejects exchange.srbmsg causefield causevalue rcode
  ⟨srbmsg, exchange.answers ++ sent⟩

/-- The results -1, 0 and 1 of the readers of numbers. -/
inductive FieldResult where
  | failed
  | absent
  | found
deriving DecidableEq, Repr

def Exchange.field (exchange : Exchange) (fieldname : List Byte) : Option UrlmapEntry :=
  (urlmapget exchange.srbmsg.map fieldname).bind fun idx => exchange.srbmsg.map[idx]?

def szGetReqField (conn : Connection) (exchange : Exchange) (fieldname : List Byte) :
    Option (List Byte) × Exchange :=
  match exchange.field fieldname with
  | none => (none, exchange.reject conn (some fieldname) none srbProtoFieldmissing)
  | some entry =>
      match entry.value with
      | none => (none, exchange.reject conn (some fieldname) none srbProtoIllegalvalue)
      | some value => (some value, exchange)

def szGetOptField (exchange : Exchange) (fieldname : List Byte) : Option (List Byte) :=
  (exchange.field fieldname).bind UrlmapEntry.value

/-- The bytes of a field, none when it is absent or has no value. -/
def vGetOptBinField (exchange : Exchange) (fieldname : List Byte) : List Byte :=
  ((exchange.field fieldname).bind UrlmapEntry.value).getD []

/-- The variable keeps its value unless a number is found. -/
def iGetOptField (conn : Connection) (exchange : Exchange) (fieldname : List Byte) (value : Int) :
    FieldResult × Int × Exchange :=
  match exchange.field fieldname with
  | none => (.absent, value, exchange)
  | some entry =>
      match entry.value with
      | none => (.failed, value, exchange.reject conn (some fieldname) none srbProtoIllegalvalue)
      | some text =>
          match sscanfD text with
          | none =>
              (.failed, value,
                exchange.reject conn (some entry.key) (some text) srbProtoIllegalvalue)
          | some number => (.found, number, exchange)

def iGetReqField (conn : Connection) (exchange : Exchange) (fieldname : List Byte) (value : Int) :
    FieldResult × Int × Exchange :=
  match iGetOptField conn exchange fieldname value with
  | (.absent, value, exchange) =>
      (.failed, value, exchange.reject conn (some fieldname) none srbProtoFieldmissing)
  | result => result

/-- Unlike the reader of decimal numbers this one does not look for a value before
it reads the number. -/
def xGetOptField (conn : Connection) (exchange : Exchange) (fieldname : List Byte)
    (value : UInt32) : Except StoreFailure (FieldResult × UInt32 × Exchange) :=
  match exchange.field fieldname with
  | none => .ok (.absent, value, exchange)
  | some entry =>
      match entry.value with
      | none => .error .nullPointer
      | some text =>
          match sscanfX text with
          | none =>
              .ok (.failed, value,
                exchange.reject conn (some entry.key) (some text) srbProtoIllegalvalue)
          | some number => .ok (.found, number, exchange)

def xGetReqField (conn : Connection) (exchange : Exchange) (fieldname : List Byte)
    (value : UInt32) : Except StoreFailure (FieldResult × UInt32 × Exchange) :=
  match xGetOptField conn exchange fieldname value with
  | .ok (.absent, value, exchange) =>
      .ok (.failed, value, exchange.reject conn (some fieldname) none srbProtoFieldmissing)
  | result => result

/-- What the variables of the handlers hold before they are written. -/
structure Uninit where
  handle : UInt32
  appreturncode : Int

/-- The handler ends, with what it sent back or by a failure, or it has what it
hands to the store. -/
inductive Reading (Request : Type) where
  | ended (exchange : Exchange)
  | failed (failure : StoreFailure)
  | complete (request : Request)

structure DataRequest where
  exchange : Exchange
  handle : UInt32
  data : List Byte

structure CallRequest where
  exchange : Exchange
  handle : UInt32
  datatotal : Int
  data : List Byte
  svcname : List Byte
  instanceName : Option (List Byte)
  domainname : Option (List Byte)
  flags : UInt32

structure ReplyRequest where
  exchange : Exchange
  handle : UInt32
  returncode : Int
  appreturncode : Int
  datatotal : Int
  data : List Byte

section

variable (uninit : Uninit) (conn : Connection)

def readData (srbmsg : SRBmessage) : Reading DataRequest :=
  match xGetReqField conn ⟨srbmsg, []⟩ srbHandle 0xFFFFFFFF with
  | .error failure => .failed failure
  | .ok (.failed, _, exchange) => .ended exchange
  | .ok (_, handle, exchange) => .complete ⟨exchange, handle, vGetOptBinField exchange srbData⟩

/-- The handle of a request. Without the request marker the variable is not
written. -/
def callHandle (exchange : Exchange) : Option UInt32 × Exchange :=
  if exchange.srbmsg.marker = srbRequestMarker then
    match szGetReqField conn exchange srbHandle with
    | (none, exchange) => (none, exchange)
    | (some text, exchange) =>
        match sscanfX text with
        | none => (none, exchange.reject conn (some srbHandle) (some text) srbProtoIllegalvalue)
        | some handle => (some handle, exchange)
  else (some uninit.handle, exchange)

/-- The flags after the field `NOREPLY`. -/
def callFlags (exchange : Exchange) (flags : UInt32) : Option UInt32 × Exchange :=
  match szGetOptField exchange srbNoreply with
  | none => (some flags, exchange)
  | some text =>
      if strcaseeq (cstr text) srbYes then (some (flags ||| mwNoreply), exchange)
      else if strcaseeq (cstr text) srbNo then (some (flags &&& ~~~mwNoreply), exchange)
      else (none, exchange.reject conn (some srbNoreply) (some text) srbProtoIllegalvalue)

/-- The total number of bytes. `DATATOTAL` is read once more after its default was
put in, so a zero in the message wins over the length of the data. -/
def callTotal (exchange : Exchange) (data : List Byte) : Int × Exchange :=
  let (_, datatotal, exchange) := iGetOptField conn exchange srbDatatotal 0
  let datatotal := if datatotal = 0 then (data.length : Int) else datatotal
  let (_, datatotal, exchange) := iGetOptField conn exchange srbDatatotal datatotal
  (datatotal, exchange)

/-- A name that is too long is rejected with a pointer that was never set, and the
test for `HOPS` never ends the handler. -/
def readCall (srbmsg : SRBmessage) : Reading CallRequest :=
  match szGetReqField conn ⟨srbmsg, []⟩ srbSvcname with
  | (none, exchange) => .ended exchange
  | (some svcname, exchange) =>
      let svcname := cstr svcname
      if svcname.length > mwMaxSvcName then .failed .wildPointer
      else
        let (_, _, exchange) := iGetReqField conn exchange srbHops 0
        let data := vGetOptBinField exchange srbData
        let (datatotal, exchange) := callTotal conn exchange data
        let instanceName := (szGetOptField exchange srbInstance).map cstr
        let (_, _, exchange) := iGetOptField conn exchange srbSectolive (-1)
        let flags := if exchange.srbmsg.marker = srbNotificationMarker then mwNoreply else 0
        match callHandle uninit conn exchange with
        | (none, exchange) => .ended exchange
        | (some handle, exchange) =>
            match callFlags conn exchange flags with
            | (none, exchange) => .ended exchange
            | (some flags, exchange) =>
                let domainname := (szGetOptField exchange srbDomain).map cstr
                let (_, _, exchange) := iGetOptField conn exchange srbMaxhops 30
                .complete ⟨exchange, handle, datatotal, data, svcname, instanceName, domainname,
                  flags⟩

def readReply (srbmsg : SRBmessage) : Reading ReplyRequest :=
  match szGetReqField conn ⟨srbmsg, []⟩ srbSvcname with
  | (none, exchange) => .ended exchange
  | (some svcname, exchange) =>
      if (cstr svcname).length > mwMaxSvcName then
        .ended (exchange.reject conn (some srbSvcname) (some svcname) srbProtoIllegalvalue)
      else
        match xGetReqField conn exchange srbHandle uninit.handle with
        | .error failure => .failed failure
        | .ok (.failed, _, exchange) => .ended exchange
        | .ok (_, handle, exchange) =>
            match iGetReqField conn exchange srbReturncode 0 with
            | (.failed, _, exchange) => .ended exchange
            | (_, returncode, exchange) =>
                match iGetOptField conn exchange srbApplicationrc uninit.appreturncode with
                | (.failed, _, exchange) => .ended exchange
                | (_, appreturncode, exchange) =>
                    let data := vGetOptBinField exchange srbData
                    let (_, datatotal, exchange) := iGetOptField conn exchange srbDatatotal (-1)
                    let datatotal := if datatotal = 0 then (data.length : Int) else datatotal
                    .complete ⟨exchange, handle, returncode, appreturncode, datatotal, data⟩

end

/-- The store after a message, and what was sent back. -/
abbrev Handled := Except StoreFailure (CallStore × List SRBmessage)

section

variable (domain : Domain) (limit : Nat) (uninit : Uninit) (store : CallStore) (conn : Connection)

/-- The store after the data of a message, if it has any. -/
def storeRest (handle : UInt32) (data : List Byte) : Except StoreFailure CallStore :=
  if data.length > 0 then store.storeSRBData domain (connGetinfo conn) handle data else .ok store

def srbsvcdata (srbmsg : SRBmessage) : Handled :=
  match readData conn srbmsg with
  | .ended exchange => .ok (store, exchange.answers)
  | .failed failure => .error failure
  | .complete request =>
      (store.storeSRBData domain (connGetinfo conn) request.handle request.data).map
        fun store => (store, request.exchange.answers)

def srbcallReq (srbmsg : SRBmessage) : Handled :=
  if connGetinfo conn = unassigned then
    .ok (store, mwSrbsendcallreply limit srbmsg none 0 srbProtoNoinit)
  else
    match readCall uninit conn srbmsg with
    | .ended exchange => .ok (store, exchange.answers)
    | .failed failure => .error failure
    | .complete request =>
        let store := store.storeSRBCall domain (connGetinfo conn) request.handle
          request.exchange.srbmsg.map conn request.datatotal request.svcname request.instanceName
          request.domainname request.flags
        (storeRest domain store conn request.handle request.data).map
          fun store => (store, request.exchange.answers)

def srbcallRpl (srbmsg : SRBmessage) : Handled :=
  if connGetinfo conn = unassigned then
    .ok (store, mwSrbsendcallreply limit srbmsg none 0 srbProtoNoinit)
  else
    match readReply uninit conn srbmsg with
    | .ended exchange => .ok (store, exchange.answers)
    | .failed failure => .error failure
    | .complete request =>
        match store.storeSRBReply domain (connGetinfo conn) request.handle request.returncode
            request.appreturncode request.datatotal with
        | .error failure => .error failure
        | .ok store =>
            (storeRest domain store conn request.handle request.data).map
              fun store => (store, request.exchange.answers)

/-- `tcpcloseconnection`, for the store. -/
def tcpcloseconnection : CallStore :=
  if conn.cid ≠ unassigned then store.storeSRBClearClient conn.cid else store

inductive Command where
  | svccall
  | svcreply
  | svcdata
  | term
  | other
deriving DecidableEq, Repr

/-- The commands are told apart by their length first, and nothing but an `INIT` or a
`READY` is handled before the connection is up. -/
def command (srbmsg : SRBmessage) : Command :=
  if conn.up = false then .other
  else if srbmsg.command.length = 7 ∧ strcaseeq srbmsg.command srbSvccall then
    if srbmsg.marker = srbRequestMarker ∨ srbmsg.marker = srbNotificationMarker then .svccall
    else if srbmsg.marker = srbResponseMarker then .svcreply
    else .other
  else if srbmsg.command.length = 7 ∧ strcaseeq srbmsg.command srbSvcdata then .svcdata
  else if srbmsg.command.length = 4 ∧ strcaseeq srbmsg.command srbTerm ∧
      (srbmsg.marker = srbResponseMarker ∨ srbmsg.marker = srbNotificationMarker) then .term
  else .other

def srbDoMessage (srbmsg : SRBmessage) : Except StoreFailure CallStore :=
  match command conn srbmsg with
  | .svccall => (srbcallReq domain limit uninit store conn srbmsg).map Prod.fst
  | .svcreply => (srbcallRpl domain limit uninit store conn srbmsg).map Prod.fst
  | .svcdata => (srbsvcdata domain store conn srbmsg).map Prod.fst
  | .term => .ok (tcpcloseconnection store conn)
  | .other => .ok store

end

end MidWay.Gateway

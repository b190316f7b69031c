import MidWay.Gateway.FieldReads
import MidWay.Gateway.StoreFrame
import MidWay.Lib.Runs
import MidWay.Srb.CallMessages

/-!
Contract: the data of a service call reaches the IPC call the gateway sends for
it, however it was split and whatever other peers send in between.

The client's messages are what the wire makes of `_mw_srbsendcall`; the gateway
handles them in order, and between any two of them any number of messages and
replies for others. A message of another peer that ends the gateway ends this
call too, so the runs are those in which none does: `Harmless` says when that is
so, from the message and the call it finds.

Owns: `ClientCall`, `gatewayMachine`, `transferMachine`, `Harmless`, and the
invariant that follows one call through the store.
-/

namespace MidWay.Gateway

open MidWay.CLib MidWay.Url MidWay.Srb MidWay.Lib

theorem readData_dataMessage (conn : Connection) (handle : UInt32) (data : List Byte) :
    readData conn (dataMessage (sprintfUpperX handle) data) =
      .complete ⟨⟨dataMessage (sprintfUpperX handle) data, []⟩, handle, data⟩ := by
  simp +decide [readData, xGetReqField, xGetOptField, vGetOptBinField, Exchange.field_eq,
    dataMessage, sscanfX_sprintfUpperX]

theorem find?_optionalField (key fieldname : List Byte) (value : Option Int) :
    ((optionalField key value).find? fun entry => strcaseeq fieldname entry.key) =
      if strcaseeq fieldname key then value.map fun number => ⟨key, some (sprintfD number)⟩
      else none := by
  cases value with
  | none => simp [optionalField]
  | some number =>
      simp [optionalField, Option.toList_some, List.map_cons, List.map_nil, Option.map_some]

theorem iGetOptField_number (conn : Connection) {exchange : Exchange} {fieldname key : List Byte}
    {number : Option Int}
    (field : exchange.field fieldname = number.map fun value => ⟨key, some (sprintfD value)⟩)
    (isInt : ∀ value, number = some value → -2147483648 ≤ value ∧ value < 2147483648)
    (value : Int) :
    ∃ result, iGetOptField conn exchange fieldname value =
      (result, number.getD value, exchange) := by
  cases number with
  | none => exact ⟨.absent, by simp [iGetOptField, field]⟩
  | some written =>
      simp [iGetOptField, field, sscanfD_sprintfD, isInt]

/-- The total that was announced, else the length of the data. -/
theorem callTotal_announced (conn : Connection) {exchange : Exchange} {total : Option Int}
    (field : exchange.field srbDatatotal =
      total.map fun number => ⟨srbDatatotal, some (sprintfD number)⟩)
    (isInt : ∀ number, total = some number → -2147483648 ≤ number ∧ number < 2147483648)
    (data : List Byte) : callTotal conn exchange data = (total.getD data.length, exchange) := by
  rcases iGetOptField_number conn field isInt 0 with ⟨first, firstRead⟩
  cases total with
  | none =>
      rcases iGetOptField_number conn field isInt data.length with ⟨second, secondRead⟩
      simp only [callTotal, firstRead, Option.getD_none, if_pos, secondRead]
  | some number =>
      rcases iGetOptField_number conn field isInt (if number = 0 then (data.length : Int) else number)
        with ⟨second, secondRead⟩
      simp only [callTotal, firstRead, Option.getD_some, secondRead]

section CallMessage

variable (handle : UInt32) {svcname : List Byte} (data : List Byte) {total secstolive : Option Int}

/-- The first message of a call, as a handler starts on it. -/
def callExchange (handle : UInt32) (svcname data : List Byte) (total secstolive : Option Int) :
    Exchange :=
  ⟨callMessage (sprintfUpperX handle) svcname total data secstolive, []⟩

theorem field_callExchange (svcname : List Byte) (total secstolive : Option Int)
    (fieldname : List Byte) :
    (callExchange handle svcname data total secstolive).field fieldname =
      ([⟨srbHandle, some (sprintfUpperX handle)⟩, ⟨srbSvcname, some svcname⟩].find?
          fun entry => strcaseeq fieldname entry.key).or
        ((if strcaseeq fieldname srbDatatotal then
            total.map fun number => ⟨srbDatatotal, some (sprintfD number)⟩ else none).or
          (([⟨srbData, some data⟩].find? fun entry => strcaseeq fieldname entry.key).or
            ((if strcaseeq fieldname srbSectolive then
                secstolive.map fun number => ⟨srbSectolive, some (sprintfD number)⟩ else none).or
              ([⟨srbHops, some (sprintfD 0)⟩].find? fun entry =>
                strcaseeq fieldname entry.key)))) := by
  rw [Exchange.field_eq, callExchange, callMessage]
  simp only [List.find?_append, find?_optionalField, Option.or_assoc]

theorem readCall_callMessage (uninit : Uninit) (conn : Connection) (plain : 0 ∉ svcname)
    (short : svcname.length ≤ 32)
    (totalOk : ∀ number, total = some number → 0 < number ∧ number < 2147483648)
    (timeOk : ∀ time, secstolive = some time → -2147483648 ≤ time ∧ time < 2147483648) :
    readCall uninit conn (callMessage (sprintfUpperX handle) svcname total data secstolive) =
      .complete ⟨callExchange handle svcname data total secstolive, handle,
        total.getD data.length, data, svcname, none, none, 0⟩ := by
  have field := field_callExchange handle data svcname total secstolive
  have text : cstr svcname = svcname := cstr_eq_self plain
  have fits : ¬ svcname.length > mwMaxSvcName := by
    grind [mwMaxSvcName]
  have zero : sscanfD (sprintfD 0) = some 0 := sscanfD_sprintfD (by decide) (by decide)
  generalize isExchange : callExchange handle svcname data total secstolive = exchange at field ⊢
  have request : exchange.srbmsg.marker = srbRequestMarker := by
    rw [← isExchange]
    rfl
  have nameRead : szGetReqField conn exchange srbSvcname = (some svcname, exchange) := by
    simp +decide [szGetReqField, field]
  have hopsRead : iGetReqField conn exchange srbHops 0 = (.found, 0, exchange) := by
    simp +decide [iGetReqField, iGetOptField, field, zero]
  have dataRead : vGetOptBinField exchange srbData = data := by
    simp +decide [vGetOptBinField, field]
  have totalInt : ∀ number, total = some number → -2147483648 ≤ number ∧ number < 2147483648 := by
    grind
  have totalRead : callTotal conn exchange data = (total.getD data.length, exchange) :=
    callTotal_announced conn (by simp +decide [field]) totalInt data
  have noInstance : szGetOptField exchange srbInstance = none := by
    simp +decide [szGetOptField, field]
  have timeField : exchange.field srbSectolive =
      secstolive.map fun number => ⟨srbSectolive, some (sprintfD number)⟩ := by
    simp +decide [field]
  rcases iGetOptField_number conn timeField timeOk (-1) with ⟨timeRead, time⟩
  have handleRead : callHandle uninit conn exchange = (some handle, exchange) := by
    simp +decide [callHandle, request, szGetReqField, field, sscanfX_sprintfUpperX]
  have flagsRead : callFlags conn exchange 0 = (some 0, exchange) := by
    simp +decide [callFlags, szGetOptField, field]
  have noDomain : szGetOptField exchange srbDomain = none := by
    simp +decide [szGetOptField, field]
  have noMaxhops : iGetOptField conn exchange srbMaxhops 30 = (.absent, 30, exchange) := by
    simp +decide [iGetOptField, field]
  have start : (⟨callMessage (sprintfUpperX handle) svcname total data secstolive, []⟩ : Exchange) =
      exchange := isExchange
  have notNotification : ¬ srbRequestMarker = srbNotificationMarker := by decide
  simp_all [readCall, if_neg]

end CallMessage

variable {adr limit : Nat}

/-- A call that waits for data is the first its client finds under the handle. -/
theorem storeSRBCall_waiting {store : CallStore} (ok : StoreOk store) (domain : Domain)
    (mwid nethandle : UInt32) (map : Urlmap) (conn : Connection) {datatotal : Int}
    (waits : datatotal ≠ 0) (service : List Byte) (instanceName domainname : Option (List Byte))
    (flags : UInt32) :
    ∃ adr, (store.storeSRBCall domain mwid nethandle map conn datatotal service instanceName
        domainname flags).lookupPendingCall mwid nethandle = some adr ∧
      (store.storeSRBCall domain mwid nethandle map conn datatotal service instanceName
        domainname flags).pc adr =
        openedCall domain mwid nethandle map conn datatotal service instanceName domainname flags ∧
      (store.storeSRBCall domain mwid nethandle map conn datatotal service instanceName
        domainname flags).sent = store.sent := by
  have taken := newPendingCall_taken ok mwid nethandle
  rw [CallStore.storeSRBCall]
  generalize store.newPendingCall mwid nethandle = result at taken
  rcases result with ⟨adr, store'⟩
  have zero : store'.pc adr = _ := taken.pc
  have inFront : store'.hash (mkhash mwid nethandle) = adr :: store.hash (mkhash mwid nethandle) := by
    rw [taken.hash, linked, if_pos rfl]
  refine ⟨adr, ?_⟩
  simp only [zero]
  generalize opened : openedCall domain mwid nethandle map conn datatotal service instanceName
    domainname flags = pc
  have unchanged : (store'.setPc adr pc).checkIfComplete domain adr = store'.setPc adr pc := by
    have here : (store'.setPc adr pc).pc adr = pc := if_pos rfl
    have incomplete : pc.datarecv ≠ pc.datalen := by
      rw [← opened]
      exact Ne.symm waits
    have status : pc.status = .calldatapending := by
      rw [← opened]
      rfl
    simp_all [CallStore.checkIfComplete]
  have stored : ((store'.setPc adr pc).checkIfComplete domain adr).lookupPendingCall mwid nethandle =
      some adr ∧ ((store'.setPc adr pc).checkIfComplete domain adr).pc adr = pc ∧
      ((store'.setPc adr pc).checkIfComplete domain adr).sent = store.sent := by
    rw [unchanged]
    refine ⟨?_, if_pos rfl, taken.rest.2⟩
    have matched : ((store'.setPc adr pc).pc adr).hasTuple mwid nethandle = true := by
      rw [show (store'.setPc adr pc).pc adr = pc from if_pos rfl, ← opened]
      simp [PendingCall.hasTuple, openedCall]
    rw [CallStore.lookupPendingCall]
    change (store'.hash (mkhash mwid nethandle)).find? _ = _
    rw [inFront, List.find?_cons, matched]
  rw [← opened] at stored ⊢
  exact stored

theorem lookup_setPc {store : CallStore} {pc : PendingCall}
    (same : ∀ mwid hdl, pc.hasTuple mwid hdl = (store.pc adr).hasTuple mwid hdl)
    (mwid hdl : UInt32) :
    (store.setPc adr pc).lookupPendingCall mwid hdl = store.lookupPendingCall mwid hdl := by
  apply List.find?_congr
  grind [CallStore.setPc]

theorem storeSRBData_waiting {store : CallStore} (domain : Domain) {mwid nethandle : UInt32}
    {data : List Byte} (found : store.lookupPendingCall mwid nethandle = some adr)
    (collecting : (store.pc adr).status = .calldatapending) (fits : (store.pc adr).Fits data)
    (granted : (store.pc adr).Granted domain data)
    (incomplete : ((store.pc adr).received domain data).datarecv ≠ ((store.pc adr).received domain data).datalen) :
    store.storeSRBData domain mwid nethandle data =
      .ok (store.setPc adr ((store.pc adr).received domain data)) := by
  have here : (store.setPc adr ((store.pc adr).received domain data)).pc adr =
      (store.pc adr).received domain data := if_pos rfl
  have status : ((store.pc adr).received domain data).status = .calldatapending := collecting
  simp_all [storeSRBData_found, CallStore.checkIfComplete]

/-- What reaches the store: a message, the end of a connection, a reply of a server.
The service table, shared memory and what unwritten variables hold may differ from
one message to the next. -/
inductive GatewayEvent where
  | message (domain : Domain) (uninit : Uninit) (conn : Connection) (srbmsg : SRBmessage)
  | closed (conn : Connection)
  | ipcReply (cmsg : Call)

def GatewayEvent.handle (limit : Nat) (store : CallStore) :
    GatewayEvent → Except StoreFailure CallStore
  | .message domain uninit conn srbmsg => srbDoMessage domain limit uninit store conn srbmsg
  | .closed conn => .ok (tcpcloseconnection store conn)
  | .ipcReply cmsg => (store.storeIPCReply cmsg).map Prod.snd

/-- The gateway from its start, whatever it is sent. -/
def gatewayMachine (limit : Nat) : Machine CallStore GatewayEvent StoreFailure where
  start := fun store => store = emptyStore
  enabled := fun _ _ => True
  step := GatewayEvent.handle limit

/-- An event that does not come from this client, and is no reply to it. -/
def GatewayEvent.Foreign (mwid : UInt32) : GatewayEvent → Prop
  | .message _ _ conn _ => connGetinfo conn ≠ mwid ∧ conn.cid ≠ mwid
  | .closed conn => conn.cid ≠ mwid
  | .ipcReply cmsg => cmsg.callerMwid ≠ mwid ∧ cmsg.callerMwid ≠ 0

/-- The data of the first message stays within the total, and shared memory has a
buffer for it. -/
def CallRequest.Sound (domain : Domain) (request : CallRequest) : Prop :=
  request.data ≠ [] →
    (request.datatotal < 0 ∨ (request.data.length : Int) ≤ request.datatotal) ∧
    domain.mwalloc (if request.datatotal < 0 then (request.data.length : Int)
      else request.datatotal) = true

/-- The data stays within the total of the call it is for, if there is one. -/
def DataRequest.Sound (domain : Domain) (store : CallStore) (mwid : UInt32)
    (request : DataRequest) : Prop :=
  ∀ adr, store.lookupPendingCall mwid request.handle = some adr →
    (store.pc adr).Fits request.data ∧ (store.pc adr).Granted domain request.data

/-- The reply is to a call that waits for one; its data stays within its total and
the total is not, by chance, the number of bytes the request had. -/
def ReplyRequest.Sound (domain : Domain) (store : CallStore) (mwid : UInt32)
    (request : ReplyRequest) : Prop :=
  ∀ adr, store.lookupPendingCall mwid request.handle = some adr →
    (store.pc adr).status = .replypending ∧
    (request.data ≠ [] → (store.pc adr).datarecv ≠ request.datatotal ∧
      ({ store.pc adr with datalen := request.datatotal } : PendingCall).Fits request.data ∧
      ({ store.pc adr with datalen := request.datatotal } : PendingCall).Granted domain
        request.data)

/-- The handler does not follow a bad pointer while it reads, and what it hands to the
store is sound. -/
def Reading.Sound {Request : Type} (sound : Request → Prop) : Reading Request → Prop
  | .ended _ => True
  | .failed _ => False
  | .complete request => sound request

def GatewayEvent.Harmless (store : CallStore) : GatewayEvent → Prop
  | .message domain uninit conn srbmsg =>
      match command conn srbmsg with
      | .svccall => connGetinfo conn ≠ unassigned →
          (readCall uninit conn srbmsg).Sound fun request => request.Sound domain
      | .svcreply => connGetinfo conn ≠ unassigned →
          (readReply uninit conn srbmsg).Sound fun request =>
            request.Sound domain store (connGetinfo conn)
      | .svcdata => (readData conn srbmsg).Sound fun request =>
          request.Sound domain store (connGetinfo conn)
      | .term => True
      | .other => True
  | .closed _ => True
  | .ipcReply _ => True

variable {store' : CallStore}

section Accepted

variable {store : CallStore} {domain : Domain} {conn : Connection}

theorem CallRequest.Sound.accepted (ok : StoreOk store) {request : CallRequest}
    (sound : request.Sound domain) (conn : Connection) (map : Urlmap) :
    ∃ store', storeRest domain (store.storeSRBCall domain (connGetinfo conn) request.handle map conn
      request.datatotal request.svcname request.instanceName request.domainname request.flags) conn
      request.handle request.data = .ok store' := by
  rw [storeRest]
  split_ifs with hasData
  · rcases sound (List.length_pos_iff.mp hasData) with ⟨within, granted⟩
    have waits : request.datatotal ≠ 0 := by omega
    rcases storeSRBCall_waiting ok domain (connGetinfo conn) request.handle map conn waits
      request.svcname request.instanceName request.domainname request.flags with
      ⟨adr, found, opened, -⟩
    have fits : (openedCall domain (connGetinfo conn) request.handle map conn request.datatotal
        request.svcname request.instanceName request.domainname request.flags).Fits
        request.data := by
      simp only [PendingCall.Fits, PendingCall.total, openedCall, clearPendingCall,
        PendingCall.datarecv, List.length_nil]
      split_ifs <;> omega
    have buffered : (openedCall domain (connGetinfo conn) request.handle map conn request.datatotal
        request.svcname request.instanceName request.domainname request.flags).Buffered :=
      ⟨Or.inl rfl, Int.le_refl 0⟩
    refine ⟨_, storeSRBData_found domain found ?_ ?_⟩
    · simp [opened, fits]
    · rw [opened]
      exact buffered.granted fits fun _ => granted
  · exact ⟨_, rfl⟩

theorem DataRequest.Sound.accepted {mwid : UInt32} {request : DataRequest}
    (sound : request.Sound domain store mwid) :
    ∃ store', store.storeSRBData domain mwid request.handle request.data = .ok store' := by
  cases found : store.lookupPendingCall mwid request.handle with
  | none => exact ⟨store, by rw [CallStore.storeSRBData, found]⟩
  | some adr =>
      rcases sound adr found with ⟨fits, granted⟩
      exact ⟨_, storeSRBData_found domain found fits granted⟩

theorem ReplyRequest.Sound.accepted {request : ReplyRequest}
    (sound : request.Sound domain store (connGetinfo conn)) :
    ∃ between store', store.storeSRBReply domain (connGetinfo conn) request.handle
        request.returncode request.appreturncode request.datatotal = .ok between ∧
      storeRest domain between conn request.handle request.data = .ok store' := by
  cases found : store.lookupPendingCall (connGetinfo conn) request.handle with
  | none =>
      simp [CallStore.storeSRBReply, found, storeRest, CallStore.storeSRBData]
  | some adr =>
      rcases sound adr found with ⟨waits, dataSound⟩
      rw [CallStore.storeSRBReply, found]
      simp only [if_pos waits]
      generalize isReplied : ({ store.pc adr with
        call := { (store.pc adr).call with
          returncode := request.returncode, appreturncode := request.appreturncode }
        status := .replydatapending
        datalen := request.datatotal } : PendingCall) = pc
      by_cases hasData : request.data.length > 0
      · rcases dataSound (List.length_pos_iff.mp hasData) with ⟨unequal, fits, granted⟩
        have here : (store.setPc adr pc).pc adr = pc := if_pos rfl
        have status : pc.status = .replydatapending := by rw [← isReplied]
        have incomplete : pc.datarecv ≠ pc.datalen := by
          rw [← isReplied]
          exact unequal
        have unchanged : (store.setPc adr pc).checkIfComplete domain adr = store.setPc adr pc := by
          simp_all [CallStore.checkIfComplete]
        have stillFound : (store.setPc adr pc).lookupPendingCall (connGetinfo conn) request.handle =
            some adr := by
          rw [lookup_setPc (by rw [← isReplied]; intro _ _; rfl), found]
        have roomy : ((store.setPc adr pc).pc adr).Fits request.data := by
          rw [here, ← isReplied]
          exact fits
        have buffered : ((store.setPc adr pc).pc adr).Granted domain request.data := by
          rw [here, ← isReplied]
          exact granted
        have stored := storeSRBData_found domain stillFound roomy buffered
        rw [unchanged]
        exact ⟨_, _, rfl, (if_pos hasData).trans stored⟩
      · exact ⟨_, _, rfl, if_neg hasData⟩

end Accepted

variable {event : GatewayEvent}

/-- A harmless event is handled, and changes nothing for the clients it does not
come from. -/
theorem GatewayEvent.Harmless.handled (limit : Nat) {store : CallStore} (well : WellStore store)
    (harmless : event.Harmless store) :
    ∃ store', event.handle limit store = .ok store' := by
  cases event with
  | message domain uninit conn srbmsg =>
      rw [GatewayEvent.handle, srbDoMessage]
      rw [GatewayEvent.Harmless] at harmless
      cases isCommand : command conn srbmsg with
      | svccall =>
          simp only [isCommand] at harmless ⊢
          rw [srbcallReq]
          split_ifs with unattached
          · exact ⟨store, rfl⟩
          · have sound := harmless unattached
            cases reading : readCall uninit conn srbmsg with
            | ended exchange => exact ⟨store, rfl⟩
            | failed failure =>
                rw [reading] at sound
                exact absurd sound id
            | complete request =>
                rw [reading] at sound
                rcases CallRequest.Sound.accepted well.ok sound conn request.exchange.srbmsg.map with
                  ⟨store', accepted⟩
                exact ⟨store', by simp only [accepted]; rfl⟩
      | svcreply =>
          simp only [isCommand] at harmless ⊢
          rw [srbcallRpl]
          split_ifs with unattached
          · exact ⟨store, rfl⟩
          · have sound := harmless unattached
            cases reading : readReply uninit conn srbmsg with
            | ended exchange => exact ⟨store, rfl⟩
            | failed failure =>
                rw [reading] at sound
                exact absurd sound id
            | complete request =>
                rw [reading] at sound
                rcases ReplyRequest.Sound.accepted sound with
                  ⟨between, store', replied, accepted⟩
                exact ⟨store', by simp only [replied, accepted]; rfl⟩
      | svcdata =>
          simp only [isCommand] at harmless ⊢
          rw [srbsvcdata]
          cases reading : readData conn srbmsg with
          | ended exchange => exact ⟨store, rfl⟩
          | failed failure =>
              rw [reading] at harmless
              exact absurd harmless id
          | complete request =>
              rw [reading] at harmless
              rcases DataRequest.Sound.accepted harmless with ⟨store', accepted⟩
              exact ⟨store', by simp only [accepted]; rfl⟩
      | term => exact ⟨_, rfl⟩
      | other => exact ⟨_, rfl⟩
  | closed conn => exact ⟨_, rfl⟩
  | ipcReply cmsg =>
      rw [GatewayEvent.handle, CallStore.storeIPCReply]
      cases found : store.lookupPendingCall cmsg.callerMwid cmsg.handle with
      | none => exact ⟨store, rfl⟩
      | some adr =>
          have owned := well.owned adr ⟨_, List.mem_of_find?_eq_some found⟩
          cases hasConn : (store.pc adr).srcconn with
          | none => exact absurd hasConn owned.conn
          | some conn =>
              simp only [hasConn]
              split_ifs
              · exact ⟨_, rfl⟩
              · exact ⟨_, rfl⟩
              · exact ⟨_, rfl⟩

theorem handle_well {store : CallStore} (well : WellStore store)
    (result : event.handle limit store = .ok store') : WellStore store' := by
  cases event with
  | message domain uninit conn srbmsg => exact (srbDoMessage_serves well result).1
  | closed conn =>
      cases result
      exact (tcpcloseconnection_serves well conn).well
  | ipcReply cmsg =>
      rcases map_eq_ok result with ⟨⟨answer, after⟩, replied, rfl⟩
      rcases storeIPCReply_acts well replied with rfl | ⟨adr, -, acts⟩
      · exact well
      · exact acts.well

/-- An event of others leaves the calls of a client as they are. -/
theorem GatewayEvent.Foreign.untouched {store : CallStore} (well : WellStore store) {mwid : UInt32}
    (foreign : event.Foreign mwid) (result : event.handle limit store = .ok store') :
    Untouched mwid store store' := by
  cases event with
  | message domain uninit conn srbmsg =>
      exact (srbDoMessage_serves well result).2 mwid (Ne.symm foreign.1) (Ne.symm foreign.2)
  | closed conn =>
      cases result
      exact (tcpcloseconnection_serves well conn).untouched mwid (Ne.symm foreign)
  | ipcReply cmsg =>
      rcases map_eq_ok result with ⟨⟨answer, after⟩, replied, rfl⟩
      rcases storeIPCReply_acts well replied with rfl | ⟨adr, found, acts⟩
      · exact Untouched.refl mwid _
      · apply acts.untouched
        rw [(well.lookup_owner foreign.2 found).2]
        exact Ne.symm foreign.1

theorem gatewayMachine_well {store : CallStore}
    (reachable : (gatewayMachine limit).Reachable (fun _ _ => True) store) : WellStore store := by
  apply reachable.holds
  · rintro start rfl
    exact ⟨emptyStore_ok, fun adr pending => absurd pending (emptyStore_not_pending adr)⟩
  · intro before event after well _ _ result
    exact handle_well well result

/-- A call a client makes with `_mw_srbsendcall`, with data and for a reply. -/
structure ClientCall where
  conn : Connection
  limit : Nat
  secstolive : Option Int
  garbage : List Byte
  handle : UInt32
  svcname : List Byte
  data : List Byte
  flags : UInt32
  up : conn.up = true
  attached : connGetinfo conn ≠ unassigned
  limitOk : 11 ≤ limit ∧ limit ≤ 1000
  timeOk : ∀ time, secstolive = some time → -2147483648 ≤ time ∧ time < 2147483648
  nameOk : svcname.length ≤ 32 ∧ 0 ∉ svcname
  nonempty : data ≠ []
  wantsReply : flags &&& mwNoreplyFlag = 0

def ClientCall.mwid (call : ClientCall) : UInt32 := connGetinfo call.conn

def ClientCall.messages (call : ClientCall) : List SRBmessage :=
  mwSrbsendcall call.limit call.secstolive call.garbage call.handle call.svcname (some call.data)
    call.flags

def ClientCall.arriving (call : ClientCall) : List SRBmessage := call.messages.filterMap transmit

/-- The store, and how many messages of the call it has handled. -/
structure TransferState where
  store : CallStore
  handled : Nat

inductive TransferAction where
  | own (domain : Domain) (uninit : Uninit)
  | other (event : GatewayEvent)

/-- The next message of the call is handled, or an event of others. -/
def transferStep (call : ClientCall) (state : TransferState) :
    TransferAction → Except StoreFailure TransferState
  | .own domain uninit =>
      match call.arriving[state.handled]? with
      | none => .ok state
      | some srbmsg =>
          (srbDoMessage domain call.limit uninit state.store call.conn srbmsg).map
            fun store => ⟨store, state.handled + 1⟩
  | .other event =>
      (event.handle call.limit state.store).map fun store => ⟨store, state.handled⟩

def transferMachine (call : ClientCall) (before : CallStore) :
    Machine TransferState TransferAction StoreFailure where
  start := fun state => state = ⟨before, 0⟩
  enabled := fun state action =>
    match action with
    | .own _ _ => state.handled < call.arriving.length
    | .other event => event.Foreign call.mwid
  step := transferStep call

/-- Shared memory has a buffer for the data of the call, and what others send is
harmless. -/
def Survivable (call : ClientCall) (state : TransferState) : TransferAction → Prop
  | .own domain _ => state.handled = 0 → domain.mwalloc call.data.length = true
  | .other event => event.Harmless state.store

/-- The store collects the data of the call and has this much of it. -/
structure Transferring (call : ClientCall) (received : List Byte) (store : CallStore) (adr : Nat) :
    Prop where
  found : store.lookupPendingCall call.mwid call.handle = some adr
  status : (store.pc adr).status = .calldatapending
  datalen : (store.pc adr).datalen = call.data.length
  data : (store.pc adr).data = received
  buffer : (store.pc adr).Buffered
  mtype : (store.pc adr).call.mtype = .svccall
  service : (store.pc adr).call.service = call.svcname

/-- One IPC call has gone out for the call, with its data. -/
def Issued (call : ClientCall) (before store : CallStore) : Prop :=
  ∃ srvid issued, store.sentFor call.mwid = before.sentFor call.mwid ++ [(srvid, issued)] ∧
    issued.mtype = .svccall ∧ issued.service = call.svcname ∧ issued.data = call.data

theorem ClientCall.mwid_ne_zero (call : ClientCall) : call.mwid ≠ 0 :=
  connGetinfo_ne_zero call.conn

/-- The call that is routed carries what was collected. -/
theorem Transferring.issued {call : ClientCall} {received chunk : List Byte} {store : CallStore}
    (transferring : Transferring call received store adr) {domain : Domain} {srvid : UInt32}
    (sent : store'.sent = store.sent ++ [(srvid, (((store.pc adr).received domain chunk).routed domain (store.nextIpchdl domain)).call)])
    (named : (store.pc adr).call.cltid = call.mwid)
    (total : ((store.pc adr).received domain chunk).datalen = call.data.length)
    (collected : ((store.pc adr).received domain chunk).data = call.data) :
    Issued call store store' := by
  have hasData : ((store.pc adr).received domain chunk).datalen > 0 := by
    have positive := List.length_pos_iff.mpr call.nonempty
    rw [total]
    omega
  have buffer : ((store.pc adr).received domain chunk).putbuffer =
      { (store.pc adr).call with data := call.data } := by
    rw [PendingCall.putbuffer, if_pos hasData, collected]
    rfl
  generalize isIssued : (((store.pc adr).received domain chunk).routed domain
    (store.nextIpchdl domain)).call = issued at sent
  have fields : issued.cltid = call.mwid ∧ issued.mtype = .svccall ∧
      issued.service = call.svcname ∧ issued.data = call.data := by
    rw [← isIssued, PendingCall.routed, buffer]
    exact ⟨named, transferring.mtype, transferring.service, rfl⟩
  refine ⟨srvid, issued, ?_, fields.2⟩
  simp [CallStore.sentFor, sent, List.filter_append, fields]

/-- The next piece of the data arrives. -/
theorem Transferring.receive {call : ClientCall} {received : List Byte} {store : CallStore}
    (transferring : Transferring call received store adr) (well : WellStore store)
    {chunk rest : List Byte} (joined : received ++ chunk ++ rest = call.data) (domain : Domain)
    (granted : received = [] → domain.mwalloc call.data.length = true) :
    ∃ store', store.storeSRBData domain call.mwid call.handle chunk = .ok store' ∧
      (rest ≠ [] → store'.sentFor call.mwid = store.sentFor call.mwid ∧
        Transferring call (received ++ chunk) store' adr) ∧
      (rest = [] → Issued call store store') := by
  have lengths : (received.length : Int) + chunk.length + rest.length = call.data.length := by
    grind
  have notNegative : ¬ (store.pc adr).datalen < 0 := by
    simp [transferring.datalen]
  have sameTotal : (store.pc adr).total chunk = call.data.length := by
    simp [PendingCall.total, if_neg, transferring.datalen]
  have collected : ((store.pc adr).received domain chunk).data = received ++ chunk := by
    rw [PendingCall.received, transferring.data]
  have count : ((store.pc adr).received domain chunk).datarecv = received.length + chunk.length := by
    simp [PendingCall.datarecv, collected]
  have fits : (store.pc adr).Fits chunk := by
    rw [PendingCall.Fits, sameTotal, PendingCall.datarecv, transferring.data]
    omega
  have buffered : (store.pc adr).Granted domain chunk := by
    apply transferring.buffer.granted fits
    intro noBuffer
    rw [sameTotal]
    apply granted
    have inBuffer := transferring.buffer.data
    simp_all [PendingCall.datarecv, transferring.data]
  have member := well.lookup_owner call.mwid_ne_zero transferring.found
  by_cases last : rest = []
  · rcases member with ⟨⟨bucket, inBucket⟩, isOwner⟩
    rcases storeSRBData_collecting well.ok domain transferring.found inBucket transferring.status
      fits buffered with ⟨store', stored, checked⟩
    refine ⟨store', stored, fun more => absurd last more, fun _ => ?_⟩
    have complete : ((store.pc adr).received domain chunk).datarecv =
        ((store.pc adr).received domain chunk).datalen := by
      change _ = (store.pc adr).total chunk
      rw [count, sameTotal, ← lengths, last]
      simp
    rcases checked.complete complete with ⟨-, -, sent⟩
    exact transferring.issued sent
      (((well.owned adr ⟨bucket, inBucket⟩).cltid).trans isOwner) sameTotal
      (collected.trans (by simpa [last] using joined))
  · have pieces : 0 < rest.length := List.length_pos_iff.mpr last
    have incomplete : ((store.pc adr).received domain chunk).datarecv ≠
        ((store.pc adr).received domain chunk).datalen := by
      change _ ≠ (store.pc adr).total chunk
      rw [count, sameTotal]
      omega
    have here : (store.setPc adr ((store.pc adr).received domain chunk)).pc adr =
        (store.pc adr).received domain chunk := if_pos rfl
    refine ⟨_, storeSRBData_waiting domain transferring.found transferring.status fits buffered
      incomplete, fun _ => ⟨rfl, ?_⟩, fun none => absurd none last⟩
    refine ⟨?_, ?_, ?_, ?_, ?_, ?_, ?_⟩
    · have sameTuples : ∀ mwid hdl, ((store.pc adr).received domain chunk).hasTuple mwid hdl =
          (store.pc adr).hasTuple mwid hdl := fun _ _ => rfl
      exact (lookup_setPc sameTuples _ _).trans transferring.found
    · rw [here]
      exact transferring.status
    · rw [here]
      exact sameTotal
    · simp [here, collected]
    · simp_all [transferring.buffer.received]
    · rw [here]
      exact transferring.mtype
    · rw [here]
      exact transferring.service

/-- Others leave the call under way as it is. -/
theorem Transferring.untouched {call : ClientCall} {received : List Byte} {store : CallStore}
    (transferring : Transferring call received store adr) (well : WellStore store)
    (well' : WellStore store') (untouched : Untouched call.mwid store store') :
    Transferring call received store' adr := by
  have client := call.mwid_ne_zero
  have same := untouched.pc _ adr (well.lookup_mem client transferring.found)
  refine ⟨?_, ?_, ?_, ?_, ?_, ?_, ?_⟩
  · rw [untouched.lookup well well' client]
    exact transferring.found
  · simp [same, transferring.status]
  · simp [same, transferring.datalen]
  · simp [same, transferring.data]
  · simp [same, transferring.buffer]
  · simp [same, transferring.mtype]
  · simp [same, transferring.service]

/-- How far the call is: with the first message and `chunks` behind it. -/
structure Stage (call : ClientCall) (before : CallStore) (first : List Byte)
    (chunks : List (List Byte)) (state : TransferState) : Prop where
  well : WellStore state.store
  count : state.handled ≤ chunks.length + 1
  early : state.handled < chunks.length + 1 →
    state.store.sentFor call.mwid = before.sentFor call.mwid
  middle : ∀ turn < chunks.length, state.handled = turn + 1 →
    ∃ adr, Transferring call (first ++ (chunks.take turn).flatten) state.store adr
  done : state.handled = chunks.length + 1 → Issued call before state.store

variable {state : TransferState}

/-- An event of others leaves the call where it is. -/
theorem Stage.other {call : ClientCall} {before : CallStore} {first : List Byte}
    {chunks : List (List Byte)} (stage : Stage call before first chunks state)
    (foreign : event.Foreign call.mwid) (harmless : event.Harmless state.store) :
    ∃ store', event.handle call.limit state.store = .ok store' ∧
      Stage call before first chunks ⟨store', state.handled⟩ := by
  rcases harmless.handled call.limit stage.well with ⟨store', handled⟩
  have well := handle_well stage.well handled
  have untouched := foreign.untouched stage.well handled
  refine ⟨store', handled, well, stage.count, ?_, ?_, ?_⟩
  · intro notDone
    exact untouched.sent.trans (stage.early notDone)
  · intro turn within isTurn
    rcases stage.middle turn within isTurn with ⟨adr, transferring⟩
    exact ⟨adr, transferring.untouched stage.well well untouched⟩
  · intro isDone
    rcases stage.done isDone with ⟨srvid, issued, sent, fields⟩
    exact ⟨srvid, issued, untouched.sent.trans sent, fields⟩

/-- The stage after one more message of the call, given that the data so far is
`received` and `rest` is to come. -/
theorem Stage.advance {call : ClientCall} {before : CallStore} {first received chunk : List Byte}
    {chunks : List (List Byte)} {store : CallStore} {turn : Nat} (within : turn ≤ chunks.length)
    (nonempty : ∀ chunk ∈ chunks, chunk ≠ []) (well : WellStore store)
    (sent : store.sentFor call.mwid = before.sentFor call.mwid)
    (transferring : Transferring call received store adr)
    (soFar : received ++ chunk = first ++ (chunks.take turn).flatten)
    (joined : first ++ chunks.flatten = call.data) {domain : Domain}
    (granted : received = [] → domain.mwalloc call.data.length = true) :
    ∃ store', store.storeSRBData domain call.mwid call.handle chunk = .ok store' ∧
      Stage call before first chunks ⟨store', turn + 1⟩ := by
  have all : received ++ chunk ++ (chunks.drop turn).flatten = call.data := by
    rw [soFar, List.append_assoc, ← List.flatten_append, List.take_append_drop, joined]
  have moreChunks : (chunks.drop turn).flatten ≠ [] ↔ turn < chunks.length := by
    constructor
    · grind
    · intro less
      rw [List.drop_eq_getElem_cons less, List.flatten_cons]
      simp [nonempty]
  rcases transferring.receive well all domain granted with ⟨store', stored, more, last⟩
  refine ⟨store', stored, (storeSRBData_serves well domain call.mwid_ne_zero stored).well,
    Nat.succ_le_succ within, ?_, ?_, ?_⟩
  · simp_all
  · grind
  · intro isDone
    have atEnd : ¬ turn < chunks.length := by
      simp_all
    rcases last (not_not.mp (fun ne => atEnd (moreChunks.mp ne))) with ⟨srvid, issued, grown, fields⟩
    exact ⟨srvid, issued, by rw [grown, sent], fields⟩

theorem command_callMessage {conn : Connection} (up : conn.up = true) (hdl svcname : List Byte)
    (total : Option Int) (data : List Byte) (secstolive : Option Int) :
    command conn (callMessage hdl svcname total data secstolive) = .svccall := by
  have named : srbSvccall.length = 7 ∧ strcaseeq srbSvccall srbSvccall = true := by decide
  simp_all [command, callMessage, true_or]

theorem command_dataMessage {conn : Connection} (up : conn.up = true) (hdl data : List Byte) :
    command conn (dataMessage hdl data) = .svcdata := by
  have named : srbSvcdata.length = 7 ∧ strcaseeq srbSvcdata srbSvcdata = true := by decide
  have notCall : ¬ (srbSvcdata.length = 7 ∧ strcaseeq srbSvcdata srbSvccall = true) := by decide
  simp_all [command, dataMessage]

section Own

variable {call : ClientCall} {before : CallStore} {total : Option Int} {first : List Byte}
  {chunks : List (List Byte)}
  (shape : SentCall call.limit call.handle call.svcname call.data call.secstolive call.messages total
    first chunks)
include shape

/-- The first message opens the call and brings its first data. -/
theorem Stage.firstMessage (isInt : call.data.length < 2147483648)
    (stage : Stage call before first chunks state) (isFirst : state.handled = 0) {domain : Domain}
    (granted : domain.mwalloc call.data.length = true) (uninit : Uninit) :
    ∃ store', srbDoMessage domain call.limit uninit state.store call.conn
        (callMessage (sprintfUpperX call.handle) call.svcname total first call.secstolive) =
          .ok store' ∧ Stage call before first chunks ⟨store', 1⟩ := by
  have positive := List.length_pos_iff.mpr call.nonempty
  have announced : total.getD first.length = call.data.length := by
    rcases shape.announced with ⟨rfl, rfl⟩ | rfl
    · rfl
    · rfl
  have totalOk : ∀ number, total = some number → 0 < number ∧ number < 2147483648 := by
    grind
  have waits : (call.data.length : Int) ≠ 0 := by omega
  have read := readCall_callMessage call.handle first uninit call.conn call.nameOk.2 call.nameOk.1
    totalOk call.timeOk
  rw [announced] at read
  have hasData : first.length > 0 := List.length_pos_iff.mpr shape.firstOk.1
  generalize isExchange : callExchange call.handle call.svcname first total call.secstolive =
    exchange at read
  rcases storeSRBCall_waiting stage.well.ok domain call.mwid call.handle exchange.srbmsg.map
    call.conn waits call.svcname none none 0 with ⟨adr, found, opened, unsent⟩
  rcases storeSRBCall_acts stage.well domain call.mwid call.handle exchange.srbmsg.map call.conn
    call.data.length call.svcname none none 0 with ⟨place, acts⟩
  generalize isOpen : state.store.storeSRBCall domain call.mwid call.handle exchange.srbmsg.map
    call.conn call.data.length call.svcname none none 0 = opening at found opened unsent acts
  have named : call.svcname.take mwMaxSvcName = call.svcname :=
    List.take_of_length_le (by have := call.nameOk.1; rw [mwMaxSvcName]; omega)
  have transferring : Transferring call [] opening adr := by
    refine ⟨found, ?_, ?_, ?_, ?_, ?_, ?_⟩
    · rw [opened]
      rfl
    · rw [opened]
      rfl
    · rw [opened]
      rfl
    · rw [opened]
      exact ⟨Or.inl rfl, Int.le_refl 0⟩
    · rw [opened]
      rfl
    · rw [opened]
      exact named
  have unissued : opening.sentFor call.mwid = before.sentFor call.mwid := by
    rw [CallStore.sentFor, unsent]
    exact stage.early (by omega)
  have soFar : [] ++ first = first ++ (chunks.take 0).flatten := by simp
  rcases Stage.advance (Nat.zero_le chunks.length) (fun chunk member => (shape.chunksOk chunk member).1)
    acts.well unissued transferring soFar shape.joined (fun _ => granted) with
    ⟨store', stored, advanced⟩
  refine ⟨store', ?_, advanced⟩
  rw [srbDoMessage, command_callMessage call.up]
  simp only [srbcallReq, if_neg call.attached, read]
  change Except.map Prod.fst (Except.map _ (storeRest domain (state.store.storeSRBCall domain
    call.mwid call.handle exchange.srbmsg.map call.conn call.data.length call.svcname none none 0)
    call.conn call.handle first)) = _
  rw [isOpen, storeRest, if_pos hasData]
  change Except.map Prod.fst (Except.map _ (opening.storeSRBData domain call.mwid call.handle
    first)) = _
  rw [stored]
  rfl

/-- A data message brings the next piece. -/
theorem Stage.dataMessage (stage : Stage call before first chunks state) {turn : Nat}
    (within : turn < chunks.length) (isTurn : state.handled = turn + 1) (domain : Domain)
    (uninit : Uninit) :
    ∃ store', srbDoMessage domain call.limit uninit state.store call.conn
        (Srb.dataMessage (sprintfUpperX call.handle) chunks[turn]) = .ok store' ∧
      Stage call before first chunks ⟨store', turn + 2⟩ := by
  rcases stage.middle turn within isTurn with ⟨adr, transferring⟩
  have soFar : first ++ (chunks.take turn).flatten ++ chunks[turn] =
      first ++ (chunks.take (turn + 1)).flatten := by
    rw [List.take_add_one, List.getElem?_eq_getElem within, List.flatten_append]
    simp
  have started : first ++ (chunks.take turn).flatten = [] →
      domain.mwalloc call.data.length = true := by
    intro isNil
    exact absurd (List.append_eq_nil_iff.mp isNil).1 shape.firstOk.1
  rcases Stage.advance within (fun chunk member => (shape.chunksOk chunk member).1) stage.well
    (stage.early (by omega)) transferring soFar shape.joined started with ⟨store', stored, advanced⟩
  refine ⟨store', ?_, advanced⟩
  rw [srbDoMessage, command_dataMessage call.up]
  simp only [srbsvcdata, readData_dataMessage]
  change Except.map Prod.fst (Except.map _ (state.store.storeSRBData domain call.mwid call.handle
    chunks[turn])) = _
  rw [stored]
  rfl

end Own

/-- What the call is for, in one state of a run: the next message of the call and
every harmless event is handled, nothing is sent for the call before its last
message, and after it one IPC call with exactly its data. -/
structure Delivered (call : ClientCall) (before : CallStore) (state : TransferState) : Prop where
  arrives : call.arriving = call.messages
  accepted : ∀ action, (transferMachine call before).enabled state action →
    Survivable call state action → ∃ next, transferStep call state action = .ok next
  count : state.handled ≤ call.messages.length
  early : state.handled < call.messages.length →
    state.store.sentFor call.mwid = before.sentFor call.mwid
  once : state.handled = call.messages.length → Issued call before state.store

theorem filterMap_transmit {messages : List SRBmessage}
    (through : ∀ srbmsg ∈ messages, transmit srbmsg = some srbmsg) :
    messages.filterMap transmit = messages := by
  simp_all

theorem ClientCall.shape {call : ClientCall} (named : call.svcname ≠ [])
    (isInt : call.data.length < 2147483648) : ∃ total first chunks, SentCall call.limit call.handle call.svcname
    call.data call.secstolive call.messages total first chunks ∧ call.arriving = call.messages := by
  have positive : 0 < call.limit := by
    have := call.limitOk.1
    omega
  rcases mwSrbsendcall_sentCall positive call.wantsReply call.secstolive call.garbage call.handle
    call.svcname call.nonempty isInt with ⟨total, first, chunks, shape⟩
  refine ⟨total, first, chunks, shape, ?_⟩
  exact filterMap_transmit (shape.transmit call.limitOk.2 named call.nameOk.1)

/-- One step of a run: an event of others, or the next message of the call. -/
theorem transferMachine_keeps {call : ClientCall} (isInt : call.data.length < 2147483648)
    {total : Option Int} {first : List Byte} {chunks : List (List Byte)}
    (shape : SentCall call.limit call.handle call.svcname call.data call.secstolive call.messages
      total first chunks)
    (arrives : call.arriving = call.messages) (before : CallStore) :
    (transferMachine call before).Keeps (Survivable call) (Stage call before first chunks) := by
  intro state action stage isEnabled survivable
  cases action with
  | other event =>
      rcases stage.other isEnabled survivable with ⟨store', handled, after⟩
      have stepped : transferStep call state (.other event) = .ok ⟨store', state.handled⟩ := by
        rw [transferStep, handled]
        rfl
      exact ⟨_, stepped, after⟩
  | own domain uninit =>
      have within : state.handled < call.messages.length := by
        rw [← arrives]
        exact isEnabled
      cases isHandled : state.handled with
      | zero =>
          rcases stage.firstMessage shape isInt isHandled (survivable isHandled) uninit with
            ⟨store', handled, after⟩
          have next : call.arriving[state.handled]? =
              some (callMessage (sprintfUpperX call.handle) call.svcname total first
                call.secstolive) := by
            rw [arrives, shape.listed, isHandled]
            rfl
          have stepped : transferStep call state (.own domain uninit) = .ok ⟨store', 1⟩ := by
            rw [transferStep, next]
            simp only [handled, isHandled]
            rfl
          exact ⟨_, stepped, after⟩
      | succ turn =>
          rw [shape.listed, List.length_cons, List.length_map, isHandled] at within
          have isChunk : turn < chunks.length := Nat.lt_of_succ_lt_succ within
          rcases stage.dataMessage shape isChunk isHandled domain uninit with
            ⟨store', handled, after⟩
          have next : call.arriving[state.handled]? =
              some (dataMessage (sprintfUpperX call.handle) chunks[turn]) := by
            rw [arrives, shape.listed, isHandled, List.getElem?_cons_succ, List.getElem?_map,
              List.getElem?_eq_getElem isChunk]
            rfl
          have stepped : transferStep call state (.own domain uninit) = .ok ⟨store', turn + 2⟩ := by
            rw [transferStep, next]
            simp only [handled, isHandled]
            rfl
          exact ⟨_, stepped, after⟩

/-- The messages of a call can be handled one after the other. -/
theorem transferMachine_completes {call : ClientCall} {before : CallStore}
    (delivered : ∀ state, (transferMachine call before).Reachable (Survivable call) state →
      Delivered call before state)
    (domain : Domain) (roomy : ∀ size, domain.mwalloc size = true) {count : Nat}
    (within : count ≤ call.messages.length) :
    ∃ state, (transferMachine call before).Reachable (Survivable call) state ∧
      state.handled = count := by
  induction count with
  | zero => exact ⟨⟨before, 0⟩, .start rfl, rfl⟩
  | succ count ih =>
      rcases ih (Nat.le_of_succ_le within) with ⟨state, reachable, rfl⟩
      have held := delivered state reachable
      have isEnabled : (transferMachine call before).enabled state (.own domain ⟨0, 0⟩) := by
        change state.handled < call.arriving.length
        rw [held.arrives]
        exact within
      have survivable : Survivable call state (.own domain ⟨0, 0⟩) := fun _ => roomy _
      rcases held.accepted _ isEnabled survivable with ⟨next, stepped⟩
      refine ⟨next, reachable.step isEnabled survivable stepped, ?_⟩
      have arriving : state.handled < call.arriving.length := isEnabled
      rw [transferStep, List.getElem?_eq_getElem arriving] at stepped
      rcases map_eq_ok stepped with ⟨store, -, rfl⟩
      rfl

def roomyDomain : Domain :=
  ⟨0x04000001, fun _ _ => 0x08000001, fun _ => 0x01000001, 41, fun _ => true⟩

/-- Thirteen bytes with a limit of eleven: two messages. -/
def splitCall : ClientCall where
  conn := ⟨5, 0x02000001, unassigned, true, true⟩
  limit := 11
  secstolive := none
  garbage := []
  handle := 7
  svcname := [115]
  data := [0, 1, 2, 3, 4, 5, 6, 7, 8, 9, 10, 13, 255]
  flags := 0
  up := rfl
  attached := by decide
  limitOk := by decide
  timeOk := by simp
  nameOk := by decide
  nonempty := by decide
  wantsReply := by decide

end MidWay.Gateway

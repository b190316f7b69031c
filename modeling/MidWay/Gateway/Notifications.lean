import MidWay.Gateway.CallData
import MidWay.Srb.CallSizes

/-!
Contract: calls without reply, from the client's messages to the IPC call.

Such a call has no handle. The client sends what its handle buffer happens to hold with the
data that does not fit in the first message, and the gateway stores the call under what its
own variable happens to hold.

Owns: `notifyMessage`, `handleMessages`, and when a call without reply carries its data.
-/

namespace MidWay.Gateway

open MidWay.CLib MidWay.Url MidWay.Srb MidWay.Lib

structure Notification where
  conn : Connection
  limit : Nat
  secstolive : Option Int
  handle : UInt32
  svcname : List Byte
  data : Option (List Byte)
  flags : UInt32
  up : conn.up = true
  attached : connGetinfo conn ≠ unassigned
  timeOk : ∀ time, secstolive = some time → -2147483648 ≤ time ∧ time < 2147483648
  nameOk : svcname.length ≤ 32 ∧ 0 ∉ svcname
  noreply : flags &&& mwNoreplyFlag ≠ 0

def Notification.bytes (call : Notification) : List Byte := call.data.getD []

/-- `garbage` is what the client's handle buffer holds. -/
def Notification.messages (call : Notification) (garbage : List Byte) : List SRBmessage :=
  mwSrbsendcall call.limit call.secstolive garbage call.handle call.svcname call.data call.flags

def handleMessages (domain : Domain) (limit : Nat) (uninit : Uninit) (conn : Connection) :
    CallStore → List SRBmessage → Except StoreFailure CallStore
  | store, [] => .ok store
  | store, srbmsg :: rest =>
      match srbDoMessage domain limit uninit store conn srbmsg with
      | .error failure => .error failure
      | .ok store => handleMessages domain limit uninit conn store rest

/-- Among any other calls, and whatever the variables for a handle hold, one IPC call goes out and
has the data. -/
def Notification.Carried (call : Notification) (domain : Domain) : Prop :=
  ∀ garbage uninit store, (gatewayMachine call.limit).Reachable (fun _ _ => True) store →
    ∃ after srvid issued,
      handleMessages domain call.limit uninit call.conn store (call.messages garbage) = .ok after ∧
      after.sent = store.sent ++ [(srvid, issued)] ∧ issued.mtype = .svccall ∧
      issued.service = call.svcname ∧ issued.flags &&& mwNoreply ≠ 0 ∧ issued.data = call.bytes

def notifyMessage (svcname : List Byte) (total : Option Int) (data : Option (List Byte))
    (secstolive : Option Int) : SRBmessage :=
  ⟨srbSvccall, srbNotificationMarker, callFields none svcname total data secstolive⟩

section Shape

variable {limit : Nat} {flags : UInt32} (noreply : flags &&& mwNoreplyFlag ≠ 0)
  (secstolive : Option Int) (garbage : List Byte) (handle : UInt32) (svcname : List Byte)
include noreply

theorem mwSrbsendcall_notify {data : Option (List Byte)}
    (fits : (data.getD []).length ≤ limit) :
    mwSrbsendcall limit secstolive garbage handle svcname data flags =
      [notifyMessage svcname none data secstolive] := by
  have noTotal : announced limit (data.getD []) = none := if_neg (Nat.not_lt.mpr fits)
  have noRest : remaining limit garbage (data.getD []) = [] :=
    if_neg fun both => absurd both.1 (Nat.not_lt.mpr fits)
  have whole : data.map (List.take limit) = data := by
    cases data with
    | none => rfl
    | some bytes => exact congrArg some (List.take_of_length_le fits)
  rw [mwSrbsendcall_notification _ _ _ _ _ _ noreply, noTotal, noRest, whole]
  rfl

theorem mwSrbsendcall_notify_long {data : List Byte} (exceeds : limit < data.length) :
    ∃ chunks : List (List Byte),
      mwSrbsendcall limit secstolive garbage handle svcname (some data) flags =
        notifyMessage svcname (some (toInt32 data.length)) (some (data.take limit)) secstolive ::
          chunks.map (dataMessage garbage) := by
  have total : announced limit data = some (toInt32 data.length) := if_pos exceeds
  rcases remaining_data limit garbage data with ⟨chunks, isRest⟩
  refine ⟨chunks, ?_⟩
  rw [mwSrbsendcall_notification _ _ _ _ _ _ noreply, Option.getD_some, total, isRest]
  rfl

end Shape

section Reading

variable {svcname : List Byte} {total secstolive : Option Int} (data : Option (List Byte))

def notifyExchange (svcname : List Byte) (total : Option Int) (data : Option (List Byte))
    (secstolive : Option Int) : Exchange :=
  ⟨notifyMessage svcname total data secstolive, []⟩

theorem find?_textField (key fieldname : List Byte) (value : Option (List Byte)) :
    ((textField key value).find? fun entry => strcaseeq fieldname entry.key) =
      if strcaseeq fieldname key then value.map fun text => ⟨key, some text⟩ else none := by
  cases value with
  | none => simp [textField]
  | some text =>
      simp [textField, Option.toList_some, List.map_cons, List.map_nil, Option.map_some]

theorem field_notifyExchange (svcname : List Byte) (total secstolive : Option Int)
    (fieldname : List Byte) :
    (notifyExchange svcname total data secstolive).field fieldname =
      ([⟨srbSvcname, some svcname⟩].find? fun entry => strcaseeq fieldname entry.key).or
        ((if strcaseeq fieldname srbDatatotal then
            total.map fun number => ⟨srbDatatotal, some (sprintfD number)⟩ else none).or
          ((if strcaseeq fieldname srbData then
              data.map fun bytes => ⟨srbData, some bytes⟩ else none).or
            ((if strcaseeq fieldname srbSectolive then
                secstolive.map fun number => ⟨srbSectolive, some (sprintfD number)⟩ else none).or
              ([⟨srbHops, some (sprintfD 0)⟩].find? fun entry =>
                strcaseeq fieldname entry.key)))) := by
  have noHandle : textField srbHandle none = [] := rfl
  rw [Exchange.field_eq, notifyExchange, notifyMessage, callFields, noHandle, List.nil_append]
  simp only [List.find?_append, find?_optionalField, find?_textField, Option.or_assoc]

/-- The call is stored under the variable that was not written. -/
theorem readCall_notifyMessage (uninit : Uninit) (conn : Connection) (plain : 0 ∉ svcname)
    (short : svcname.length ≤ 32)
    (totalOk : ∀ number, total = some number → -2147483648 ≤ number ∧ number < 2147483648)
    (timeOk : ∀ time, secstolive = some time → -2147483648 ≤ time ∧ time < 2147483648) :
    readCall uninit conn (notifyMessage svcname total data secstolive) =
      .complete ⟨notifyExchange svcname total data secstolive, uninit.handle,
        total.getD (data.getD []).length, data.getD [], svcname, none, none, mwNoreply⟩ := by
  have field := field_notifyExchange data svcname total secstolive
  have text : cstr svcname = svcname := cstr_eq_self plain
  have fits : ¬svcname.length > mwMaxSvcName := by
    grind [mwMaxSvcName]
  have zero : sscanfD (sprintfD 0) = some 0 := sscanfD_sprintfD (by decide) (by decide)
  have start : (⟨notifyMessage svcname total data secstolive, []⟩ : Exchange) =
      notifyExchange svcname total data secstolive := rfl
  have marker : (notifyExchange svcname total data secstolive).srbmsg.marker =
      srbNotificationMarker := rfl
  rw [readCall, start]
  generalize notifyExchange svcname total data secstolive = exchange at field marker ⊢
  have nameRead : szGetReqField conn exchange srbSvcname = (some svcname, exchange) := by
    simp +decide [szGetReqField, field]
  have hopsRead : iGetReqField conn exchange srbHops 0 = (.found, 0, exchange) := by
    simp +decide [iGetReqField, iGetOptField, field, zero]
  have dataRead : vGetOptBinField exchange srbData = data.getD [] := by
    cases data <;> simp +decide [vGetOptBinField, field]
  have totalRead : callTotal conn exchange (data.getD []) =
      (total.getD (data.getD []).length, exchange) :=
    callTotal_announced conn (by simp +decide [field]) totalOk _
  have noInstance : szGetOptField exchange srbInstance = none := by
    simp +decide [szGetOptField, field]
  have timeField : exchange.field srbSectolive =
      secstolive.map fun number => ⟨srbSectolive, some (sprintfD number)⟩ := by
    simp +decide [field]
  rcases iGetOptField_number conn timeField timeOk (-1) with ⟨timeRead, time⟩
  have handleRead : callHandle uninit conn exchange = (some uninit.handle, exchange) := by
    rw [callHandle, marker, if_neg (by decide)]
  have flagsRead : callFlags conn exchange mwNoreply = (some mwNoreply, exchange) := by
    simp +decide [callFlags, szGetOptField, field]
  have noDomain : szGetOptField exchange srbDomain = none := by
    simp +decide [szGetOptField, field]
  have noMaxhops : iGetOptField conn exchange srbMaxhops 30 = (.absent, 30, exchange) := by
    simp +decide [iGetOptField, field]
  simp_all [nameRead, text, if_neg, hopsRead, dataRead, totalRead, noInstance, time]

theorem srbsvcdata_noHandle (domain : Domain) (store : CallStore) (conn : Connection)
    (chunk : List Byte) :
    ∃ answers, srbsvcdata domain store conn (dataMessage [] chunk) = .ok (store, answers) := by
  have unread : ∃ exchange, readData conn (dataMessage [] chunk) = .ended exchange := by
    have noNumber : sscanfX [] = none := rfl
    simp +decide [readData, xGetReqField, xGetOptField, Exchange.field_eq, dataMessage, noNumber]
  rcases unread with ⟨exchange, isEnded⟩
  exact ⟨exchange.answers, by rw [srbsvcdata, isEnded]⟩

end Reading

def notified (domain : Domain) (store : CallStore) (conn : Connection) (handle : UInt32)
    (srbmsg : SRBmessage) (svcname : List Byte) (total : Int) (data : List Byte) :
    Except StoreFailure CallStore :=
  storeRest domain
    (store.storeSRBCall domain (connGetinfo conn) handle srbmsg.map conn total svcname none none
      mwNoreply) conn handle data

section Handling

variable {domain : Domain} {limit : Nat} {uninit : Uninit} {store : CallStore} {conn : Connection}
  (up : conn.up = true)
include up

theorem srbDoMessage_notify (attached : connGetinfo conn ≠ unassigned) {svcname : List Byte}
    (nameOk : svcname.length ≤ 32 ∧ 0 ∉ svcname) {total secstolive : Option Int}
    (totalOk : ∀ number, total = some number → -2147483648 ≤ number ∧ number < 2147483648)
    (timeOk : ∀ time, secstolive = some time → -2147483648 ≤ time ∧ time < 2147483648)
    (data : Option (List Byte)) :
    srbDoMessage domain limit uninit store conn (notifyMessage svcname total data secstolive) =
      notified domain store conn uninit.handle (notifyMessage svcname total data secstolive) svcname
        (total.getD (data.getD []).length) (data.getD []) := by
  have isCall : command conn (notifyMessage svcname total data secstolive) = .svccall := by
    rw [command, if_neg (by rw [up]; decide)]
    rfl
  rw [srbDoMessage, isCall]
  dsimp only
  rw [srbcallReq, if_neg attached,
    readCall_notifyMessage data uninit conn nameOk.2 nameOk.1 totalOk timeOk]
  dsimp only [notifyExchange]
  rw [notified]
  cases storeRest domain _ conn uninit.handle (data.getD []) <;> rfl

/-- Data messages with an empty handle change nothing. -/
theorem handleMessages_noHandle (chunks : List (List Byte)) :
    handleMessages domain limit uninit conn store (chunks.map (dataMessage [])) = .ok store := by
  have isData : ∀ chunk, command conn (dataMessage [] chunk) = .svcdata := by
    intro chunk
    rw [command, if_neg (by rw [up]; decide)]
    rfl
  induction chunks with
  | nil => rfl
  | cons chunk rest ih =>
      rcases srbsvcdata_noHandle domain store conn chunk with ⟨answers, ignored⟩
      rw [List.map_cons, handleMessages, srbDoMessage, isData chunk, ignored]
      exact ih

end Handling

theorem routeCall_sent (domain : Domain) (store : CallStore) (adr : Nat) :
    (store.routeCall domain adr).sent = store.sent ++
      [(domain.providerByServiceid
          (domain.bestService (store.pc adr).call.service (store.pc adr).call.flags),
        ((store.pc adr).routed domain (store.nextIpchdl domain)).call)] := rfl

section Short

variable {domain : Domain} {store : CallStore} {conn : Connection} {handle : UInt32}
  {srbmsg : SRBmessage} {svcname data : List Byte}

def Sent (store after : CallStore) (svcname data : List Byte) : Prop :=
  ∃ srvid issued, after.sent = store.sent ++ [(srvid, issued)] ∧ issued.mtype = .svccall ∧
    issued.service = svcname ∧ issued.flags &&& mwNoreply ≠ 0 ∧ issued.data = data

theorem routed_sent {pc : PendingCall} (ipchdl : UInt32) (mtype : pc.call.mtype = .svccall)
    (service : pc.call.service = svcname) (flags : pc.call.flags = mwNoreply)
    (whole : pc.putbuffer.data = data) {after : CallStore} {srvid : UInt32}
    (sent : after.sent = store.sent ++ [(srvid, (pc.routed domain ipchdl).call)]) :
    Sent store after svcname data := by
  have putbuffer : pc.putbuffer.mtype = pc.call.mtype ∧ pc.putbuffer.service = pc.call.service ∧
      pc.putbuffer.flags = pc.call.flags := by
    rw [PendingCall.putbuffer]
    split_ifs <;> exact ⟨rfl, rfl, rfl⟩
  refine ⟨srvid, _, sent, putbuffer.1.trans mtype, putbuffer.2.1.trans service, ?_, whole⟩
  have isNoreply : (pc.routed domain ipchdl).call.flags = mwNoreply := putbuffer.2.2.trans flags
  rw [isNoreply]
  decide

theorem take_name (short : svcname.length ≤ 32) : svcname.take mwMaxSvcName = svcname := by
  grind [mwMaxSvcName, List.take_of_length_le]

theorem notified_empty (ok : StoreOk store) (short : svcname.length ≤ 32) :
    ∃ after, notified domain store conn handle srbmsg svcname 0 [] = .ok after ∧
      Sent store after svcname [] := by
  rcases storeSRBCall_checked ok domain (connGetinfo conn) handle srbmsg.map conn 0 svcname none none
    mwNoreply with ⟨adr, -, checked⟩
  refine ⟨_, rfl, ?_⟩
  exact routed_sent _ rfl (take_name short) rfl rfl (checked.complete rfl).2.2

/-- The buffer that the whole data needs. -/
theorem notified_data (ok : StoreOk store) (short : svcname.length ≤ 32) (nonempty : data ≠ []) :
    (domain.mwalloc data.length = true →
      ∃ after, notified domain store conn handle srbmsg svcname data.length data = .ok after ∧
        Sent store after svcname data) ∧
    (domain.mwalloc data.length = false →
      notified domain store conn handle srbmsg svcname data.length data = .error .bufferOverrun) := by
  have positive := List.length_pos_iff.mpr nonempty
  have waits : (data.length : Int) ≠ 0 := by omega
  rcases storeSRBCall_waiting ok domain (connGetinfo conn) handle srbmsg.map conn waits svcname none
    none mwNoreply with ⟨adr, found, isOpened, sent⟩
  rw [notified, storeRest, if_pos positive]
  generalize store.storeSRBCall domain (connGetinfo conn) handle srbmsg.map conn data.length svcname
    none none mwNoreply = opened at found isOpened sent ⊢
  have total : (opened.pc adr).total data = data.length := by
    simp [isOpened, PendingCall.total, openedCall]
  have received : (opened.pc adr).datarecv = 0 := by
    rw [isOpened]
    rfl
  have fits : (opened.pc adr).Fits data := by
    simp [PendingCall.Fits, total, received]
  have noBuffer : (opened.pc adr).bufsize = 0 := by
    rw [isOpened]
    rfl
  constructor
  · intro available
    have granted : (opened.pc adr).Granted domain data := by
      intro _
      simp [received, PendingCall.received, total, noBuffer, available, and_self, if_true]
    refine ⟨_, storeSRBData_found domain found fits granted, ?_⟩
    generalize isReceived : (opened.pc adr).received domain data = pc
    have status : pc.status = .calldatapending := by
      rw [← isReceived, isOpened]
      rfl
    have bytes : pc.data = data := by
      rw [← isReceived, isOpened]
      exact List.nil_append data
    have datalen : pc.datalen = data.length := by
      rw [← isReceived]
      exact total
    have complete : pc.datarecv = pc.datalen := by rw [PendingCall.datarecv, bytes, datalen]
    have here : (opened.setPc adr pc).pc adr = pc := if_pos rfl
    have call : pc.call = (openedCall domain (connGetinfo conn) handle srbmsg.map conn data.length
        svcname none none mwNoreply).call := by
      rw [← isReceived, isOpened]
      rfl
    have whole : pc.putbuffer.data = data := by
      simp_all [PendingCall.putbuffer]
    have routes := routeCall_sent domain (opened.setPc adr pc) adr
    rw [CallStore.checkIfComplete, here, status]
    dsimp only
    rw [if_neg (not_not.mpr complete)]
    rw [here] at routes
    have before : (opened.setPc adr pc).sent = store.sent := sent
    rw [before] at routes
    exact routed_sent _ (by rw [call]; rfl) (by rw [call]; exact take_name short)
      (by rw [call]; rfl) whole routes
  · intro refused
    refine storeSRBData_refused domain found fits fun granted => ?_
    have room := granted nonempty
    rw [received, PendingCall.received, total] at room
    simp only [noBuffer, refused, Bool.false_eq_true, and_false, if_false] at room
    omega

end Short

def SentAtMost (length : Nat) (store : CallStore) : Prop :=
  ∀ entry ∈ store.sent, entry.2.data.length ≤ length

/-- What completes sends the data it has collected, or what was in its call. -/
theorem checkIfComplete_atMost {domain : Domain} {store : CallStore} {adr length : Nat}
    (sent : SentAtMost length store) (data : (store.pc adr).data.length ≤ length)
    (call : (store.pc adr).call.data.length ≤ length) :
    SentAtMost length (store.checkIfComplete domain adr) := by
  have whole : (store.pc adr).putbuffer.data.length ≤ length := by
    grind [PendingCall.putbuffer]
  have more : ∀ (after : CallStore) (entry : UInt32 × Call), after.sent = store.sent ++ [entry] →
      entry.2.data = (store.pc adr).putbuffer.data → SentAtMost length after := by
    intro after entry isSent isData other member
    rw [isSent] at member
    rcases List.mem_append.mp member with before | last
    · exact sent other before
    · simp_all
  rw [CallStore.checkIfComplete]
  cases (store.pc adr).status with
  | free => exact sent
  | replypending => exact sent
  | calldatapending =>
      dsimp only
      split_ifs with incomplete
      · exact sent
      · exact more _ _ (routeCall_sent domain store adr) rfl
  | replydatapending =>
      dsimp only
      split_ifs with incomplete
      · exact sent
      · exact more _ _ (routeReply_sent store domain adr) rfl

structure Blank (store : CallStore) : Prop where
  pc : ∀ adr, (store.pc adr).data = [] ∧ (store.pc adr).call.data = []
  sent : SentAtMost 0 store

theorem storeSRBCall_blank (domain : Domain) (mwid nethandle : UInt32) (map : Urlmap)
    (conn : Connection) (total : Int) (service : List Byte) (flags : UInt32) :
    Blank (emptyStore.storeSRBCall domain mwid nethandle map conn total service none none flags) := by
  rcases storeSRBCall_checked emptyStore_ok domain mwid nethandle map conn total service none none
    flags with ⟨adr, -, checked⟩
  have unused : ∀ pc bucket, Placed emptyStore (emptyStore.storeSRBCall domain mwid nethandle map
      conn total service none none flags) adr pc bucket → pc.data = [] ∧ pc.call.data = [] →
      ∀ other, ((emptyStore.storeSRBCall domain mwid nethandle map conn total service none none
        flags).pc other).data = [] ∧ ((emptyStore.storeSRBCall domain mwid nethandle map conn total
        service none none flags).pc other).call.data = [] := by
    intro pc bucket placed isEmpty other
    by_cases here : other = adr
    · simp [here, placed.pc, isEmpty]
    · rw [placed.others other here]
      exact ⟨rfl, rfl⟩
  by_cases complete : total = 0
  · subst complete
    rcases checked.complete rfl with ⟨placed, -, sent⟩
    refine ⟨unused _ _ placed ⟨rfl, rfl⟩, fun entry member => ?_⟩
    rw [sent] at member
    rw [List.mem_singleton.mp member]
    exact Nat.le_refl 0
  · rcases checked.waiting fun isComplete => complete isComplete.symm with ⟨placed, -, sent⟩
    refine ⟨unused _ _ placed ⟨rfl, rfl⟩, fun entry member => ?_⟩
    rw [sent] at member
    cases member

/-- A first message alone never has a call sent with more than its own data. -/
theorem Blank.storeRest {domain : Domain} {store after : CallStore} {conn : Connection}
    {handle : UInt32} {chunk : List Byte} (blank : Blank store)
    (result : storeRest domain store conn handle chunk = .ok after) :
    SentAtMost chunk.length after := by
  have before : SentAtMost chunk.length store := fun entry member =>
    (blank.sent entry member).trans (Nat.zero_le _)
  rw [Gateway.storeRest] at result
  split_ifs at result with some
  · cases isFound : store.lookupPendingCall (connGetinfo conn) handle with
    | none =>
        simp_all [CallStore.storeSRBData]
    | some adr =>
        rcases storeSRBData_ok domain isFound result with ⟨fits, granted⟩
        rw [storeSRBData_found domain isFound fits granted] at result
        cases result
        have here : (store.setPc adr ((store.pc adr).received domain chunk)).pc adr =
            (store.pc adr).received domain chunk := if_pos rfl
        have unsent : SentAtMost chunk.length
            (store.setPc adr ((store.pc adr).received domain chunk)) := before
        apply checkIfComplete_atMost unsent
        · simp_all [PendingCall.received, blank.pc]
        · simp_all [PendingCall.received, blank.pc]
  · simp_all

theorem notified_atMost {domain : Domain} {conn : Connection} {handle : UInt32}
    {srbmsg : SRBmessage} {svcname chunk : List Byte} {total : Int} {after : CallStore}
    (result : notified domain emptyStore conn handle srbmsg svcname total chunk = .ok after) :
    SentAtMost chunk.length after :=
  (storeSRBCall_blank domain (connGetinfo conn) handle srbmsg.map conn total svcname
    mwNoreply).storeRest result

theorem toInt32_range (value : Int) :
    -2147483648 ≤ toInt32 value ∧ toInt32 value < 2147483648 := by
  grind [toInt32]

section Carried

variable {call : Notification} {domain : Domain}

theorem not_carried_of_exceeds (exceeds : call.limit < call.bytes.length) :
    ¬call.Carried domain := by
  intro carried
  cases isData : call.data with
  | none =>
      rw [Notification.bytes, isData] at exceeds
      exact absurd exceeds (Nat.not_lt_zero _)
  | some data =>
      have bytes : call.bytes = data := by rw [Notification.bytes, isData, Option.getD_some]
      rw [bytes] at exceeds
      rcases carried [] ⟨0, 0⟩ emptyStore (.start rfl) with
        ⟨after, srvid, issued, handled, sent, -, -, -, whole⟩
      rcases mwSrbsendcall_notify_long call.noreply call.secstolive [] call.handle call.svcname
        exceeds with ⟨chunks, listed⟩
      have totalOk : ∀ number, some (toInt32 data.length) = some number →
          -2147483648 ≤ number ∧ number < 2147483648 :=
        fun number isTotal => Option.some.inj isTotal ▸ toInt32_range _
      rw [Notification.messages, isData, listed, handleMessages, srbDoMessage_notify call.up
        call.attached call.nameOk totalOk call.timeOk] at handled
      cases first : notified domain emptyStore call.conn (Uninit.handle ⟨0, 0⟩)
          (notifyMessage call.svcname (some (toInt32 data.length)) (some (data.take call.limit))
            call.secstolive) call.svcname ((some (toInt32 data.length)).getD
              ((some (data.take call.limit)).getD []).length)
          ((some (data.take call.limit)).getD []) with
      | error failure =>
          rw [first] at handled
          cases handled
      | ok store =>
          rw [first] at handled
          dsimp only at handled
          rw [handleMessages_noHandle call.up] at handled
          cases handled
          have member : (srvid, issued) ∈ after.sent := by
            rw [sent]
            exact List.mem_append_right _ List.mem_cons_self
          have few := notified_atMost first (srvid, issued) member
          grind

end Carried

theorem noTime_ok : ∀ time : Int, none = some time → -2147483648 ≤ time ∧ time < 2147483648 :=
  fun _ given => absurd given (by simp)

def splitNotification : Notification where
  conn := ⟨6, 0x02000002, unassigned, true, true⟩
  limit := 11
  secstolive := none
  handle := 7
  svcname := [110]
  data := some [0, 1, 2, 3, 4, 5, 6, 7, 8, 9, 10, 13, 255]
  flags := mwNoreplyFlag
  up := rfl
  attached := by decide
  timeOk := noTime_ok
  nameOk := by decide
  noreply := by decide

end MidWay.Gateway

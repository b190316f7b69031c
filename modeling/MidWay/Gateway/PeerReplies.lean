import MidWay.Gateway.PeerSafety
import MidWay.Gateway.StoreKeys

/-!
Contract: how the replies of a peer gateway reach the local caller.

A call that was sent to a peer waits in the store. Each reply of the peer is one
message, and further messages with the rest of its data. The caller is sent one
message for each reply, when the last byte of the reply is here. A reply without data
goes wrong unless it announces that it has none, and even then it carries the data the
stored call still has: that of the request, or of the reply before.

Owns: `PeerReply`, `Delivers`, `Conveyable`, and that the one is the other.
-/

namespace MidWay.Gateway

open MidWay.CLib MidWay.Url MidWay.Srb MidWay.Lib

variable {handle caller : UInt32} {after before : CallStore} {fieldname chunk : List Byte}
  {isAnswer : Call → Prop} {answers : List SRBmessage}

def fieldNumber (srbmsg : SRBmessage) (fieldname : List Byte) : Option Int :=
  (szGetOptField ⟨srbmsg, []⟩ fieldname).bind sscanfD

def messageHandle (srbmsg : SRBmessage) : Option UInt32 :=
  (szGetOptField ⟨srbmsg, []⟩ srbHandle).bind sscanfX

def messageData (srbmsg : SRBmessage) : List Byte := vGetOptBinField ⟨srbmsg, []⟩ srbData

def OptionalNumber (srbmsg : SRBmessage) (fieldname : List Byte) : Prop :=
  Exchange.field ⟨srbmsg, []⟩ fieldname = none ∨ (fieldNumber srbmsg fieldname).isSome

structure PeerReply where
  domain : Domain
  uninit : Uninit
  first : SRBmessage
  rest : List SRBmessage

def PeerReply.returncode (reply : PeerReply) : Int :=
  (fieldNumber reply.first srbReturncode).getD 0

def PeerReply.total (reply : PeerReply) : Option Int := fieldNumber reply.first srbDatatotal

def PeerReply.bytes (reply : PeerReply) : List Byte :=
  (reply.first :: reply.rest).flatMap messageData

/-- The number of bytes the handler expects: that of the message when it announces 0. -/
def PeerReply.datatotal (reply : PeerReply) : Int :=
  if reply.total.getD (-1) = 0 then ((messageData reply.first).length : Int)
  else reply.total.getD (-1)

/-- The first message is a reply under this handle, the others are its data. The total
is announced unless all of the data is in the first message. -/
structure PeerReply.WellFormed (reply : PeerReply) (conn : Connection) (handle : UInt32) :
    Prop where
  isReply : command conn reply.first = .svcreply
  service : ∃ svcname, szGetOptField ⟨reply.first, []⟩ srbSvcname = some svcname ∧
    (cstr svcname).length ≤ mwMaxSvcName
  underHandle : messageHandle reply.first = some handle
  returncode : (fieldNumber reply.first srbReturncode).isSome
  appreturncode : OptionalNumber reply.first srbApplicationrc
  total : OptionalNumber reply.first srbDatatotal
  isData : ∀ srbmsg ∈ reply.rest, command conn srbmsg = .svcdata ∧
    messageHandle srbmsg = some handle ∧ messageData srbmsg ≠ []
  whole : reply.total = none → reply.rest = []
  announced : ∀ total, reply.total = some total → total = reply.bytes.length

section Reading

variable {conn : Connection} {srbmsg : SRBmessage}

theorem szGetOptField_field {exchange : Exchange} {text : List Byte}
    (read : szGetOptField exchange fieldname = some text) :
    ∃ key, exchange.field fieldname = some ⟨key, some text⟩ := by
  rcases Option.bind_eq_some_iff.mp read with ⟨entry, isField, isValue⟩
  exact ⟨entry.key, by rw [isField, ← isValue]⟩

theorem xGetReqField_handle (isHandle : messageHandle srbmsg = some handle) (value : UInt32) :
    xGetReqField conn ⟨srbmsg, []⟩ srbHandle value = .ok (.found, handle, ⟨srbmsg, []⟩) := by
  rcases Option.bind_eq_some_iff.mp isHandle with ⟨text, isText, isNumber⟩
  grind [xGetReqField, xGetOptField, szGetOptField_field]

theorem iGetOptField_found {number : Int} (isNumber : fieldNumber srbmsg fieldname = some number)
    (value : Int) :
    iGetOptField conn ⟨srbmsg, []⟩ fieldname value = (.found, number, ⟨srbmsg, []⟩) := by
  rcases Option.bind_eq_some_iff.mp isNumber with ⟨text, isText, scanned⟩
  grind [iGetOptField, szGetOptField_field]

theorem iGetOptField_optional (conn : Connection) (optional : OptionalNumber srbmsg fieldname)
    (value : Int) :
    ∃ result, result ≠ FieldResult.failed ∧ iGetOptField conn ⟨srbmsg, []⟩ fieldname value =
      (result, (fieldNumber srbmsg fieldname).getD value, ⟨srbmsg, []⟩) := by
  rcases optional with absent | present
  · simp [iGetOptField, fieldNumber, szGetOptField, absent, Option.bind_none, Option.getD_none]
  · rcases Option.isSome_iff_exists.mp present with ⟨number, isNumber⟩
    simp [iGetOptField_found, isNumber]

end Reading

theorem readData_handle {conn : Connection} {srbmsg : SRBmessage}
    (isHandle : messageHandle srbmsg = some handle) :
    readData conn srbmsg = .complete ⟨⟨srbmsg, []⟩, handle, messageData srbmsg⟩ := by
  simp only [readData, xGetReqField_handle isHandle]
  rfl

/-- What the handler of replies hands to the store. -/
theorem PeerReply.WellFormed.read {reply : PeerReply} {conn : Connection}
    (wellFormed : reply.WellFormed conn handle) :
    ∃ appreturncode, readReply reply.uninit conn reply.first =
      .complete ⟨⟨reply.first, []⟩, handle, reply.returncode, appreturncode, reply.datatotal,
        messageData reply.first⟩ := by
  rcases wellFormed.service with ⟨svcname, isName, short⟩
  rcases szGetOptField_field isName with ⟨key, field⟩
  have nameRead : szGetReqField conn ⟨reply.first, []⟩ srbSvcname =
      (some svcname, ⟨reply.first, []⟩) := by
    simp only [szGetReqField, field]
  rcases Option.isSome_iff_exists.mp wellFormed.returncode with ⟨returncode, isCode⟩
  have codeRead : iGetReqField conn ⟨reply.first, []⟩ srbReturncode 0 =
      (.found, returncode, ⟨reply.first, []⟩) := by
    simp only [iGetReqField, iGetOptField_found isCode]
  rcases iGetOptField_optional conn wellFormed.appreturncode reply.uninit.appreturncode
    with ⟨result, notFailed, appRead⟩
  rcases iGetOptField_optional conn wellFormed.total (-1) with ⟨_, -, totalRead⟩
  refine ⟨(fieldNumber reply.first srbApplicationrc).getD reply.uninit.appreturncode, ?_⟩
  have isReturncode : reply.returncode = returncode := by
    simp [PeerReply.returncode, isCode]
  simp only [readReply, nameRead, if_neg (Nat.not_lt.mpr short),
    xGetReqField_handle wellFormed.underHandle, codeRead, appRead, totalRead, isReturncode]
  rfl

/-- The two ends of a call: the peer and the handle it knows the call by, the caller and
the handle the caller knows it by. -/
structure CallRoute where
  mwid : UInt32
  handle : UInt32
  caller : UInt32
  callerHandle : UInt32

structure Follows (route : CallRoute) (store : CallStore) (adr : Nat) : Prop where
  ok : StoreOk store
  found : store.lookupPendingCall route.mwid route.handle = some adr
  caller : (store.pc adr).srcMwid = route.caller
  callerHandle : (store.pc adr).call.handle = route.callerHandle

/-- The call waits for a reply. Its message has the data `stale`. -/
structure Awaiting (route : CallRoute) (stale : List Byte) (store : CallStore) (adr : Nat) : Prop
    extends Follows route store adr where
  status : (store.pc adr).status = .replypending
  data : (store.pc adr).data = []
  bufsize : (store.pc adr).bufsize = 0
  stale : (store.pc adr).call.data = stale

/-- A reply with this total is announced, and some of its data is here. -/
structure Receiving (route : CallRoute) (stale : List Byte) (returncode total : Int)
    (received : List Byte) (store : CallStore) (adr : Nat) : Prop
    extends Follows route store adr where
  status : (store.pc adr).status = .replydatapending
  returncode : (store.pc adr).call.returncode = returncode
  datalen : (store.pc adr).datalen = total
  data : (store.pc adr).data = received
  unbuffered : received = [] → (store.pc adr).bufsize = 0
  buffered : received ≠ [] → (store.pc adr).bufsize = total
  stale : (store.pc adr).call.data = stale

theorem Follows.pending {route : CallRoute} {store : CallStore} {adr : Nat}
    (follows : Follows route store adr) :
    adr ∈ store.hash (mkhash route.mwid route.handle) :=
  List.mem_of_find?_eq_some follows.found

theorem Follows.setPc {route : CallRoute} {store : CallStore} {adr : Nat}
    (follows : Follows route store adr) (pc : PendingCall)
    (same : ∀ mwid hdl, pc.hasTuple mwid hdl = (store.pc adr).hasTuple mwid hdl)
    (caller : pc.srcMwid = (store.pc adr).srcMwid)
    (callerHandle : pc.call.handle = (store.pc adr).call.handle) :
    Follows route (store.setPc adr pc) adr := by
  have here : (store.setPc adr pc).pc adr = pc := if_pos rfl
  refine ⟨(setPc_placed follows.ok follows.pending pc).ok, ?_, ?_, ?_⟩
  · simp_all [lookup_setPc, follows.found]
  · simp [here, caller, follows.caller]
  · simp [here, callerHandle, follows.callerHandle]

theorem Follows.send {route : CallRoute} {store : CallStore} {adr : Nat}
    (follows : Follows route store adr) (id : UInt32) (call : Call) :
    Follows route (store.ipcSendmessage id call) adr :=
  ⟨⟨follows.ok.nodup, follows.ok.bucket, follows.ok.freeNodup, follows.ok.free,
    follows.ok.alloced⟩, follows.found, follows.caller, follows.callerHandle⟩

theorem PendingCall.reply_data (domain : Domain) (pc : PendingCall) :
    (pc.reply domain).data = if pc.datalen > 0 then pc.data else pc.call.data := by
  grind [PendingCall.reply, PendingCall.putbuffer]

theorem PendingCall.reply_handle (domain : Domain) (pc : PendingCall) :
    (pc.reply domain).handle = pc.call.handle ∧
      (pc.reply domain).returncode = pc.call.returncode := by
  grind [PendingCall.reply, PendingCall.putbuffer]

def PendingCall.announced (pc : PendingCall) (rcode apprcode datatotal : Int) : PendingCall :=
  { pc with
    call := { pc.call with returncode := rcode, appreturncode := apprcode }
    status := .replydatapending
    datalen := datatotal }

section Steps

variable {route : CallRoute} {stale received : List Byte} {returncode total : Int}
  {store : CallStore} {adr : Nat}

/-- A reply is announced to the store. -/
theorem Awaiting.announce (awaiting : Awaiting route stale store adr) (domain : Domain)
    (rcode apprcode datatotal : Int) :
    ∃ between, between.sent = store.sent ∧
      Receiving route stale rcode datatotal [] between adr ∧
      store.storeSRBReply domain route.mwid route.handle rcode apprcode datatotal =
        .ok (between.checkIfComplete domain adr) := by
  have follows := awaiting.toFollows.setPc
    ((store.pc adr).announced rcode apprcode datatotal) (fun _ _ => rfl) rfl rfl
  have here : (store.setPc adr ((store.pc adr).announced rcode apprcode datatotal)).pc adr =
      (store.pc adr).announced rcode apprcode datatotal := if_pos rfl
  refine ⟨store.setPc adr ((store.pc adr).announced rcode apprcode datatotal), rfl, ?_, ?_⟩
  · refine ⟨follows, ?_, ?_, ?_, ?_, ?_, ?_, ?_⟩
    · rw [here]
      rfl
    · rw [here]
      rfl
    · rw [here]
      rfl
    · rw [here]
      exact awaiting.data
    · intro _
      rw [here]
      exact awaiting.bufsize
    · simp
    · rw [here]
      exact awaiting.stale
  · rw [CallStore.storeSRBReply, awaiting.found]
    exact if_pos awaiting.status

/-- The data so far is all, as the store counts. -/
theorem Receiving.complete (receiving : Receiving route stale returncode total received store adr)
    (domain : Domain) (isTotal : (received.length : Int) = total) :
    (∃ call, (store.checkIfComplete domain adr).sent = store.sent ++ [(route.caller, call)] ∧
      call.mtype = .svcreply ∧ call.handle = route.callerHandle ∧ call.returncode = returncode ∧
      call.data = if total > 0 then received else stale) ∧
    (returncode = mwMore → Awaiting route (if total > 0 then received else stale)
      (store.checkIfComplete domain adr) adr) := by
  have completed : ¬ (store.pc adr).datarecv ≠ (store.pc adr).datalen := by
    simp_all [PendingCall.datarecv, receiving.data, receiving.datalen]
  have routed : store.checkIfComplete domain adr = store.routeReply domain adr := by
    simp_all [CallStore.checkIfComplete, receiving.status]
  have data : ((store.pc adr).reply domain).data = if total > 0 then received else stale := by
    rw [PendingCall.reply_data, receiving.datalen, receiving.data, receiving.stale]
  rcases (store.pc adr).reply_handle domain with ⟨sameHandle, sameCode⟩
  rw [routed]
  constructor
  · refine ⟨(store.pc adr).reply domain, ?_, rfl, ?_, ?_, data⟩
    · rw [routeReply_sent, receiving.caller]
    · simp [sameHandle, receiving.callerHandle]
    · simp [sameCode, receiving.returncode]
  · intro more
    have isMore : ((store.pc adr).reply domain).returncode = mwMore := by
      rw [sameCode, receiving.returncode, more]
    have result : store.routeReply domain adr = ((store.setPc adr { store.pc adr with
        call := (store.pc adr).reply domain }).ipcSendmessage (store.pc adr).srcMwid
        ((store.pc adr).reply domain)).setPc adr ((store.pc adr).reset domain) :=
      if_neg (not_not.mpr isMore)
    have stored := receiving.toFollows.setPc { store.pc adr with
      call := (store.pc adr).reply domain } (fun _ _ => rfl) rfl sameHandle
    have here : ∀ (base : CallStore) pc, (base.setPc adr pc).pc adr = pc := fun _ _ => if_pos rfl
    have sent := stored.send (store.pc adr).srcMwid ((store.pc adr).reply domain)
    have unset : ((store.setPc adr { store.pc adr with
        call := (store.pc adr).reply domain }).ipcSendmessage (store.pc adr).srcMwid
        ((store.pc adr).reply domain)).pc adr =
        { store.pc adr with call := (store.pc adr).reply domain } := here _ _
    rw [result]
    refine ⟨?_, ?_, ?_, ?_, ?_⟩
    · apply sent.setPc
      · intro mwid hdl
        rw [unset]
        rfl
      · rw [unset]
        rfl
      · rw [unset]
        rfl
    · rw [here]
      rfl
    · rw [here]
      rfl
    · rw [here]
      rfl
    · rw [here]
      exact data

theorem Receiving.incomplete (receiving : Receiving route stale returncode total received store adr)
    (domain : Domain) (notTotal : (received.length : Int) ≠ total) :
    store.checkIfComplete domain adr = store := by
  have waits : (store.pc adr).datarecv ≠ (store.pc adr).datalen := by
    rw [PendingCall.datarecv, receiving.data, receiving.datalen]
    exact notTotal
  simp_all [CallStore.checkIfComplete, receiving.status]

/-- Data that stays within the total, when there is a block for the first of it. -/
theorem Receiving.receive (receiving : Receiving route stale returncode total received store adr)
    {domain : Domain} (nonempty : chunk ≠ [])
    (fits : (received.length : Int) + chunk.length ≤ (store.pc adr).total chunk)
    (whole : received ≠ [] → (store.pc adr).total chunk = total)
    (granted : received = [] → domain.mwalloc ((store.pc adr).total chunk) = true) :
    ∃ between, between.sent = store.sent ∧
      Receiving route stale returncode ((store.pc adr).total chunk) (received ++ chunk) between
        adr ∧
      store.storeSRBData domain route.mwid route.handle chunk =
        .ok (between.checkIfComplete domain adr) := by
  have follows := receiving.toFollows.setPc ((store.pc adr).received domain chunk)
    (fun _ _ => rfl) rfl rfl
  have here : (store.setPc adr ((store.pc adr).received domain chunk)).pc adr =
      (store.pc adr).received domain chunk := if_pos rfl
  have size : ((store.pc adr).received domain chunk).bufsize = (store.pc adr).total chunk := by
    by_cases isFirst : received = []
    · exact if_pos ⟨receiving.unbuffered isFirst, granted isFirst⟩
    · have isTotal := receiving.buffered isFirst
      rw [whole isFirst]
      refine (if_neg ?_).trans isTotal
      intro fresh
      rw [isTotal] at fresh
      have hasData := List.length_pos_iff.mpr isFirst
      rw [whole isFirst] at fits
      omega
  have isFit : (store.pc adr).Fits chunk := by
    simp [PendingCall.Fits, PendingCall.datarecv, receiving.data, fits]
  have isGranted : (store.pc adr).Granted domain chunk := by
    intro _
    rw [size]
    exact isFit
  refine ⟨store.setPc adr ((store.pc adr).received domain chunk), rfl, ?_, ?_⟩
  · refine ⟨follows, ?_, ?_, ?_, ?_, ?_, ?_, ?_⟩
    · rw [here]
      exact receiving.status
    · rw [here]
      exact receiving.returncode
    · rw [here]
      rfl
    · rw [here, ← receiving.data]
      rfl
    · simp_all
    · simp [here, size]
    · rw [here]
      exact receiving.stale
  · exact storeSRBData_found domain receiving.found isFit isGranted

/-- Without a block for the first of the data the copy goes to a null pointer. -/
theorem Receiving.refused (receiving : Receiving route stale returncode total [] store adr)
    {domain : Domain} (nonempty : chunk ≠ [])
    (fits : (chunk.length : Int) ≤ (store.pc adr).total chunk)
    (refused : domain.mwalloc ((store.pc adr).total chunk) = false) :
    store.storeSRBData domain route.mwid route.handle chunk = .error .bufferOverrun := by
  have noBuffer := receiving.unbuffered rfl
  have size : ((store.pc adr).received domain chunk).bufsize = 0 := by
    refine (if_neg ?_).trans noBuffer
    intro fresh
    rw [refused] at fresh
    exact Bool.noConfusion fresh.2
  apply storeSRBData_refused domain receiving.found
  · simp_all [PendingCall.Fits, PendingCall.datarecv, receiving.data]
  · intro granted
    have room := granted nonempty
    have hasData := List.length_pos_iff.mpr nonempty
    rw [size, PendingCall.datarecv] at room
    omega

end Steps

/-- The messages of a reply are handled. Nothing is sent before the last of them, and
then the caller is sent one message. -/
inductive Conveys (limit : Nat) (caller : UInt32) (isAnswer : Call → Prop) :
    CallStore → List PeerEvent → CallStore → Prop
  | last {before after : CallStore} {event : PeerEvent} {call : Call} :
      event.handle limit before = .ok after → after.sent = before.sent ++ [(caller, call)] →
      isAnswer call → Conveys limit caller isAnswer before [event] after
  | quiet {before between after : CallStore} {event : PeerEvent} {rest : List PeerEvent} :
      event.handle limit before = .ok between → between.sent = before.sent →
      Conveys limit caller isAnswer between rest after →
      Conveys limit caller isAnswer before (event :: rest) after

structure PeerReply.IsAnswer (reply : PeerReply) (callerHandle : UInt32) (call : Call) : Prop where
  mtype : call.mtype = .svcreply
  handle : call.handle = callerHandle
  returncode : call.returncode = reply.returncode
  data : call.data = reply.bytes

def PeerReply.event (reply : PeerReply) (conn : Connection) (srbmsg : SRBmessage) : PeerEvent :=
  .gateway (.message reply.domain reply.uninit conn srbmsg)

def PeerReply.events (reply : PeerReply) (conn : Connection) : List PeerEvent :=
  (reply.first :: reply.rest).map (reply.event conn)

/-- The caller is sent the replies, one message each. -/
def Delivers (limit : Nat) (conn : Connection) (caller callerHandle : UInt32) :
    CallStore → List PeerReply → Prop
  | _, [] => True
  | store, reply :: rest =>
      ∃ after, Conveys limit caller (reply.IsAnswer callerHandle) store (reply.events conn) after ∧
        Delivers limit conn caller callerHandle after rest

/-- There is a block for the data of the reply. One without data announces that, and the
stored call has no data either. -/
structure PeerReply.Conveyable (reply : PeerReply) (stale : List Byte) : Prop where
  data : reply.bytes ≠ [] → reply.domain.mwalloc reply.bytes.length = true
  empty : reply.bytes = [] → reply.total = some 0 ∧ stale = []

def PeerReply.leaves (reply : PeerReply) (stale : List Byte) : List Byte :=
  if reply.bytes = [] then stale else reply.bytes

def Conveyable : List Byte → List PeerReply → Prop
  | _, [] => True
  | stale, reply :: rest => reply.Conveyable stale ∧ Conveyable (reply.leaves stale) rest

theorem Conveys.unique {limit : Nat} {other : CallStore} {events : List PeerEvent}
    (conveys : Conveys limit caller isAnswer before events after)
    (again : Conveys limit caller isAnswer before events other) : after = other := by
  have run : ∀ {start final : CallStore} {messages : List PeerEvent},
      Conveys limit caller isAnswer start messages final →
      handleAll limit start messages = .ok final := by
    intro start final messages conveyed
    induction conveyed with
    | last handled _ _ => simp only [handleAll, handled]
    | quiet handled _ _ ih => simp only [handleAll, handled, ih]
  exact Except.ok.inj ((run conveys).symm.trans (run again))

theorem Conveys.not_nil {limit : Nat} : ¬ Conveys limit caller isAnswer before [] after := by
  intro conveys
  cases conveys

theorem Conveys.head {limit : Nat} {event : PeerEvent} {rest : List PeerEvent}
    (conveys : Conveys limit caller isAnswer before (event :: rest) after) :
    ∃ between, event.handle limit before = .ok between ∧
      ((∃ call, between.sent = before.sent ++ [(caller, call)] ∧ isAnswer call) ∨
        (between.sent = before.sent ∧ Conveys limit caller isAnswer between rest after)) := by
  cases conveys with
  | last handled sent isAnswer => exact ⟨_, handled, Or.inl ⟨_, sent, isAnswer⟩⟩
  | quiet handled sameSent conveyed => exact ⟨_, handled, Or.inr ⟨sameSent, conveyed⟩⟩

theorem map_answers {Failure : Type} (result : Except Failure CallStore)
    (answers : List SRBmessage) :
    (result.map fun store => (store, answers)).map Prod.fst = result := by
  cases result with
  | error failure => rfl
  | ok store => rfl

section Replies

variable {limit : Nat} {reply : PeerReply} {conn : Connection} {route : CallRoute}
  {stale : List Byte} {store : CallStore} {adr : Nat}

theorem PeerReply.event_data (attached : connGetinfo conn = route.mwid) {srbmsg : SRBmessage}
    (isData : command conn srbmsg = .svcdata)
    (isHandle : messageHandle srbmsg = some route.handle) (store : CallStore) :
    (reply.event conn srbmsg).handle limit store =
      store.storeSRBData reply.domain route.mwid route.handle (messageData srbmsg) := by
  change srbDoMessage reply.domain limit reply.uninit store conn srbmsg = _
  simp_all [srbDoMessage, srbsvcdata, readData_handle, map_answers]

/-- The first message announces the reply, and its data follows. -/
theorem PeerReply.WellFormed.event_first (wellFormed : reply.WellFormed conn route.handle)
    (attached : connGetinfo conn = route.mwid) (assigned : route.mwid ≠ unassigned)
    (awaiting : Awaiting route stale store adr) :
    ∃ between, between.sent = store.sent ∧
      Receiving route stale reply.returncode reply.datatotal [] between adr ∧
      (reply.event conn reply.first).handle limit store =
        storeRest reply.domain (between.checkIfComplete reply.domain adr) conn route.handle
          (messageData reply.first) := by
  rcases wellFormed.read with ⟨appreturncode, read⟩
  rcases awaiting.announce reply.domain reply.returncode appreturncode reply.datatotal with
    ⟨between, sameSent, receiving, announced⟩
  refine ⟨between, sameSent, receiving, ?_⟩
  have isAssigned : connGetinfo conn ≠ unassigned := by
    simp [attached, assigned]
  have announcedHere : store.storeSRBReply reply.domain (connGetinfo conn) route.handle
      reply.returncode appreturncode reply.datatotal =
      .ok (between.checkIfComplete reply.domain adr) := by
    rw [attached]
    exact announced
  change srbDoMessage reply.domain limit reply.uninit store conn reply.first = _
  simp_all [srbDoMessage, wellFormed.isReply, srbcallRpl, map_answers]

/-- The rest of the data is here: the caller is sent the reply with the last of it. -/
theorem Receiving.conveys (wellFormed : reply.WellFormed conn route.handle)
    (attached : connGetinfo conn = route.mwid) {base : CallStore} {total : Int}
    {received chunk : List Byte} {event : PeerEvent} {rest : List SRBmessage}
    (receiving : Receiving route stale reply.returncode total received base adr)
    (sameSent : base.sent = store.sent)
    (handled : event.handle limit store =
      base.storeSRBData reply.domain route.mwid route.handle chunk)
    (nonempty : chunk ≠ []) (isTotal : (base.pc adr).total chunk = reply.bytes.length)
    (whole : received ≠ [] → total = reply.bytes.length)
    (granted : reply.domain.mwalloc reply.bytes.length = true)
    (isRest : ∀ srbmsg ∈ rest, srbmsg ∈ reply.rest)
    (bytes : reply.bytes = received ++ chunk ++ rest.flatMap messageData) :
    ∃ after, Conveys limit route.caller (reply.IsAnswer route.callerHandle) store
        (event :: rest.map (reply.event conn)) after ∧
      (reply.returncode = mwMore → Awaiting route reply.bytes after adr) := by
  induction rest generalizing base store total received chunk event with
  | nil =>
      have isAll : reply.bytes = received ++ chunk := by
        rw [bytes, List.flatMap_nil, List.append_nil]
      have length : (reply.bytes.length : Int) = received.length + chunk.length := by
        simp [isAll, List.length_append]
      rcases receiving.receive nonempty (isTotal ▸ length ▸ Int.le_refl _)
        (fun hasData => isTotal.trans (whole hasData).symm) (fun _ => isTotal ▸ granted) with
        ⟨between, keepsSent, complete, stored⟩
      rw [isTotal, ← isAll] at complete
      have positive : (reply.bytes.length : Int) > 0 := by
        have hasData := List.length_pos_iff.mpr nonempty
        omega
      rcases complete.complete reply.domain rfl with ⟨⟨call, sent, mtype, handle, code, data⟩, more⟩
      rw [if_pos positive] at data more
      refine ⟨_, .last (handled.trans stored) ?_ ⟨mtype, handle, code, data⟩, more⟩
      rw [sent, keepsSent, sameSent]
  | cons srbmsg rest ih =>
      rcases wellFormed.isData srbmsg (isRest srbmsg List.mem_cons_self) with
        ⟨isData, isHandle, hasNext⟩
      have split : reply.bytes = (received ++ chunk) ++ messageData srbmsg ++
          rest.flatMap messageData := by
        rw [bytes, List.flatMap_cons, List.append_assoc, List.append_assoc, List.append_assoc]
      have length : reply.bytes.length = received.length + chunk.length +
          (messageData srbmsg).length + (rest.flatMap messageData).length := by
        rw [split]
        simp only [List.length_append]
      have nextPositive := List.length_pos_iff.mpr hasNext
      rcases receiving.receive nonempty (by rw [isTotal]; omega)
        (fun hasData => isTotal.trans (whole hasData).symm) (fun _ => isTotal ▸ granted) with
        ⟨between, keepsSent, partly, stored⟩
      rw [isTotal] at partly
      have notAll : ((received ++ chunk).length : Int) ≠ reply.bytes.length := by
        grind
      rw [partly.incomplete reply.domain notAll] at stored
      have nextTotal : (between.pc adr).total (messageData srbmsg) = reply.bytes.length := by
        simp [PendingCall.total, partly.datalen, if_neg]
      rcases ih partly rfl
        (PeerReply.event_data attached isData isHandle between) hasNext nextTotal
        (fun _ => rfl) (fun other member => isRest other (List.mem_cons_of_mem _ member)) split with
        ⟨after, conveyed, more⟩
      exact ⟨after, .quiet (handled.trans stored) (keepsSent.trans sameSent) conveyed, more⟩

theorem PeerReply.WellFormed.rest_eq_nil (wellFormed : reply.WellFormed conn route.handle)
    (noBytes : reply.bytes = []) : messageData reply.first = [] ∧ reply.rest = [] := by
  rw [PeerReply.bytes, List.flatMap_cons, List.append_eq_nil_iff] at noBytes
  refine ⟨noBytes.1, List.eq_nil_iff_forall_not_mem.mpr ?_⟩
  simp_all [wellFormed.isData]

theorem PeerReply.WellFormed.datatotal_eq (wellFormed : reply.WellFormed conn route.handle) :
    reply.datatotal = reply.total.getD (-1) := by
  rw [PeerReply.datatotal]
  split_ifs with isZero
  · cases isTotal : reply.total with
    | none =>
        simp [isTotal] at isZero
    | some total =>
        rw [isTotal, Option.getD_some] at isZero
        have announced := wellFormed.announced total isTotal
        simp_all [wellFormed.rest_eq_nil, Option.getD_some]
  · rfl

theorem PeerReply.WellFormed.total_first (wellFormed : reply.WellFormed conn route.handle)
    {returncode : Int} {received : List Byte}
    (receiving : Receiving route stale returncode reply.datatotal received store adr) :
    (store.pc adr).total (messageData reply.first) = reply.bytes.length := by
  rw [PendingCall.total, receiving.datalen, wellFormed.datatotal_eq]
  cases isTotal : reply.total with
  | none =>
      simp_all [PeerReply.bytes, wellFormed.whole, List.append_nil]
  | some total =>
      simp_all [Option.getD_some, wellFormed.announced, if_neg]

theorem PeerReply.WellFormed.datatotal_ne_zero (wellFormed : reply.WellFormed conn route.handle)
    (hasBytes : reply.bytes ≠ []) : (([] : List Byte).length : Int) ≠ reply.datatotal := by
  have positive := List.length_pos_iff.mpr hasBytes
  rw [wellFormed.datatotal_eq]
  cases isTotal : reply.total with
  | none => decide
  | some total =>
      have announced := wellFormed.announced total isTotal
      rw [Option.getD_some, List.length_nil]
      omega

theorem PeerReply.leaves_nil (noBytes : reply.bytes = []) (stale : List Byte) :
    reply.leaves stale = stale := if_pos noBytes

theorem PeerReply.leaves_bytes (hasBytes : reply.bytes ≠ []) (stale : List Byte) :
    reply.leaves stale = reply.bytes := if_neg hasBytes

/-- The message that brings the first bytes of a reply, what came before it, and what
comes after it. -/
structure FirstBytes (reply : PeerReply) (conn : Connection) where
  silent : List PeerEvent
  event : PeerEvent
  chunk : List Byte
  rest : List SRBmessage
  between : CallStore
  base : CallStore
  total : Int

structure FirstBytes.Of (first : FirstBytes reply conn) (limit : Nat) (route : CallRoute)
    (stale : List Byte) (store : CallStore) (adr : Nat) : Prop where
  events : reply.events conn = first.silent ++ first.event :: first.rest.map (reply.event conn)
  before : first.silent = [] ∧ first.between = store ∨
    ∃ event, first.silent = [event] ∧ event.handle limit store = .ok first.between
  receiving : Receiving route stale reply.returncode first.total [] first.base adr
  sent : first.between.sent = store.sent
  baseSent : first.base.sent = store.sent
  handled : first.event.handle limit first.between =
    first.base.storeSRBData reply.domain route.mwid route.handle first.chunk
  nonempty : first.chunk ≠ []
  total : (first.base.pc adr).total first.chunk = reply.bytes.length
  isRest : ∀ srbmsg ∈ first.rest, srbmsg ∈ reply.rest
  bytes : reply.bytes = first.chunk ++ first.rest.flatMap messageData

section Step

variable (wellFormed : reply.WellFormed conn route.handle)
  (attached : connGetinfo conn = route.mwid) (assigned : route.mwid ≠ unassigned)
  (awaiting : Awaiting route stale store adr)
include wellFormed attached assigned awaiting

theorem Awaiting.empty_announced (noBytes : reply.bytes = []) (isTotal : reply.total = some 0) :
    ∃ after call, (reply.event conn reply.first).handle limit store = .ok after ∧
      after.sent = store.sent ++ [(route.caller, call)] ∧ call.mtype = .svcreply ∧
      call.handle = route.callerHandle ∧ call.returncode = reply.returncode ∧ call.data = stale ∧
      (reply.returncode = mwMore → Awaiting route stale after adr) := by
  rcases wellFormed.event_first attached assigned awaiting with
    ⟨between, sameSent, receiving, handled⟩
  rw [wellFormed.datatotal_eq, isTotal] at receiving
  rcases receiving.complete reply.domain rfl with ⟨⟨call, sent, mtype, handle, code, data⟩, more⟩
  refine ⟨between.checkIfComplete reply.domain adr, call, ?_, ?_, mtype, handle, code, data, more⟩
  · rw [handled, (wellFormed.rest_eq_nil noBytes).1]
    rfl
  · rw [sent, sameSent]

theorem Awaiting.empty_unannounced (noBytes : reply.bytes = []) (noTotal : reply.total = none) :
    ∃ after, (reply.event conn reply.first).handle limit store = .ok after ∧
      after.sent = store.sent := by
  rcases wellFormed.event_first attached assigned awaiting with
    ⟨between, sameSent, receiving, handled⟩
  rw [wellFormed.datatotal_eq, noTotal] at receiving
  rw [receiving.incomplete reply.domain (by decide), (wellFormed.rest_eq_nil noBytes).1] at handled
  exact ⟨between, handled, sameSent⟩

/-- The first bytes of the reply go to the store, with the first message or with the
second. -/
theorem Awaiting.firstBytes (limit : Nat) (hasBytes : reply.bytes ≠ []) :
    ∃ bytes : FirstBytes reply conn, bytes.Of limit route stale store adr := by
  rcases wellFormed.event_first attached assigned awaiting with
    ⟨base, sameSent, receiving, handled⟩
  rw [receiving.incomplete reply.domain (wellFormed.datatotal_ne_zero hasBytes)] at handled
  by_cases firstData : messageData reply.first = []
  · rw [firstData] at handled
    have isTotal := wellFormed.total_first receiving
    have bytes : reply.bytes = reply.rest.flatMap messageData := by
      rw [PeerReply.bytes, List.flatMap_cons, firstData, List.nil_append]
    cases isRest : reply.rest with
    | nil =>
        simp_all [List.flatMap_nil]
    | cons srbmsg rest =>
        rcases wellFormed.isData srbmsg (isRest ▸ List.mem_cons_self) with
          ⟨isData, isHandle, hasNext⟩
        have nextTotal : (base.pc adr).total (messageData srbmsg) = reply.bytes.length := by
          grind [PendingCall.total, List.length_nil]
        refine ⟨⟨[reply.event conn reply.first], reply.event conn srbmsg, messageData srbmsg, rest,
          base, base, reply.datatotal⟩, ?_, Or.inr ⟨_, rfl, handled⟩, receiving, sameSent, sameSent,
          PeerReply.event_data attached isData isHandle base, hasNext, nextTotal, ?_, ?_⟩
        · simp [PeerReply.events, isRest]
        · simp_all
        · rw [bytes, isRest, List.flatMap_cons]
  · refine ⟨⟨[], reply.event conn reply.first, messageData reply.first, reply.rest, store, base,
      reply.datatotal⟩, rfl, Or.inl ⟨rfl, rfl⟩, receiving, rfl, sameSent, ?_, firstData,
      wellFormed.total_first receiving, fun _ member => member, rfl⟩
    rw [handled, storeRest, if_pos (List.length_pos_iff.mpr firstData), attached]

/-- A reply that can be conveyed is. -/
theorem Awaiting.conveys (conveyable : reply.Conveyable stale) :
    ∃ after, Conveys limit route.caller (reply.IsAnswer route.callerHandle) store
        (reply.events conn) after ∧
      (reply.returncode = mwMore → Awaiting route (reply.leaves stale) after adr) := by
  by_cases noBytes : reply.bytes = []
  · rcases conveyable.empty noBytes with ⟨isTotal, noStale⟩
    rcases awaiting.empty_announced wellFormed attached assigned noBytes isTotal with
      ⟨after, call, handled, sent, mtype, handle, code, data, more⟩
    have isAnswer : reply.IsAnswer route.callerHandle call :=
      ⟨mtype, handle, code, by rw [data, noStale, noBytes]⟩
    rw [reply.leaves_nil noBytes, PeerReply.events, (wellFormed.rest_eq_nil noBytes).2]
    exact ⟨after, .last handled sent isAnswer, more⟩
  · rcases awaiting.firstBytes wellFormed attached assigned limit noBytes with ⟨first, isFirst⟩
    rcases isFirst.receiving.conveys wellFormed attached
      (isFirst.baseSent.trans isFirst.sent.symm) isFirst.handled isFirst.nonempty isFirst.total
      (fun hasData => absurd rfl hasData) (conveyable.data noBytes) isFirst.isRest
      isFirst.bytes with ⟨after, conveyed, more⟩
    rw [reply.leaves_bytes noBytes, isFirst.events]
    refine ⟨after, ?_, more⟩
    rcases isFirst.before with ⟨none, same⟩ | ⟨event, one, isSilent⟩
    · simp_all
    · rw [one]
      exact .quiet isSilent isFirst.sent conveyed

/-- No other reply is. -/
theorem Awaiting.conveyable {after : CallStore}
    (conveys : Conveys limit route.caller (reply.IsAnswer route.callerHandle) store
      (reply.events conn) after) : reply.Conveyable stale := by
  constructor
  · intro hasBytes
    by_contra refused
    rcases awaiting.firstBytes wellFormed attached assigned limit hasBytes with ⟨first, isFirst⟩
    have fits : (first.chunk.length : Int) ≤ (first.base.pc adr).total first.chunk := by
      rw [isFirst.total, isFirst.bytes, List.length_append]
      omega
    have failed := isFirst.receiving.refused isFirst.nonempty fits
      (by rw [isFirst.total]; exact Bool.eq_false_iff.mpr refused)
    have notHere : ¬ Conveys limit route.caller (reply.IsAnswer route.callerHandle) first.between
        (first.event :: first.rest.map (reply.event conn)) after := by
      intro conveyed
      rcases conveyed.head with ⟨next, isNext, -⟩
      rw [isFirst.handled, failed] at isNext
      cases isNext
    rw [isFirst.events] at conveys
    rcases isFirst.before with ⟨none, same⟩ | ⟨event, one, isSilent⟩
    · simp_all
    · rw [one] at conveys
      rcases conveys.head with ⟨next, isNext, answered | ⟨-, conveyed⟩⟩
      · simp_all [isFirst.sent]
      · simp_all
  · intro noBytes
    rw [PeerReply.events, (wellFormed.rest_eq_nil noBytes).2] at conveys
    rcases conveys.head with ⟨next, isNext, ⟨call, sent, isAnswer⟩ | ⟨-, nothing⟩⟩
    · cases isTotal : reply.total with
      | none =>
          rcases awaiting.empty_unannounced wellFormed attached assigned noBytes isTotal with
            ⟨other, handled, sameSent⟩
          rw [handled] at isNext
          simp_all
      | some total =>
          have announced := wellFormed.announced total isTotal
          rw [noBytes] at announced
          subst announced
          rcases awaiting.empty_announced wellFormed attached assigned noBytes isTotal with
            ⟨other, otherCall, handled, otherSent, -, -, -, data, -⟩
          rw [handled] at isNext
          cases isNext
          simp_all [isAnswer.data]
    · exact absurd nothing Conveys.not_nil

end Step

/-- The replies to a call that waits for them. -/
theorem Awaiting.delivers_iff (attached : connGetinfo conn = route.mwid)
    (assigned : route.mwid ≠ unassigned) {replies : List PeerReply}
    (wellFormed : ∀ reply ∈ replies, reply.WellFormed conn route.handle)
    (more : ∀ reply ∈ replies.dropLast, reply.returncode = mwMore)
    (awaiting : Awaiting route stale store adr) :
    Delivers limit conn route.caller route.callerHandle store replies ↔
      Conveyable stale replies := by
  induction replies generalizing store stale with
  | nil => exact Iff.rfl
  | cons reply rest ih =>
      have wellFormedHere := wellFormed reply List.mem_cons_self
      have next : ∀ {after : CallStore}, (reply.returncode = mwMore →
          Awaiting route (reply.leaves stale) after adr) →
          (Delivers limit conn route.caller route.callerHandle after rest ↔
            Conveyable (reply.leaves stale) rest) := by
        intro after awaitingNext
        cases isRest : rest with
        | nil => exact Iff.rfl
        | cons second others =>
            grind
      constructor
      · intro delivers
        rcases delivers with ⟨after, conveyed, delivered⟩
        have conveyable := awaiting.conveyable wellFormedHere attached assigned conveyed
        rcases awaiting.conveys wellFormedHere attached assigned conveyable with
          ⟨other, again, awaitingNext⟩
        rw [conveyed.unique again] at delivered
        exact ⟨conveyable, (next awaitingNext).mp delivered⟩
      · intro conveyable
        rcases awaiting.conveys wellFormedHere attached assigned conveyable.1 with
          ⟨after, conveyed, awaitingNext⟩
        exact ⟨after, conveyed, (next awaitingNext).mpr conveyable.2⟩

end Replies

section Keyed

variable {store store' : CallStore} (keyed : Keyed store) {domain : Domain} {conn : Connection}
  {srbmsg : SRBmessage}
include keyed

theorem Keyed.storeRest {data : List Byte}
    (result : storeRest domain store conn handle data = .ok store') : Keyed store' := by
  rw [Gateway.storeRest] at result
  split_ifs at result
  · exact keyed.storeSRBData domain result
  · simp_all

theorem Keyed.srbsvcdata (result : srbsvcdata domain store conn srbmsg = .ok (store', answers)) :
    Keyed store' := by
  rw [Gateway.srbsvcdata] at result
  cases reading : readData conn srbmsg with
  | ended exchange =>
      simp_all
  | failed failure =>
      simp [reading] at result
  | complete request =>
      rw [reading] at result
      rcases map_eq_ok result with ⟨after, stored, same⟩
      cases same
      exact keyed.storeSRBData domain stored

theorem Keyed.srbcallReq {limit : Nat} {uninit : Uninit}
    (result : srbcallReq domain limit uninit store conn srbmsg = .ok (store', answers)) :
    Keyed store' := by
  rw [Gateway.srbcallReq] at result
  split_ifs at result
  · simp_all
  · cases reading : readCall uninit conn srbmsg with
    | ended exchange =>
        simp_all
    | failed failure =>
        simp [reading] at result
    | complete request =>
        rw [reading] at result
        rcases map_eq_ok result with ⟨after, stored, same⟩
        cases same
        exact (keyed.storeSRBCall domain _ _ _ _ _ _ _ _ _).storeRest stored

theorem Keyed.srbcallRpl {limit : Nat} {uninit : Uninit}
    (result : srbcallRpl domain limit uninit store conn srbmsg = .ok (store', answers)) :
    Keyed store' := by
  rw [Gateway.srbcallRpl] at result
  split_ifs at result
  · simp_all
  · cases reading : readReply uninit conn srbmsg with
    | ended exchange =>
        simp_all
    | failed failure =>
        simp [reading] at result
    | complete request =>
        simp only [reading] at result
        cases replied : store.storeSRBReply domain (connGetinfo conn) request.handle
          request.returncode request.appreturncode request.datatotal with
        | error failure =>
            simp [replied] at result
        | ok between =>
            rw [replied] at result
            rcases map_eq_ok result with ⟨after, stored, same⟩
            cases same
            exact (keyed.storeSRBReply domain replied).storeRest stored

theorem Keyed.tcpcloseconnection (conn : Connection) :
    Keyed (tcpcloseconnection store conn) := by
  rw [Gateway.tcpcloseconnection]
  split_ifs
  · exact keyed.storeSRBClearClient conn.cid
  · exact keyed

theorem Keyed.peerEvent {limit : Nat} {event : PeerEvent} (enabled : event.Enabled store)
    (result : event.handle limit store = .ok store') : Keyed store' := by
  cases event with
  | ipcCall domain outlet cmsg conn =>
      cases result
      exact keyed.storeIPCCall domain enabled conn
  | gateway event =>
      cases event with
      | closed conn =>
          cases result
          exact keyed.tcpcloseconnection conn
      | ipcReply cmsg =>
          rcases map_eq_ok result with ⟨⟨answer, after⟩, stored, same⟩
          cases same
          exact keyed.storeIPCReply stored
      | message domain uninit conn srbmsg =>
          change srbDoMessage domain limit uninit store conn srbmsg = .ok store' at result
          rw [srbDoMessage] at result
          cases isCommand : command conn srbmsg with
          | svccall =>
              rw [isCommand] at result
              rcases map_eq_ok result with ⟨⟨after, answers⟩, stored, same⟩
              cases same
              exact keyed.srbcallReq stored
          | svcreply =>
              rw [isCommand] at result
              rcases map_eq_ok result with ⟨⟨after, answers⟩, stored, same⟩
              cases same
              exact keyed.srbcallRpl stored
          | svcdata =>
              rw [isCommand] at result
              rcases map_eq_ok result with ⟨⟨after, answers⟩, stored, same⟩
              cases same
              exact keyed.srbsvcdata stored
          | term =>
              rw [isCommand] at result
              cases result
              exact keyed.tcpcloseconnection conn
          | other =>
              simp_all

end Keyed

theorem peerMachine_keyed {limit : Nat} {condition : CallStore → PeerEvent → Prop}
    {store : CallStore} (reachable : (peerMachine limit).Reachable condition store) :
    Keyed store := by
  apply reachable.holds
  · intro start isStart
    rw [show start = emptyStore from isStart]
    exact emptyStore_keyed
  · intro before event next keyed enabled _ handled
    exact keyed.peerEvent enabled handled

/-- The call of a local client waits for its replies once it is sent. -/
theorem storeIPCCall_awaiting {store : CallStore} (ok : StoreOk store) {domain : Domain}
    {outlet : Outlet} {cmsg : Call} (passes : outlet.Passes (store.nextIpchdl domain) cmsg)
    (conn : Connection) :
    ∃ adr, Awaiting ⟨conn.gwid, store.nextIpchdl domain, cmsg.callerMwid, cmsg.handle⟩ cmsg.data
      (store.storeIPCCall domain outlet cmsg conn).store adr := by
  have opened := openIPCCall_opened ok domain cmsg conn
  rw [storeIPCCall_sent passes]
  generalize store.openIPCCall domain cmsg conn = result at opened
  rcases result with ⟨adr, dsthdl, store'⟩
  have isUnsent : store'.pc adr = unsentCall domain store cmsg conn := opened.placed.pc
  have member : adr ∈ store'.hash (mkhash conn.gwid (store.nextIpchdl domain)) :=
    (opened.placed.mem _ _).mpr (Or.inl ⟨rfl, rfl⟩)
  have placed := setPc_placed opened.placed.ok member
    { store'.pc adr with call := cmsg, status := .replypending }
  have here : (store'.setPc adr { store'.pc adr with
      call := cmsg, status := .replypending }).pc adr =
      { store'.pc adr with call := cmsg, status := .replypending } := placed.pc
  rcases opened.front with ⟨rest, inFront⟩
  have matched : store'.lookupPendingCall conn.gwid (store.nextIpchdl domain) = some adr := by
    simp_all [CallStore.lookupPendingCall, PendingCall.hasTuple, unsentCall]
  have found : (store'.setPc adr { store'.pc adr with
      call := cmsg, status := .replypending }).lookupPendingCall conn.gwid
      (store.nextIpchdl domain) = some adr := by
    rw [lookup_setPc]
    · exact matched
    · intro mwid hdl
      rfl
  refine ⟨adr, ⟨⟨placed.ok, found, ?_, ?_⟩, ?_, ?_, ?_, ?_⟩⟩
  · rw [here, isUnsent]
    rfl
  · rw [here]
  · rw [here]
  · rw [here, isUnsent]
    rfl
  · rw [here, isUnsent]
    rfl
  · rw [here]

structure Connection.IsPeer (conn : Connection) : Prop where
  noClient : MidWay.Gateway.cltid conn.cid = unassigned
  gateway : MidWay.Gateway.gwid conn.gwid ≠ unassigned

theorem Connection.IsPeer.attached {conn : Connection} (isPeer : conn.IsPeer) :
    connGetinfo conn = conn.gwid := by
  rw [connGetinfo, if_neg (not_not.mpr isPeer.noClient), if_pos isPeer.gateway]

theorem gwid_unassigned (id : UInt32) (assigned : gwid id ≠ unassigned) : id ≠ unassigned := by
  intro isUnassigned
  rw [isUnassigned] at assigned
  exact assigned (by decide)

/-- The reply to the first call of a gateway whose handles start from 41. -/
def oneMessageReply (data : List Byte) : PeerReply where
  domain := peerDomain
  uninit := ⟨0, 0⟩
  first := ⟨srbSvccall, srbResponseMarker,
    [⟨srbHandle, some (sprintfUpperX 42)⟩, ⟨srbSvcname, some [115]⟩,
      ⟨srbReturncode, some (sprintfD 1)⟩] ++
      (if data = [] then [] else [⟨srbData, some data⟩])⟩
  rest := []

def openOutlet : Outlet := ⟨fun _ => none, 3000, none, [], fun _ => 0⟩

theorem openOutlet_passes :
    openOutlet.Passes (emptyStore.nextIpchdl peerDomain) strayCall := by
  constructor
  · intro _
    rfl
  · decide +kernel

theorem oneMessageReply_wellFormed_data :
    (oneMessageReply [111, 107]).WellFormed peerConn (emptyStore.nextIpchdl peerDomain) := by
  refine ⟨by decide +kernel, ⟨[115], by decide +kernel, by decide +kernel⟩, by decide +kernel,
    by decide +kernel, Or.inl (by decide +kernel), Or.inl (by decide +kernel), ?_, ?_, ?_⟩
  · intro srbmsg member
    exact absurd member List.not_mem_nil
  · intro _
    rfl
  · intro total isTotal
    cases isTotal

theorem oneMessageReply_wellFormed_empty :
    (oneMessageReply []).WellFormed peerConn (emptyStore.nextIpchdl peerDomain) := by
  refine ⟨by decide +kernel, ⟨[115], by decide +kernel, by decide +kernel⟩, by decide +kernel,
    by decide +kernel, Or.inl (by decide +kernel), Or.inl (by decide +kernel), ?_, ?_, ?_⟩
  · intro srbmsg member
    exact absurd member List.not_mem_nil
  · intro _
    rfl
  · intro total isTotal
    cases isTotal

end MidWay.Gateway

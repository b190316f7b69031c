import MidWay.Gateway.CallData
import MidWay.Gateway.IpcCalls

/-!
Contract: what a peer has to keep to so that the call store neither fails an
assertion nor copies beyond a buffer.

Data has to stay within the total that was announced, there has to be a block of
shared memory for that total, and a reply has to be to a call that waits for one and
must not announce more than the buffer the call still has. The size of a buffer and
the total of its call agree otherwise, in every state that is reached.

Owns: `PendingCall.Sheltered`, the conditions on the messages of peers, `peerMachine`,
and that its runs withstand every message that meets them.
-/

namespace MidWay.Gateway

open MidWay.CLib MidWay.Url MidWay.Srb MidWay.Lib

/-- How the buffer of a call, its total and its data belong together. -/
structure PendingCall.Sheltered (pc : PendingCall) : Prop where
  nonneg : 0 ≤ pc.bufsize
  empty : pc.bufsize = 0 → pc.data = []
  exact : pc.status = .calldatapending → pc.bufsize ≠ 0 → pc.bufsize = pc.datalen
  complete : pc.status = .replypending → pc.datarecv = pc.datalen
  full : pc.status = .replypending → pc.bufsize ≠ 0 → pc.data ≠ []
  bound : pc.bufsize ≠ 0 → pc.datalen ≤ pc.bufsize ∧ (0 ≤ pc.datalen ∨ pc.data ≠ [])

theorem PendingCall.datarecv_nonneg (pc : PendingCall) : 0 ≤ pc.datarecv :=
  Int.natCast_nonneg _

theorem PendingCall.datarecv_eq_zero {pc : PendingCall} : pc.datarecv = 0 ↔ pc.data = [] := by
  rw [PendingCall.datarecv, Int.natCast_eq_zero, List.length_eq_zero_iff]

theorem PendingCall.datarecv_received (domain : Domain) (pc : PendingCall) (data : List Byte) :
    (pc.received domain data).datarecv = pc.datarecv + data.length := by
  simp [PendingCall.datarecv, PendingCall.received]

theorem PendingCall.sheltered_bare {pc : PendingCall} (noBuffer : pc.bufsize = 0)
    (noData : pc.data = []) (complete : pc.status = .replypending → pc.datalen = 0) :
    pc.Sheltered := by
  refine ⟨Int.le_of_eq noBuffer.symm, fun _ => noData, ?_, ?_, ?_, ?_⟩
  · omega
  · intro waits
    rw [complete waits]
    exact PendingCall.datarecv_eq_zero.mpr noData
  · omega
  · omega

section Buffers

variable {pc : PendingCall} (sheltered : pc.Sheltered) {data : List Byte}
include sheltered

theorem PendingCall.Sheltered.total_le (fits : pc.Fits data) (hasBuffer : pc.bufsize ≠ 0) :
    pc.total data = pc.datalen ∧ 0 ≤ pc.datalen := by
  have inside := pc.datarecv_nonneg
  rw [PendingCall.Fits, PendingCall.total] at fits
  rw [PendingCall.total]
  rcases (sheltered.bound hasBuffer).2 with announced | hasData
  · exact ⟨if_neg (Int.not_lt.mpr announced), announced⟩
  · have received : pc.datarecv ≠ 0 := fun none => hasData (PendingCall.datarecv_eq_zero.mp none)
    omega

/-- Data within the total stays within the buffer. -/
theorem PendingCall.Sheltered.granted (fits : pc.Fits data) {domain : Domain}
    (hasBlock : data ≠ [] → pc.bufsize = 0 → domain.mwalloc (pc.total data) = true) :
    pc.Granted domain data := by
  intro nonempty
  by_cases noBuffer : pc.bufsize = 0
  · have fresh : (pc.received domain data).bufsize = pc.total data :=
      if_pos ⟨noBuffer, hasBlock nonempty noBuffer⟩
    rw [fresh]
    exact fits
  · have kept : (pc.received domain data).bufsize = pc.bufsize :=
      if_neg fun both => noBuffer both.1
    have total := (sheltered.total_le fits noBuffer).1
    have within := (sheltered.bound noBuffer).1
    grind [PendingCall.Fits, Int.le_trans]

theorem PendingCall.Sheltered.waiting (fits : pc.Fits data)
    (waits : pc.status = .replypending) : data = [] ∧ pc.total data = pc.datarecv := by
  have complete := sheltered.complete waits
  have before := pc.datarecv_nonneg
  have total : pc.total data = pc.datalen := if_neg (by omega)
  rw [PendingCall.Fits, total, ← complete] at fits
  exact ⟨List.length_eq_zero_iff.mp (by omega), total.trans complete.symm⟩

theorem PendingCall.Sheltered.received {domain : Domain} (fits : pc.Fits data)
    (granted : pc.Granted domain data) : (pc.received domain data).Sheltered := by
  have count := pc.datarecv_received domain data
  have before := pc.datarecv_nonneg
  have totalNonneg : 0 ≤ pc.total data := by
    grind [PendingCall.Fits]
  have complete : pc.status = .replypending →
      (pc.received domain data).datarecv = (pc.received domain data).datalen := by
    intro waits
    rcases sheltered.waiting fits waits with ⟨noData, total⟩
    have noLength : (data.length : Int) = 0 := by
      simp [noData]
    change _ = pc.total data
    rw [count, total, noLength, Int.add_zero]
  have empty : (pc.received domain data).bufsize = 0 → (pc.received domain data).data = [] := by
    intro noBuffer
    have noData : data = [] := by
      by_contra nonempty
      have room := granted nonempty
      have length := List.length_pos_iff.mpr nonempty
      omega
    have unbuffered : pc.bufsize = 0 := by
      by_contra hasBuffer
      exact hasBuffer ((if_neg fun both => hasBuffer both.1).symm.trans noBuffer)
    change pc.data ++ data = []
    rw [sheltered.empty unbuffered, noData]
    rfl
  by_cases fresh : pc.bufsize = 0 ∧ domain.mwalloc (pc.total data)
  · have size : (pc.received domain data).bufsize = pc.total data := if_pos fresh
    refine ⟨size ▸ totalNonneg, empty, fun _ _ => size, complete, ?_,
      fun _ => ⟨Int.le_of_eq size.symm, Or.inl totalNonneg⟩⟩
    intro waits hasBuffer
    have noData := PendingCall.datarecv_eq_zero.mpr (sheltered.empty fresh.1)
    rw [size, (sheltered.waiting fits waits).2] at hasBuffer
    exact absurd noData hasBuffer
  · have size : (pc.received domain data).bufsize = pc.bufsize := if_neg fresh
    refine ⟨size ▸ sheltered.nonneg, empty, ?_, complete, ?_, ?_⟩
    · intro collects hasBuffer
      rw [size] at hasBuffer ⊢
      exact (sheltered.exact collects hasBuffer).trans (sheltered.total_le fits hasBuffer).1.symm
    · intro waits hasBuffer
      rw [size] at hasBuffer
      exact List.append_ne_nil_of_left_ne_nil (sheltered.full waits hasBuffer) data
    · intro hasBuffer
      rw [size] at hasBuffer ⊢
      rcases sheltered.total_le fits hasBuffer with ⟨total, announced⟩
      refine ⟨?_, Or.inl totalNonneg⟩
      change pc.total data ≤ pc.bufsize
      rw [total]
      exact (sheltered.bound hasBuffer).1

theorem PendingCall.Sheltered.replied (waits : pc.status = .replypending) {datatotal : Int}
    (within : pc.bufsize ≠ 0 → datatotal ≤ pc.bufsize) (call : Call) :
    ({ pc with call := call, status := .replydatapending, datalen := datatotal } :
      PendingCall).Sheltered := by
  refine ⟨sheltered.nonneg, sheltered.empty, ?_, ?_, ?_, ?_⟩
  · simp
  · simp
  · simp
  · intro hasBuffer
    exact ⟨within hasBuffer, Or.inr (sheltered.full waits hasBuffer)⟩

theorem PendingCall.Sheltered.routed (collects : pc.status = .calldatapending)
    (complete : pc.datarecv = pc.datalen) (domain : Domain) (ipchdl : UInt32) :
    (pc.routed domain ipchdl).Sheltered := by
  refine ⟨sheltered.nonneg, sheltered.empty, ?_, fun _ => complete, ?_, sheltered.bound⟩
  · intro impossible
    cases impossible
  · intro _ hasBuffer noData
    have isTotal := sheltered.exact collects hasBuffer
    have none : pc.datarecv = 0 := PendingCall.datarecv_eq_zero.mpr noData
    rw [← complete, none] at isTotal
    exact hasBuffer isTotal

end Buffers

/-- The operation ends in a store whose calls are sheltered, or with a failure that has
nothing to do with the data. -/
def Withstands : Except StoreFailure CallStore → Prop
  | .ok store => AllCalls PendingCall.Sheltered store
  | .error failure => failure ≠ .assertion ∧ failure ≠ .bufferOverrun

/-- The data stays within the total of the call it is for, and shared memory has a
block for that total when the call has no buffer yet. -/
def DataPolite (domain : Domain) (store : CallStore) (mwid nethandle : UInt32)
    (data : List Byte) : Prop :=
  ∀ adr, store.lookupPendingCall mwid nethandle = some adr → (store.pc adr).Fits data ∧
    (data ≠ [] → (store.pc adr).bufsize = 0 →
      domain.mwalloc ((store.pc adr).total data) = true)

/-- The reply is to a call that waits for one, and announces no more than the buffer of
the call has, when it has one. -/
def ReplyPolite (store : CallStore) (mwid nethandle : UInt32) (datatotal : Int) : Prop :=
  ∀ adr, store.lookupPendingCall mwid nethandle = some adr →
    (store.pc adr).status = .replypending ∧
    ((store.pc adr).bufsize ≠ 0 → datatotal ≤ (store.pc adr).bufsize)

section Operations

variable {store : CallStore} (calls : AllCalls PendingCall.Sheltered store) (domain : Domain)
include calls

theorem sheltered_checkIfComplete {adr : Nat} (pending : store.Pending adr) :
    AllCalls PendingCall.Sheltered (store.checkIfComplete domain adr) := by
  apply calls.checkIfComplete domain pending
  · intro collects complete
    exact (calls.all adr pending).routed collects complete domain _
  · intro _ _
    exact PendingCall.sheltered_bare rfl rfl fun _ => rfl

theorem sheltered_storeSRBCall (mwid nethandle : UInt32) (map : Urlmap) (conn : Connection)
    (datatotal : Int) (service : List Byte) (instanceName domainname : Option (List Byte))
    (flags : UInt32) :
    AllCalls PendingCall.Sheltered (store.storeSRBCall domain mwid nethandle map conn datatotal
      service instanceName domainname flags) := by
  apply calls.storeSRBCall domain
  · apply PendingCall.sheltered_bare rfl rfl
    intro impossible
    cases impossible
  · intro complete
    exact PendingCall.sheltered_bare rfl rfl fun _ => complete

theorem withstands_storeSRBData {mwid nethandle : UInt32} {data : List Byte}
    (polite : DataPolite domain store mwid nethandle data) :
    Withstands (store.storeSRBData domain mwid nethandle data) := by
  cases found : store.lookupPendingCall mwid nethandle with
  | none =>
      rw [CallStore.storeSRBData, found]
      exact calls
  | some adr =>
      have pending : store.Pending adr := ⟨_, List.mem_of_find?_eq_some found⟩
      rcases polite adr found with ⟨fits, hasBlock⟩
      have granted := (calls.all adr pending).granted fits hasBlock
      have received := calls.setPc pending ((calls.all adr pending).received fits granted)
      rw [storeSRBData_found domain found fits granted]
      exact sheltered_checkIfComplete received domain pending

theorem withstands_storeSRBReply (rcode apprcode : Int) {mwid nethandle : UInt32}
    {datatotal : Int} (polite : ReplyPolite store mwid nethandle datatotal) :
    Withstands (store.storeSRBReply domain mwid nethandle rcode apprcode datatotal) := by
  rw [CallStore.storeSRBReply]
  cases found : store.lookupPendingCall mwid nethandle with
  | none => exact calls
  | some adr =>
      have pending : store.Pending adr := ⟨_, List.mem_of_find?_eq_some found⟩
      rcases polite adr found with ⟨waits, within⟩
      simp only [if_pos waits]
      have replied := calls.setPc pending ((calls.all adr pending).replied waits within
        { (store.pc adr).call with returncode := rcode, appreturncode := apprcode })
      exact sheltered_checkIfComplete replied domain pending

theorem sheltered_storeIPCCall {outlet : Outlet} {cmsg : Call}
    (passes : outlet.Passes (store.nextIpchdl domain) cmsg) (conn : Connection) :
    AllCalls PendingCall.Sheltered (store.storeIPCCall domain outlet cmsg conn).store := by
  have opened := openIPCCall_opened calls.ok domain cmsg conn
  have bare : (unsentCall domain store cmsg conn).Sheltered :=
    PendingCall.sheltered_bare rfl rfl fun _ => rfl
  have pending : (store.openIPCCall domain cmsg conn).2.2.Pending
      (store.openIPCCall domain cmsg conn).1 :=
    ⟨_, (opened.placed.mem _ _).mpr (Or.inl ⟨rfl, rfl⟩)⟩
  rw [storeIPCCall_sent passes]
  apply (calls.place opened.placed bare).setPc pending
  rw [opened.placed.pc]
  exact PendingCall.sheltered_bare rfl rfl fun _ => rfl

end Operations

section Messages

variable {store : CallStore} (calls : AllCalls PendingCall.Sheltered store) (domain : Domain)
include calls

theorem withstands_storeRest {conn : Connection} {handle : UInt32} {data : List Byte}
    (polite : data ≠ [] → DataPolite domain store (connGetinfo conn) handle data) :
    Withstands (storeRest domain store conn handle data) := by
  rw [storeRest]
  split_ifs with hasData
  · exact withstands_storeSRBData calls domain (polite (List.length_pos_iff.mp hasData))
  · exact calls

end Messages

theorem Withstands.answered {result : Except StoreFailure CallStore} (withstands : Withstands result)
    (answers : List SRBmessage) :
    Withstands ((result.map fun store => (store, answers)).map Prod.fst) := by
  cases result with
  | error failure => exact withstands
  | ok store => exact withstands

/-- An event of the gateway, or a call of a local client that goes out to a peer. -/
inductive PeerEvent where
  | gateway (event : GatewayEvent)
  | ipcCall (domain : Domain) (outlet : Outlet) (cmsg : Call) (conn : Connection)

def PeerEvent.handle (limit : Nat) (store : CallStore) :
    PeerEvent → Except StoreFailure CallStore
  | .gateway event => event.handle limit store
  | .ipcCall domain outlet cmsg conn => .ok (store.storeIPCCall domain outlet cmsg conn).store

/-- A call that cannot be sent ends the run: the lock is never given back. -/
def PeerEvent.Enabled (store : CallStore) : PeerEvent → Prop
  | .gateway _ => True
  | .ipcCall domain outlet cmsg _ => outlet.Passes (store.nextIpchdl domain) cmsg

def peerMachine (limit : Nat) : Machine CallStore PeerEvent StoreFailure where
  start := fun store => store = emptyStore
  enabled := PeerEvent.Enabled
  step := PeerEvent.handle limit

/-- The data of a request is polite in the store the request leaves. -/
def CallRequest.Polite (domain : Domain) (store : CallStore) (conn : Connection)
    (request : CallRequest) : Prop :=
  request.data ≠ [] → DataPolite domain
    (store.storeSRBCall domain (connGetinfo conn) request.handle request.exchange.srbmsg.map conn
      request.datatotal request.svcname request.instanceName request.domainname request.flags)
    (connGetinfo conn) request.handle request.data

/-- The reply is polite, and its data in the store the reply leaves. -/
structure ReplyRequest.Polite (domain : Domain) (store : CallStore) (conn : Connection)
    (request : ReplyRequest) : Prop where
  reply : ReplyPolite store (connGetinfo conn) request.handle request.datatotal
  data : request.data ≠ [] → ∀ between,
    store.storeSRBReply domain (connGetinfo conn) request.handle request.returncode
      request.appreturncode request.datatotal = .ok between →
    DataPolite domain between (connGetinfo conn) request.handle request.data

def PeerEvent.Polite (store : CallStore) : PeerEvent → Prop
  | .gateway (.message domain uninit conn srbmsg) =>
      match command conn srbmsg with
      | .svccall => connGetinfo conn ≠ unassigned → ∀ request,
          readCall uninit conn srbmsg = .complete request → request.Polite domain store conn
      | .svcreply => connGetinfo conn ≠ unassigned → ∀ request,
          readReply uninit conn srbmsg = .complete request → request.Polite domain store conn
      | .svcdata => ∀ request, readData conn srbmsg = .complete request →
          DataPolite domain store (connGetinfo conn) request.handle request.data
      | .term => True
      | .other => True
  | _ => True

section Reading

variable {uninit : Uninit} {conn : Connection} {srbmsg : SRBmessage} {failure : StoreFailure}

theorem xGetOptField_error {exchange : Exchange} {fieldname : List Byte} {value : UInt32}
    (reading : xGetOptField conn exchange fieldname value = .error failure) :
    failure = .nullPointer := by
  unfold xGetOptField at reading
  grind

theorem xGetReqField_error {exchange : Exchange} {fieldname : List Byte} {value : UInt32}
    (reading : xGetReqField conn exchange fieldname value = .error failure) :
    failure = .nullPointer := by
  grind [xGetReqField, xGetOptField_error]

theorem readData_failed (reading : readData conn srbmsg = .failed failure) :
    failure = .nullPointer := by
  grind [readData, xGetReqField_error]

theorem readCall_failed (reading : readCall uninit conn srbmsg = .failed failure) :
    failure = .wildPointer := by
  unfold readCall at reading
  split at reading
  · cases reading
  · simp only at reading
    split at reading
    · cases reading
      rfl
    · split at reading
      · cases reading
      · split at reading
        · cases reading
        · cases reading

theorem readReply_failed (reading : readReply uninit conn srbmsg = .failed failure) :
    failure = .nullPointer := by
  unfold readReply at reading
  grind [xGetReqField_error]

end Reading

theorem storeIPCReply_error {store : CallStore} {cmsg : Call} {failure : StoreFailure}
    (result : store.storeIPCReply cmsg = .error failure) : failure = .nullPointer := by
  rw [CallStore.storeIPCReply] at result
  grind

section Handlers

variable {store : CallStore} (calls : AllCalls PendingCall.Sheltered store) (domain : Domain)
  {conn : Connection} {srbmsg : SRBmessage}
include calls

theorem withstands_srbsvcdata
    (polite : ∀ request, readData conn srbmsg = .complete request →
      DataPolite domain store (connGetinfo conn) request.handle request.data) :
    Withstands ((srbsvcdata domain store conn srbmsg).map Prod.fst) := by
  rw [srbsvcdata]
  cases reading : readData conn srbmsg with
  | ended exchange => exact calls
  | failed failure =>
      cases readData_failed reading
      exact ⟨by decide, by decide⟩
  | complete request =>
      exact (withstands_storeSRBData calls domain (polite request reading)).answered _

theorem withstands_srbcallReq (limit : Nat) (uninit : Uninit)
    (polite : connGetinfo conn ≠ unassigned → ∀ request,
      readCall uninit conn srbmsg = .complete request → request.Polite domain store conn) :
    Withstands ((srbcallReq domain limit uninit store conn srbmsg).map Prod.fst) := by
  rw [srbcallReq]
  split_ifs with unattached
  · exact calls
  · cases reading : readCall uninit conn srbmsg with
    | ended exchange => exact calls
    | failed failure =>
        cases readCall_failed reading
        exact ⟨by decide, by decide⟩
    | complete request =>
        have opened := sheltered_storeSRBCall calls domain (connGetinfo conn) request.handle
          request.exchange.srbmsg.map conn request.datatotal request.svcname request.instanceName
          request.domainname request.flags
        exact (withstands_storeRest opened domain (polite unattached request reading)).answered _

theorem withstands_srbcallRpl (limit : Nat) (uninit : Uninit)
    (polite : connGetinfo conn ≠ unassigned → ∀ request,
      readReply uninit conn srbmsg = .complete request → request.Polite domain store conn) :
    Withstands ((srbcallRpl domain limit uninit store conn srbmsg).map Prod.fst) := by
  rw [srbcallRpl]
  split_ifs with unattached
  · exact calls
  · cases reading : readReply uninit conn srbmsg with
    | ended exchange => exact calls
    | failed failure =>
        cases readReply_failed reading
        exact ⟨by decide, by decide⟩
    | complete request =>
        have isPolite := polite unattached request reading
        have replied := withstands_storeSRBReply calls domain request.returncode
          request.appreturncode isPolite.reply
        simp only
        cases result : store.storeSRBReply domain (connGetinfo conn) request.handle
          request.returncode request.appreturncode request.datatotal with
        | error failure =>
            rw [result] at replied
            exact replied
        | ok between =>
            rw [result] at replied
            exact (withstands_storeRest replied domain fun hasData =>
              isPolite.data hasData between result).answered _

theorem sheltered_tcpcloseconnection (conn : Connection) :
    AllCalls PendingCall.Sheltered (tcpcloseconnection store conn) := by
  rw [tcpcloseconnection]
  split_ifs
  · exact calls.storeSRBClearClient conn.cid
  · exact calls

theorem withstands_storeIPCReply (cmsg : Call) :
    Withstands ((store.storeIPCReply cmsg).map Prod.snd) := by
  cases result : store.storeIPCReply cmsg with
  | error failure =>
      have isNull := storeIPCReply_error result
      rw [isNull]
      exact ⟨by decide, by decide⟩
  | ok answered =>
      rcases answered with ⟨answer, store'⟩
      exact calls.storeIPCReply result

/-- A polite event is withstood. -/
theorem PeerEvent.Polite.withstands {event : PeerEvent} (limit : Nat)
    (polite : event.Polite store) (enabled : event.Enabled store) :
    Withstands (event.handle limit store) := by
  cases event with
  | ipcCall domain outlet cmsg conn => exact sheltered_storeIPCCall calls domain enabled conn
  | gateway event =>
      cases event with
      | closed conn => exact sheltered_tcpcloseconnection calls conn
      | ipcReply cmsg => exact withstands_storeIPCReply calls cmsg
      | message domain uninit conn srbmsg =>
          change Withstands (srbDoMessage domain limit uninit store conn srbmsg)
          rw [srbDoMessage]
          rw [PeerEvent.Polite] at polite
          cases isCommand : command conn srbmsg with
          | svccall =>
              simp_all [withstands_srbcallReq]
          | svcreply =>
              simp_all [withstands_srbcallRpl]
          | svcdata =>
              simp_all [withstands_srbsvcdata]
          | term => exact sheltered_tcpcloseconnection calls conn
          | other => exact calls

end Handlers

theorem peerMachine_preserves (limit : Nat) :
    (peerMachine limit).Preserves (fun store event => event.Polite store)
      (AllCalls PendingCall.Sheltered) := by
  intro store event next calls enabled polite handled
  have withstands := polite.withstands calls limit enabled
  rw [show event.handle limit store = .ok next from handled] at withstands
  exact withstands

/-- In every run of polite events no assertion of the store fails, and no byte is
written beyond the buffer of a call. -/
theorem peerMachine_withstands (limit : Nat) {store : CallStore}
    (reachable : (peerMachine limit).Reachable (fun store event => event.Polite store) store)
    {event : PeerEvent} (enabled : event.Enabled store) (polite : event.Polite store) :
    event.handle limit store ≠ .error .assertion ∧
      event.handle limit store ≠ .error .bufferOverrun := by
  have calls : AllCalls PendingCall.Sheltered store := by
    apply reachable.holds _ (peerMachine_preserves limit)
    intro start isStart
    rw [show start = emptyStore from isStart]
    exact AllCalls.empty _
  have withstands := polite.withstands calls limit enabled
  constructor
  · intro failed
    rw [failed] at withstands
    exact withstands.1 rfl
  · intro failed
    rw [failed] at withstands
    exact withstands.2 rfl

def politeConn : Connection := ⟨5, 0x02000001, unassigned, true, true⟩

def announcement (total : Int) (data : List Byte) : PeerEvent :=
  .gateway (.message roomyDomain ⟨0, 0⟩ politeConn
    (callMessage (sprintfUpperX 7) [115] (some total) data none))

def dataFor (handle : UInt32) (data : List Byte) : PeerEvent :=
  .gateway (.message roomyDomain ⟨0, 0⟩ politeConn (dataMessage (sprintfUpperX handle) data))

def replyTo (handle : UInt32) (total : Int) : PeerEvent :=
  .gateway (.message roomyDomain ⟨0, 0⟩ politeConn
    ⟨srbSvccall, srbResponseMarker,
      [⟨srbHandle, some (sprintfUpperX handle)⟩, ⟨srbSvcname, some [115]⟩,
        ⟨srbReturncode, some (sprintfD 1)⟩, ⟨srbDatatotal, some (sprintfD total)⟩]⟩)

def handleAll (limit : Nat) (store : CallStore) : List PeerEvent → Except StoreFailure CallStore
  | [] => .ok store
  | event :: rest =>
      match event.handle limit store with
      | .error failure => .error failure
      | .ok store => handleAll limit store rest

/-- The two bytes that were announced are withstood. -/
theorem peerMachine_withstands_announced :
    ∃ store, (announcement 2 []).handle 3000 emptyStore = .ok store ∧
      (dataFor 7 [97, 98]).Polite store ∧
      (dataFor 7 [97, 98]).handle 3000 store ≠ .error .assertion ∧
      (dataFor 7 [97, 98]).handle 3000 store ≠ .error .bufferOverrun := by
  have announced : (announcement 2 []).Polite emptyStore := by
    intro _ request reading nonempty
    rw [readCall_callMessage 7 [] ⟨0, 0⟩ politeConn (by decide) (by decide) (by decide)
      (by simp)] at reading
    cases reading
    exact absurd rfl nonempty
  have reachable : (peerMachine 3000).Reachable (fun store event => event.Polite store)
      (emptyStore.storeSRBCall roomyDomain (connGetinfo politeConn) 7
        (callMessage (sprintfUpperX 7) [115] (some 2) [] none).map politeConn 2 [115] none none
        0) :=
    .step (.start rfl)
      (show (peerMachine 3000).enabled emptyStore (announcement 2 []) from trivial) announced rfl
  have polite : (dataFor 7 [97, 98]).Polite (emptyStore.storeSRBCall roomyDomain
      (connGetinfo politeConn) 7 (callMessage (sprintfUpperX 7) [115] (some 2) [] none).map
      politeConn 2 [115] none none 0) := by
    intro request reading adr found
    rw [readData_dataMessage] at reading
    cases reading
    cases found
    exact ⟨Int.le_refl 2, fun _ _ => rfl⟩
  exact ⟨_, rfl, polite, peerMachine_withstands 3000 reachable trivial polite⟩

/-- More data than was announced, a reply to a call that still collects its data, and a
reply that announces more than the buffer has: two failed assertions and a copy beyond
the buffer. -/
theorem peerMachine_withstands_not_all :
    handleAll 3000 emptyStore [announcement 1 [97, 98]] = .error .assertion ∧
      handleAll 3000 emptyStore [announcement 2 [], replyTo 7 0] = .error .assertion ∧
      handleAll 3000 emptyStore [announcement 1 [97], replyTo 42 10, dataFor 42 [97, 98]] =
        .error .bufferOverrun := by
  refine ⟨rfl, rfl, ?_⟩
  rfl

end MidWay.Gateway

import MidWay.Gateway.StoreLists
import MidWay.Lib.Runs

/-!
Contract: which call the call store finds for the data of a client and for the
reply of a server.

The ledger says what the store is for: a client opens a call under a handle of
its own, its data goes to that call, the call is issued one handle towards the
servers when it is complete, and a reply under that handle answers that call. The
two kinds of handles do not meet in the ledger. In the store both are looked up in
one hash, so it follows the ledger as long as no handle issued to a call of a
client is the handle the same client uses for another call.

Owns: `Ledger`, `storeMachine`, `HandlesApart`, and that the store follows the
ledger in every run that meets it.
-/

namespace MidWay.Gateway

open MidWay.CLib MidWay.Url MidWay.Srb MidWay.Lib

structure OpenCall where
  conn : Connection
  map : Urlmap
  total : Int
  received : List Byte
  ipchdl : Option UInt32
deriving DecidableEq

abbrev Ledger := UInt32 → UInt32 → Option OpenCall

def OpenCall.receive (call : OpenCall) (issued : UInt32) (data : List Byte) : OpenCall :=
  let total := if call.total < 0 then (data.length : Int) else call.total
  let received := call.received ++ data
  { call with
    total := total
    received := received
    ipchdl := if (received.length : Int) = total then some issued else none }

def Ledger.set (ledger : Ledger) (mwid handle : UInt32) (entry : Option OpenCall) : Ledger :=
  fun client other => if client = mwid ∧ other = handle then entry else ledger client other

/-- A call is opened. Without data it is complete, and `issued` is its handle. -/
def Ledger.svccall (ledger : Ledger) (mwid handle : UInt32) (conn : Connection) (map : Urlmap)
    (total : Int) (issued : UInt32) : Ledger :=
  ledger.set mwid handle
    (some ⟨conn, map, total, [], if total = 0 then some issued else none⟩)

/-- Data goes to the call the client opened under the handle, until that is
complete. -/
def Ledger.svcdata (ledger : Ledger) (mwid handle : UInt32) (data : List Byte)
    (issued : UInt32) : Ledger :=
  match ledger mwid handle with
  | some call =>
      if call.ipchdl = none then ledger.set mwid handle (some (call.receive issued data))
      else ledger
  | none => ledger

def Ledger.Issued (ledger : Ledger) (mwid ipchdl handle : UInt32) (call : OpenCall) : Prop :=
  ledger mwid handle = some call ∧ call.ipchdl = some ipchdl

def Ledger.answer (ledger : Ledger) (mwid ipchdl : UInt32) : Ledger :=
  fun client handle =>
    if client = mwid ∧ (ledger client handle).bind OpenCall.ipchdl = some ipchdl then none
    else ledger client handle

inductive StoreAction where
  | svccall (conn : Connection) (nethandle : UInt32) (map : Urlmap) (datatotal : Int)
      (service : List Byte) (instanceName domainname : Option (List Byte)) (flags : UInt32)
  | svcdata (conn : Connection) (nethandle : UInt32) (data : List Byte)
  | ipcReply (cmsg : Call)

structure StoreState where
  store : CallStore
  ledger : Ledger

section

variable (domain : Domain)

/-- Only attached clients call, and a client uses a handle for one open call at a
time. A server answers calls it was sent. -/
def StoreState.enabled (state : StoreState) : StoreAction → Prop
  | .svccall conn nethandle _ _ _ _ _ _ => connGetinfo conn ≠ unassigned ∧
      state.ledger (connGetinfo conn) nethandle = none
  | .svcdata _ _ _ => True
  | .ipcReply cmsg => ∃ sent ∈ state.store.sent,
      sent.2.cltid = cmsg.cltid ∧ sent.2.handle = cmsg.handle

def StoreState.step (state : StoreState) : StoreAction → Except StoreFailure StoreState
  | .svccall conn nethandle map datatotal service instanceName domainname flags =>
      let mwid := connGetinfo conn
      .ok ⟨state.store.storeSRBCall domain mwid nethandle map conn datatotal service instanceName
          domainname flags,
        state.ledger.svccall mwid nethandle conn map datatotal (state.store.nextIpchdl domain)⟩
  | .svcdata conn nethandle data =>
      let mwid := connGetinfo conn
      match state.store.storeSRBData domain mwid nethandle data with
      | .error failure => .error failure
      | .ok store =>
          .ok ⟨store, state.ledger.svcdata mwid nethandle data (state.store.nextIpchdl domain)⟩
  | .ipcReply cmsg =>
      match state.store.storeIPCReply cmsg with
      | .error failure => .error failure
      | .ok (_, store) =>
          .ok ⟨store, if cmsg.returncode = mwMore then state.ledger
            else state.ledger.answer cmsg.callerMwid cmsg.handle⟩

def storeMachine : Machine StoreState StoreAction StoreFailure where
  start := fun state => state.store = emptyStore ∧ state.ledger = fun _ _ => none
  enabled := StoreState.enabled
  step := StoreState.step domain

/-- The handle that would be issued next meets no other handle of the client. -/
def NextApart (state : StoreState) (mwid handle : UInt32) : Prop :=
  ∀ other call, state.ledger mwid other = some call →
    call.ipchdl ≠ some (state.store.nextIpchdl domain) ∧
      (other = state.store.nextIpchdl domain → other = handle)

/-- No handle issued to an open call of a client is the handle of another open
call of that client, and no two have the same issued handle. -/
def HandlesApart (state : StoreState) : StoreAction → Prop
  | .svccall conn nethandle _ datatotal _ _ _ _ =>
      (∀ other call, ¬ state.ledger.Issued (connGetinfo conn) nethandle other call) ∧
        (datatotal = 0 → NextApart domain state (connGetinfo conn) nethandle)
  | .svcdata conn nethandle data =>
      ∀ call, state.ledger (connGetinfo conn) nethandle = some call → call.ipchdl = none →
        (call.receive (state.store.nextIpchdl domain) data).ipchdl ≠ none →
        NextApart domain state (connGetinfo conn) nethandle
  | .ipcReply cmsg => (∃ other call, state.ledger.Issued cmsg.callerMwid cmsg.handle other call) ∨
      state.ledger cmsg.callerMwid cmsg.handle = none

end

def PendingCall.issued (pc : PendingCall) : Option UInt32 :=
  if pc.status = .replypending then some pc.dsthdl else none

def PendingCall.view (pc : PendingCall) : Option OpenCall :=
  pc.srcconn.map fun conn => ⟨conn, pc.callmsg, pc.datalen, pc.data, pc.issued⟩

/-- A pending call of an SRB client, in the bucket of its current key: the handle
of the client, and the issued handle once there is one. -/
structure CallOk (pc : PendingCall) (bucket : UInt8) : Prop where
  client : pc.srcMwid ≠ 0 ∧ pc.srcMwid ≠ unassigned
  cltid : pc.call.cltid = pc.srcMwid
  conn : ∃ conn, pc.srcconn = some conn ∧ (conn.cid = pc.srcMwid ∨ conn.gwid = pc.srcMwid)
  buffer : pc.Buffered
  phase : (pc.status = .calldatapending ∧ bucket = mkhash pc.srcMwid pc.srchdl ∧
      pc.dstMwid = 0) ∨
    (pc.status = .replypending ∧ bucket = mkhash pc.srcMwid pc.dsthdl ∧
      pc.dstMwid = pc.srcMwid ∧ pc.datarecv = pc.datalen)

def Apart (pc other : PendingCall) : Prop :=
  pc.srcMwid = other.srcMwid → pc.srchdl ≠ other.srchdl ∧
    ∀ handle, pc.issued = some handle → other.srchdl ≠ handle ∧ other.issued ≠ some handle

structure Represents (store : CallStore) (ledger : Ledger) : Prop where
  ok : StoreOk store
  calls : ∀ adr bucket, adr ∈ store.hash bucket → CallOk (store.pc adr) bucket
  entry : ∀ mwid handle call, ledger mwid handle = some call ↔
    ∃ adr, store.Pending adr ∧ (store.pc adr).srcMwid = mwid ∧ (store.pc adr).srchdl = handle ∧
      (store.pc adr).view = some call
  apart : ∀ adr other, store.Pending adr → store.Pending other → adr ≠ other →
    Apart (store.pc adr) (store.pc other)
  sent : ∀ message ∈ store.sent, message.2.cltid ≠ 0 ∧ message.2.cltid ≠ unassigned

variable {pc : PendingCall} {mwid nethandle handle hdl : UInt32} {adr : Nat}

section Lookup

theorem CallOk.hasTuple {bucket : UInt8} (call : CallOk pc bucket) (client : mwid ≠ 0) :
    pc.hasTuple mwid hdl = true ↔
      pc.srcMwid = mwid ∧ (pc.srchdl = hdl ∨ pc.issued = some hdl) := by
  simp only [PendingCall.hasTuple, PendingCall.issued, Bool.or_eq_true, Bool.and_eq_true,
    beq_iff_eq]
  rcases call.phase with ⟨collecting, -, noDestination⟩ | ⟨routed, -, destination, -⟩
  · grind
  · grind

variable {store : CallStore} {ledger : Ledger} (represents : Represents store ledger)
include represents

/-- Two pending calls never answer to the same handle of a client. -/
theorem Represents.tuple_unique {other : Nat} (client : mwid ≠ 0) (pending : store.Pending adr)
    (otherPending : store.Pending other) (here : (store.pc adr).hasTuple mwid hdl = true)
    (there : (store.pc other).hasTuple mwid hdl = true) : other = adr := by
  by_contra different
  have forth := represents.apart other adr otherPending pending different
  have back := represents.apart adr other pending otherPending (Ne.symm different)
  rcases pending with ⟨bucket, inBucket⟩
  rcases otherPending with ⟨place, inPlace⟩
  rcases ((represents.calls adr bucket inBucket).hasTuple client).mp here with
    ⟨isClient, byHandle | byIssued⟩
  · rcases ((represents.calls other place inPlace).hasTuple client).mp there with
      ⟨otherClient, otherHandle | otherIssued⟩
    · exact (back (isClient.trans otherClient.symm)).1 (byHandle.trans otherHandle.symm)
    · exact ((forth (otherClient.trans isClient.symm)).2 hdl otherIssued).1 byHandle
  · rcases ((represents.calls other place inPlace).hasTuple client).mp there with
      ⟨otherClient, otherHandle | otherIssued⟩
    · exact ((back (isClient.trans otherClient.symm)).2 hdl byIssued).1 otherHandle
    · exact ((back (isClient.trans otherClient.symm)).2 hdl byIssued).2 otherIssued

theorem Represents.lookup_eq (client : mwid ≠ 0) (inBucket : adr ∈ store.hash (mkhash mwid hdl))
    (here : (store.pc adr).hasTuple mwid hdl = true) :
    store.lookupPendingCall mwid hdl = some adr := by
  cases found : store.lookupPendingCall mwid hdl with
  | none => exact absurd here (by simpa using List.find?_eq_none.mp found adr inBucket)
  | some other =>
      have inPlace := List.mem_of_find?_eq_some found
      have there := List.find?_some found
      rw [represents.tuple_unique client ⟨_, inBucket⟩ ⟨_, inPlace⟩ here there]

end Lookup

section Changes

variable {store store' : CallStore} {ledger : Ledger} (represents : Represents store ledger)
include represents

/-- A call is added, or changes while it keeps the client and the client's handle. -/
theorem Represents.place {adr : Nat} {pc : PendingCall} {bucket : UInt8}
    (placed : Placed store store' adr pc bucket) (callOk : CallOk pc bucket)
    (sameKey : store.Pending adr →
      (store.pc adr).srcMwid = pc.srcMwid ∧ (store.pc adr).srchdl = pc.srchdl)
    (apart : ∀ other, store.Pending other → other ≠ adr →
      Apart pc (store.pc other) ∧ Apart (store.pc other) pc)
    (sent : ∀ message ∈ store'.sent, message.2.cltid ≠ 0 ∧ message.2.cltid ≠ unassigned) :
    Represents store' (ledger.set pc.srcMwid pc.srchdl pc.view) := by
  have isPending : ∀ other, store'.Pending other ↔
      other = adr ∨ (other ≠ adr ∧ store.Pending other) := by
    intro other
    constructor
    · rintro ⟨place, member⟩
      rcases (placed.mem other place).mp member with ⟨same, -⟩ | ⟨different, before⟩
      · exact Or.inl same
      · exact Or.inr ⟨different, place, before⟩
    · rintro (rfl | ⟨different, place, before⟩)
      · exact ⟨bucket, (placed.mem _ _).mpr (Or.inl ⟨rfl, rfl⟩)⟩
      · exact ⟨place, (placed.mem _ _).mpr (Or.inr ⟨different, before⟩)⟩
  refine ⟨placed.ok, ?_, ?_, ?_, sent⟩
  · intro other place member
    rcases (placed.mem other place).mp member with ⟨rfl, rfl⟩ | ⟨different, before⟩
    · simp [placed.pc, callOk]
    · simp_all [placed.others, represents.calls]
  · intro mwid handle call
    rw [Ledger.set]
    split_ifs with key
    · rcases key with ⟨rfl, rfl⟩
      constructor
      · simp_all [placed.pc]
      · rintro ⟨other, pending, sameMwid, sameHandle, view⟩
        rcases (isPending other).mp pending with rfl | ⟨different, before⟩
        · simp_all [placed.pc]
        · rw [placed.others other different] at sameMwid sameHandle
          exact absurd sameHandle.symm ((apart other before different).1 sameMwid.symm).1
    · rw [represents.entry]
      constructor
      · rintro ⟨other, pending, sameMwid, sameHandle, view⟩
        have different : other ≠ adr := by
          grind
        refine ⟨other, (isPending other).mpr (Or.inr ⟨different, pending⟩), ?_⟩
        simp_all [placed.others]
      · rintro ⟨other, pending, shown⟩
        rcases (isPending other).mp pending with rfl | ⟨different, before⟩
        · simp_all [placed.pc]
        · rw [placed.others other different] at shown
          exact ⟨other, before, shown⟩
  · intro first second firstPending secondPending different
    rcases (isPending first).mp firstPending with rfl | ⟨firstOther, firstBefore⟩
    · rcases (isPending second).mp secondPending with rfl | ⟨secondOther, secondBefore⟩
      · exact absurd rfl different
      · simp_all [placed.pc, placed.others]
    · rw [placed.others first firstOther]
      rcases (isPending second).mp secondPending with rfl | ⟨secondOther, secondBefore⟩
      · simp_all [placed.pc]
      · simp_all [placed.others, represents.apart]

/-- A call is answered for the last time. -/
theorem Represents.remove (removed : Removed store store' adr) (pending : store.Pending adr)
    (sent : store'.sent = store.sent) :
    Represents store' (ledger.set (store.pc adr).srcMwid (store.pc adr).srchdl none) := by
  have isPending : ∀ other, store'.Pending other ↔ other ≠ adr ∧ store.Pending other := by
    intro other
    constructor
    · rintro ⟨place, member⟩
      rcases (removed.mem other place).mp member with ⟨different, before⟩
      exact ⟨different, place, before⟩
    · rintro ⟨different, place, before⟩
      exact ⟨place, (removed.mem _ _).mpr ⟨different, before⟩⟩
  refine ⟨removed.ok, ?_, ?_, ?_, ?_⟩
  · intro other place member
    rcases (removed.mem other place).mp member with ⟨different, before⟩
    simp_all [removed.others, represents.calls]
  · intro mwid handle call
    rw [Ledger.set]
    split_ifs with key
    · rcases key with ⟨rfl, rfl⟩
      constructor
      · simp
      · rintro ⟨other, otherPending, sameMwid, sameHandle, -⟩
        rcases (isPending other).mp otherPending with ⟨different, before⟩
        rw [removed.others other different] at sameMwid sameHandle
        exact absurd sameHandle (represents.apart other adr before pending different sameMwid).1
    · rw [represents.entry]
      constructor
      · rintro ⟨other, otherPending, shown⟩
        have different : other ≠ adr := by
          grind
        refine ⟨other, (isPending other).mpr ⟨different, otherPending⟩, ?_⟩
        rw [removed.others other different]
        exact shown
      · rintro ⟨other, otherPending, shown⟩
        rcases (isPending other).mp otherPending with ⟨different, before⟩
        rw [removed.others other different] at shown
        exact ⟨other, before, shown⟩
  · simp_all [removed.others, represents.apart]
  · simp_all [represents.sent]

end Changes

theorem PendingCall.routed_call_cltid (domain : Domain) (pc : PendingCall) (ipchdl : UInt32) :
    (pc.routed domain ipchdl).call.cltid = pc.call.cltid := pc.putbuffer_cltid

variable {conn : Connection}

theorem openedCall_complete {domain : Domain} {map : Urlmap} {datatotal : Int} {service : List Byte}
    {instanceName domainname : Option (List Byte)} {flags : UInt32} :
    (openedCall domain mwid nethandle map conn datatotal service instanceName domainname
      flags).datarecv = (openedCall domain mwid nethandle map conn datatotal service instanceName
      domainname flags).datalen ↔ datatotal = 0 := eq_comm
structure Collecting (pc : PendingCall) : Prop where
  client : pc.srcMwid ≠ 0 ∧ pc.srcMwid ≠ unassigned
  cltid : pc.call.cltid = pc.srcMwid
  conn : ∃ conn, pc.srcconn = some conn ∧ (conn.cid = pc.srcMwid ∨ conn.gwid = pc.srcMwid)
  buffer : pc.Buffered
  status : pc.status = .calldatapending
  destination : pc.dstMwid = 0

theorem Collecting.callOk (collecting : Collecting pc) :
    CallOk pc (mkhash pc.srcMwid pc.srchdl) :=
  ⟨collecting.client, collecting.cltid, collecting.conn, collecting.buffer,
    Or.inl ⟨collecting.status, rfl, collecting.destination⟩⟩

theorem Collecting.routed (collecting : Collecting pc) (domain : Domain) (ipchdl : UInt32)
    (complete : pc.datarecv = pc.datalen) :
    CallOk (pc.routed domain ipchdl) (mkhash pc.call.cltid ipchdl) := by
  refine ⟨collecting.client, ?_, collecting.conn,
    ⟨collecting.buffer.size, collecting.buffer.data⟩, Or.inr ⟨rfl, ?_, ?_, complete⟩⟩
  · rw [PendingCall.routed_call_cltid]
    exact collecting.cltid
  · rw [collecting.cltid]
    rfl
  · change pc.putbuffer.cltid = pc.srcMwid
    rw [PendingCall.putbuffer_cltid]
    exact collecting.cltid

theorem Collecting.issued (collecting : Collecting pc) : pc.issued = none := by
  rw [PendingCall.issued, collecting.status]
  rfl

variable {call : OpenCall}

/-- The ledger entry of a call that gets more data. -/
theorem Collecting.view_received (collecting : Collecting pc) (view : pc.view = some call)
    (domain : Domain) (issued : UInt32) (data : List Byte) :
    (if (pc.received domain data).datarecv = (pc.received domain data).datalen
      then ((pc.received domain data).routed domain issued).view else (pc.received domain data).view) =
      some (call.receive issued data) := by
  rcases collecting.conn with ⟨conn, hasConn, -⟩
  rw [PendingCall.view, hasConn] at view
  cases view
  rw [OpenCall.receive]
  by_cases complete : (pc.received domain data).datarecv = (pc.received domain data).datalen
  · have total : (((pc.data ++ data).length : Nat) : Int) =
        if pc.datalen < 0 then (data.length : Int) else pc.datalen := complete
    rw [if_pos complete]
    simp only [if_pos total, PendingCall.view, PendingCall.routed, PendingCall.received, hasConn]
    rfl
  · have total : ¬ (((pc.data ++ data).length : Nat) : Int) =
        if pc.datalen < 0 then (data.length : Int) else pc.datalen := complete
    rw [if_neg complete]
    simp only [if_neg total, PendingCall.view, PendingCall.received, PendingCall.issued, hasConn,
      collecting.status]
    rfl

variable {data : List Byte}

theorem Collecting.receive_ipchdl (collecting : Collecting pc) (view : pc.view = some call)
    (domain : Domain) (issued : UInt32)
    (complete : (pc.received domain data).datarecv = (pc.received domain data).datalen) :
    (call.receive issued data).ipchdl = some issued := by
  rcases collecting.conn with ⟨conn, hasConn, -⟩
  rw [PendingCall.view, hasConn] at view
  cases view
  exact if_pos complete

variable {cmsg : Call}

section Steps

variable {domain : Domain} {store store' : CallStore} {ledger : Ledger}
  (represents : Represents store ledger)
include represents

theorem Represents.known (pending : store.Pending adr) :
    ∃ call, ledger (store.pc adr).srcMwid (store.pc adr).srchdl = some call ∧
      call.ipchdl = (store.pc adr).issued ∧ (store.pc adr).view = some call := by
  rcases pending with ⟨bucket, inBucket⟩
  rcases (represents.calls adr bucket inBucket).conn with ⟨conn, hasConn, -⟩
  have view : (store.pc adr).view = some ⟨conn, (store.pc adr).callmsg, (store.pc adr).datalen,
      (store.pc adr).data, (store.pc adr).issued⟩ := by
    rw [PendingCall.view, hasConn]
    rfl
  exact ⟨_, (represents.entry _ _ _).mpr ⟨adr, ⟨bucket, inBucket⟩, rfl, rfl, view⟩, rfl, view⟩

/-- What `check_if_complete` leaves behind a request or data of a client, when the
handles stay apart. -/
theorem Represents.checked {adr : Nat} {pc : PendingCall}
    (checked : Checked domain store store' adr pc (mkhash pc.srcMwid pc.srchdl))
    (collecting : Collecting pc)
    (sameKey : store.Pending adr →
      (store.pc adr).srcMwid = pc.srcMwid ∧ (store.pc adr).srchdl = pc.srchdl)
    (others : ∀ other, store.Pending other → other ≠ adr →
      (store.pc other).srcMwid = pc.srcMwid →
      (store.pc other).srchdl ≠ pc.srchdl ∧ (store.pc other).issued ≠ some pc.srchdl)
    (next : pc.datarecv = pc.datalen → ∀ other, store.Pending other → other ≠ adr →
      (store.pc other).srcMwid = pc.srcMwid →
      (store.pc other).srchdl ≠ store.nextIpchdl domain ∧
        (store.pc other).issued ≠ some (store.nextIpchdl domain)) :
    Represents store' (ledger.set pc.srcMwid pc.srchdl
      (if pc.datarecv = pc.datalen then (pc.routed domain (store.nextIpchdl domain)).view
        else pc.view)) := by
  by_cases complete : pc.datarecv = pc.datalen
  · rw [if_pos complete]
    rcases checked.complete complete with ⟨placed, -, sent⟩
    apply represents.place placed (collecting.routed domain _ complete) sameKey
    · intro other pending different
      constructor
      · intro sameClient
        refine ⟨(others other pending different sameClient.symm).1.symm, ?_⟩
        intro handle isNext
        cases isNext
        exact next complete other pending different sameClient.symm
      · intro sameClient
        refine ⟨(others other pending different sameClient).1, ?_⟩
        intro handle isIssued
        constructor
        · rintro rfl
          exact (others other pending different sameClient).2 isIssued
        · intro isNext
          cases isNext
          exact (next complete other pending different sameClient).2 isIssued
    · rw [sent]
      intro message member
      rcases List.mem_append.mp member with before | new
      · exact represents.sent message before
      · simp_all [PendingCall.routed_call_cltid, collecting.cltid, collecting.client]
  · rw [if_neg complete]
    rcases checked.waiting complete with ⟨placed, -, sent⟩
    apply represents.place placed collecting.callOk sameKey
    · intro other pending different
      constructor
      · intro sameClient
        refine ⟨(others other pending different sameClient.symm).1.symm, ?_⟩
        simp [collecting.issued]
      · intro sameClient
        refine ⟨(others other pending different sameClient).1, ?_⟩
        intro handle isIssued
        constructor
        · grind
        · simp [collecting.issued]
    · simp_all [represents.sent]

/-- A request opens a call. -/
theorem Represents.svccall {conn : Connection} {nethandle : UInt32}
    (attached : connGetinfo conn ≠ unassigned)
    (unused : ledger (connGetinfo conn) nethandle = none) (map : Urlmap) (datatotal : Int)
    (service : List Byte) (instanceName domainname : Option (List Byte)) (flags : UInt32)
    (apart : HandlesApart domain ⟨store, ledger⟩
      (.svccall conn nethandle map datatotal service instanceName domainname flags)) :
    Represents
      (store.storeSRBCall domain (connGetinfo conn) nethandle map conn datatotal service
        instanceName domainname flags)
      (ledger.svccall (connGetinfo conn) nethandle conn map datatotal
        (store.nextIpchdl domain)) := by
  rcases storeSRBCall_checked represents.ok domain (connGetinfo conn) nethandle map conn datatotal
    service instanceName domainname flags with ⟨adr, fresh, checked⟩
  have collecting : Collecting (openedCall domain (connGetinfo conn) nethandle map conn datatotal
      service instanceName domainname flags) :=
    ⟨⟨connGetinfo_ne_zero conn, attached⟩, rfl, ⟨conn, rfl, connGetinfo_or attached⟩,
      ⟨Or.inl rfl, Int.le_refl 0⟩, rfl, rfl⟩
  have result := represents.checked checked collecting (fun pending => absurd pending fresh)
    (by
      intro other pending _ sameClient
      rcases represents.known pending with ⟨call, entry, issued, -⟩
      rw [sameClient] at entry
      constructor
      · intro sameHandle
        rw [sameHandle] at entry
        exact absurd (unused.symm.trans entry) (by simp)
      · intro isIssued
        exact apart.1 _ call ⟨entry, issued.trans isIssued⟩)
    (by
      intro complete other pending _ sameClient
      rcases represents.known pending with ⟨call, entry, issued, -⟩
      rw [sameClient] at entry
      rcases apart.2 (openedCall_complete.mp complete) _ call entry with ⟨notIssued, notHandle⟩
      refine ⟨?_, issued ▸ notIssued⟩
      intro sameHandle
      rw [notHandle sameHandle] at entry
      exact absurd (unused.symm.trans entry) (by simp))
  simp only [openedCall_complete] at result
  rw [Ledger.svccall]
  by_cases complete : datatotal = 0
  · rw [if_pos complete] at result ⊢
    exact result
  · rw [if_neg complete] at result ⊢
    exact result

/-- The call of a ledger entry that still collects data is found under the handle
of its client. -/
theorem Represents.lookup_collecting (client : mwid ≠ 0) (entry : ledger mwid handle = some call)
    (collects : call.ipchdl = none) :
    ∃ adr, store.lookupPendingCall mwid handle = some adr ∧
      adr ∈ store.hash (mkhash mwid handle) ∧ Collecting (store.pc adr) ∧
      (store.pc adr).srcMwid = mwid ∧ (store.pc adr).srchdl = handle ∧
      (store.pc adr).view = some call := by
  rcases (represents.entry _ _ _).mp entry with ⟨adr, ⟨bucket, inBucket⟩, rfl, rfl, view⟩
  have callOk := represents.calls adr bucket inBucket
  have notIssued : (store.pc adr).issued = none := by
    rcases represents.known ⟨bucket, inBucket⟩ with ⟨known, -, issued, knownView⟩
    simp_all
  rcases callOk.phase with ⟨status, place, destination⟩ | ⟨status, -⟩
  · subst place
    refine ⟨adr, ?_, inBucket,
      ⟨callOk.client, callOk.cltid, callOk.conn, callOk.buffer, status, destination⟩, rfl, rfl,
      view⟩
    exact represents.lookup_eq client inBucket ((callOk.hasTuple client).mpr ⟨rfl, Or.inl rfl⟩)
  · simp_all [PendingCall.issued]

/-- A call that was issued a handle is found under that handle. -/
theorem Represents.lookup_issued {ipchdl : UInt32} (client : mwid ≠ 0)
    (issued : ledger.Issued mwid ipchdl handle call) :
    ∃ adr, store.lookupPendingCall mwid ipchdl = some adr ∧ store.Pending adr ∧
      (store.pc adr).srcMwid = mwid ∧ (store.pc adr).srchdl = handle ∧
      (store.pc adr).view = some call ∧ (store.pc adr).issued = some ipchdl := by
  rcases issued with ⟨entry, isIssued⟩
  rcases (represents.entry _ _ _).mp entry with ⟨adr, ⟨bucket, inBucket⟩, rfl, rfl, view⟩
  have callOk := represents.calls adr bucket inBucket
  have pcIssued : (store.pc adr).issued = some ipchdl := by
    rcases represents.known ⟨bucket, inBucket⟩ with ⟨known, -, knownIssued, knownView⟩
    simp_all
  rcases callOk.phase with ⟨status, -⟩ | ⟨status, place, -⟩
  · simp [PendingCall.issued, status] at pcIssued
  · have handleIs : (store.pc adr).dsthdl = ipchdl := by
      rw [PendingCall.issued, if_pos status] at pcIssued
      exact Option.some.inj pcIssued
    rw [handleIs] at place
    subst place
    refine ⟨adr, ?_, ⟨_, inBucket⟩, rfl, rfl, view, pcIssued⟩
    exact represents.lookup_eq client inBucket
      ((callOk.hasTuple client).mpr ⟨rfl, Or.inr pcIssued⟩)

/-- Data for a call that collects its data goes to that call. -/
theorem Represents.svcdata_collecting (entry : ledger (connGetinfo conn) nethandle = some call)
    (collects : call.ipchdl = none)
    (apart : HandlesApart domain ⟨store, ledger⟩ (.svcdata conn nethandle data))
    (result : store.storeSRBData domain (connGetinfo conn) nethandle data = .ok store') :
    Represents store' (ledger.set (connGetinfo conn) nethandle
      (some (call.receive (store.nextIpchdl domain) data))) := by
  have client := connGetinfo_ne_zero conn
  rcases represents.lookup_collecting client entry collects with
    ⟨adr, found, inBucket, collecting, isClient, isHandle, view⟩
  have checked :=
    storeSRBData_checked represents.ok domain found inBucket collecting.status result
  have receivedView := collecting.view_received view domain (store.nextIpchdl domain) data
  have pending : store.Pending adr := ⟨_, inBucket⟩
  rw [← isClient, ← isHandle] at checked ⊢
  rw [← receivedView]
  apply represents.checked checked
    ⟨collecting.client, collecting.cltid, collecting.conn,
      collecting.buffer.received (storeSRBData_ok domain found result).2, collecting.status,
      collecting.destination⟩ (fun _ => ⟨rfl, rfl⟩)
  · intro other otherPending different sameClient
    have handles := represents.apart other adr otherPending pending different sameClient
    refine ⟨handles.1, ?_⟩
    intro isIssued
    exact (handles.2 _ isIssued).1 rfl
  · intro complete other otherPending different sameClient
    have issues : (call.receive (store.nextIpchdl domain) data).ipchdl ≠ none := by
      rw [collecting.receive_ipchdl view domain _ complete]
      exact Option.some_ne_none _
    rcases represents.known otherPending with ⟨otherCall, otherEntry, otherIssued, -⟩
    rw [show (store.pc other).srcMwid = connGetinfo conn from sameClient.trans isClient]
      at otherEntry
    rcases apart call entry collects issues _ otherCall otherEntry with ⟨notIssued, notHandle⟩
    refine ⟨?_, otherIssued ▸ notIssued⟩
    intro sameHandle
    exact (represents.apart other adr otherPending pending different sameClient).1
      ((notHandle sameHandle).trans isHandle.symm)

/-- Data without a collecting call under its handle changes nothing. -/
theorem Represents.svcdata_ignored
    (noneCollects : ∀ call, ledger (connGetinfo conn) nethandle = some call → call.ipchdl ≠ none)
    (result : store.storeSRBData domain (connGetinfo conn) nethandle data = .ok store') :
    store' = store := by
  cases found : store.lookupPendingCall (connGetinfo conn) nethandle with
  | none =>
      rw [CallStore.storeSRBData, found] at result
      exact (Except.ok.inj result).symm
  | some adr =>
      have inBucket := List.mem_of_find?_eq_some found
      have matched := List.find?_some found
      have callOk := represents.calls adr _ inBucket
      rcases callOk.phase with ⟨status, -⟩ | ⟨status, -, -, complete⟩
      · have notIssued : (store.pc adr).issued = none := by
          rw [PendingCall.issued, status]
          rfl
        rcases represents.known ⟨_, inBucket⟩ with ⟨call, entry, issued, -⟩
        rcases (callOk.hasTuple (connGetinfo_ne_zero conn)).mp matched with
          ⟨isClient, isHandle | isIssued⟩
        · simp_all
        · simp [notIssued] at isIssued
      · exact storeSRBData_complete domain found status complete callOk.buffer.data result

/-- Data changes the store as it changes the ledger. -/
theorem Represents.svcdata
    (apart : HandlesApart domain ⟨store, ledger⟩ (.svcdata conn nethandle data))
    (result : store.storeSRBData domain (connGetinfo conn) nethandle data = .ok store') :
    Represents store' (ledger.svcdata (connGetinfo conn) nethandle data
      (store.nextIpchdl domain)) := by
  rw [Ledger.svcdata]
  cases entry : ledger (connGetinfo conn) nethandle with
  | none =>
      rw [represents.svcdata_ignored (fun call found => absurd (entry.symm.trans found) (by simp))
        result]
      exact represents
  | some call =>
      by_cases collects : call.ipchdl = none
      · simp_all [represents.svcdata_collecting]
      · simp only [if_neg collects]
        rw [represents.svcdata_ignored _ result]
        · exact represents
        · simp [entry, collects]

/-- The reply under an issued handle answers the call that was issued it. -/
theorem Represents.ipcReply_issued (client : cmsg.callerMwid ≠ 0)
    (issued : ledger.Issued cmsg.callerMwid cmsg.handle handle call) :
    ∃ store', store.storeIPCReply cmsg = .ok (some (call.conn, call.map), store') ∧
      Represents store' (if cmsg.returncode = mwMore then ledger
        else ledger.set cmsg.callerMwid handle none) := by
  rcases represents.lookup_issued client issued with
    ⟨adr, found, pending, isClient, isHandle, view, -⟩
  have inPlace := pending
  rcases inPlace with ⟨bucket, inBucket⟩
  rcases (represents.calls adr bucket inBucket).conn with ⟨conn, hasConn, ids⟩
  rw [PendingCall.view, hasConn] at view
  cases view
  rw [isClient] at ids
  have accepted : ¬ (conn.cid ≠ cmsg.callerMwid ∧ conn.gwid ≠ cmsg.callerMwid) := by
    simp_all [ids.elim]
  rw [CallStore.storeIPCReply]
  simp only [found, hasConn, if_neg accepted]
  by_cases more : cmsg.returncode = mwMore
  · simp_all
  · rw [if_neg more, if_neg more]
    refine ⟨store.freePendingCall adr, rfl, ?_⟩
    rw [← isClient, ← isHandle]
    have below := represents.ok.alloced adr (Or.inl pending)
    exact represents.remove (freePendingCall_removed represents.ok below) pending rfl

/-- One open call at most was issued a handle. -/
theorem Represents.answer_issued {ipchdl : UInt32}
    (issued : ledger.Issued mwid ipchdl handle call) :
    ledger.answer mwid ipchdl = ledger.set mwid handle none := by
  have owner : ∀ place found, ledger mwid place = some found → found.ipchdl = some ipchdl →
      ∃ adr, store.Pending adr ∧ (store.pc adr).srcMwid = mwid ∧
        (store.pc adr).srchdl = place ∧ (store.pc adr).issued = some ipchdl := by
    intro place found entry isIssued
    rcases (represents.entry _ _ _).mp entry with ⟨adr, pending, isClient, isHandle, view⟩
    rcases represents.known pending with ⟨known, -, knownIssued, knownView⟩
    rw [view] at knownView
    cases knownView
    exact ⟨adr, pending, isClient, isHandle, knownIssued ▸ isIssued⟩
  funext client place
  rw [Ledger.answer, Ledger.set]
  by_cases here : client = mwid ∧ place = handle
  · rw [if_pos here, if_pos]
    rcases here with ⟨rfl, rfl⟩
    exact ⟨rfl, by rw [issued.1]; exact issued.2⟩
  · rw [if_neg here, if_neg]
    rintro ⟨rfl, alsoIssued⟩
    rcases Option.bind_eq_some_iff.mp alsoIssued with ⟨found, entry, isIssued⟩
    rcases owner place found entry isIssued with ⟨adr, pending, isClient, isPlace, pcIssued⟩
    rcases owner handle call issued.1 issued.2 with
      ⟨other, otherPending, otherClient, isHandle, otherIssued⟩
    by_cases same : adr = other
    · simp_all
    · exact (((represents.apart adr other pending otherPending same)
        (isClient.trans otherClient.symm)).2 ipchdl pcIssued).2 otherIssued

/-- A reply under a handle that no open call of the client has anything to do with
finds nothing. -/
theorem Represents.ipcReply_unknown (client : cmsg.callerMwid ≠ 0)
    (unused : ledger cmsg.callerMwid cmsg.handle = none)
    (notIssued : ¬ ∃ handle call, ledger.Issued cmsg.callerMwid cmsg.handle handle call) :
    store.storeIPCReply cmsg = .ok (none, store) ∧
      ledger.answer cmsg.callerMwid cmsg.handle = ledger := by
  constructor
  · have noMatch : store.lookupPendingCall cmsg.callerMwid cmsg.handle = none := by
      cases found : store.lookupPendingCall cmsg.callerMwid cmsg.handle with
      | none => rfl
      | some adr =>
          have inBucket := List.mem_of_find?_eq_some found
          have matched := List.find?_some found
          rcases represents.known ⟨_, inBucket⟩ with ⟨call, entry, issued, -⟩
          rcases ((represents.calls adr _ inBucket).hasTuple client).mp matched with
            ⟨isClient, isHandle | isIssued⟩
          · simp [isClient, isHandle, unused] at entry
          · rw [isClient] at entry
            exact absurd ⟨_, call, entry, issued.trans isIssued⟩ notIssued
    rw [CallStore.storeIPCReply]
    simp only [noMatch]
  · funext place handle
    rw [Ledger.answer, if_neg]
    rintro ⟨rfl, isIssued⟩
    rcases Option.bind_eq_some_iff.mp isIssued with ⟨call, entry, callIssued⟩
    exact notIssued ⟨handle, call, entry, callIssued⟩

/-- The bytes go to the call the client opened under the handle, while that
collects its data, and to no other call. -/
theorem Represents.storeSRBData_appends
    (result : store.storeSRBData domain (connGetinfo conn) nethandle data = .ok store')
    (pending : store.Pending adr) :
    (store'.pc adr).data = if (store.pc adr).srcMwid = connGetinfo conn ∧
      (store.pc adr).srchdl = nethandle ∧ (store.pc adr).issued = none
      then (store.pc adr).data ++ data else (store.pc adr).data := by
  have client := connGetinfo_ne_zero conn
  by_cases target : ∃ call, ledger (connGetinfo conn) nethandle = some call ∧ call.ipchdl = none
  · rcases target with ⟨call, entry, collects⟩
    rcases represents.lookup_collecting client entry collects with
      ⟨found, isFound, inBucket, collecting, isClient, isHandle, -⟩
    have appended :=
      (storeSRBData_checked represents.ok domain isFound inBucket collecting.status result).data
    by_cases same : adr = found
    · subst same
      rw [if_pos ⟨isClient, isHandle, collecting.issued⟩]
      exact appended.1
    · have otherKey : ¬ ((store.pc adr).srcMwid = connGetinfo conn ∧
          (store.pc adr).srchdl = nethandle ∧ (store.pc adr).issued = none) := by
        rintro ⟨sameClient, sameHandle, -⟩
        exact (represents.apart adr found pending ⟨_, inBucket⟩ same
          (sameClient.trans isClient.symm)).1 (sameHandle.trans isHandle.symm)
      rw [if_neg otherKey, appended.2 adr same]
  · have noneCollects : ∀ call, ledger (connGetinfo conn) nethandle = some call →
        call.ipchdl ≠ none := fun call entry collects => target ⟨call, entry, collects⟩
    rw [represents.svcdata_ignored noneCollects result, if_neg]
    rintro ⟨isClient, isHandle, notIssued⟩
    rcases represents.known pending with ⟨call, entry, issued, -⟩
    simp_all

end Steps

theorem represents_empty : Represents emptyStore fun _ _ => none := by
  refine ⟨emptyStore_ok, ?_, ?_, ?_, ?_⟩
  · intro adr bucket member
    exact absurd ⟨bucket, member⟩ (emptyStore_not_pending adr)
  · simp [emptyStore_not_pending]
  · simp [emptyStore_not_pending]
  · intro message member
    exact absurd member List.not_mem_nil

theorem Represents.caller {state : StoreState} (represents : Represents state.store state.ledger)
    (enabled : state.enabled (.ipcReply cmsg)) : cmsg.callerMwid ≠ 0 := by
  rcases enabled with ⟨message, member, sameClient, -⟩
  rcases represents.sent message member with ⟨notZero, attached⟩
  simp_all [Call.callerMwid]

theorem storeMachine_preserves (domain : Domain) :
    (storeMachine domain).Preserves (HandlesApart domain)
      fun state => Represents state.store state.ledger := by
  intro state action next represents enabled apart stepped
  change StoreState.step domain state action = .ok next at stepped
  cases action with
  | svccall conn nethandle map datatotal service instanceName domainname flags =>
      cases stepped
      exact represents.svccall enabled.1 enabled.2 map datatotal service instanceName domainname
        flags apart
  | svcdata conn nethandle data =>
      rw [StoreState.step] at stepped
      cases result : state.store.storeSRBData domain (connGetinfo conn) nethandle data with
      | error failure =>
          simp [result] at stepped
      | ok store =>
          simp only [result] at stepped
          cases stepped
          exact represents.svcdata apart result
  | ipcReply cmsg =>
      have client := represents.caller enabled
      rw [StoreState.step] at stepped
      by_cases issued : ∃ handle call, state.ledger.Issued cmsg.callerMwid cmsg.handle handle call
      · rcases issued with ⟨handle, call, issued⟩
        rcases represents.ipcReply_issued client issued with ⟨store, result, after⟩
        simp only [result] at stepped
        cases stepped
        rw [← represents.answer_issued issued] at after
        exact after
      · rcases represents.ipcReply_unknown client (apart.resolve_left issued) issued with
          ⟨result, same⟩
        grind

/-- What the store is for, in one state: replies and data go to the right call. -/
structure RoutesRight (domain : Domain) (state : StoreState) : Prop where
  reply : ∀ cmsg handle call, state.enabled (.ipcReply cmsg) →
    state.ledger.Issued cmsg.callerMwid cmsg.handle handle call →
    ∃ store, state.store.storeIPCReply cmsg = .ok (some (call.conn, call.map), store)
  accepts : ∀ conn nethandle data call, state.ledger (connGetinfo conn) nethandle = some call →
    call.ipchdl = none → call.received.length + data.length ≤ call.total →
    domain.mwalloc call.total = true →
    ∃ store, state.store.storeSRBData domain (connGetinfo conn) nethandle data = .ok store
  data : ∀ conn nethandle data store,
    state.store.storeSRBData domain (connGetinfo conn) nethandle data = .ok store →
    ∀ adr, state.store.Pending adr → (store.pc adr).data =
      if (state.store.pc adr).srcMwid = connGetinfo conn ∧
        (state.store.pc adr).srchdl = nethandle ∧ (state.store.pc adr).issued = none
      then (state.store.pc adr).data ++ data else (state.store.pc adr).data
  known : ∀ mwid handle call, state.ledger mwid handle = some call ↔
    ∃ adr, state.store.Pending adr ∧ (state.store.pc adr).srcMwid = mwid ∧
      (state.store.pc adr).srchdl = handle ∧ (state.store.pc adr).view = some call

theorem Represents.routesRight (domain : Domain) {state : StoreState}
    (represents : Represents state.store state.ledger) : RoutesRight domain state := by
  refine ⟨?_, ?_, ?_, represents.entry⟩
  · intro cmsg handle call enabled issued
    rcases represents.ipcReply_issued (represents.caller enabled) issued with ⟨store, result, -⟩
    exact ⟨store, result⟩
  · intro conn nethandle data call entry collects room hasBlock
    rcases represents.lookup_collecting (connGetinfo_ne_zero conn) entry collects with
      ⟨adr, found, inBucket, collecting, -, -, view⟩
    rcases collecting.conn with ⟨source, hasConn, -⟩
    rw [PendingCall.view, hasConn] at view
    cases view
    have nonneg : ¬ (state.store.pc adr).datalen < 0 := by
      grind
    have fits : (state.store.pc adr).Fits data := by
      rw [PendingCall.Fits, PendingCall.total, if_neg nonneg]
      exact room
    have granted : (state.store.pc adr).Granted domain data := by
      simp_all [PendingCall.total, if_neg, collecting.buffer.granted]
    rcases storeSRBData_collecting represents.ok domain found inBucket collecting.status fits
      granted with ⟨store, result, -⟩
    exact ⟨store, result⟩
  · intro conn nethandle data store result adr pending
    exact represents.storeSRBData_appends result pending

/-- In every run in which the handles of a client stay apart, replies and data go to
the right call. -/
theorem callStore_routes (domain : Domain) {state : StoreState}
    (reachable : (storeMachine domain).Reachable (HandlesApart domain) state) :
    RoutesRight domain state := by
  have represents : Represents state.store state.ledger := by
    apply reachable.holds _ (storeMachine_preserves domain)
    rintro start ⟨isEmpty, noCalls⟩
    rw [isEmpty, noCalls]
    exact represents_empty
  exact represents.routesRight domain

def exampleDomain : Domain :=
  ⟨0x04000001, fun _ _ => 0x08000001, fun _ => 0x01000001, 41, fun _ => true⟩

def exampleConn : Connection := ⟨5, 0x02000001, unassigned, true, true⟩

def exampleStart : StoreState := ⟨emptyStore, fun _ _ => none⟩

def exampleCall (state : StoreState) (nethandle : UInt32) (name : Byte) (datatotal : Int) :
    StoreState :=
  ⟨state.store.storeSRBCall exampleDomain (connGetinfo exampleConn) nethandle [⟨[name], none⟩]
      exampleConn datatotal [115] none none 0,
    state.ledger.svccall (connGetinfo exampleConn) nethandle exampleConn [⟨[name], none⟩] datatotal
      (state.store.nextIpchdl exampleDomain)⟩

def exampleReply : Call :=
  ⟨.svcreply, 42, connGetinfo exampleConn, 0x04000001, 0x01000001, 0x08000001, [115], [], 0, 0,
    [], [], mwSuccess⟩

/-- The first call is issued handle 42, and the reply under 42 answers it. -/
theorem callStore_routes_first_reply :
    (storeMachine exampleDomain).Reachable (HandlesApart exampleDomain)
      (exampleCall exampleStart 7 65 0) ∧
    (exampleCall exampleStart 7 65 0).ledger.Issued (connGetinfo exampleConn) 42 7
      ⟨exampleConn, [⟨[65], none⟩], 0, [], some 42⟩ ∧
    RoutesRight exampleDomain (exampleCall exampleStart 7 65 0) := by
  have started : (storeMachine exampleDomain).Reachable (HandlesApart exampleDomain)
      exampleStart := .start ⟨rfl, rfl⟩
  have apart : HandlesApart exampleDomain exampleStart
      (.svccall exampleConn 7 [⟨[65], none⟩] 0 [115] none none 0) := by
    refine ⟨?_, ?_⟩
    · rintro other call ⟨entry, -⟩
      cases entry
    · intro _ other call entry
      cases entry
  have called : (storeMachine exampleDomain).Reachable (HandlesApart exampleDomain)
      (exampleCall exampleStart 7 65 0) :=
    started.step (show (storeMachine exampleDomain).enabled exampleStart
      (.svccall exampleConn 7 [⟨[65], none⟩] 0 [115] none none 0) from ⟨by decide, rfl⟩) apart rfl
  exact ⟨called, ⟨by decide, rfl⟩, callStore_routes exampleDomain called⟩

/-- The client opens its next call under 42, the handle its first call was issued.
The reply to the first call is then taken for one to the second. -/
theorem callStore_routes_crossed_handles :
    ∃ state, (storeMachine exampleDomain).Reachable (fun _ _ => True) state ∧
      state.enabled (.ipcReply exampleReply) ∧
      state.ledger.Issued exampleReply.callerMwid exampleReply.handle 7
        ⟨exampleConn, [⟨[65], none⟩], 0, [], some 42⟩ ∧
      (state.store.storeIPCReply exampleReply).map Prod.fst =
        .ok (some (exampleConn, [⟨[66], none⟩])) := by
  have started : (storeMachine exampleDomain).Reachable (fun _ _ => True) exampleStart :=
    .start ⟨rfl, rfl⟩
  have first : (storeMachine exampleDomain).Reachable (fun _ _ => True)
      (exampleCall exampleStart 7 65 0) :=
    started.step (show (storeMachine exampleDomain).enabled exampleStart
      (.svccall exampleConn 7 [⟨[65], none⟩] 0 [115] none none 0) from ⟨by decide, rfl⟩)
      trivial rfl
  have second : (storeMachine exampleDomain).Reachable (fun _ _ => True)
      (exampleCall (exampleCall exampleStart 7 65 0) 42 66 10) :=
    first.step (show (storeMachine exampleDomain).enabled (exampleCall exampleStart 7 65 0)
      (.svccall exampleConn 42 [⟨[66], none⟩] 10 [115] none none 0) from ⟨by decide, by decide⟩)
      trivial rfl
  refine ⟨_, second, ⟨_, List.mem_cons_self, rfl, by decide⟩, ⟨by decide, rfl⟩, by decide⟩

end MidWay.Gateway

import MidWay.Srb.ServiceCall

/-!
Contract: the pending calls of a gateway, as `callstore.c` keeps them.

A `PendingCall` is named by its address. The elements of a hash bucket and of the
free list are the addresses in the order of the links. Ids and handles are the 32
bits of the source's types. The data of a call is the list of the bytes received so
far, so `datarecv` is its length.

Owns: the lookup, the public operations, and `check_if_complete` with what it
sends. An assertion that fails, a null or uninitialised pointer that is followed,
and a copy beyond a buffer end the gateway and have no result.
-/

namespace MidWay.Gateway

open MidWay.CLib MidWay.Url MidWay.Srb

def unassigned : UInt32 := 0xFFFFFFFF

def mwClientMask : UInt32 := 0x02000000
def mwGatewayMask : UInt32 := 0x04000000

def mwNoreply : UInt32 := 1

def mwFail : Int := 0
def mwSuccess : Int := 1
def mwMore : Int := 2

def mwMaxNameLen : Nat := 65

def cltid (id : UInt32) : UInt32 := if id &&& mwClientMask ≠ 0 then id else unassigned

def gwid (id : UInt32) : UInt32 := if id &&& mwGatewayMask ≠ 0 then id else unassigned

/-- A network connection, with the id of the client or of the gateway at its other
end, whether it is in state `CONNECT_STATE_UP`, and whether the peer wants
rejects. -/
structure Connection where
  fd : Nat
  cid : UInt32
  gwid : UInt32
  up : Bool
  rejects : Bool
deriving DecidableEq, Repr

/-- The id `conn_getinfo` reports. -/
def connGetinfo (conn : Connection) : UInt32 :=
  if cltid conn.cid ≠ unassigned then conn.cid
  else if gwid conn.gwid ≠ unassigned then conn.gwid
  else unassigned

inductive Mtype where
  | svccall
  | svcreply
deriving DecidableEq, Repr

/-- The IPC message, with the bytes of its buffer. -/
structure Call where
  mtype : Mtype
  handle : UInt32
  cltid : UInt32
  gwid : UInt32
  srvid : UInt32
  svcid : UInt32
  service : List Byte
  data : List Byte
  appreturncode : Int
  flags : UInt32
  instanceName : List Byte
  domainname : List Byte
  returncode : Int
deriving DecidableEq, Repr

def Call.callerMwid (cmsg : Call) : UInt32 :=
  if cmsg.cltid ≠ unassigned then cmsg.cltid else cmsg.gwid

inductive CallStatus where
  | free
  | calldatapending
  | replypending
  | replydatapending
deriving DecidableEq, Repr

/-- `bufsize` is the size of the buffer at `data`, 0 when that is a null pointer. -/
structure PendingCall where
  srcMwid : UInt32
  srcconn : Option Connection
  call : Call
  callmsg : Urlmap
  dstMwid : UInt32
  dstconn : Option Connection
  status : CallStatus
  data : List Byte
  bufsize : Int
  datalen : Int
  srchdl : UInt32
  dsthdl : UInt32
deriving DecidableEq, Repr

/-- The struct after `memset`. -/
def clearPendingCall : PendingCall where
  srcMwid := 0
  srcconn := none
  call := ⟨.svccall, 0, 0, 0, 0, 0, [], [], 0, 0, [], [], 0⟩
  callmsg := []
  dstMwid := 0
  dstconn := none
  status := .free
  data := []
  bufsize := 0
  datalen := 0
  srchdl := 0
  dsthdl := 0

def PendingCall.datarecv (pc : PendingCall) : Int := pc.data.length

/-- The store, the counter of `_mw_nexthandle` (-1 before its first use) and the
messages put on IPC queues, with their destination. -/
structure CallStore where
  pc : Nat → PendingCall
  hash : UInt8 → List Nat
  freelist : List Nat
  alloced : Nat
  handle : Int
  sent : List (UInt32 × Call)

/-- The store of a gateway that has just started. -/
def emptyStore : CallStore where
  pc := fun _ => clearPendingCall
  hash := fun _ => []
  freelist := []
  alloced := 0
  handle := -1
  sent := []

inductive StoreFailure where
  | assertion
  | nullPointer
  | wildPointer
  | bufferOverrun
  | endlessLoop
deriving DecidableEq, Repr

/-- What the store asks of the rest of the gateway: its own id, the service table,
the random number the handles start from, and whether shared memory has a block of
a size. -/
structure Domain where
  myGatewayid : UInt32
  bestService : List Byte → UInt32 → UInt32
  providerByServiceid : UInt32 → UInt32
  irand : Nat
  mwalloc : Int → Bool

def mkhash (mwid handle : UInt32) : UInt8 :=
  let a := handle.toUInt8
  let b := (handle >>> 8).toUInt8
  let c := (handle >>> 16).toUInt8
  let d := (handle >>> 24).toUInt8
  ((a ^^^ b) ^^^ (c ^^^ d)) ^^^ (mwid <<< 5).toUInt8

def PendingCall.hasTuple (pc : PendingCall) (mwid hdl : UInt32) : Bool :=
  (pc.dstMwid == mwid && pc.dsthdl == hdl) || (pc.srcMwid == mwid && pc.srchdl == hdl)

def CallStore.lookupPendingCall (store : CallStore) (mwid hdl : UInt32) : Option Nat :=
  (store.hash (mkhash mwid hdl)).find? fun adr => (store.pc adr).hasTuple mwid hdl

def CallStore.setPc (store : CallStore) (adr : Nat) (pc : PendingCall) : CallStore :=
  { store with pc := fun other => if other = adr then pc else store.pc other }

def CallStore.linkPendingCall (store : CallStore) (adr : Nat) (bucket : UInt8) : CallStore :=
  { store with
    hash := fun other => if other = bucket then adr :: store.hash other else store.hash other }

def CallStore.unlinkPendingCall (store : CallStore) (adr : Nat) : CallStore :=
  { store with
    hash := fun bucket => (store.hash bucket).erase adr
    freelist := store.freelist.erase adr }

def CallStore.rehashPendingCall (store : CallStore) (adr : Nat) (mwid hdl : UInt32) : CallStore :=
  (store.unlinkPendingCall adr).linkPendingCall adr (mkhash mwid hdl)

def CallStore.takeStruct (store : CallStore) : Nat × CallStore :=
  match store.freelist with
  | [] =>
      (store.alloced,
        { store with alloced := store.alloced + 1 }.setPc store.alloced clearPendingCall)
  | adr :: _ => (adr, store.unlinkPendingCall adr)

def CallStore.newPendingCall (store : CallStore) (srcid srchdl : UInt32) : Nat × CallStore :=
  let (adr, store) := store.takeStruct
  let store := store.setPc adr { store.pc adr with srcMwid := srcid, srchdl := srchdl }
  (adr, store.linkPendingCall adr (mkhash srcid srchdl))

def CallStore.freePendingCall (store : CallStore) (adr : Nat) : CallStore :=
  let store := (store.unlinkPendingCall adr).setPc adr clearPendingCall
  { store with freelist := adr :: store.freelist }

def intMax : Int := 2147483647

/-- The next handle. The increment wraps to a negative number. -/
def mwNexthandle (irand : Nat) (handle : Int) : Int :=
  let handle := if handle = -1 then (irand : Int) else handle
  if handle + 1 > intMax then 1 else handle + 1

def CallStore.ipcSendmessage (store : CallStore) (id : UInt32) (call : Call) : CallStore :=
  { store with sent := store.sent ++ [(id, call)] }

/-- `_mw_putbuffer_to_call`, when there is data. -/
def PendingCall.putbuffer (pc : PendingCall) : Call :=
  if pc.datalen > 0 then { pc.call with data := pc.data } else pc.call

section

variable (domain : Domain)

/-- All of the request is here: it gets a handle of its own, the call waits under
that handle, and the request goes to a provider of the service. -/
def CallStore.routeCall (store : CallStore) (adr : Nat) : CallStore :=
  let pc := store.pc adr
  let handle := mwNexthandle domain.irand store.handle
  let ipchdl := UInt32.ofInt handle
  let svcid := domain.bestService pc.call.service pc.call.flags
  let srvid := domain.providerByServiceid svcid
  let call := { pc.putbuffer with handle := ipchdl }
  let store := { store with handle := handle }.setPc adr
    { pc with
      call := { call with svcid := svcid }
      status := .replypending
      dstMwid := call.cltid
      dsthdl := ipchdl }
  let store := store.rehashPendingCall adr call.cltid ipchdl
  store.ipcSendmessage srvid { call with svcid := svcid }

/-- All of a reply is here: it goes to the caller. -/
def CallStore.routeReply (store : CallStore) (adr : Nat) : CallStore :=
  let pc := store.pc adr
  let call := { pc.putbuffer with mtype := .svcreply, srvid := domain.myGatewayid }
  let store := (store.setPc adr { pc with call := call }).ipcSendmessage pc.srcMwid call
  if call.returncode ≠ mwMore then store.freePendingCall adr
  else
    store.setPc adr
      { pc with call := call, status := .replypending, data := [], bufsize := 0, datalen := 0 }

def CallStore.checkIfComplete (store : CallStore) (adr : Nat) : CallStore :=
  let pc := store.pc adr
  match pc.status with
  | .calldatapending => if pc.datarecv ≠ pc.datalen then store else store.routeCall domain adr
  | .replydatapending => if pc.datarecv ≠ pc.datalen then store else store.routeReply domain adr
  | _ => store

def CallStore.storeSRBCall (store : CallStore) (mwid nethandle : UInt32) (map : Urlmap)
    (conn : Connection) (datatotal : Int) (service : List Byte)
    (instanceName domainname : Option (List Byte)) (flags : UInt32) : CallStore :=
  let (adr, store) := store.newPendingCall mwid nethandle
  let pc := store.pc adr
  let call := { pc.call with
    mtype := .svccall
    cltid := mwid
    srvid := unassigned
    gwid := domain.myGatewayid
    service := service.take mwMaxSvcName
    instanceName := (instanceName.getD pc.call.instanceName).take mwMaxNameLen
    domainname := (domainname.getD pc.call.domainname).take mwMaxNameLen
    flags := flags }
  let store := store.setPc adr
    { pc with
      srcconn := some conn
      status := .calldatapending
      callmsg := map
      datalen := datatotal
      call := call }
  store.checkIfComplete domain adr

/-- Data of an unknown call is ignored. A call without a buffer gets one for all of
its data; `_mwalloc` of nothing gives a null pointer. A copy to a null pointer goes
beyond the buffer too. -/
def CallStore.storeSRBData (store : CallStore) (mwid nethandle : UInt32) (data : List Byte) :
    Except StoreFailure CallStore :=
  match store.lookupPendingCall mwid nethandle with
  | none => .ok store
  | some adr =>
      let pc := store.pc adr
      let datalen := if pc.datalen < 0 then (data.length : Int) else pc.datalen
      let bufsize := if pc.bufsize = 0 ∧ domain.mwalloc datalen then datalen else pc.bufsize
      if datalen ≥ pc.datarecv + data.length then
        if data ≠ [] ∧ bufsize < pc.datarecv + data.length then .error .bufferOverrun
        else
          let store := store.setPc adr
            { pc with datalen := datalen, bufsize := bufsize, data := pc.data ++ data }
          .ok (store.checkIfComplete domain adr)
      else .error .assertion

/-- A reply to a call that was sent out. The count of data received is not reset. -/
def CallStore.storeSRBReply (store : CallStore) (mwid nethandle : UInt32)
    (rcode apprcode datatotal : Int) : Except StoreFailure CallStore :=
  match store.lookupPendingCall mwid nethandle with
  | none => .ok store
  | some adr =>
      let pc := store.pc adr
      if pc.status = .replypending then
        let store := store.setPc adr
          { pc with
            call := { pc.call with returncode := rcode, appreturncode := apprcode }
            status := .replydatapending
            datalen := datatotal }
        .ok (store.checkIfComplete domain adr)
      else .error .assertion

end

/-- The calls a client leaves behind are dropped. -/
def CallStore.storeSRBClearClient (store : CallStore) (mwid : UInt32) : CallStore :=
  let calls := (List.range 256).flatMap fun bucket => store.hash (UInt8.ofNat bucket)
  (calls.filter fun adr => (store.pc adr).srcMwid == mwid).foldl CallStore.freePendingCall store

/-- Why `_mw_getbuffer_from_call` refuses a reference to a buffer: there is no such
segment, there is no chunk in use at the offset, or the chunk is too small. -/
inductive BufferFault where
  | noSegment
  | badChunk
  | shortChunk
deriving DecidableEq, Repr

def BufferFault.rc : BufferFault → Int
  | .noSegment => -1
  | .badChunk => -Errno.EBADMSG.code
  | .shortChunk => -1

/-- What a call meets on its way out: what shared memory has to say about its buffer,
how many bytes of data a message takes, the time left, the bytes of the handle buffer,
and what the write of each message returns. -/
structure Outlet where
  fault : Call → Option BufferFault
  limit : Nat
  secstolive : Option Int
  uninit : List Byte
  written : Nat → Int

/-- The bytes of the call, none when it has no data. -/
def mwGetbufferFromCall (outlet : Outlet) (cmsg : Call) : Except Int (Option (List Byte)) :=
  if cmsg.data = [] then .ok none
  else
    match outlet.fault cmsg with
    | some fault => .error fault.rc
    | none => .ok (some cmsg.data)

def mwSrbsendmessage (written : Int) (srbmsg : SRBmessage) : Int :=
  match mwSrbencodemessage srbmsg (srbMessageMaxLen + 1) with
  | .error errno => -errno.code
  | .ok _ => written

/-- The results of the data messages are added up, also those of messages that could
not be sent. -/
def senddataResult (written : Nat → Int) : List SRBmessage → Int
  | [] => 0
  | srbmsg :: rest =>
      mwSrbsendmessage (written 0) srbmsg + senddataResult (fun turn => written (turn + 1)) rest

/-- What `_mw_srbsendcall` returns. The data is not sent when the first message could
not be. -/
def sendcallResult (written : Nat → Int) : List SRBmessage → Int
  | [] => 0
  | srbmsg :: rest =>
      let rc := mwSrbsendmessage (written 0) srbmsg
      if rc < 0 then rc
      else toInt32 (rc + senddataResult (fun turn => written (turn + 1)) rest)

/-- The messages of a call that goes out under this handle. -/
def Outlet.messages (outlet : Outlet) (handle : UInt32) (cmsg : Call)
    (data : Option (List Byte)) : List SRBmessage :=
  mwSrbsendcall outlet.limit outlet.secstolive outlet.uninit handle (cstr cmsg.service) data
    cmsg.flags

/-- A struct for a call of a local client, under the handle the peer will know it by. -/
def CallStore.openIPCCall (domain : Domain) (store : CallStore) (cmsg : Call)
    (conn : Connection) : Nat × UInt32 × CallStore :=
  let (adr, store) := store.newPendingCall cmsg.callerMwid cmsg.handle
  let handle := mwNexthandle domain.irand store.handle
  let dsthdl := UInt32.ofInt handle
  let store := { store with handle := handle }.setPc adr
    { store.pc adr with dstMwid := conn.gwid, dstconn := some conn, dsthdl := dsthdl }
  (adr, dsthdl, store.rehashPendingCall adr conn.gwid dsthdl)

/-- The result of `storeIPCCall`, the store, and whether `callmutex` is still locked. -/
structure IPCCalled where
  rc : Int
  store : CallStore
  locked : Bool

/-- A call that cannot be sent is taken out of the hash again, and the function
returns from where it is. -/
def CallStore.storeIPCCall (domain : Domain) (outlet : Outlet) (store : CallStore) (cmsg : Call)
    (conn : Connection) : IPCCalled :=
  let (adr, dsthdl, store) := store.openIPCCall domain cmsg conn
  match mwGetbufferFromCall outlet cmsg with
  | .error rc => ⟨rc, store.unlinkPendingCall adr, true⟩
  | .ok data =>
      let rc := sendcallResult outlet.written (outlet.messages dsthdl cmsg data)
      if rc < 0 then ⟨rc, store.unlinkPendingCall adr, true⟩
      else ⟨0, store.setPc adr { store.pc adr with call := cmsg, status := .replypending }, false⟩

/-- The connection and the map of the call a reply is for. The call stays when more
replies follow. -/
def CallStore.storeIPCReply (store : CallStore) (cmsg : Call) :
    Except StoreFailure (Option (Connection × Urlmap) × CallStore) :=
  let mwid := cmsg.callerMwid
  match store.lookupPendingCall mwid cmsg.handle with
  | none => .ok (none, store)
  | some adr =>
      let pc := store.pc adr
      match pc.srcconn with
      | none => .error .nullPointer
      | some conn =>
          if conn.cid ≠ mwid ∧ conn.gwid ≠ mwid then .ok (none, store)
          else if cmsg.returncode = mwMore then .ok (some (conn, pc.callmsg), store)
          else .ok (some (conn, pc.callmsg), store.freePendingCall adr)

end MidWay.Gateway

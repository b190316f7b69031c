import MidWay.CLib.Errno
import MidWay.CLib.Format
import MidWay.Srb.Message

/-!
Contract: how a server takes requests from its message queue and answers them,
as `mwserverapi.c` does it.

The queue is the list of the messages in it, each with what the process finds
while it handles that message: the clock, the tables and buffers in shared
memory, the block `malloc` gives, what the service function does and whether
messages go out. The queue exists and no signal interrupts a wait. What an
earlier message left in the receive buffer is never read: each request fills
`callmesg` again. A pointer into shared memory is its offset in its segment.

Owns: `_mwGetServiceRequest`, `mwreply`, `mwforward`, `_mwCallCServiceFunction`,
`mwservicerequest` and `mwMainLoop`.
-/

namespace MidWay.Server

open MidWay.CLib MidWay.Srb

def unassigned : Int := -1

def mwNoreply : UInt32 := 1

def mwSuccess : Int := 1
def mwMore : Int := 2

/-- `sizeof(long)`, the length of the type in front of each message. -/
def sizeofLong : Nat := 8
def sizeofCall : Nat := 296
def sizeofEvent : Nat := 256

/-- The longest of the messages is the `Call`. -/
def mwMsgMax : Nat := sizeofCall

/-- The `Call` message, without the type. -/
structure Call where
  handle : Int
  cltid : Int
  gwid : Int
  srvid : Int
  svcid : Int
  forwardcount : Int
  service : List Byte
  issued : Int
  uissued : Int
  timeout : Int
  datasegmentid : Int
  data : Int
  datalen : Int
  appreturncode : Int
  flags : UInt32
  returncode : Int
deriving DecidableEq, Repr

/-- The `Event` message, without the type. -/
structure Event where
  event : List Byte
  subscriptionid : Int
  senderid : Int
  datasegmentid : Int
  data : Int
  datalen : Int
deriving DecidableEq, Repr

/-- The messages by their type. One that a server does not know has the length of its body,
which `_mw_ipc_putmessage` limits. -/
inductive Message where
  | svccall (mesg : Call)
  | svcreply (mesg : Call)
  | event (mesg : Event)
  | eventack (mesg : Event)
  | other (mtype : Int) (body : Fin (mwMsgMax - sizeofLong + 1))
deriving DecidableEq, Repr

def Message.length : Message → Nat
  | .svccall _ | .svcreply _ => sizeofCall
  | .event _ | .eventack _ => sizeofEvent
  | .other _ body => sizeofLong + body

/-- `strncpy` into an array of 33 bytes. -/
def strncpyName (src : List Byte) : List Byte :=
  let text := (cstr src).take mwMaxSvcName
  text ++ List.replicate (mwMaxSvcName - text.length) 0

/-- The client a reply goes to, or the gateway in front of it. -/
def Call.replyTo (call : Call) : Int := if call.gwid = unassigned then call.cltid else call.gwid

def Call.noReply (call : Call) : Bool := call.flags &&& mwNoreply != 0

structure Timeval where
  sec : Int
  usec : Int
deriving DecidableEq, Repr

structure Cliententry where
  username : List Byte
  clientname : List Byte
  authtype : Int
deriving DecidableEq, Repr

/-- A segment of shared memory: its length, and by offset the size of the chunk that begins
there and the bytes. -/
structure Segment where
  length : Int
  chunk : Int → Int
  byte : Int → Byte

structure Svcinfo where
  handle : Int
  cltid : Int
  gwid : Int
  srvid : Int
  svcid : Int
  data : Option (List Byte)
  datalen : Int
  flags : UInt32
  appreturncode : Int
  service : List Byte
  deadline : Int
  udeadline : Int
  authentication : Int
  username : List Byte
  clientname : List Byte
deriving DecidableEq, Repr

/-- The clock, whether a service id is in the service table, the client table, the segments,
the ids in `serviceFuncList`, and the block of a new `mwsvcinfo`. -/
structure View where
  now : Timeval
  service : Int → Bool
  client : Int → Option Cliententry
  segment : Int → Option Segment
  serviceFuncList : List Int
  malloced : Svcinfo

/-- What a reply meets: `_mwsystemstate()`, the segment and offset of the buffer its data is
put in (none when shared memory is used up for good), the result of `_mw_ipc_putmessage` and
the `errno` it leaves. -/
structure Delivery where
  systemstate : Int
  place : Option (Int × Int)
  put : Int
  errno : Int
deriving DecidableEq, Repr

/-- What a forward meets: the service id and the provider that are found as well, and an
offset for the data. -/
structure Route where
  systemstate : Int
  svcid : Int
  provider : Int
  place : Option Int
  put : Int
  errno : Int
deriving DecidableEq, Repr

inductive Action where
  | reply (data : Option (List Byte)) (len : Nat) (returncode appreturncode : Int)
      (delivery : Delivery)
  | forward (svcname : List Byte) (data : Option (List Byte)) (len : Nat) (route : Route)
deriving DecidableEq, Repr

structure Behaviour where
  actions : List Action
  result : Int
deriving DecidableEq, Repr

/-- A message of the queue. `delivery` is for the reply the library makes itself. -/
structure Turn where
  message : Message
  view : View
  behaviour : Behaviour
  delivery : Delivery

structure Process where
  attached : Bool
  provided : Nat
  ipcmain : Bool
  systemstate : Int
  serverid : Int
  mwid : Int
  tasksignalled : Bool
deriving DecidableEq, Repr

structure Sent where
  dest : Int
  message : Message
deriving DecidableEq, Repr

/-- The request in `callmesg`, whether it waits for a reply, and the messages put on other
queues, oldest first. -/
structure State where
  callmesg : Call
  requestpending : Bool
  sent : List Sent
deriving DecidableEq, Repr

def State.send (state : State) (dest : Int) (message : Message) : State :=
  { state with sent := state.sent ++ [⟨dest, message⟩] }

/-- The length of `data`, a string when `len` is zero. -/
def dataLength (data : List Byte) (len : Nat) : Nat := if len = 0 then (cstr data).length else len

/-- Put the data of a reply in shared memory, unless it is there. -/
def mwPutbufferToCall (call : Call) (data : Option (List Byte)) (len : Nat)
    (place : Option (Int × Int)) : Option Call :=
  match data with
  | none => some { call with data := 0, datalen := 0 }
  | some bytes =>
      if dataLength bytes len = 0 then some { call with data := 0, datalen := 0 }
      else place.map fun found =>
        { call with datasegmentid := found.1, data := found.2, datalen := dataLength bytes len }

def replyCode (returncode : Int) : Int :=
  if returncode = mwSuccess then mwSuccess
  else if returncode = mwMore then mwMore else rcOf .EFAULT

/-- The buffer is tried for until there is one: the counter of the tries starts again in each
turn of the loop, so there is no result when there never is one. -/
def mwreply (process : Process) (state : State) (data : Option (List Byte)) (len : Nat)
    (returncode appreturncode : Int) (delivery : Delivery) : Option (Int × State) :=
  if state.requestpending = false then some (rcOf .EALREADY, state)
  else if delivery.systemstate ≠ 0 then some (delivery.systemstate, state)
  else
    match mwPutbufferToCall state.callmesg data len delivery.place with
    | none => none
    | some placed =>
        let callmesg := { placed with
          returncode := replyCode returncode
          appreturncode := appreturncode
          srvid := process.serverid }
        let state := { state with callmesg := callmesg }
        if delivery.put ≠ 0 then some (-delivery.errno, state)
        else
          let state := state.send callmesg.replyTo (.svcreply callmesg)
          if callmesg.returncode = mwMore then some (0, state)
          else some (0, { state with requestpending := false })

/-- The segment of the data is not written to the message. -/
def forwardData (call : Call) (data : Option (List Byte)) (len : Nat) (place : Option Int) :
    Option Call :=
  match data with
  | none => some { call with data := 0, datalen := 0 }
  | some bytes =>
      place.map fun offset => { call with data := offset, datalen := dataLength bytes len }

/-- Whether the request still waits for a reply is not tested. -/
def mwforward (process : Process) (state : State) (svcname : List Byte)
    (data : Option (List Byte)) (len : Nat) (route : Route) : Int × State :=
  if route.systemstate ≠ 0 then (route.systemstate, state)
  else if state.callmesg.forwardcount > 100 then (rcOf .ELOOP, state)
  else
    let counted := { state.callmesg with forwardcount := state.callmesg.forwardcount + 1 }
    if route.svcid < 0 then (route.svcid, { state with callmesg := counted })
    else if route.provider < 0 then (route.provider, { state with callmesg := counted })
    else
      let named := { counted with svcid := route.svcid, service := strncpyName svcname }
      match forwardData named data len route.place with
      | none => (-route.errno, { state with callmesg := named })
      | some placed =>
          let callmesg := { placed with srvid := process.serverid }
          let state := { state with callmesg := callmesg }
          if route.put ≠ 0 then (-route.errno, state)
          else (0, { state.send route.provider (.svccall callmesg) with requestpending := false })

def Action.run (process : Process) (state : State) : Action → Option State
  | .reply data len returncode appreturncode delivery =>
      (mwreply process state data len returncode appreturncode delivery).map Prod.snd
  | .forward svcname data len route => some (mwforward process state svcname data len route).2

def runActions (process : Process) : State → List Action → Option State
  | state, [] => some state
  | state, action :: rest =>
      match action.run process state with
      | none => none
      | some state => runActions process state rest

/-- The time that is left, in milliseconds, with the deadline in seconds and microseconds. -/
def mwSetDeadline (now : Timeval) (call : Call) : Int × Int × Int :=
  if call.timeout > 0 then
    let deadline := call.issued + call.timeout.tdiv 1000
    let udeadline := toInt32 (call.uissued + call.timeout.tmod 1000 * 1000000)
    let seconds := toInt32 (deadline - now.sec)
    let bounded := if seconds > 1000000 then 1000000 else seconds
    (toInt32 (toInt32 (bounded * 1000) + (udeadline - now.usec).tdiv 1000), deadline, udeadline)
  else (1000000000, 0, 0)

def mwOffset2adr (segment : Segment) (offset : Int) : Option Int :=
  if offset < 0 then none else if offset > segment.length then none else some offset

/-- The offset of a buffer, as an `int`. -/
def mwShmcheck (segment : Segment) (adr : Int) : Int :=
  if segment.chunk adr = 0 then -1 else toInt32 adr

def Segment.bytes (segment : Segment) (adr : Int) (length : Nat) : List Byte :=
  (List.range length).map fun (index : Nat) => segment.byte (adr + index)

/-- The data of a call. The offset is compared with the length; a `datalen` below zero is
larger than every size. -/
def mwGetbufferFromCall (view : View) (call : Call) : Option (Option (List Byte)) :=
  if call.datalen = 0 then some none
  else
    match view.segment call.datasegmentid with
    | none => none
    | some segment =>
        match mwOffset2adr segment call.data with
        | none => none
        | some ptr =>
            if mwShmcheck segment ptr < 0 ∨ mwShmcheck segment ptr < call.datalen then none
            else if segment.chunk ptr ≤ 0 ∨ call.datalen < 0 ∨ segment.chunk ptr ≤ call.datalen then
              none
            else some (some (segment.bytes ptr call.datalen.toNat))

/-- A name in an array of 65 bytes: only 33 of them are cleared and copied to. -/
def copyName (old src : List Byte) : List Byte := strncpyName src ++ old.drop mwMaxSvcName

/-- The `mwsvcinfo` of a call, in the block that was allocated for it. -/
def fillSvcinfo (view : View) (call : Call) (data : Option (List Byte)) : Svcinfo :=
  let times := mwSetDeadline view.now call
  let client : Option Cliententry := if call.cltid = unassigned then none else view.client call.cltid
  { view.malloced with
    cltid := call.cltid
    gwid := call.gwid
    srvid := call.srvid
    svcid := call.svcid
    data := data
    datalen := call.datalen
    flags := call.flags
    service := strncpyName call.service
    deadline := times.2.1
    udeadline := times.2.2
    authentication := (client.map Cliententry.authtype).getD unassigned
    username := copyName view.malloced.username ((client.map Cliententry.username).getD [])
    clientname := copyName view.malloced.clientname ((client.map Cliententry.clientname).getD []) }

inductive Verdict where
  | unknown
  | expired
  | junk
  | handed (svcinfo : Svcinfo)
deriving DecidableEq, Repr

def examine (view : View) (call : Call) : Verdict :=
  if view.service call.svcid = false then .unknown
  else if (mwSetDeadline view.now call).1 < 0 then .expired
  else
    match mwGetbufferFromCall view call with
    | none => .junk
    | some data => .handed (fillSvcinfo view call data)

/-- An error goes back under the type the request came with. -/
def State.sendError (state : State) (dest : Int) (errno : Errno) (put : Int) : State :=
  let callmesg := { state.callmesg with returncode := rcOf errno }
  let state := { state with callmesg := callmesg }
  if put = 0 then state.send dest (.svccall callmesg) else state

def State.take (state : State) (call : Call) : State :=
  { state with callmesg := call, requestpending := !call.noReply || state.requestpending }

def State.settle (process : Process) (delivery : Delivery) (state : State) : Verdict → State
  | .unknown =>
      { state.sendError state.callmesg.replyTo .ENOENT delivery.put with requestpending := false }
  | .expired => state.sendError state.callmesg.cltid .ETIME delivery.put
  | .junk => ((mwreply process state none 0 (-1) 0 delivery).map Prod.snd).getD state
  | .handed _ => state

/-- An event with data is acknowledged to `mwd`. -/
def State.doIpcevent (process : Process) (state : State) (event : Event) : State :=
  if event.data = 0 then state
  else state.send 0 (.eventack { event with senderid := process.mwid })

inductive Got where
  | request (turn : Turn) (svcinfo : Svcinfo)
  | failed (errno : Errno)
  | waiting

structure Reception where
  got : Got
  state : State
  rest : List Turn

/-- The loop of `_mwGetServiceRequest`. A message that is longer than `mesglen` stays in the
queue; after one that is passed over `mesglen` is its length. After a request with a bad
reference the function calls itself. -/
def receive (process : Process) (noblock : Bool) : Nat → State → List Turn → Reception
  | _, state, [] => ⟨if noblock then .failed .ENOMSG else .waiting, state, []⟩
  | mesglen, state, turn :: rest =>
      if turn.message.length > mesglen then ⟨.failed .E2BIG, state, turn :: rest⟩
      else
        match turn.message with
        | .svccall call =>
            let settled := (state.take call).settle process turn.delivery (examine turn.view call)
            match examine turn.view call with
            | .unknown => ⟨.failed .ENOENT, settled, rest⟩
            | .expired => ⟨.failed .ETIME, settled, rest⟩
            | .junk => receive process noblock mwMsgMax settled rest
            | .handed svcinfo => ⟨.request turn svcinfo, settled, rest⟩
        | .svcreply _ => ⟨.failed .EINPROGRESS, state, rest⟩
        | .event event => receive process noblock sizeofEvent (state.doIpcevent process event) rest
        | .eventack _ => receive process noblock sizeofEvent state rest
        | .other _ body => receive process noblock (sizeofLong + body) state rest

def mwGetServiceRequest (process : Process) (noblock : Bool) (state : State) (queue : List Turn) :
    Reception :=
  if process.attached = false then ⟨.failed .ENOTCONN, state, queue⟩
  else if process.provided = 0 then ⟨.failed .ENOENT, state, queue⟩
  else if process.ipcmain = false then ⟨.failed .EADDRNOTAVAIL, state, queue⟩
  else receive process noblock mwMsgMax state queue

/-- The result of the service function; a request it did not answer is answered with it. -/
def mwCallCServiceFunction (process : Process) (turn : Turn) (svcinfo : Svcinfo)
    (state : State) : Option (Int × State) :=
  let called :=
    if turn.view.serviceFuncList = [] then some (rcOf .ENOENT, state)
    else if svcinfo.svcid ∈ turn.view.serviceFuncList then
      (runActions process state turn.behaviour.actions).map fun after =>
        (turn.behaviour.result, after)
    else some (rcOf .EBADRQC, state)
  called.bind fun returned =>
    if returned.2.requestpending then
      (mwreply process returned.2 none 0 returned.1 0 turn.delivery).map fun answered =>
        (returned.1, answered.2)
    else some returned

inductive Served where
  | returned (rc : Int) (state : State) (rest : List Turn)
  | waiting (state : State)
  | hung

def mwservicerequest (process : Process) (noblock : Bool) (state : State) (queue : List Turn) :
    Served :=
  if process.systemstate ≠ 0 then .returned process.systemstate state queue
  else
    let reception := mwGetServiceRequest process noblock state queue
    match reception.got with
    | .waiting => .waiting reception.state
    | .failed errno => .returned (rcOf errno) reception.state reception.rest
    | .request turn svcinfo =>
        match mwCallCServiceFunction process turn svcinfo reception.state with
        | none => .hung
        | some result => .returned result.1 result.2 reception.rest

inductive Looping where
  | returned (rc : Int)
  | waiting
  | hung
  | running
deriving DecidableEq, Repr

/-- Some turns of the loop. `flags & ! MWNOBLOCK` is zero. -/
def mwMainLoop (process : Process) (sigrst : Bool) : Nat → State → List Turn → Looping
  | 0, _, _ => .running
  | turns + 1, state, queue =>
      match mwservicerequest process false state queue with
      | .waiting _ => .waiting
      | .hung => .hung
      | .returned rc state rest =>
          if rc = rcOf .EINTR ∧ (process.tasksignalled ∨ sigrst) then
            mwMainLoop process sigrst turns state rest
          else if rc < 0 then .returned rc
          else mwMainLoop process sigrst turns state rest

end MidWay.Server

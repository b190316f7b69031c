import MidWay.Srb.Message

/-!
Contract: the receive path of one connection, `_mw_conn_read` in
`connection.c` and `_mw_srb_recvmessage` in `SRBprotocol.c`.

The memory of a connection starts two bytes in front of the block that holds the
message buffer, because the decoder looks at `message[msglen-2]`; it goes on
behind the block, so that a string that is not terminated in the block has a
reading. Pointers are offsets into that memory. The peer is a list of arrivals:
what the following `recvfrom` calls deliver.

Owns: `Connection`, `recvfrom`, `mwConnRead`, `readMessageFromConnbuffer`,
`mwSrbRecvmessage` and sequences of its calls. Tracing, the time stamps, the
read fifo of the gateway and the close of a socket at the end of its stream are
left out; what arrives after an end of stream is as arbitrary as what arrives
before it.
-/

namespace MidWay.Srb

open MidWay.CLib

/-- Offset of the message buffer in the memory of its connection. -/
def bufferStart : Nat := 2

/-- The block is `SRBMESSAGEMAXLEN+8` bytes long. -/
def bufferSize : Nat := srbMessageMaxLen + 8

/-- `allocated` tells whether `messagebuffer` points to a block yet. -/
structure Connection where
  fd : Int
  mcast : Bool
  allocated : Bool
  memory : List Byte
  leftover : Int
  som : Nat
  nextMessageBoundryMarker : Option Nat
deriving DecidableEq, Repr

/-- A connection as it is set up. The first call allocates the buffer, with
whatever `malloc` finds there. -/
def Connection.fresh (fd : Int) (memory : List Byte) : Connection :=
  ⟨fd, false, false, memory, 0, 0, none⟩

/-- How the process ends inside a call: `Assert` and `assert`, or an access that
leaves the block. -/
inductive Failure where
  | assertion
  | outOfBounds
deriving DecidableEq, Repr

inductive Arrival where
  | data (bytes : List Byte)
  | endOfStream
  | error (errno : Errno)
deriving DecidableEq, Repr

/-- The result of `recvfrom`: the bytes delivered, none at the end of the
stream, or the result `-1`. -/
inductive Received where
  | bytes (delivered : List Byte)
  | failed (errno : Errno)
deriving DecidableEq, Repr

/-- Data longer than the space offered stays in a stream socket and is lost from
a datagram socket; an offer of no space is answered with no bytes. With nothing
in the socket a blocking call does not return. -/
def recvfrom (blocking datagram : Bool) (space : Nat) :
    List Arrival → Option (Received × List Arrival)
  | [] => if blocking then none else some (.failed .EAGAIN, [])
  | .endOfStream :: later => some (.bytes [], later)
  | .error errno :: later => some (.failed errno, later)
  | .data bytes :: later =>
      if bytes.length ≤ space then some (.bytes bytes, later)
      else
        some (.bytes (bytes.take space),
          if datagram then later else .data (bytes.drop space) :: later)

/-- The number of values of an `unsigned long`. -/
def unsignedLongRange : Int := 18446744073709551616

/-- The third argument of `recvfrom`, an `unsigned long`. -/
def maxrecvlen (conn : Connection) : Nat :=
  ((srbMessageMaxLen - (conn.som + conn.leftover - bufferStart) : Int) % unsignedLongRange).toNat

/-- Copy `bytes` to offset `start`. -/
def overwrite (memory : List Byte) (start : Nat) (bytes : List Byte) : List Byte :=
  memory.take start ++ bytes ++ memory.drop (start + bytes.length)

/-- `recvfrom` stores behind the pending bytes, and a NUL goes behind what was
received. -/
def storeReceived (conn : Connection) (bytes : List Byte) : Except Failure Connection :=
  if bytes = [] then .ok conn
  else
    let insertAt := conn.som + conn.leftover
    if insertAt < 0 ∨ insertAt + bytes.length ≥ conn.memory.length then .error .outOfBounds
    else
      .ok { conn with
        memory := overwrite conn.memory insertAt.toNat (bytes ++ [0])
        leftover := conn.leftover + bytes.length }

/-- Everything of `_mw_conn_read` behind the call of `recvfrom`. Its test of the
descriptor repeats that of the caller. -/
def mwConnRead (conn : Connection) : Received → Except Failure Connection
  | .failed _ => .ok conn
  | .bytes bytes => storeReceived conn bytes

/-- `strstr(conn->som, "\r\n")`. -/
def searchBoundry (conn : Connection) : Option Nat :=
  (strstr (conn.memory.drop conn.som) srbMessageBoundry).map (conn.som + ·)

def memmove (memory : List Byte) (target source count : Nat) : List Byte :=
  overwrite memory target ((memory.drop source).take count)

/-- The marker found by an earlier search is used again; otherwise the string at
`som` is searched. The error exits leave the marker as it is. The marker never
lies in front of `som`. -/
def readMessageFromConnbuffer (uninit : List Byte) (conn : Connection) :
    Except Failure (Option SRBmessage × Connection) :=
  if conn.allocated = false then
    .ok (none, { conn with allocated := true, leftover := 0, som := bufferStart })
  else if conn.leftover = 0 then
    .ok (none, { conn with som := bufferStart })
  else
    match conn.nextMessageBoundryMarker.or (searchBoundry conn) with
    | none =>
        if conn.leftover < 0 then .error .outOfBounds
        else
          .ok (none, { conn with
            memory := memmove conn.memory bufferStart conn.som conn.leftover.toNat
            som := bufferStart
            nextMessageBoundryMarker := none })
    | some marker =>
        let msglen := marker - conn.som
        if conn.leftover < msglen then .error .assertion
        else if msglen ≥ srbMessageMaxLen then
          .ok (none, { conn with leftover := 0, nextMessageBoundryMarker := some marker })
        else
          let decoded := mwSrbdecodemessage uninit conn.memory conn.som msglen
          match decoded.errno with
          | some _ =>
              .ok (none, { conn with
                memory := decoded.memory
                leftover := 0
                som := bufferStart
                nextMessageBoundryMarker := some marker })
          | none =>
              .ok (decoded.srbmsg, { conn with
                memory := decoded.memory
                leftover := conn.leftover - (msglen + 2)
                som := marker + 2
                nextMessageBoundryMarker := none })

/-- Where a call stands after one pass through the buffer: it has a result, or
it goes to `recvfrom` (again). -/
inductive Turn where
  | returned (srbmsg : Option SRBmessage) (errno : Option Errno) (conn : Connection)
  | reading (conn : Connection)
deriving DecidableEq, Repr

/-- The check for more messages before a call returns. -/
def lookAhead (conn : Connection) : Connection :=
  { conn with nextMessageBoundryMarker := searchBoundry conn }

def recvEnter (uninit : List Byte) (conn : Connection) : Except Failure Turn :=
  match readMessageFromConnbuffer uninit conn with
  | .error failure => .error failure
  | .ok (some srbmsg, conn) => .ok (.returned (some srbmsg) none (lookAhead conn))
  | .ok (none, conn) =>
      if conn.fd = -1 then .ok (.returned none (some .EPIPE) conn) else .ok (.reading conn)

/-- The turn of the loop behind `recvfrom`, when bytes or the end of the stream
came or the call was interrupted. -/
def recvSearch (uninit : List Byte) (eof : Bool) (conn : Connection) : Except Failure Turn :=
  match readMessageFromConnbuffer uninit conn with
  | .error failure => .error failure
  | .ok (srbmsg, conn) =>
      if eof then .ok (.returned srbmsg (some .EPIPE) (lookAhead conn))
      else if srbmsg.isSome then .ok (.returned srbmsg (some .EAGAIN) (lookAhead conn))
      else .ok (.reading conn)

/-- One turn of the loop. `errno = EINTR` in its test is an assignment, so every
error but the `EAGAIN` of a call that does not block counts as an
interruption. -/
def recvTurn (uninit : List Byte) (blocking : Bool) (conn : Connection) (received : Received) :
    Except Failure Turn :=
  if received = .failed .EAGAIN ∧ blocking = false then
    .ok (.returned none (some .EAGAIN) conn)
  else
    match mwConnRead conn received with
    | .error failure => .error failure
    | .ok conn => recvSearch uninit (received = .bytes []) conn

/-- How a call ends: it returns, it waits for the peer, or the process dies. -/
inductive Call where
  | returned (srbmsg : Option SRBmessage) (errno : Option Errno) (conn : Connection)
      (socket : List Arrival)
  | waiting (conn : Connection)
  | failed (failure : Failure)
deriving DecidableEq, Repr

/-- A call returns with the result of a turn, or goes on with `read`. -/
def afterTurn (read : Connection → Call) (socket : List Arrival) : Except Failure Turn → Call
  | .error failure => .failed failure
  | .ok (.returned srbmsg errno conn) => .returned srbmsg errno conn socket
  | .ok (.reading conn) => read conn

/-- The loop. On a datagram socket nothing may be left over when it reads. A turn
takes an arrival or at least one byte of one, so `turns` is not used up when it
exceeds the size of the socket. -/
def recvLoop (uninit : List Byte) (blocking : Bool) :
    Nat → Connection → List Arrival → Call
  | 0, conn, _ => .waiting conn
  | turns + 1, conn, socket =>
      if conn.mcast ∧ conn.leftover ≠ 0 then .failed .assertion
      else
        match recvfrom blocking conn.mcast (maxrecvlen conn) socket with
        | none => .waiting conn
        | some (received, socket) =>
            afterTurn (fun conn => recvLoop uninit blocking turns conn socket) socket
              (recvTurn uninit blocking conn received)

/-- The number of turns a socket can keep the loop going. -/
def socketSize : List Arrival → Nat
  | [] => 0
  | .data bytes :: later => bytes.length + 1 + socketSize later
  | _ :: later => 1 + socketSize later

/-- `_mw_srb_recvmessage`; `blocking` is the absence of `MWNOBLOCK`. -/
def mwSrbRecvmessage (uninit : List Byte) (blocking : Bool) (conn : Connection)
    (socket : List Arrival) : Call :=
  afterTurn (fun conn => recvLoop uninit blocking (socketSize socket + 1) conn socket) socket
    (recvEnter uninit conn)

/-- The results of successive calls, one for each flag, until one does not
return. -/
def recvCalls (uninit : List Byte) :
    List Bool → Connection → List Arrival → List (Option SRBmessage)
  | [], _, _ => []
  | blocking :: calls, conn, socket =>
      match mwSrbRecvmessage uninit blocking conn socket with
      | .returned srbmsg _ conn socket => srbmsg :: recvCalls uninit calls conn socket
      | .waiting _ => []
      | .failed _ => []

def recvMessages (uninit : List Byte) (calls : List Bool) (conn : Connection)
    (socket : List Arrival) : List SRBmessage :=
  (recvCalls uninit calls conn socket).filterMap id

end MidWay.Srb

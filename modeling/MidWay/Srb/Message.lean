import MidWay.Url.Map

/-!
Contract: one SRB message, as `SRBprotocol.c` builds, encodes and decodes it.

The decoder works in the receive buffer: it terminates the message in place and
looks at the two bytes in front of its end. `mwSrbdecodemessage` therefore takes
the whole memory and a pointer into it, and gives the memory back as it leaves
it. What it sends to the peer is the `reject` field of its result.

Owns: `SRBmessage`, `findMarker`, `mwSrbdecodemessage` and
`mwSrbencodemessage`. The logging calls are left out.
-/

namespace MidWay.Srb

open MidWay.CLib MidWay.Url

def srbMessageMaxLen : Nat := 3500

def mwMaxSvcName : Nat := 33

/-- The size of the array `command`. -/
def commandSize : Nat := 32

def carriageReturn : Byte := 13
def lineFeed : Byte := 10

def srbMessageBoundry : List Byte := [carriageReturn, lineFeed]

def srbRequestMarker : Byte := 63
def srbResponseMarker : Byte := 46
def srbNotificationMarker : Byte := 33
def srbRejectMarker : Byte := 126

def isMarker (c : Byte) : Bool :=
  c == srbRequestMarker || c == srbResponseMarker || c == srbNotificationMarker ||
    c == srbRejectMarker

/-- `command` holds the bytes of the array in front of a NUL, or all 32 of
them. -/
structure SRBmessage where
  command : List Byte
  marker : Byte
  map : Urlmap
deriving DecidableEq, Repr

/-- The array as a string. A full array is not terminated and reads on into the
field behind it, the marker. -/
def SRBmessage.commandString (srbmsg : SRBmessage) : List Byte :=
  if srbmsg.command.length < commandSize then srbmsg.command
  else srbmsg.command ++ [srbmsg.marker]

/-- Offset of the first marker. The loop tests for the end of the string only
behind the first byte. -/
def findMarker : List Byte → Option Nat
  | [] => none
  | c :: rest =>
      if isMarker c then some 0
      else
        match rest with
        | [] => none
        | next :: _ => if next = 0 then none else (findMarker rest).map (· + 1)

/-- What the decoder returns, the `errno` and the memory it leaves, and the
message and offset of the reject it sends. -/
structure DecodeResult where
  srbmsg : Option SRBmessage
  errno : Option Errno
  reject : Option (List Byte × Int)
  memory : List Byte
deriving DecidableEq, Repr

/-- `message[msglen] = '\0'`, and also a carriage return two bytes in front of
that becomes a NUL. -/
def terminateMessage (memory : List Byte) (message msglen : Nat) : List Byte × Option Nat :=
  let memory := memory.set (message + msglen) 0
  let szTmp := message + msglen - 2
  if memory[szTmp]? = some carriageReturn then (memory.set szTmp 0, some szTmp)
  else (memory, none)

/-- `*szTmp = '\r'` and `*(szTmp+1) = '\n'`. -/
def replaceEndMarker (memory : List Byte) : Option Nat → List Byte
  | none => memory
  | some szTmp => (memory.set szTmp carriageReturn).set (szTmp + 1) lineFeed

/-- `uninit` is the content of a fresh block, as for `urlmapdecode`. A command
of 32 bytes fills the array; the terminator behind it lands on the marker, which
is stored afterwards. -/
def mwSrbdecodemessage (uninit memory : List Byte) (message msglen : Nat) : DecodeResult :=
  let (memory, szTmp) := terminateMessage memory message msglen
  let text := memory.drop message
  match findMarker text with
  | none => ⟨none, some .EBADMSG, some (cstr text, -1), memory⟩
  | some commandlen =>
      let marker := text.getD commandlen 0
      if marker = srbRejectMarker then ⟨none, some .EBADMSG, none, memory⟩
      else if commandlen > 32 then
        ⟨none, some .EBADMSG, some (cstr text, commandlen), memory⟩
      else
        let command := cstr (text.take commandlen)
        let decoded := urlmapdecode uninit (text.drop (commandlen + 1))
        match decoded.map with
        | none => ⟨none, some .EBADMSG, some (cstr text, -1), memory⟩
        | some map =>
            ⟨some ⟨command, marker, map⟩, decoded.errno, none, replaceEndMarker memory szTmp⟩

def mwSrbencodemessage (srbmsg : SRBmessage) (bufflen : Int) : Except Errno (List Byte) :=
  if bufflen < mwMaxSvcName + 2 then .error .EMSGSIZE
  else
    let head := srbmsg.commandString.take mwMaxSvcName ++ [srbmsg.marker]
    match urlmapnencode (srbMessageMaxLen - head.length) srbmsg.map with
    | .error errno => .error errno
    | .ok fields =>
        let text := head ++ fields
        if text.length > bufflen - 2 then .error .EMSGSIZE
        else .ok (text ++ srbMessageBoundry)

end MidWay.Srb

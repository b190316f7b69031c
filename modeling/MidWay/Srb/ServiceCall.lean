import MidWay.CLib.Format
import MidWay.Srb.Message

/-!
Contract: the messages `SRBprotocol.c` builds: a service call, its data, and the
reject of a message.

The first message of a call announces the whole length when the data does not
fit, and carries as much of it as the limit allows; the rest follows in messages
of its own under the same handle. The functions return the messages they send,
when every message before could be sent.

Owns: the field names, the setters of a message, `mwSrbsenddata`,
`mwSrbsendcall` and `mwSrbsendreject`.
-/

namespace MidWay.Srb

open MidWay.CLib MidWay.Url

def srbSvccall : List Byte := ascii "SVCCALL".toList
def srbSvcdata : List Byte := ascii "SVCDATA".toList

def srbTerm : List Byte := ascii "TERM".toList

def srbApplicationrc : List Byte := ascii "APPLICATIONRC".toList
def srbCausefield : List Byte := ascii "CAUSEFIELD".toList
def srbCausevalue : List Byte := ascii "CAUSEVALUE".toList
def srbData : List Byte := ascii "DATA".toList
def srbDatatotal : List Byte := ascii "DATATOTAL".toList
def srbDomain : List Byte := ascii "DOMAIN".toList
def srbHandle : List Byte := ascii "HANDLE".toList
def srbHops : List Byte := ascii "HOPS".toList
def srbInstance : List Byte := ascii "INSTANCE".toList
def srbMaxhops : List Byte := ascii "MAXHOPS".toList
def srbMultiple : List Byte := ascii "MULTIPLE".toList
def srbNoreply : List Byte := ascii "NOREPLY".toList
def srbReason : List Byte := ascii "REASON".toList
def srbReasoncode : List Byte := ascii "REASONCODE".toList
def srbReturncode : List Byte := ascii "RETURNCODE".toList
def srbSectolive : List Byte := ascii "SECTOLIVE".toList
def srbSvcname : List Byte := ascii "SVCNAME".toList

def srbYes : List Byte := ascii "YES".toList
def srbNo : List Byte := ascii "NO".toList

/-- A new pair, or a new value of the pair that is there. -/
def mwSrbNsetfield (srbmsg : SRBmessage) (key value : List Byte) : SRBmessage :=
  match urlmapnadd srbmsg.map key (some value) with
  | some map => { srbmsg with map := map }
  | none => { srbmsg with map := (urlmapnset srbmsg.map key (some value)).getD srbmsg.map }

def mwSrbSetfield (srbmsg : SRBmessage) (key value : List Byte) : SRBmessage :=
  mwSrbNsetfield srbmsg key value

def mwSrbSetfieldi (srbmsg : SRBmessage) (key : List Byte) (value : Int) : SRBmessage :=
  mwSrbNsetfield srbmsg key (sprintfD value)

def mwSrbDelfield (srbmsg : SRBmessage) (key : List Byte) : SRBmessage :=
  { srbmsg with map := urlmapdel srbmsg.map key }

def mwSrbInit (command : List Byte) (marker : Byte) : SRBmessage := ⟨command, marker, []⟩

/-- The loop of `_mw_srbsenddata`. Every turn but the last takes `limit` bytes, so
`turns` is never used up when it exceeds the number of bytes. -/
def senddataFrom (limit : Nat) : Nat → SRBmessage → List Byte → List SRBmessage
  | 0, _, _ => []
  | turns + 1, srbmsg, data =>
      let l := min limit data.length
      let srbmsg := mwSrbNsetfield srbmsg srbData (data.take l)
      srbmsg ::
        (if (data.drop l).length > 0 then senddataFrom limit turns srbmsg (data.drop l) else [])

def mwSrbsenddata (limit : Nat) (handle data : List Byte) : List SRBmessage :=
  senddataFrom limit (data.length + 1)
    (mwSrbSetfield (mwSrbInit srbSvcdata srbNotificationMarker) srbHandle handle) data

def mwNoreplyFlag : UInt32 := 1

/-- `data` is `none` for a null pointer. `secstolive` is the time left when the call
has a deadline, `uninit` what the handle buffer holds when it is not written. The
lengths are `size_t`, but announced and sent as `int`. -/
def mwSrbsendcall (limit : Nat) (secstolive : Option Int) (uninit : List Byte) (handle : UInt32)
    (svcname : List Byte) (data : Option (List Byte)) (flags : UInt32) : List SRBmessage :=
  let noreply := flags &&& mwNoreplyFlag ≠ 0
  let hdlbuf := if noreply then uninit else sprintfUpperX handle
  let srbmsg :=
    if noreply then mwSrbInit srbSvccall srbNotificationMarker
    else mwSrbNsetfield (mwSrbInit srbSvccall srbRequestMarker) srbHandle hdlbuf
  let srbmsg := mwSrbSetfield srbmsg srbSvcname svcname
  let (srbmsg, datarem, rest) :=
    match data with
    | none => (srbmsg, 0, [])
    | some data =>
        if data.length > limit then
          (mwSrbNsetfield (mwSrbSetfieldi srbmsg srbDatatotal (toInt32 data.length)) srbData
            (data.take limit), toInt32 (data.length - limit), data.drop limit)
        else (mwSrbNsetfield srbmsg srbData data, 0, [])
  let srbmsg :=
    match secstolive with
    | none => srbmsg
    | some timeleft => mwSrbSetfieldi srbmsg srbSectolive timeleft
  let srbmsg := mwSrbSetfieldi srbmsg srbHops 0
  srbmsg :: (if datarem > 0 then mwSrbsenddata limit hdlbuf (rest.take datarem.toNat) else [])

def srbProtoFormat : Int := 400
def srbProtoFieldmissing : Int := 401
def srbProtoIllegalvalue : Int := 402
def srbProtoNoinit : Int := 411

def srbreasons : List (Int × List Byte) :=
  [(0, ascii "Success".toList),
    (301, ascii "301: You are already connected".toList),
    (302, ascii "302: The message was unexpected".toList),
    (400, ascii "400: General Format Error".toList),
    (401, ascii "401: Required Field Missing".toList),
    (402, ascii "402: Field has Illegal Value".toList),
    (403, ascii "403: Request Legal only for Gateways".toList),
    (404, ascii "404: Do not accept reverse service calls".toList),
    (405, ascii "405: Autorization fileds are required".toList),
    (406, ascii "406: Authiozation fialed".toList),
    (410, ascii "410: Protocol Version Not Supported".toList),
    (411, ascii "411: Missing Init Request".toList),
    (412, ascii "412: This message command is not accepted as a notification".toList),
    (413, ascii "413: This message command is not accepted as a request".toList),
    (430, ascii "430: There are no service wich this given name".toList),
    (440, ascii "440: No instance with given name available".toList),
    (431, ascii "431: The service routine returned NOT OK".toList),
    (500, ascii "500: The Gateway had an internal error".toList),
    (501, ascii "501: You are already disconnected".toList),
    (520, ascii "520: Not accepting connections from Clients".toList),
    (521, ascii "521: Not accepting connections from Gateways".toList)]

def mwSrbReason (rc : Int) : List Byte :=
  match srbreasons.find? fun reason => reason.1 == rc with
  | some reason => reason.2
  | none => ascii "Error: ".toList ++ sprintfD rc

/-- The message itself becomes the reject, also when the peer wants none and nothing
is sent. -/
def mwSrbsendreject (rejects : Bool) (srbmsg : SRBmessage) (causefield causevalue : Option (List Byte))
    (rcode : Int) : SRBmessage × List SRBmessage :=
  let srbmsg := { srbmsg with marker := srbRejectMarker }
  if rejects = false then (srbmsg, [])
  else
    let srbmsg := mwSrbSetfield (mwSrbSetfieldi srbmsg srbReasoncode rcode) srbReason
      (mwSrbReason rcode)
    let srbmsg :=
      match causefield with
      | some field => mwSrbSetfield srbmsg srbCausefield field
      | none => srbmsg
    let srbmsg :=
      match causevalue with
      | some value => mwSrbSetfield srbmsg srbCausevalue (cstr value)
      | none => srbmsg
    (srbmsg, [srbmsg])

end MidWay.Srb

import MidWay.Broker.Handover
import MidWay.CLib.Format
import MidWay.Srb.Framing

/-!
Contract: how the broker reads what its gateways announce.

`recv_gw_data` reads into an array on the stack, which nothing terminates, and decodes
from the start of that array with the length of all that was read. What is left of an
incomplete message is kept in a block of just its size. An access that leaves its object
ends the process here; what an object holds that was not received is a parameter.

Owns: `recv_gw_data`, and the reads after which the broker knows what was announced.
-/

namespace MidWay.Broker

open MidWay.CLib MidWay.Lib MidWay.Srb MidWay.Gateway MidWay.Url

/-- `strncpy(array, val, MWMAXNAMELEN)`: the byte behind stays, and only a shorter string is
terminated. -/
def strncpyTo (array val : List Byte) : List Byte :=
  let copied := (cstr val).take mwMaxNameLen
  copied ++ List.replicate (mwMaxNameLen - copied.length) 0 ++ array.drop mwMaxNameLen

/-- What follows a number that `%d` reads. -/
def behindNumber (text : List Byte) : List Byte :=
  (scanSign ((cstr text).dropWhile isspace)).2.dropWhile isdigit

/-- `sscanf(val, "%d.%d", ..) == 2`. -/
def sscanfVersion (val : List Byte) : Option (Int × Int) :=
  match sscanfD val with
  | none => none
  | some major =>
      match behindNumber val with
      | 46 :: rest => (sscanfD rest).map fun minor => (major, minor)
      | _ => none

def szGetReqField (srbmsg : SRBmessage) (fieldname : List Byte) : Except Reason (List Byte) :=
  match urlmapget srbmsg.map fieldname with
  | none => .error (.fieldMissing fieldname)
  | some idx =>
      match (srbmsg.map[idx]?).bind UrlmapEntry.value with
      | none => .error (.illegalValue fieldname)
      | some val => .ok val

/-- What is known of the gateway behind a message, or nothing when its connection is closed. The
`strcat` of an empty string changes nothing. A wrong version is logged from a place in the map that
was never set. -/
def FdInfo.takeMessage (info : FdInfo) (srbmsg : SRBmessage) :
    Except Fault (Option FdInfo × List Sent) :=
  if srbmsg.commandString = srbTerm ∧ srbmsg.marker = srbNotificationMarker then .ok (none, [])
  else if srbmsg.commandString ≠ srbReady ∨ srbmsg.marker ≠ srbNotificationMarker then
    .ok (none, [.reject info.fd .unexpected])
  else
    match szGetReqField srbmsg srbDomain with
    | .error reason => .ok (none, [.reject info.fd reason])
    | .ok domain =>
        match szGetReqField srbmsg srbInstance with
        | .error reason => .ok (none, [.reject info.fd reason])
        | .ok instanceName =>
            match szGetReqField srbmsg srbVersion with
            | .error reason => .ok (none, [.reject info.fd reason])
            | .ok version =>
                match sscanfVersion version with
                | none => .error .outside
                | some (major, minor) =>
                    .ok (some { info with
                      domain := strncpyTo info.domain domain
                      instanceName := strncpyTo info.instanceName instanceName
                      majorversion := major
                      minorversion := minor }, [])

/-- What a call of `recv_gw_data` meets: the bytes that are read, unless `read` fails; two bytes in
front of `buffer`, what the array holds before, a fresh block for the decoder, what new memory
holds, and whether there is any. -/
structure GwRead where
  read : Option (List Byte)
  front : List Byte
  stack : List Byte
  uninit : List Byte
  fresh : Nat → Byte
  allocates : Bool
  margin : front.length = bufferStart
  room : stack.length = srbMessageMaxLen
  bounded : ∀ bytes, read = some bytes → bytes.length ≤ srbMessageMaxLen

/-- The memory from the two bytes in front of `buffer` to its end. -/
def GwRead.buffer (request : GwRead) (bytes : List Byte) : List Byte :=
  request.front ++ (bytes ++ request.stack.drop bytes.length)

/-- Where `msg` points to: into `buffer`, or into the block of the incomplete message. -/
inductive Msg where
  | buffer (offset : Nat)
  | block (offset : Nat)

def Msg.object (memory : List Byte) (info : FdInfo) : Msg → List Byte
  | .buffer offset => memory.drop (bufferStart + offset)
  | .block offset => (info.incompleteMesg.getD []).drop offset

def Msg.skip (count : Nat) : Msg → Msg
  | .buffer offset => .buffer (offset + count)
  | .block offset => .block (offset + count)

/-- `strstr(msg, "\r\n")`, up to the end of the object. -/
def messageEnd (object : List Byte) : Except Fault (Option Nat) :=
  match strstr object srbMessageBoundry with
  | some place => .ok (some place)
  | none => if 0 ∈ object then .ok none else .error .outside

/-- `_mw_srbdecodemessage(&pseudoconn, buffer, len)` writes behind the message. -/
def GwRead.decode (request : GwRead) (memory : List Byte) (len : Int) :
    Except Fault DecodeResult :=
  if len < 0 ∨ srbMessageMaxLen ≤ len then .error .outside
  else .ok (mwSrbdecodemessage request.uninit memory bufferStart len.toNat)

def GwRead.keep (request : GwRead) (memory : List Byte) (info : FdInfo) (len : Int) :
    Msg → Except Fault FdInfo
  | .buffer _ =>
      if info.incompleteMesg ≠ none ∨ request.allocates = false ∨ len < 0 then .error .assertion
      else
        .ok { info with incompleteMesg := some ((memory.drop bufferStart).take len.toNat) }
  | .block 0 => .ok info
  | .block offset =>
      let block := info.incompleteMesg.getD []
      if len < 0 ∨ block.length < offset + len then .error .outside
      else
        .ok { info with incompleteMesg := some (memmove block offset 0 len.toNat) }

def GwRead.parse (request : GwRead) :
    Nat → List Byte → FdInfo → Msg → Int → Except Fault (Option FdInfo × List Sent)
  | 0, _, _, _, _ => .error (.list .endless)
  | turns + 1, memory, info, msg, len =>
      if len = 0 then .ok (some { info with incompleteMesg := none }, [])
      else
        match messageEnd (msg.object memory info) with
        | .error fault => .error fault
        | .ok none => (request.keep memory info len msg).map fun info => (some info, [])
        | .ok (some msgend) =>
            match request.decode memory len with
            | .error fault => .error fault
            | .ok decoded =>
                match decoded.srbmsg with
                | none =>
                    .ok (none, if decoded.reject = none then [] else [.reject info.fd .decoder])
                | some srbmsg =>
                    match info.takeMessage srbmsg with
                    | .error fault => .error fault
                    | .ok (none, sent) => .ok (none, sent)
                    | .ok (some info, _) =>
                        request.parse turns decoded.memory info (msg.skip (msgend + 2))
                          (len - (msgend + 2))

/-- The block grows by `realloc`, without room for the NUL, and `strcat` appends the array. -/
def GwRead.append (request : GwRead) (old bytes : List Byte) : Except Fault (List Byte) :=
  let len := bytes.length + strlen old
  let array := bytes ++ request.stack.drop bytes.length
  if request.allocates = false ∨ 0 ∉ old ∨ 0 ∉ array ∨ len < strlen old + strlen array + 1 then
    .error .outside
  else
    let grown := (old ++ (List.range len).map request.fresh).take len
    .ok (overwrite grown (strlen old) (cstr array ++ [0]))

def GwRead.take (request : GwRead) (info : FdInfo) (bytes : List Byte) :
    Except Fault (Option FdInfo × List Sent) :=
  match info.incompleteMesg with
  | none =>
      request.parse (bytes.length + 1) (request.buffer bytes) info (.buffer 0) bytes.length
  | some old =>
      match request.append old bytes with
      | .error fault => .error fault
      | .ok block =>
          request.parse (bytes.length + strlen old + 1) ((request.buffer bytes).set bufferStart 0)
            { info with incompleteMesg := some block } (.block 0) (bytes.length + strlen old)

/-- The label `close_n_out`. -/
def Mwbd.closeGw (broker : Mwbd) (fd : Int) : Except Fault Mwbd :=
  match broker.delGw fd with
  | .error fault => .error fault
  | .ok broker => (broker.unmarkfd fd).map fun broker => broker.close fd

def Mwbd.dropGw (broker : Mwbd) (fd : Int) : Except Fault Mwbd :=
  match broker.unmarkfd fd with
  | .error fault => .error fault
  | .ok broker => (broker.delGw fd).map fun broker => broker.close fd

def Mwbd.recvGwData (broker : Mwbd) (fd : Int) (request : GwRead) :
    Except Fault (Mwbd × List Sent) :=
  match request.read with
  | none => (broker.dropGw fd).map fun broker => (broker, [])
  | some bytes =>
      if bytes = [] then (broker.closeGw fd).map fun broker => (broker, [])
      else
        match findFdInfoByfd broker.allocated broker.gw fd with
        | .error fault => .error fault
        | .ok none => (broker.dropGw fd).map fun broker => (broker, [])
        | .ok (some gwinfo) =>
            match broker.gw.cells gwinfo with
            | none => .error (.list .wild)
            | some cell =>
                match request.take cell.value bytes with
                | .error fault => .error fault
                | .ok (none, sent) => (broker.closeGw fd).map fun broker => (broker, sent)
                | .ok (some info, sent) =>
                    .ok ({ broker with gw := broker.gw.setValue gwinfo fun _ => info }, sent)

def Mwbd.recvAll (fd : Int) : List GwRead → Mwbd → Except Fault Mwbd
  | [], broker => .ok broker
  | request :: later, broker =>
      match findFdInfoByfd broker.allocated broker.gw fd with
      | .error fault => .error fault
      | .ok none => .ok broker
      | .ok (some _) =>
          match broker.recvGwData fd request with
          | .error fault => .error fault
          | .ok (broker, _) => Mwbd.recvAll fd later broker

/-- A READY with its version `major.minor`, or a TERM. -/
inductive Announcement where
  | ready (domain instanceName major minor : List Byte)
  | term
deriving DecidableEq

def IsNumber (digits : List Byte) : Prop :=
  digits ≠ [] ∧ ∀ c ∈ digits, isdigit c = true

def Announcement.IsMessage (srbmsg : SRBmessage) : Announcement → Prop
  | .ready domain instanceName major minor =>
      srbmsg.commandString = srbReady ∧ srbmsg.marker = srbNotificationMarker ∧
        urlmapgetvalue srbmsg.map srbDomain = some domain ∧
        urlmapgetvalue srbmsg.map srbInstance = some instanceName ∧
        urlmapgetvalue srbmsg.map srbVersion = some (major ++ 46 :: minor) ∧
        IsNumber major ∧ IsNumber minor
  | .term => srbmsg.commandString = srbTerm ∧ srbmsg.marker = srbNotificationMarker

structure Notification where
  text : List Byte
  announces : Announcement
  srbmsg : SRBmessage
  nulFree : 0 ∉ text
  oneLine : findSub srbMessageBoundry text = none
  short : (text ++ srbMessageBoundry).length < srbMessageMaxLen
  decodes : ∀ uninit behind, (decodeText uninit (terminated text behind)).1 = some srbmsg
  isMessage : announces.IsMessage srbmsg

def Notification.bytes (notification : Notification) : List Byte :=
  notification.text ++ srbMessageBoundry

/-- The names are shorter than their arrays, and the numbers fit an `int`. -/
def Announcement.Fits : Announcement → Prop
  | .ready domain instanceName major minor =>
      (cstr domain).length < mwMaxNameLen ∧ (cstr instanceName).length < mwMaxNameLen ∧
        decimalNumber major < 2147483648 ∧ decimalNumber minor < 2147483648
  | .term => True

def FdInfo.Knows (info : FdInfo) : Announcement → Prop
  | .ready domain instanceName major minor =>
      cstr info.domain = cstr domain ∧ cstr info.instanceName = cstr instanceName ∧
        info.majorversion = decimalNumber major ∧ info.minorversion = decimalNumber minor
  | .term => False

theorem cstr_strncpyTo (array : List Byte) {val : List Byte}
    (short : (cstr val).length < mwMaxNameLen) : cstr (strncpyTo array val) = cstr val := by
  obtain ⟨more, isMore⟩ := Nat.exists_eq_add_of_lt short
  have padding : List.replicate (mwMaxNameLen - (cstr val).length) (0 : Byte) =
      0 :: List.replicate more 0 := by
    rw [show mwMaxNameLen - (cstr val).length = more + 1 by omega, List.replicate_succ]
  unfold strncpyTo
  rw [List.take_of_length_le short.le]
  dsimp only
  rw [padding, List.append_assoc, List.cons_append, cstr_terminated (nul_notMem_cstr val)]

theorem szGetReqField_some {srbmsg : SRBmessage} {fieldname val : List Byte}
    (isField : urlmapgetvalue srbmsg.map fieldname = some val) :
    szGetReqField srbmsg fieldname = .ok val := by
  rw [urlmapgetvalue] at isField
  grind [szGetReqField]

section Version

variable {digits behind : List Byte}

theorem scanSign_number (isNumber : IsNumber digits) (behind : List Byte) :
    scanSign ((cstr (digits ++ behind)).dropWhile isspace) = (false, digits ++ cstr behind) := by
  have plain := fun c member => xdigit_plain c (digit_xdigit c (isNumber.2 c member))
  have noNul : 0 ∉ digits := fun member => (plain 0 member).1 rfl
  obtain ⟨first, rest, rfl⟩ := List.exists_cons_of_ne_nil isNumber.1
  have firstPlain := plain first List.mem_cons_self
  rw [cstr_append noNul, List.cons_append, List.dropWhile_cons_of_neg (by simp [firstPlain.2.1]),
    scanSign, if_neg firstPlain.2.2.1, if_neg firstPlain.2.2.2.1]

theorem takeWhile_number (isNumber : IsNumber digits)
    (ends : ∀ c ∈ behind.head?, isdigit c = false) :
    (digits ++ cstr behind).takeWhile isdigit = digits ∧
      (digits ++ cstr behind).dropWhile isdigit = cstr behind := by
  rw [List.takeWhile_append_of_pos isNumber.2, List.dropWhile_append_of_pos isNumber.2]
  cases behind with
  | nil => exact ⟨List.append_nil digits, rfl⟩
  | cons c rest =>
      have notDigit : ¬isdigit c = true := by
        simp_all
      by_cases isNul : c = 0
      · simp [isNul, cstr_nul]
      · simp_all [cstr_cons, List.takeWhile_cons_of_neg, List.dropWhile_cons_of_neg]

theorem sscanfD_number (isNumber : IsNumber digits) (fits : decimalNumber digits < 2147483648)
    (ends : ∀ c ∈ behind.head?, isdigit c = false) :
    sscanfD (digits ++ behind) = some (decimalNumber digits : Int) := by
  have nonempty : ¬digits.isEmpty = true := by
    rw [List.isEmpty_iff]
    exact isNumber.1
  rw [sscanfD, scanSign_number isNumber]
  dsimp only
  rw [(takeWhile_number isNumber ends).1, if_neg nonempty, if_neg Bool.false_ne_true,
    clipLong_self (by omega) (by omega), toInt32_self (by omega) (by omega)]

/-- Both numbers of a version are read. -/
theorem sscanfVersion_ready {major minor : List Byte} (majorNumber : IsNumber major)
    (minorNumber : IsNumber minor) (majorFits : decimalNumber major < 2147483648)
    (minorFits : decimalNumber minor < 2147483648) :
    sscanfVersion (major ++ 46 :: minor) =
      some ((decimalNumber major : Int), (decimalNumber minor : Int)) := by
  have ends : ∀ c ∈ (46 :: minor).head?, isdigit c = false := by
    intro c isFirst
    cases isFirst
    rfl
  have noNul : cstr minor = minor := by
    apply cstr_eq_self
    intro member
    exact (xdigit_plain 0 (digit_xdigit 0 (minorNumber.2 0 member))).1 rfl
  have second : sscanfD (minor ++ []) = some (decimalNumber minor : Int) :=
    sscanfD_number minorNumber minorFits (by simp)
  have point : cstr (46 :: minor) = 46 :: minor := by rw [cstr_cons (by decide), noNul]
  rw [List.append_nil] at second
  rw [sscanfVersion, sscanfD_number majorNumber majorFits ends, behindNumber,
    scanSign_number majorNumber, (takeWhile_number majorNumber ends).2, point]
  change (sscanfD minor).map (fun minor => ((decimalNumber major : Int), minor)) = _
  rw [second]
  rfl

end Version

section Whole

variable {info : FdInfo} {notification : Notification}

variable (info) in
/-- What is known behind an announcement that fits, or that the connection is closed. -/
theorem takeMessage_fits (fits : notification.announces.Fits) :
    ∃ known, info.takeMessage notification.srbmsg = .ok (known, []) ∧
      (known = none ↔ notification.announces = .term) ∧
      ∀ after, known = some after → after.Knows notification.announces ∧ after.fd = info.fd ∧
        after.incompleteMesg = info.incompleteMesg := by
  have isMessage := notification.isMessage
  cases announced : notification.announces with
  | term =>
      rw [announced] at isMessage
      refine ⟨none, ?_, by simp, by simp⟩
      obtain ⟨command, marker⟩ := isMessage
      rw [FdInfo.takeMessage, if_pos ⟨command, marker⟩]
  | ready domain instanceName major minor =>
      rw [announced] at isMessage fits
      obtain ⟨command, marker, isDomain, isInstance, isVersion, majorNumber, minorNumber⟩ :=
        isMessage
      obtain ⟨domainShort, instanceShort, majorFits, minorFits⟩ := fits
      have notTerm : srbReady ≠ srbTerm := by decide
      refine ⟨some { info with
        domain := strncpyTo info.domain domain
        instanceName := strncpyTo info.instanceName instanceName
        majorversion := decimalNumber major
        minorversion := decimalNumber minor }, ?_, by simp, ?_⟩
      · rw [FdInfo.takeMessage, command, marker, if_neg (not_and_of_not_left _ notTerm),
          if_neg (by simp), szGetReqField_some isDomain]
        simp_all [szGetReqField_some, sscanfVersion_ready]
      · intro after same
        cases same
        exact ⟨⟨cstr_strncpyTo _ domainShort, cstr_strncpyTo _ instanceShort, rfl, rfl⟩, rfl, rfl⟩

/-- What is received is a whole message: it is found and decoded, whatever is behind it. -/
theorem take_whole (notKept : info.incompleteMesg = none) (request : GwRead)
    {known : Option FdInfo}
    (taken : info.takeMessage notification.srbmsg = .ok (known, []))
    (stillNone : ∀ after, known = some after → after.incompleteMesg = none) :
    request.take info notification.bytes = .ok (known, []) := by
  have short : notification.bytes.length < srbMessageMaxLen := notification.short
  have lengthSum : notification.bytes.length = notification.text.length + 2 :=
    List.length_append
  have behindMessage : request.stack.drop notification.bytes.length ≠ [] := by
    have room := request.room
    rw [ne_eq, List.drop_eq_nil_iff]
    omega
  obtain ⟨following, behind, isBehind⟩ := List.exists_cons_of_ne_nil behindMessage
  have buffer : request.buffer notification.bytes =
      request.front ++ notification.bytes ++ following :: behind := by
    rw [GwRead.buffer, isBehind, List.append_assoc]
  have object : (Msg.buffer 0).object (request.buffer notification.bytes) info =
      notification.text ++ srbMessageBoundry ++ following :: behind := by
    change (request.buffer notification.bytes).drop (bufferStart + 0) = _
    rw [buffer, List.append_assoc, Nat.add_zero, List.drop_left' request.margin]
    rfl
  have found : messageEnd ((Msg.buffer 0).object (request.buffer notification.bytes) info) =
      .ok (some notification.text.length) := by
    rw [messageEnd, object, strstr_line notification.nulFree notification.oneLine]
  have inArray : ¬((notification.bytes.length : Int) < 0 ∨
      (srbMessageMaxLen : Int) ≤ notification.bytes.length) := by
    omega
  have isMessage : (mwSrbdecodemessage request.uninit (request.buffer notification.bytes)
      bufferStart notification.bytes.length).srbmsg = some notification.srbmsg := by
    rw [buffer, ← request.margin]
    exact (mwSrbdecodemessage_line request.front notification.text behind following _).trans
      (notification.decodes _ _)
  have allRead : (notification.bytes.length : Int) - (notification.text.length + 2) = 0 := by
    omega
  have notEmpty : (notification.bytes.length : Int) ≠ 0 := by
    omega
  rw [GwRead.take, notKept]
  dsimp only
  rw [GwRead.parse, if_neg notEmpty, found]
  dsimp only
  rw [GwRead.decode, if_neg inArray]
  dsimp only
  rw [Int.toNat_natCast, isMessage]
  dsimp only
  rw [taken]
  cases known with
  | none => rfl
  | some after =>
      dsimp only
      rw [allRead, lengthSum, GwRead.parse, if_pos rfl, ← stillNone after rfl]

end Whole

variable {fd : Int}

section

variable {broker : Mwbd} {gws clients front back : List (Nat × FdInfo)} {entry : Nat × FdInfo}

/-- The gateway is taken out, unmarked and closed. -/
theorem Listed.closeGw (listed : Listed broker (front ++ entry :: back) clients) :
    ∃ after, broker.closeGw entry.2.fd = .ok after ∧ Listed after (front ++ back) clients ∧
      after.openFdset = Function.update broker.openFdset entry.2.fd false ∧
      after.opened = Function.update broker.opened entry.2.fd false ∧
      (Highest broker.openFdset broker.maxfd → Highest after.openFdset after.maxfd) := by
  obtain ⟨list, deleted, holds⟩ := listed.deleteGw
  obtain ⟨maxfd, unmarked, highest⟩ := Mwbd.unmarkfd_ok { broker with gw := list }
    (listed.inSet entry (by simp))
  have absent : ∀ other ∈ front ++ back ++ clients, other.2.fd ≠ entry.2.fd := by
    simp_all [List.append_assoc, listed.gws_apart]
  refine ⟨_, ?_, (listed.withoutGw holds).unused absent maxfd, rfl, rfl, highest⟩
  rw [Mwbd.closeGw, Mwbd.delGw, deleted]
  change Except.map _ (Mwbd.unmarkfd { broker with gw := list } entry.2.fd) = _
  rw [unmarked]
  rfl

theorem Listed.findGwByfd (listed : Listed broker (front ++ entry :: back) clients) :
    findFdInfoByfd broker.allocated broker.gw entry.2.fd = .ok (some entry.1) :=
  findFdInfoByfd_some listed.gw
    (fun other member => listed.gws_apart other (List.mem_append_left _ member))
    ((Nat.le_add_right _ _).trans listed.allocated)

theorem Listed.findGwByfd_none (listed : Listed broker gws clients)
    (absent : ∀ other ∈ gws, other.2.fd ≠ fd) :
    findFdInfoByfd broker.allocated broker.gw fd = .ok none :=
  findFdInfoByfd_none listed.gw absent ((Nat.le_add_right _ _).trans listed.allocated)

theorem Listed.findClientByfd (listed : Listed broker gws (front ++ entry :: back)) :
    findFdInfoByfd broker.allocated broker.client entry.2.fd = .ok (some entry.1) :=
  findFdInfoByfd_some listed.client
    (fun other member => listed.clients_apart other (by simp [member]))
    ((Nat.le_add_left _ _).trans listed.allocated)

/-- At the end of its stream the gateway is closed. -/
theorem Listed.recvGwData_end (listed : Listed broker (front ++ entry :: back) clients) :
    ∃ after, (∀ request : GwRead, request.read = some [] →
        broker.recvGwData entry.2.fd request = .ok (after, [])) ∧
      Listed after (front ++ back) clients ∧
      after.openFdset entry.2.fd = false ∧ after.opened entry.2.fd = false := by
  obtain ⟨after, closed, listedAfter, marks, opens, _⟩ := listed.closeGw
  refine ⟨after, ?_, listedAfter, ?_, ?_⟩
  · intro request isEnd
    rw [Mwbd.recvGwData, isEnd]
    dsimp only
    rw [if_pos rfl, closed]
    rfl
  · rw [marks, Function.update_self]
  · rw [opens, Function.update_self]

/-- A whole message is a TERM, and the gateway is closed, or what it announces is known. -/
theorem Listed.recvGwData_whole (listed : Listed broker (front ++ entry :: back) clients)
    (notKept : entry.2.incompleteMesg = none) {notification : Notification}
    (fits : notification.announces.Fits) :
    ∃ after, (∀ request : GwRead, request.read = some notification.bytes →
        broker.recvGwData entry.2.fd request = .ok (after, [])) ∧
      ((notification.announces = .term ∧ Listed after (front ++ back) clients ∧
          after.openFdset entry.2.fd = false ∧ after.opened entry.2.fd = false) ∨
        (notification.announces ≠ .term ∧ ∃ known : FdInfo, known.fd = entry.2.fd ∧
          known.incompleteMesg = none ∧ known.Knows notification.announces ∧
          Listed after (front ++ (entry.1, known) :: back) clients)) := by
  have nonempty : notification.bytes ≠ [] := by simp [Notification.bytes, srbMessageBoundry]
  obtain ⟨next, isCell, _⟩ := listed.gw.cell
  obtain ⟨known, message, isTerm, isKnown⟩ := takeMessage_fits entry.2 fits
  have stillNone : ∀ after, known = some after → after.incompleteMesg = none :=
    fun after same => (isKnown after same).2.2.trans notKept
  have called : ∀ request : GwRead, request.read = some notification.bytes →
      broker.recvGwData entry.2.fd request =
        known.elim ((broker.closeGw entry.2.fd).map fun broker => (broker, []))
          fun info => .ok ({ broker with gw := broker.gw.setValue entry.1 fun _ => info }, []) := by
    intro request isRead
    rw [Mwbd.recvGwData, isRead]
    dsimp only
    rw [if_neg nonempty, listed.findGwByfd]
    dsimp only
    rw [isCell]
    dsimp only
    rw [take_whole notKept request message stillNone]
    cases known with
    | none => rfl
    | some info => rfl
  cases known with
  | none =>
      obtain ⟨after, closed, listedAfter, marks, opens, _⟩ := listed.closeGw
      rw [closed] at called
      refine ⟨after, called, Or.inl ⟨isTerm.mp rfl, listedAfter, ?_, ?_⟩⟩
      · rw [marks, Function.update_self]
      · rw [opens, Function.update_self]
  | some info =>
      obtain ⟨knows, sameFd, _⟩ := isKnown info rfl
      refine ⟨_, called, Or.inr ⟨?_, info, sameFd, stillNone info rfl, knows,
        listed.setGw (fun _ => info) sameFd⟩⟩
      intro announcesTerm
      cases isTerm.mpr announcesTerm

end

def completed : List Notification → List Byte → List Notification
  | [], _ => []
  | notification :: later, received =>
      if notification.bytes <+: received then
        notification :: completed later (received.drop notification.bytes.length)
      else []

def incomplete : List Notification → List Byte → List Byte
  | [], received => received
  | notification :: later, received =>
      if notification.bytes <+: received then
        incomplete later (received.drop notification.bytes.length)
      else received

def lastReady : List Notification → Option Announcement
  | [] => none
  | notification :: later =>
      (lastReady later).or
        (match notification.announces with
        | .ready domain instanceName major minor => some (.ready domain instanceName major minor)
        | .term => none)

def Mwbd.Knows (broker : Mwbd) (fd : Int) (info : FdInfo) : Prop :=
  ∃ gws place, broker.gw.Holds gws ∧ (place, info) ∈ gws ∧ info.fd = fd

/-- The stream has ended, or its TERM has come; an empty read is the end of the stream. -/
def Ends (stream : List Notification) (reads : List (List Byte)) : Prop :=
  [] ∈ reads ∨ ∃ notification ∈ completed stream reads.flatten, notification.announces = .term

structure Follows (stream : List Notification) (reads : List (List Byte)) (fd : Int)
    (after : Mwbd) : Prop where
  registered : (∃ info, after.Knows fd info) ↔ ¬Ends stream reads
  closed : Ends stream reads → after.openFdset fd = false ∧ after.opened fd = false
  latest : ∀ info, after.Knows fd info → ∀ announcement,
    lastReady (completed stream reads.flatten) = some announcement → info.Knows announcement
  kept : ∀ info, after.Knows fd info →
    info.incompleteMesg.getD [] = incomplete stream reads.flatten

/-- A cut of what a gateway sends: READY messages, a TERM at most at the end, and behind all that
comes of it at most the end of the stream. -/
structure Cut (stream : List Notification) (reads : List (List Byte)) : Prop where
  termLast : ∀ notification ∈ stream.dropLast, notification.announces ≠ .term
  endLast : [] ∉ reads.dropLast
  parts : reads.flatten <+: (stream.map Notification.bytes).flatten
  bounded : ∀ part ∈ reads, part.length ≤ srbMessageMaxLen

/-- However the memory is filled that was not received, the calls leave the same behind, and it is
what is to be known. -/
def ReadCorrectly (broker : Mwbd) (fd : Int) (stream : List Notification)
    (reads : List (List Byte)) : Prop :=
  ∃ after, (∀ requests : List GwRead, requests.map GwRead.read = reads.map some →
      Mwbd.recvAll fd requests broker = .ok after) ∧ Follows stream reads fd after

/-- Each read gives the next message, whole, or the end of the stream, and what is announced fits. -/
def WholeReads : List Notification → List (List Byte) → Prop
  | _, [] => True
  | [], part :: later => part = [] ∧ later = []
  | notification :: rest, part :: later =>
      (part = [] ∧ later = []) ∨
        (part = notification.bytes ∧ notification.announces.Fits ∧ WholeReads rest later)

variable {reads : List (List Byte)} {stream : List Notification}

/-- The first of such reads are such reads. -/
theorem WholeReads.take (whole : WholeReads stream reads) (calls : Nat) :
    WholeReads stream (reads.take calls) := by
  induction calls generalizing stream reads with
  | zero =>
      rw [List.take_zero]
      cases stream <;> trivial
  | succ calls ih =>
      cases reads with
      | nil => exact whole
      | cons part later =>
          rw [List.take_succ_cons]
          cases stream with
          | nil =>
              obtain ⟨isEnd, isLast⟩ := whole
              rw [isLast, List.take_nil]
              exact ⟨isEnd, rfl⟩
          | cons notification rest =>
              rcases whole with ⟨isEnd, isLast⟩ | ⟨isWhole, fits, restWhole⟩
              · rw [isLast, List.take_nil]
                exact Or.inl ⟨isEnd, rfl⟩
              · exact Or.inr ⟨isWhole, fits, ih restWhole⟩

section

variable {broker : Mwbd} {gws clients front back : List (Nat × FdInfo)} {entry : Nat × FdInfo}

theorem Listed.knows_iff (listed : Listed broker (front ++ entry :: back) clients)
    (info : FdInfo) : broker.Knows entry.2.fd info ↔ info = entry.2 := by
  constructor
  · intro ⟨others, place, holds, member, sameFd⟩
    rw [holds.unique listed.gw] at member
    by_contra other
    have inRest : (place, info) ∈ front ++ back := by
      grind
    refine listed.gws_apart (place, info) ?_ sameFd
    grind
  · intro same
    rw [same]
    exact ⟨_, entry.1, listed.gw, by simp, rfl⟩

theorem Listed.not_knows (listed : Listed broker gws clients)
    (absent : ∀ other ∈ gws, other.2.fd ≠ fd) (info : FdInfo) : ¬broker.Knows fd info := by
  intro ⟨others, place, holds, member, sameFd⟩
  rw [holds.unique listed.gw] at member
  exact absent (place, info) member sameFd

theorem Listed.recvAll_absent (listed : Listed broker gws clients)
    (absent : ∀ other ∈ gws, other.2.fd ≠ fd) (requests : List GwRead) :
    Mwbd.recvAll fd requests broker = .ok broker := by
  cases requests with
  | nil => rfl
  | cons request later => rw [Mwbd.recvAll, listed.findGwByfd_none absent]

theorem Listed.gws_absent (listed : Listed broker (front ++ entry :: back) clients) :
    ∀ other ∈ front ++ back, other.2.fd ≠ entry.2.fd := by
  intro other member
  apply listed.gws_apart
  rw [← List.append_assoc]
  exact List.mem_append_left _ member

end

section

variable (notification : Notification) (rest : List Notification) (received : List Byte)

theorem bytes_ne_nil : notification.bytes ≠ [] := by
  simp [Notification.bytes, srbMessageBoundry]

theorem completed_nil (stream : List Notification) : completed stream [] = [] := by
  cases stream with
  | nil => rfl
  | cons first rest => rw [completed, if_neg (mt List.prefix_nil.mp (bytes_ne_nil first))]

theorem incomplete_nil (stream : List Notification) : incomplete stream [] = [] := by
  cases stream with
  | nil => rfl
  | cons first rest => rw [incomplete, if_neg (mt List.prefix_nil.mp (bytes_ne_nil first))]

theorem completed_cons : completed (notification :: rest) (notification.bytes ++ received) =
    notification :: completed rest received := by
  rw [completed, if_pos (List.prefix_append _ _), List.drop_left]

theorem incomplete_cons : incomplete (notification :: rest) (notification.bytes ++ received) =
    incomplete rest received := by
  rw [incomplete, if_pos (List.prefix_append _ _), List.drop_left]

theorem ends_cons (reads : List (List Byte)) :
    Ends (notification :: rest) (notification.bytes :: reads) ↔
      notification.announces = .term ∨ Ends rest reads := by
  have notEnd : ([] : List Byte) ≠ notification.bytes := (bytes_ne_nil notification).symm
  rw [Ends, Ends, List.flatten_cons, completed_cons, List.mem_cons, List.exists_mem_cons_iff]
  tauto

theorem lastReady_cons (isReady : notification.announces ≠ .term) :
    lastReady (notification :: rest) = (lastReady rest).or (some notification.announces) := by
  grind [lastReady]

theorem not_ends_nil (stream : List Notification) : ¬Ends stream [] := by
  simp [Ends, List.flatten_nil, completed_nil]

end

section

variable {broker : Mwbd} {clients front back : List (Nat × FdInfo)}

theorem follows_gone {after : Mwbd} {gws : List (Nat × FdInfo)} (listed : Listed after gws clients)
    (absent : ∀ other ∈ gws, other.2.fd ≠ fd) (unmarked : after.openFdset fd = false)
    (isClosed : after.opened fd = false) (ends : Ends stream reads) :
    Follows stream reads fd after := by
  have gone := listed.not_knows absent
  constructor
  · simp_all
  · simp_all
  · simp_all
  · simp_all

theorem Listed.recvAll_cons {entry : Nat × FdInfo}
    (listed : Listed broker (front ++ entry :: back) clients) {part : List Byte} {next : Mwbd}
    (called : ∀ request : GwRead, request.read = some part →
      broker.recvGwData entry.2.fd request = .ok (next, []))
    {reads : List (List Byte)} {after : Mwbd}
    (goesOn : ∀ requests : List GwRead, requests.map GwRead.read = reads.map some →
      Mwbd.recvAll entry.2.fd requests next = .ok after) (requests : List GwRead)
    (areReads : requests.map GwRead.read = (part :: reads).map some) :
    Mwbd.recvAll entry.2.fd requests broker = .ok after := by
  cases requests with
  | nil => cases areReads
  | cons request later =>
      simp_all [List.map_cons, List.cons.injEq, Mwbd.recvAll, listed.findGwByfd]

theorem Listed.recvAll_end {entry : Nat × FdInfo}
    (listed : Listed broker (front ++ entry :: back) clients) (stream : List Notification) :
    ∃ after, (∀ requests : List GwRead, requests.map GwRead.read = [[]].map some →
        Mwbd.recvAll entry.2.fd requests broker = .ok after) ∧
      Follows stream [[]] entry.2.fd after ∧ ∀ info, ¬after.Knows entry.2.fd info := by
  obtain ⟨after, called, listedAfter, unmarked, isClosed⟩ := listed.recvGwData_end
  have ends : Ends stream [[]] := Or.inl List.mem_cons_self
  refine ⟨after, ?_, follows_gone listedAfter listed.gws_absent unmarked isClosed ends,
    listedAfter.not_knows listed.gws_absent⟩
  have goesOn : ∀ requests : List GwRead, requests.map GwRead.read = [].map some →
      Mwbd.recvAll entry.2.fd requests after = .ok after :=
    fun requests _ => listedAfter.recvAll_absent listed.gws_absent requests
  exact listed.recvAll_cons called goesOn

/-- Behind a READY the rest of the reads decides. -/
theorem Follows.cons {notification : Notification} {rest : List Notification}
    {later : List (List Byte)} {fd : Int} {after : Mwbd} (follows : Follows rest later fd after)
    (isReady : notification.announces ≠ .term)
    (first : lastReady (completed rest later.flatten) = none →
      ∀ info, after.Knows fd info → info.Knows notification.announces) :
    Follows (notification :: rest) (notification.bytes :: later) fd after := by
  have same : Ends (notification :: rest) (notification.bytes :: later) ↔ Ends rest later :=
    (ends_cons notification rest later).trans (or_iff_right isReady)
  constructor
  · simp [same, follows.registered]
  · simp_all [follows.closed]
  · intro info knows announcement isLast
    rw [List.flatten_cons, completed_cons, lastReady_cons _ _ isReady] at isLast
    cases isLater : lastReady (completed rest later.flatten) with
    | none =>
        simp_all
    | some last =>
        simp_all [follows.latest]
  · simp_all [List.flatten_cons, incomplete_cons, follows.kept]

/-- Behind whole reads the broker knows the last READY; without one it knows what it knew. -/
theorem Listed.recvAll_whole {entry : Nat × FdInfo}
    (listed : Listed broker (front ++ entry :: back) clients)
    (notKept : entry.2.incompleteMesg = none) (whole : WholeReads stream reads) :
    ∃ after, (∀ requests : List GwRead, requests.map GwRead.read = reads.map some →
        Mwbd.recvAll entry.2.fd requests broker = .ok after) ∧
      Follows stream reads entry.2.fd after ∧
      (lastReady (completed stream reads.flatten) = none →
        ∀ info, after.Knows entry.2.fd info → info = entry.2) := by
  induction reads generalizing broker entry stream with
  | nil =>
      refine ⟨broker, ?_, ?_, ?_⟩
      · simp [List.map_nil, List.map_eq_nil_iff, Mwbd.recvAll]
      · constructor
        · exact iff_of_true ⟨entry.2, (listed.knows_iff _).mpr rfl⟩ (not_ends_nil stream)
        · simp [not_ends_nil]
        · intro info _ announcement isLast
          rw [List.flatten_nil, completed_nil] at isLast
          cases isLast
        · simp [List.flatten_nil, incomplete_nil, listed.knows_iff, notKept]
      · simp [listed.knows_iff]
  | cons part later ih =>
      cases stream with
      | nil =>
          obtain ⟨rfl, rfl⟩ := whole
          obtain ⟨after, called, follows, gone⟩ := listed.recvAll_end []
          exact ⟨after, called, follows, fun _ info knows => absurd knows (gone info)⟩
      | cons notification rest =>
          rcases whole with ⟨rfl, rfl⟩ | ⟨rfl, fits, restWhole⟩
          · obtain ⟨after, called, follows, gone⟩ := listed.recvAll_end (notification :: rest)
            exact ⟨after, called, follows, fun _ info knows => absurd knows (gone info)⟩
          · obtain ⟨next, called, isTerm | isReady⟩ := listed.recvGwData_whole notKept fits
            · obtain ⟨announcesTerm, listedNext, unmarked, isClosed⟩ := isTerm
              have absent := listed.gws_absent
              have ends := (ends_cons notification rest later).mpr (Or.inl announcesTerm)
              refine ⟨next, listed.recvAll_cons called ?_,
                follows_gone listedNext absent unmarked isClosed ends, ?_⟩
              · intro requests _
                exact listedNext.recvAll_absent absent requests
              · intro _ info knows
                exact absurd knows (listedNext.not_knows absent info)
            · obtain ⟨announcesReady, known, sameFd, knownNotKept, knowsIt, listedNext⟩ := isReady
              obtain ⟨after, goesOn, follows, unchanged⟩ :=
                ih listedNext knownNotKept restWhole
              dsimp only at goesOn follows unchanged
              rw [sameFd] at goesOn follows unchanged
              refine ⟨after, listed.recvAll_cons called goesOn, follows.cons announcesReady ?_, ?_⟩
              · grind
              · simp_all [List.flatten_cons, completed_cons, lastReady_cons]

/-- In every run in which each read gives the next message whole, the broker has read its gateway
correctly behind every call. -/
theorem gateway_read_correctly {gws : List (Nat × FdInfo)} (listed : Listed broker gws clients)
    {gw : Nat × FdInfo} (isGw : gw ∈ gws) (notKept : gw.2.incompleteMesg = none)
    {stream : List Notification} {reads : List (List Byte)} (whole : WholeReads stream reads)
    (calls : Nat) : ReadCorrectly broker gw.2.fd stream (reads.take calls) := by
  obtain ⟨front, back, rfl⟩ := List.append_of_mem isGw
  obtain ⟨after, called, follows, _⟩ := listed.recvAll_whole notKept (whole.take calls)
  exact ⟨after, called, follows⟩

end

theorem outcomeOf_fst (uninit text : List Byte) :
    (outcomeOf uninit text).1 = (decodeText uninit text).1 := by
  unfold outcomeOf decodeText fieldsOutcome
  grind

theorem decodeText_determined {text : List Byte} (determined : TextDetermined text)
    (nonempty : text ≠ []) (uninit behind : List Byte) :
    (decodeText uninit (terminated text behind)).1 = (decodeText [] (text ++ [0])).1 := by
  rw [← outcomeOf_fst, ← outcomeOf_fst]
  exact congrArg Prod.fst (determined.same nonempty uninit [] (10 :: behind) [])

def readyText (domain : List Byte) : List Byte :=
  ascii "SRB READY!DOMAIN=".toList ++ domain ++ ascii "&INSTANCE=i&VERSION=1.0".toList

def readyMessage (domain : List Byte) : SRBmessage where
  command := srbReady
  marker := srbNotificationMarker
  map := [⟨srbDomain, some domain⟩, ⟨srbInstance, some (ascii "i".toList)⟩,
    ⟨srbVersion, some (ascii "1.0".toList)⟩]

theorem readyText_determined (domain : List Byte) (isLetter : domain = [97] ∨ domain = [98]) :
    TextDetermined (readyText domain) ∧
      (decodeText [] (readyText domain ++ [0])).1 = some (readyMessage domain) := by
  have fieldsEnd : Determined ((readyText domain).drop 10) := by
    refine Or.inr ⟨?_, ?_⟩
    · rcases isLetter with rfl | rfl <;> decide +kernel
    · change ∀ field ∈ _, _ ∨ _
      rcases isLetter with rfl | rfl <;> decide +kernel
  have found : findMarker (readyText domain) = some 9 := by
    rcases isLetter with rfl | rfl <;> decide +kernel
  constructor
  · intro commandlen isFound _ _
    rw [found] at isFound
    cases isFound
    exact fieldsEnd
  · rcases isLetter with rfl | rfl <;> decide +kernel

theorem isNumber_digit {digit : Byte} (isDigit : isdigit digit = true) : IsNumber [digit] := by
  constructor
  · exact List.cons_ne_nil digit []
  · simp [isDigit]

/-- A READY for the domain `a` or `b`. -/
def readyFor (domain : List Byte) (isLetter : domain = [97] ∨ domain = [98]) : Notification where
  text := readyText domain
  announces := .ready domain (ascii "i".toList) (ascii "1".toList) (ascii "0".toList)
  srbmsg := readyMessage domain
  nulFree := by rcases isLetter with rfl | rfl <;> decide
  oneLine := by rcases isLetter with rfl | rfl <;> decide
  short := by rcases isLetter with rfl | rfl <;> decide
  decodes uninit behind := by
    rw [decodeText_determined (readyText_determined domain isLetter).1
      (by rcases isLetter with rfl | rfl <;> decide)]
    exact (readyText_determined domain isLetter).2
  isMessage := by
    rcases isLetter with rfl | rfl <;>
      exact ⟨rfl, rfl, by decide, by decide, by decide, isNumber_digit (by decide),
        isNumber_digit (by decide)⟩

def readyA : Notification := readyFor [97] (Or.inl rfl)

def readyB : Notification := readyFor [98] (Or.inr rfl)

/-- Two READY messages, each in a read of its own. -/
theorem gateway_read_correctly_two :
    ReadCorrectly oneOfEach 7 [readyA, readyB] [readyA.bytes, readyB.bytes] := by
  have fits : readyA.announces.Fits ∧ readyB.announces.Fits :=
    ⟨⟨by decide, by decide, by decide, by decide⟩, ⟨by decide, by decide, by decide, by decide⟩⟩
  have whole : WholeReads [readyA, readyB] [readyA.bytes, readyB.bytes] :=
    Or.inr ⟨rfl, fits.1, Or.inr ⟨rfl, fits.2, trivial⟩⟩
  exact gateway_read_correctly oneOfEach_listed List.mem_cons_self rfl whole 2

def readOf (bytes : List Byte) (bounded : bytes.length ≤ srbMessageMaxLen) : GwRead where
  read := some bytes
  front := [0, 0]
  stack := List.replicate srbMessageMaxLen 0
  uninit := []
  fresh _ := 0
  allocates := true
  margin := rfl
  room := List.length_replicate
  bounded := by
    intro other same
    cases same
    exact bounded

theorem both_bounded : (readyA.bytes ++ readyB.bytes).length ≤ srbMessageMaxLen := by decide

/-- Both messages in one read: the broker goes on knowing the domain of the first. -/
theorem second_ready_lost :
    Cut [readyA, readyB] [readyA.bytes ++ readyB.bytes] ∧
      ¬ReadCorrectly oneOfEach 7 [readyA, readyB] [readyA.bytes ++ readyB.bytes] := by
  have stays : (Mwbd.recvAll 7 [readOf (readyA.bytes ++ readyB.bytes) both_bounded] oneOfEach).map
      (fun after => (after.gw.head, (after.gw.cells 0).map fun cell =>
        (cell.next, cstr cell.value.domain, cell.value.fd))) =
        .ok (some 0, some (none, [97], 7)) := by
    decide +kernel
  have goesOn : ¬Ends [readyA, readyB] [readyA.bytes ++ readyB.bytes] := by
    change ¬(_ ∨ _)
    decide +kernel
  have isLast : lastReady (completed [readyA, readyB] [readyA.bytes ++ readyB.bytes].flatten) =
      some readyB.announces := by
    decide +kernel
  constructor
  · refine ⟨?_, by decide, List.prefix_refl _, by decide⟩
    intro notification member
    cases List.mem_singleton.mp member
    decide
  · intro ⟨after, called, follows⟩
    rw [called _ rfl] at stays
    obtain ⟨isHead, isFirst⟩ := Prod.mk.inj (Except.ok.inj stays)
    obtain ⟨info, knows⟩ := follows.registered.mpr goesOn
    have isB := (follows.latest info knows _ isLast).1
    obtain ⟨gws, place, ⟨segment, _⟩, member, _⟩ := knows
    cases gws with
    | nil => cases member
    | cons first rest =>
        obtain ⟨startsAt, next, isCell, behind⟩ := segment
        have isZero : first.1 = 0 := Option.some.inj (startsAt.symm.trans isHead)
        rw [isZero] at isCell
        rw [isCell] at isFirst
        have known := Option.some.inj isFirst
        have noNext : next = none := congrArg Prod.fst known
        have isA : cstr first.2.domain = [97] := congrArg (fun known => known.2.1) known
        have noRest : rest = [] := by
          cases rest with
          | nil => rfl
          | cons second others => cases noNext.symm.trans behind.1
        rw [noRest] at member
        rw [← List.mem_singleton.mp member, isB] at isA
        cases isA

end MidWay.Broker

import Mathlib.Data.List.MinMax
import MidWay.Broker.Descriptors
import MidWay.Gateway.Sessions
import MidWay.Srb.Connection
import MidWay.Srb.SelfContained

/-!
Contract: how the broker hands a client over to a gateway.

`read_from_client` passes the descriptor of the client with its SRB INIT to the gateway
that was used the longest time ago. A gateway that cannot take it is deleted from the list
and nothing else, and the pseudo connection, on which a reject is sent, still has its
descriptor.

Owns: `find_gw`, `read_from_client`, what they do to the lists, and the exact condition
under which a client is handed over or rejected as it should be.
-/

namespace MidWay.Broker

open MidWay.CLib MidWay.Lib MidWay.Srb MidWay.Gateway MidWay.Url

/-- `strncmp(s1, s2, MWMAXNAMELEN) == 0`. -/
def sameName (s1 s2 : List Byte) : Bool :=
  cstr (s1.take mwMaxNameLen) == cstr (s2.take mwMaxNameLen)

def FdInfo.matches (gw : FdInfo) (domain instanceName : Option (List Byte)) : Bool :=
  domain.all (sameName gw.domain) && instanceName.all (sameName gw.instanceName)

/-- The loop of `find_gw`. -/
def findGwLoop (domain instanceName : Option (List Byte)) (list : FdList) :
    Nat → Option Nat → Option Nat → Except Fault (Option Nat)
  | _, none, candidate => .ok candidate
  | 0, some _, _ => .error (.list .endless)
  | turns + 1, some gw, candidate =>
      match list.cells gw with
      | none => .error (.list .wild)
      | some cell =>
          if cell.value.matches domain instanceName then
            match candidate with
            | none => findGwLoop domain instanceName list turns cell.next (some gw)
            | some old =>
                match list.cells old with
                | none => .error (.list .wild)
                | some oldCell =>
                    findGwLoop domain instanceName list turns cell.next
                      (some (if oldCell.value.lastused > cell.value.lastused then gw else old))
          else findGwLoop domain instanceName list turns cell.next candidate

def Mwbd.findGw (broker : Mwbd) (domain instanceName : Option (List Byte)) (now : Int) :
    Except Fault (Option Nat × Mwbd) :=
  if domain = none ∧ instanceName = none then .ok (none, broker)
  else
    (findGwLoop domain instanceName broker.gw broker.allocated broker.gw.head none).map
      fun candidate =>
        match candidate with
        | none => (none, broker)
        | some gw =>
            (some gw, { broker with gw := broker.gw.setValue gw fun info =>
              { info with lastused := now } })

/-- Why a message is rejected, with the field where there is one. -/
inductive Reason where
  | tooLong
  | undecodable
  | decoder
  | noInit
  | notRequest
  | unexpected
  | fieldMissing (field : List Byte)
  | illegalValue (field : List Byte)
  | noGatewayAvailable
deriving DecidableEq, Repr

/-- What goes out: a reject, a READY response about a gateway or the broker itself, or a descriptor
passed with a message, and what `sendmsg` said. -/
inductive Sent where
  | reject (fd : Int) (reason : Reason)
  | ready (fd : Int) (gw : Option FdInfo)
  | pass (gw : Int) (fd : Int) (message : List Byte) (rc : Int)
deriving DecidableEq, Repr

/-- What a call of `read_from_client` meets: the bytes that are read, unless `read` fails; the
memory from two bytes in front of `buffer` on, a fresh block for the decoder, the clock, and what
`sendmsg` returns for each gateway. `read` fills no more than the array. -/
structure ClientRead where
  read : Option (List Byte)
  memory : List Byte
  room : bufferStart + srbMessageMaxLen ≤ memory.length
  bounded : ∀ bytes, read = some bytes → bytes.length ≤ srbMessageMaxLen
  uninit : List Byte
  clock : Nat → Int
  sendfd : Int → Int

/-- The label `clean`. -/
def Mwbd.clean (broker : Mwbd) (fd : Int) : Except Fault Mwbd :=
  match broker.delC fd with
  | .error fault => .error fault
  | .ok broker => (broker.unmarkfd fd).map fun broker => broker.close fd

/-- The loop from the label `retry` on; `pseudofd` is `pseudoconn.fd`. -/
def Mwbd.handover (request : ClientRead) (fd : Int) (message : List Byte)
    (domain instanceName : Option (List Byte)) :
    Nat → Int → Mwbd → List Sent → Except Fault (Mwbd × List Sent)
  | 0, _, _, _ => .error (.list .endless)
  | turns + 1, pseudofd, broker, sent =>
      match broker.findGw domain instanceName (request.clock turns) with
      | .error fault => .error fault
      | .ok (none, broker) => .ok (broker, sent ++ [.reject pseudofd .noGatewayAvailable])
      | .ok (some gwinfo, broker) =>
          match broker.gw.cells gwinfo with
          | none => .error (.list .wild)
          | some cell =>
              let rc := request.sendfd cell.value.fd
              let sent := sent ++ [.pass cell.value.fd fd message rc]
              if rc ≠ message.length then
                match broker.delGw cell.value.fd with
                | .error fault => .error fault
                | .ok broker =>
                    broker.handover request fd message domain instanceName turns cell.value.fd sent
              else .ok (broker, sent)

/-- A READY response for each gateway, and one for the broker. -/
def readyResponses (list : FdList) (fd : Int) : Nat → Option Nat → Except Fault (List Sent)
  | _, none => .ok [.ready fd none]
  | 0, some _ => .error (.list .endless)
  | turns + 1, some gwinfo =>
      match list.cells gwinfo with
      | none => .error (.list .wild)
      | some cell => (readyResponses list fd turns cell.next).map fun later =>
          .ready fd (some cell.value) :: later

/-- A reject, and the label `clean`. -/
def Mwbd.rejectClient (broker : Mwbd) (fd : Int) (sent : List Sent) (reason : Reason) :
    Except Fault (Mwbd × List Sent) :=
  (broker.clean fd).map fun broker => (broker, sent ++ [.reject fd reason])

def Mwbd.takeMessage (broker : Mwbd) (fd : Int) (request : ClientRead) (message : List Byte)
    (srbmsg : SRBmessage) : Except Fault (Mwbd × List Sent) :=
  if srbmsg.commandString = srbReady ∧ srbmsg.marker = srbRequestMarker then
    (readyResponses broker.gw fd broker.allocated broker.gw.head).map fun sent => (broker, sent)
  else if srbmsg.commandString ≠ srbInit then broker.rejectClient fd [] .noInit
  else if srbmsg.marker ≠ srbRequestMarker then broker.rejectClient fd [] .notRequest
  else
    let domain := urlmapgetvalue srbmsg.map srbDomain
    let instanceName := urlmapgetvalue srbmsg.map srbInstance
    if instanceName = none ∧ domain = none then broker.rejectClient fd [] (.fieldMissing srbInstance)
    else
      match broker.handover request fd message domain instanceName (broker.allocated + 1) fd [] with
      | .error fault => .error fault
      | .ok (broker, sent) => (broker.clean fd).map fun broker => (broker, sent)

def ClientRead.decode (request : ClientRead) (bytes : List Byte) : DecodeResult :=
  mwSrbdecodemessage request.uninit (overwrite request.memory bufferStart bytes) bufferStart
    bytes.length

/-- What `buffer` holds of the message behind the decoder. -/
def ClientRead.message (request : ClientRead) (bytes : List Byte) : List Byte :=
  ((request.decode bytes).memory.drop bufferStart).take bytes.length

/-- `cinfo->lastused = time(NULL)`. -/
def Mwbd.useClient (broker : Mwbd) (cinfo : Nat) (now : Int) : Mwbd :=
  { broker with client := broker.client.setValue cinfo fun info => { info with lastused := now } }

/-- `cinfo` is the element of the client. -/
def Mwbd.readFromClient (broker : Mwbd) (fd : Int) (cinfo : Nat) (request : ClientRead) :
    Except Fault (Mwbd × List Sent) :=
  match request.read with
  | none => .ok (broker, [])
  | some bytes =>
      if bytes = [] then (broker.clean fd).map fun broker => (broker, [])
      else if bytes.length = srbMessageMaxLen then broker.rejectClient fd [] .tooLong
      else
        match (request.decode bytes).srbmsg with
        | none =>
            broker.rejectClient fd
              (if (request.decode bytes).reject = none then [] else [.reject fd .decoder])
              .undecodable
        | some srbmsg =>
            (broker.useClient cinfo (request.clock (broker.allocated + 1))).takeMessage fd request
              (request.message bytes) srbmsg

section

variable {domain instanceName : Option (List Byte)} {list : FdList}
  {contents : List (Nat × FdInfo)}

/-- The gateway that was used the longest time ago, of those that match; the first of them. -/
def chosen (domain instanceName : Option (List Byte)) (gws : List (Nat × FdInfo)) :
    Option (Nat × FdInfo) :=
  (gws.filter fun gw => gw.2.matches domain instanceName).foldl
    (List.argAux fun one two => one.2.lastused < two.2.lastused) none

theorem chosen_mem {gw : Nat × FdInfo} (isChosen : chosen domain instanceName contents = some gw) :
    gw ∈ contents ∧ gw.2.matches domain instanceName = true :=
  List.mem_filter.mp (List.argmin_mem isChosen)

variable (domain instanceName) in
/-- The loop goes on with the choice among the elements that are behind it. -/
theorem findGwLoop_holds {place : Option Nat} (candidate : Option (Nat × FdInfo))
    (isCandidate : ∀ old, candidate = some old → ∃ next, list.cells old.1 = some ⟨next, old.2⟩)
    (segment : ListSegment list.cells place contents none) {turns : Nat}
    (enough : contents.length ≤ turns) :
    findGwLoop domain instanceName list turns place (candidate.map Prod.fst) =
      .ok (((contents.filter fun gw => gw.2.matches domain instanceName).foldl
        (List.argAux fun one two => one.2.lastused < two.2.lastused) candidate).map Prod.fst) := by
  induction contents generalizing place turns candidate with
  | nil =>
      have isEnd : place = none := segment
      rw [isEnd, findGwLoop]
      rfl
  | cons entry rest ih =>
      obtain ⟨rfl, next, isCell, behind⟩ := segment
      cases turns with
      | zero => exact absurd enough (Nat.not_succ_le_zero _)
      | succ turns =>
          have shorter : rest.length ≤ turns := Nat.le_of_succ_le_succ enough
          rw [findGwLoop, isCell]
          dsimp only
          split_ifs with isMatch
          · rw [List.filter_cons_of_pos (by exact isMatch), List.foldl_cons]
            cases candidate with
            | none =>
                refine ih (some entry) ?_ behind shorter
                simp [isCell]
            | some old =>
                obtain ⟨oldNext, oldCell⟩ := isCandidate old rfl
                rw [Option.map_some]
                dsimp only
                rw [oldCell]
                dsimp only [List.argAux]
                split_ifs with older
                · refine ih (some entry) ?_ behind shorter
                  simp [isCell]
                · exact ih (some old) isCandidate behind shorter
          · simp_all [List.filter_cons_of_neg]

variable {broker : Mwbd} {gws clients : List (Nat × FdInfo)}

/-- `find_gw` finds the gateway that is chosen, and it is used now. -/
theorem Listed.findGw (listed : Listed broker gws clients)
    (named : ¬(domain = none ∧ instanceName = none)) (now : Int) :
    broker.findGw domain instanceName now =
      .ok (match chosen domain instanceName gws with
        | none => (none, broker)
        | some gw => (some gw.1, { broker with gw := broker.gw.setValue gw.1 fun info =>
            { info with lastused := now } })) := by
  have enough : gws.length ≤ broker.allocated := (Nat.le_add_right _ _).trans listed.allocated
  have noCandidate : ∀ old, (none : Option (Nat × FdInfo)) = some old →
      ∃ next, broker.gw.cells old.1 = some ⟨next, old.2⟩ := by
    intro old impossible
    cases impossible
  have found := findGwLoop_holds domain instanceName none noCandidate listed.gw.segment enough
  rw [Option.map_none] at found
  rw [Mwbd.findGw, if_neg named, found]
  change Except.ok _ = _
  grind [chosen]

theorem ClientRead.length_message (request : ClientRead) {bytes : List Byte}
    (short : bytes.length < srbMessageMaxLen) :
    (request.message bytes).length = bytes.length := by
  have room := request.room
  have total : (overwrite request.memory bufferStart bytes).length = request.memory.length := by
    grind [List.length_append, List.length_take, List.length_drop, overwrite]
  have kept := (mwSrbdecodemessage_frame request.uninit
    (overwrite request.memory bufferStart bytes) (Nat.le_refl bufferStart)
    (Nat.lt_succ_self (bufferStart + bytes.length))).1
  grind [ClientRead.message, List.length_take, List.length_drop, ClientRead.decode]

/-- A message that is passed on is what was read. -/
theorem ClientRead.message_line (request : ClientRead) {text : List Byte}
    (short : (text ++ srbMessageBoundry).length < srbMessageMaxLen) {srbmsg : SRBmessage}
    (decodes : (request.decode (text ++ srbMessageBoundry)).srbmsg = some srbmsg) :
    request.message (text ++ srbMessageBoundry) = text ++ srbMessageBoundry := by
  have room := request.room
  have margin : (request.memory.take bufferStart).length = bufferStart := by
    grind
  have behindMessage : request.memory.drop (bufferStart + (text ++ srbMessageBoundry).length) ≠
      [] := by
    rw [ne_eq, List.drop_eq_nil_iff]
    omega
  obtain ⟨following, behind, isBehind⟩ := List.exists_cons_of_ne_nil behindMessage
  unfold ClientRead.message ClientRead.decode overwrite at *
  rw [isBehind] at decodes ⊢
  have atMargin : (mwSrbdecodemessage request.uninit (request.memory.take bufferStart ++
      (text ++ srbMessageBoundry) ++ following :: behind) (request.memory.take bufferStart).length
      (text ++ srbMessageBoundry).length).srbmsg = some srbmsg := by
    rw [margin]
    exact decodes
  have restored := mwSrbdecodemessage_restores _ _ _ _ atMargin
  rw [margin] at restored
  rw [restored, List.drop_left' margin, List.take_left]

variable {request : ClientRead} {fd : Int} {message : List Byte}

variable (request fd message) in
theorem Listed.handover_none (listed : Listed broker gws clients)
    (named : ¬(domain = none ∧ instanceName = none))
    (noneMatches : chosen domain instanceName gws = none) (turns : Nat) (pseudofd : Int)
    (sent : List Sent) :
    broker.handover request fd message domain instanceName (turns + 1) pseudofd sent =
      .ok (broker, sent ++ [.reject pseudofd .noGatewayAvailable]) := by
  rw [Mwbd.handover, listed.findGw named, noneMatches]

variable (request fd message) in
/-- The gateway that is chosen takes the client. -/
theorem Listed.handover_taken (listed : Listed broker gws clients)
    (named : ¬(domain = none ∧ instanceName = none)) {gw : Nat × FdInfo}
    (isChosen : chosen domain instanceName gws = some gw)
    (takes : request.sendfd gw.2.fd = message.length) (turns : Nat) (pseudofd : Int)
    (sent : List Sent) :
    ∃ list others, Listed { broker with gw := list } others clients ∧
      fdsOf others = fdsOf gws ∧
      broker.handover request fd message domain instanceName (turns + 1) pseudofd sent =
        .ok ({ broker with gw := list }, sent ++ [.pass gw.2.fd fd message message.length]) := by
  obtain ⟨front, back, rfl⟩ := List.append_of_mem (chosen_mem isChosen).1
  have listedUsed := listed.setGw (fun info => { info with lastused := request.clock turns }) rfl
  obtain ⟨next, isCell, _⟩ := listedUsed.gw.cell
  refine ⟨_, _, listedUsed, by simp only [fdsOf, List.map_append, List.map_cons], ?_⟩
  simp_all [Mwbd.handover, listed.findGw]

variable (request fd message) in
/-- The gateway that is chosen fails: it is taken out, and the next one is tried. -/
theorem Listed.handover_failed (listed : Listed broker gws clients)
    (named : ¬(domain = none ∧ instanceName = none)) {gw : Nat × FdInfo}
    (isChosen : chosen domain instanceName gws = some gw)
    (fails : request.sendfd gw.2.fd ≠ message.length) (turns : Nat) (pseudofd : Int)
    (sent : List Sent) :
    ∃ list others, Listed { broker with gw := list } others clients ∧
      others.length < gws.length ∧
      (∀ fd, fd ∈ fdsOf others ↔ fd ∈ fdsOf gws ∧ fd ≠ gw.2.fd) ∧
      broker.handover request fd message domain instanceName (turns + 1) pseudofd sent =
        Mwbd.handover request fd message domain instanceName turns gw.2.fd
          { broker with gw := list } (sent ++ [.pass gw.2.fd fd message (request.sendfd gw.2.fd)]) := by
  obtain ⟨front, back, rfl⟩ := List.append_of_mem (chosen_mem isChosen).1
  have listedUsed := listed.setGw (fun info => { info with lastused := request.clock turns }) rfl
  obtain ⟨next, isCell, _⟩ := listedUsed.gw.cell
  obtain ⟨list, deleted, holds⟩ := listedUsed.deleteGw
  have shorter : (front ++ back).length < (front ++ gw :: back).length := by
    simp
  have distinct := listed.distinct
  rw [fdsOf, List.map_append] at distinct
  refine ⟨list, front ++ back, listedUsed.withoutGw holds, shorter,
    mem_fdsOf_without (List.nodup_append.mp distinct).1, ?_⟩
  rw [Mwbd.handover, listed.findGw named, isChosen]
  dsimp only
  rw [isCell]
  dsimp only
  rw [if_pos fails, Mwbd.delGw, deleted]
  rfl

variable (request fd message) in
/-- The loop ends, and only the gateways are changed by it. -/
theorem Listed.handover_ends (listed : Listed broker gws clients)
    (named : ¬(domain = none ∧ instanceName = none)) {turns : Nat} (enough : gws.length < turns)
    (pseudofd : Int) (sent : List Sent) :
    ∃ list others later, Listed { broker with gw := list } others clients ∧
      (∀ other ∈ fdsOf others, other ∈ fdsOf gws) ∧
      broker.handover request fd message domain instanceName turns pseudofd sent =
        .ok ({ broker with gw := list }, sent ++ later) := by
  induction turns generalizing broker gws pseudofd sent with
  | zero => exact absurd enough (Nat.not_lt_zero _)
  | succ turns ih =>
      cases isChosen : chosen domain instanceName gws with
      | none =>
          exact ⟨broker.gw, gws, _, listed, fun _ member => member,
            listed.handover_none _ _ _ named isChosen turns _ _⟩
      | some gw =>
          by_cases takes : request.sendfd gw.2.fd = message.length
          · obtain ⟨list, others, listedAfter, sameFds, result⟩ :=
              listed.handover_taken _ fd _ named isChosen takes turns pseudofd sent
            exact ⟨list, others, _, listedAfter, fun _ member => sameFds ▸ member, result⟩
          · obtain ⟨rest, others, listedRest, shorter, without, goesOn⟩ :=
              listed.handover_failed _ fd _ named isChosen takes turns pseudofd sent
            obtain ⟨list, left, later, listedAfter, fewer, result⟩ :=
              ih listedRest (by omega) gw.2.fd
                (sent ++ [.pass gw.2.fd fd message (request.sendfd gw.2.fd)])
            grind

variable {front back : List (Nat × FdInfo)} {entry : Nat × FdInfo}

theorem Listed.useClient (listed : Listed broker gws (front ++ entry :: back)) (now : Int) :
    Listed (broker.useClient entry.1 now) gws
      (front ++ (entry.1, { entry.2 with lastused := now }) :: back) :=
  listed.setClient (fun info => { info with lastused := now }) rfl

theorem Listed.clean (listed : Listed broker gws (front ++ entry :: back)) :
    ∃ after, broker.clean entry.2.fd = .ok after ∧ Listed after gws (front ++ back) ∧
      after.openFdset = Function.update broker.openFdset entry.2.fd false ∧
      after.opened = Function.update broker.opened entry.2.fd false ∧
      (Highest broker.openFdset broker.maxfd → Highest after.openFdset after.maxfd) := by
  obtain ⟨list, deleted, holds⟩ := listed.deleteClient
  obtain ⟨maxfd, unmarked, highest⟩ := Mwbd.unmarkfd_ok { broker with client := list }
    (listed.inSet entry (by simp))
  refine ⟨_, ?_, (listed.withoutClient holds).unused listed.clients_apart maxfd, rfl, rfl, highest⟩
  rw [Mwbd.clean, Mwbd.delC, deleted]
  change Except.map _ (Mwbd.unmarkfd { broker with client := list } entry.2.fd) = _
  rw [unmarked]
  rfl

/-- What reaches the other side: everything but a descriptor that was refused. -/
def Sent.arrives : Sent → Bool
  | .pass _ _ _ rc => rc ≠ -1
  | _ => true

/-- One gateway that matches has the descriptor with the message, or the client has a reject; the
client is gone, and so is each gateway that failed. -/
structure HandedOnce (gws : List (Nat × FdInfo)) (fd : Int) (message : List Byte)
    (domain instanceName : Option (List Byte)) (after : Mwbd) (sent : List Sent) : Prop where
  outcome : (∃ gw ∈ gws, gw.2.matches domain instanceName = true ∧
      sent.filter Sent.arrives = [.pass gw.2.fd fd message message.length]) ∨
    sent.filter Sent.arrives = [.reject fd .noGatewayAvailable]
  removed : ∃ clients, after.client.Holds clients ∧ ∀ client ∈ clients, client.2.fd ≠ fd
  closed : after.openFdset fd = false ∧ after.opened fd = false
  broken : ∀ gw taken rc, Sent.pass gw fd taken rc ∈ sent → rc ≠ message.length →
    (∃ left, after.gw.Holds left ∧ ∀ other ∈ left, other.2.fd ≠ gw) ∧
      after.openFdset gw = false ∧ after.opened gw = false

/-- An SRB INIT with a domain or an instance, as it is read and decoded. -/
structure InitRequest (request : ClientRead) (bytes : List Byte) (srbmsg : SRBmessage) :
    Prop where
  read : request.read = some bytes
  nonempty : bytes ≠ []
  short : bytes.length < srbMessageMaxLen
  decodes : (request.decode bytes).srbmsg = some srbmsg
  command : srbmsg.commandString = srbInit
  marker : srbmsg.marker = srbRequestMarker
  named : ¬(urlmapgetvalue srbmsg.map srbInstance = none ∧
    urlmapgetvalue srbmsg.map srbDomain = none)

/-- An SRB INIT goes to the loop. -/
theorem InitRequest.readFromClient {bytes : List Byte} {srbmsg : SRBmessage}
    (isRequest : InitRequest request bytes srbmsg) (cinfo : Nat) :
    broker.readFromClient fd cinfo request =
      match (broker.useClient cinfo (request.clock (broker.allocated + 1))).handover request fd
          (request.message bytes) (urlmapgetvalue srbmsg.map srbDomain)
          (urlmapgetvalue srbmsg.map srbInstance) (broker.allocated + 1) fd [] with
      | .error fault => .error fault
      | .ok (broker, sent) => (broker.clean fd).map fun broker => (broker, sent) := by
  have notReady : srbInit ≠ srbReady := by decide
  rw [Mwbd.readFromClient, isRequest.read]
  dsimp only
  rw [if_neg isRequest.nonempty, if_neg isRequest.short.ne, isRequest.decodes]
  dsimp only
  rw [Mwbd.takeMessage, isRequest.command, isRequest.marker,
    if_neg (not_and_of_not_left _ notReady), if_neg (not_not_intro rfl),
    if_neg (not_not_intro rfl)]
  dsimp only
  rw [if_neg isRequest.named]
  rfl

/-- Behind the loop the client is gone, and the other descriptors are as they were. -/
theorem InitRequest.readFromClient_ok {bytes : List Byte} {srbmsg : SRBmessage}
    (isRequest : InitRequest request bytes srbmsg) {list : FdList} {sent : List Sent}
    (handed : (broker.useClient entry.1 (request.clock (broker.allocated + 1))).handover request
      entry.2.fd (request.message bytes) (urlmapgetvalue srbmsg.map srbDomain)
      (urlmapgetvalue srbmsg.map srbInstance) (broker.allocated + 1) entry.2.fd [] =
        .ok ({ broker.useClient entry.1 (request.clock (broker.allocated + 1)) with gw := list },
          sent))
    {others : List (Nat × FdInfo)}
    (listedAfter : Listed
      { broker.useClient entry.1 (request.clock (broker.allocated + 1)) with gw := list } others
      (front ++ (entry.1, { entry.2 with lastused := request.clock (broker.allocated + 1) }) ::
        back)) :
    ∃ after, broker.readFromClient entry.2.fd entry.1 request = .ok (after, sent) ∧
      Listed after others (front ++ back) ∧
      after.openFdset = Function.update broker.openFdset entry.2.fd false ∧
      after.opened = Function.update broker.opened entry.2.fd false ∧
      (Highest broker.openFdset broker.maxfd → Highest after.openFdset after.maxfd) := by
  obtain ⟨after, cleaned, listedCleaned, marks, opens, highest⟩ := listedAfter.clean
  rw [isRequest.readFromClient, handed]
  dsimp only at cleaned ⊢
  rw [cleaned]
  exact ⟨after, rfl, listedCleaned, marks, opens, highest⟩

section

variable {text : List Byte} {srbmsg : SRBmessage}

/-- Where no gateway matches, the client is rejected. -/
theorem InitRequest.rejected (isRequest : InitRequest request (text ++ srbMessageBoundry) srbmsg)
    (listed : Listed broker gws (front ++ entry :: back))
    (isChosen : chosen (urlmapgetvalue srbmsg.map srbDomain)
      (urlmapgetvalue srbmsg.map srbInstance) gws = none) :
    ∃ after sent, broker.readFromClient entry.2.fd entry.1 request = .ok (after, sent) ∧
      HandedOnce gws entry.2.fd (text ++ srbMessageBoundry) (urlmapgetvalue srbmsg.map srbDomain)
        (urlmapgetvalue srbmsg.map srbInstance) after sent := by
  have named := mt And.symm isRequest.named
  have listedUsed := listed.useClient (request.clock (broker.allocated + 1))
  have handed := listedUsed.handover_none request entry.2.fd
    (request.message (text ++ srbMessageBoundry)) named isChosen broker.allocated entry.2.fd []
  obtain ⟨after, result, listedAfter, marks, opens, _⟩ :=
    isRequest.readFromClient_ok handed listedUsed
  refine ⟨after, _, result, Or.inr rfl, ⟨_, listedAfter.client, listed.clients_others⟩, ?_, ?_⟩
  · simp [marks, opens]
  · simp

/-- Where the gateway that is chosen takes it, the client is handed over. -/
theorem InitRequest.taken (isRequest : InitRequest request (text ++ srbMessageBoundry) srbmsg)
    (listed : Listed broker gws (front ++ entry :: back)) {gw : Nat × FdInfo}
    (isChosen : chosen (urlmapgetvalue srbmsg.map srbDomain)
      (urlmapgetvalue srbmsg.map srbInstance) gws = some gw)
    (takes : request.sendfd gw.2.fd = (text ++ srbMessageBoundry).length) :
    ∃ after sent, broker.readFromClient entry.2.fd entry.1 request = .ok (after, sent) ∧
      HandedOnce gws entry.2.fd (text ++ srbMessageBoundry) (urlmapgetvalue srbmsg.map srbDomain)
        (urlmapgetvalue srbmsg.map srbInstance) after sent := by
  have named := mt And.symm isRequest.named
  have listedUsed := listed.useClient (request.clock (broker.allocated + 1))
  have message := request.message_line isRequest.short isRequest.decodes
  obtain ⟨list, left, listedAfter, _, handed⟩ := listedUsed.handover_taken request entry.2.fd
    (text ++ srbMessageBoundry) named isChosen takes broker.allocated entry.2.fd []
  rw [← message] at handed
  obtain ⟨after, result, listedCleaned, marks, opens, _⟩ :=
    isRequest.readFromClient_ok handed listedAfter
  rw [message] at result
  refine ⟨after, _, result, Or.inl ⟨gw, (chosen_mem isChosen).1, (chosen_mem isChosen).2, ?_⟩,
    ⟨_, listedCleaned.client, listed.clients_others⟩, ?_, ?_⟩
  · rfl
  · simp [marks, opens]
  · simp_all

/-- Where the gateway that is chosen fails, it stays open. -/
theorem InitRequest.failed (isRequest : InitRequest request (text ++ srbMessageBoundry) srbmsg)
    (listed : Listed broker gws (front ++ entry :: back)) {gw : Nat × FdInfo}
    (isChosen : chosen (urlmapgetvalue srbmsg.map srbDomain)
      (urlmapgetvalue srbmsg.map srbInstance) gws = some gw)
    (fails : request.sendfd gw.2.fd ≠ (text ++ srbMessageBoundry).length) :
    ∃ after sent, broker.readFromClient entry.2.fd entry.1 request = .ok (after, sent) ∧
      ¬HandedOnce gws entry.2.fd (text ++ srbMessageBoundry) (urlmapgetvalue srbmsg.map srbDomain)
        (urlmapgetvalue srbmsg.map srbInstance) after sent := by
  have named := mt And.symm isRequest.named
  have listedUsed := listed.useClient (request.clock (broker.allocated + 1))
  have message := request.message_line isRequest.short isRequest.decodes
  obtain ⟨first, others, listedFirst, shorter, _, goesOn⟩ := listedUsed.handover_failed request
    entry.2.fd (text ++ srbMessageBoundry) named isChosen fails broker.allocated entry.2.fd []
  have enough : others.length < broker.allocated :=
    shorter.trans_le ((Nat.le_add_right _ _).trans listed.allocated)
  obtain ⟨list, left, later, listedAfter, _, handed⟩ := listedFirst.handover_ends request
    entry.2.fd (text ++ srbMessageBoundry) named enough gw.2.fd
    [.pass gw.2.fd entry.2.fd (text ++ srbMessageBoundry) (request.sendfd gw.2.fd)]
  have handedOn := goesOn.trans handed
  rw [← message] at handedOn
  obtain ⟨after, result, _, _, opens, _⟩ := isRequest.readFromClient_ok handedOn listedAfter
  rw [message] at result
  refine ⟨after, _, result, ?_⟩
  intro once
  have isClosed := (once.broken gw.2.fd _ _ (List.mem_append_left _ List.mem_cons_self) fails).2.2
  have member := (chosen_mem isChosen).1
  rw [opens, Function.update_of_ne (listed.clients_apart gw (List.mem_append_left _ member)),
    listed.isOpen gw (List.mem_append_left _ member)] at isClosed
  cases isClosed

end

/-- A client is handed over exactly once, or rejected, just if no gateway matches or the one that is
chosen first takes it. -/
theorem client_handed_once_iff (listed : Listed broker gws clients) {client : Nat × FdInfo}
    (isClient : client ∈ clients) {text : List Byte} {srbmsg : SRBmessage}
    (isRequest : InitRequest request (text ++ srbMessageBoundry) srbmsg) :
    ∃ after sent, broker.readFromClient client.2.fd client.1 request = .ok (after, sent) ∧
      (HandedOnce gws client.2.fd (text ++ srbMessageBoundry) (urlmapgetvalue srbmsg.map srbDomain)
          (urlmapgetvalue srbmsg.map srbInstance) after sent ↔
        ∀ gw, chosen (urlmapgetvalue srbmsg.map srbDomain) (urlmapgetvalue srbmsg.map srbInstance)
          gws = some gw → request.sendfd gw.2.fd = (text ++ srbMessageBoundry).length) := by
  obtain ⟨front, back, rfl⟩ := List.append_of_mem isClient
  cases isChosen : chosen (urlmapgetvalue srbmsg.map srbDomain)
      (urlmapgetvalue srbmsg.map srbInstance) gws with
  | none =>
      obtain ⟨after, sent, result, once⟩ := isRequest.rejected listed isChosen
      refine ⟨after, sent, result, ?_⟩
      constructor
      · simp
      · simp [once]
  | some gw =>
      by_cases takes : request.sendfd gw.2.fd = (text ++ srbMessageBoundry).length
      · obtain ⟨after, sent, result, once⟩ := isRequest.taken listed isChosen takes
        refine ⟨after, sent, result, ?_⟩
        constructor
        · simp [takes]
        · simp [once]
      · obtain ⟨after, sent, result, notOnce⟩ := isRequest.failed listed isChosen takes
        refine ⟨after, sent, result, ?_⟩
        constructor
        · simp [notOnce]
        · simp_all

/-- One gateway, of the domain `d`, and one client. -/
def oneOfEach : Mwbd where
  openFdset fd := fd == 7 || fd == 9
  maxfd := 9
  gw :=
    { head := some 0
      tail := some 0
      cells := fun place =>
        if place = 0 then some ⟨none, ⟨7, 100, 1, 0, ascii "d".toList, ascii "i".toList, none⟩⟩
        else none }
  client :=
    { head := some 1
      tail := some 1
      cells := fun place =>
        if place = 1 then some ⟨none, ⟨9, 100, 0, 0, [], [], none⟩⟩ else none }
  allocated := 2
  opened fd := fd == 7 || fd == 9

theorem oneOfEach_listed : Listed oneOfEach
    [(0, ⟨7, 100, 1, 0, ascii "d".toList, ascii "i".toList, none⟩)]
    [(1, ⟨9, 100, 0, 0, [], [], none⟩)] := by
  constructor
  · exact ⟨⟨rfl, none, rfl, rfl⟩, rfl⟩
  · exact ⟨⟨rfl, none, rfl, rfl⟩, rfl⟩
  · exact Nat.le_refl 2
  · decide
  · decide
  · decide
  · decide

/-- The client asks for the domain, and `sendmsg` returns `rc`. -/
def askForDomain (rc : Int) : ClientRead where
  read := some (ascii "SRB INIT?DOMAIN=d".toList ++ srbMessageBoundry)
  memory := List.replicate (bufferStart + srbMessageMaxLen) 0
  room := by rw [List.length_replicate]
  bounded := by
    intro bytes same
    cases same
    decide
  uninit := []
  clock _ := 101
  sendfd _ := rc

theorem askForDomain_isRequest (rc : Int) : InitRequest (askForDomain rc)
    (ascii "SRB INIT?DOMAIN=d".toList ++ srbMessageBoundry)
    ⟨ascii "SRB INIT".toList, srbRequestMarker, [⟨srbDomain, some (ascii "d".toList)⟩]⟩ := by
  constructor
  · rfl
  · decide
  · decide
  · change ((askForDomain 0).decode _).srbmsg = _
    decide +kernel
  · rfl
  · rfl
  · decide

/-- A gateway that takes the client. -/
theorem client_handed_once_iff_taken :
    chosen (some (ascii "d".toList)) none
        [(0, ⟨7, 100, 1, 0, ascii "d".toList, ascii "i".toList, none⟩)] =
      some (0, ⟨7, 100, 1, 0, ascii "d".toList, ascii "i".toList, none⟩) ∧
    ∃ after sent, oneOfEach.readFromClient 9 1 (askForDomain 19) = .ok (after, sent) ∧
      HandedOnce [(0, ⟨7, 100, 1, 0, ascii "d".toList, ascii "i".toList, none⟩)] 9
        (ascii "SRB INIT?DOMAIN=d".toList ++ srbMessageBoundry) (some (ascii "d".toList)) none
        after sent := by
  refine ⟨by decide, ?_⟩
  have isClient : ((1, ⟨9, 100, 0, 0, [], [], none⟩) : Nat × FdInfo) ∈
      [(1, ⟨9, 100, 0, 0, [], [], none⟩)] :=
    List.mem_cons_self
  obtain ⟨after, sent, result, once⟩ :=
    client_handed_once_iff oneOfEach_listed isClient (askForDomain_isRequest 19)
  exact ⟨after, sent, result, once.mpr fun _ _ => rfl⟩

/-- The gateway has gone: it stays open and marked, and the reject is sent to it. -/
theorem failed_gateway_rejected :
    (oneOfEach.readFromClient 9 1 (askForDomain (-1))).map Prod.snd =
      .ok [.pass 7 9 (ascii "SRB INIT?DOMAIN=d".toList ++ srbMessageBoundry) (-1),
        .reject 7 .noGatewayAvailable] ∧
    ¬∃ after sent, oneOfEach.readFromClient 9 1 (askForDomain (-1)) = .ok (after, sent) ∧
      HandedOnce [(0, ⟨7, 100, 1, 0, ascii "d".toList, ascii "i".toList, none⟩)] 9
        (ascii "SRB INIT?DOMAIN=d".toList ++ srbMessageBoundry) (some (ascii "d".toList)) none
        after sent := by
  have sends : (oneOfEach.readFromClient 9 1 (askForDomain (-1))).map Prod.snd =
      .ok [.pass 7 9 (ascii "SRB INIT?DOMAIN=d".toList ++ srbMessageBoundry) (-1),
        .reject 7 .noGatewayAvailable] := by
    decide +kernel
  refine ⟨sends, ?_⟩
  intro ⟨after, sent, result, once⟩
  rw [result] at sends
  cases sends
  rcases once.outcome with ⟨_, _, _, passed⟩ | rejected
  · cases passed
  · cases rejected

end

end MidWay.Broker

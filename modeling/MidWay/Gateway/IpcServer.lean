import MidWay.Gateway.IpcCalls
import MidWay.Gateway.ServiceTable
import MidWay.Gateway.SrbServer

/-!
Contract: how the gateway handles the call messages on its own IPC queue, as
`ipcserver.c` does it.

A reply of a server goes back to the SRB caller on the connection the call came from.
A call goes out to the peer that provides the service. When there is no such peer the
message itself goes back, still as a call.

Owns: `mwErrno2srbrc`, `doSvcreply`, `doSvccall`, and what they send.
-/

namespace MidWay.Gateway

open MidWay.CLib MidWay.Url MidWay.Srb

def srbProtoNoSuchService : Int := 430
def srbProtoServiceFailed : Int := 431
def srbProtoGatewayError : Int := 500

def mwErrno2srbrc (err : Int) : Int :=
  let err := if err < 0 then -err else err
  if err = Errno.ENOENT.code then srbProtoNoSuchService
  else if err = Errno.EFAULT.code then srbProtoServiceFailed
  else if err = Errno.ENOTCONN.code then srbProtoGatewayError
  else 600 + err

def replyCode (returncode : Int) : Int :=
  if returncode = mwSuccess ∨ returncode = mwFail ∨ returncode = mwMore then returncode
  else mwErrno2srbrc returncode

/-- The messages of the SRB reply, from the request it is a reply to. -/
def replyMessages (limit : Nat) (map : Urlmap) (cmsg : Call) : List SRBmessage :=
  mwSrbsendcallreply limit ⟨srbSvccall, srbResponseMarker, urlmapdel map srbDatatotal⟩
    (if cmsg.data = [] then none else some cmsg.data) cmsg.appreturncode
    (replyCode cmsg.returncode)

/-- The data messages that go out: one that does not is left out. -/
def sentData (written : Nat → Int) : List SRBmessage → List SRBmessage
  | [] => []
  | srbmsg :: rest =>
      let sent := sentData (fun turn => written (turn + 1)) rest
      if mwSrbsendmessage (written 0) srbmsg < 0 then sent else srbmsg :: sent

/-- The messages that go out: none when the first does not. -/
def sentMessages (written : Nat → Int) : List SRBmessage → List SRBmessage
  | [] => []
  | srbmsg :: rest =>
      if mwSrbsendmessage (written 0) srbmsg < 0 then []
      else srbmsg :: sentData (fun turn => written (turn + 1)) rest

/-- What the gateway does with a message: the store afterwards, the SRB messages that go
out with their connection, and the IPC messages it puts on queues. -/
structure Response where
  store : CallStore
  written : List (Connection × SRBmessage)
  posts : List (UInt32 × Call)

section

variable (limit : Nat) (outlet : Outlet) (store : CallStore)

/-- A reply no call waits for is dropped, and so is a reply to a call that wants none. -/
def doSvcreply (cmsg : Call) : Except StoreFailure Response :=
  match store.storeIPCReply cmsg with
  | .error failure => .error failure
  | .ok (none, store) => .ok ⟨store, [], []⟩
  | .ok (some (conn, map), store) =>
      if cmsg.flags &&& mwNoreply ≠ 0 then .ok ⟨store, [], []⟩
      else
        .ok ⟨store, (sentMessages outlet.written (replyMessages limit map cmsg)).map
          fun srbmsg => (conn, srbmsg), []⟩

/-- The messages of a call that go out to a peer. -/
def peerMessages (handle : UInt32) (cmsg : Call) : List SRBmessage :=
  match mwGetbufferFromCall outlet cmsg with
  | .error _ => []
  | .ok data => sentMessages outlet.written (outlet.messages handle cmsg data)

/-- The message that goes back when there is no import is still a call. -/
def doSvccall (domain : Domain) (importlist : List Import) (cmsg : Call) :
    Except StoreFailure Response :=
  match impfindpeerconn importlist cmsg.service cmsg.svcid with
  | none =>
      let cmsg := { cmsg with returncode := -Errno.ENOENT.code }
      if cmsg.gwid ≠ unassigned then
        if cmsg.gwid = domain.myGatewayid then doSvcreply limit outlet store cmsg
        else .ok ⟨store, [], [(cmsg.gwid, cmsg)]⟩
      else .ok ⟨store, [], [(cmsg.cltid, cmsg)]⟩
  | some conn =>
      .ok ⟨(store.storeIPCCall domain outlet cmsg conn).store,
        (peerMessages outlet (store.nextIpchdl domain) cmsg).map fun srbmsg => (conn, srbmsg), []⟩

end

/-- The map has a pair with this key, in either case, and this value. -/
def Carries (map : Urlmap) (key value : List Byte) : Prop :=
  ∃ entry ∈ map, strcaseeq key entry.key = true ∧ entry.value = some value

theorem urlmapnset_carries {map : Urlmap} {key : List Byte} (value : List Byte)
    (present : ∃ entry ∈ map, strcaseeq key entry.key = true) :
    ∃ changed, urlmapnset map key (some value) = some changed ∧ Carries changed key value := by
  induction map with
  | nil =>
      simp_all
  | cons entry rest ih =>
      rw [urlmapnset]
      by_cases here : strcaseeq key entry.key = true
      · rw [if_pos here]
        exact ⟨_, rfl, _, List.mem_cons_self, here, rfl⟩
      · rw [if_neg here]
        have later : ∃ entry ∈ rest, strcaseeq key entry.key = true := by
          simp_all
        rcases ih later with ⟨changed, isChanged, other, member, isKey, isValue⟩
        refine ⟨entry :: changed, ?_, other, List.mem_cons_of_mem _ member, isKey, isValue⟩
        rw [isChanged]
        rfl

theorem mwSrbNsetfield_carries (srbmsg : SRBmessage) (key value : List Byte) :
    Carries (mwSrbNsetfield srbmsg key value).map key value := by
  rw [mwSrbNsetfield, urlmapnadd]
  by_cases present : (srbmsg.map.any fun entry => key == entry.key) = true
  · rcases List.any_eq_true.mp present with ⟨entry, member, isKey⟩
    have isPresent : ∃ entry ∈ srbmsg.map, strcaseeq key entry.key = true := by
      grind [strcaseeq_self]
    rcases urlmapnset_carries value isPresent with ⟨changed, isChanged, carries⟩
    simp [present, if_true, isChanged, Option.getD_some, carries]
  · simp only [present]
    exact ⟨⟨key, some value⟩, List.mem_append_right _ List.mem_cons_self, strcaseeq_self key, rfl⟩

/-- Pairs with another key stay. -/
theorem mem_urlmapdel {map : Urlmap} {key : List Byte} {entry : UrlmapEntry}
    (member : entry ∈ map) (other : strcaseeq key entry.key = false) :
    entry ∈ urlmapdel map key := by
  rw [urlmapdel]
  cases isLast : lastIndex map key with
  | none => exact member
  | some index =>
      cases ending : map.getLast? with
      | none => exact member
      | some last =>
          rcases lastIndex_some isLast with ⟨removed, isRemoved, isKey⟩
          rcases List.mem_iff_getElem?.mp member with ⟨place, isPlace⟩
          have different : place ≠ index := by
            grind
          have placeBelow := (List.getElem?_eq_some_iff.mp isPlace).1
          have indexBelow := (List.getElem?_eq_some_iff.mp isRemoved).1
          rw [List.getLast?_eq_getElem?] at ending
          by_cases atEnd : place = map.length - 1
          · -- the last pair takes the place of the removed one
            have isLastPair : last = entry := by
              rw [atEnd, ending] at isPlace
              exact Option.some.inj isPlace
            apply List.mem_iff_getElem?.mpr
            refine ⟨index, ?_⟩
            grind
          · apply List.mem_iff_getElem?.mpr
            refine ⟨place, ?_⟩
            grind

theorem strcaseeq_apart {left right key : List Byte} (apart : strcaseeq left right = false)
    (isLeft : strcaseeq left key = true) : strcaseeq right key = false := by
  rw [strcaseeq, beq_iff_eq] at isLeft
  simp_all [strcaseeq, isLeft, apart, Bool.beq_comm]

theorem Carries.urlmapdel {map : Urlmap} {key value removed : List Byte}
    (carries : Carries map key value) (apart : strcaseeq key removed = false) :
    Carries (urlmapdel map removed) key value := by
  rcases carries with ⟨entry, member, isKey, isValue⟩
  exact ⟨entry, mem_urlmapdel member (strcaseeq_apart apart isKey), isKey, isValue⟩

theorem mwSrbNsetfield_head (srbmsg : SRBmessage) (key value : List Byte) :
    (mwSrbNsetfield srbmsg key value).marker = srbmsg.marker ∧
      (mwSrbNsetfield srbmsg key value).command = srbmsg.command := by
  grind [mwSrbNsetfield]

theorem mwSrbDelfield_head (srbmsg : SRBmessage) (key : List Byte) :
    (mwSrbDelfield srbmsg key).marker = srbmsg.marker ∧
      (mwSrbDelfield srbmsg key).command = srbmsg.command :=
  ⟨rfl, rfl⟩

/-- The reply, before the fields of the request that do not belong in it are taken out. -/
def codedReply (srbmsg : SRBmessage) (apprcode rcode : Int) : SRBmessage :=
  mwSrbSetfieldi (mwSrbSetfieldi (mwSrbDelfield (mwSrbDelfield srbmsg srbApplicationrc)
    srbReturncode) srbApplicationrc apprcode) srbReturncode rcode

theorem codedReply_head (srbmsg : SRBmessage) (apprcode rcode : Int) :
    (codedReply srbmsg apprcode rcode).marker = srbmsg.marker ∧
      (codedReply srbmsg apprcode rcode).command = srbmsg.command := by
  rw [codedReply, mwSrbSetfieldi, mwSrbSetfieldi]
  constructor
  · rw [(mwSrbNsetfield_head _ _ _).1, (mwSrbNsetfield_head _ _ _).1]
    rfl
  · rw [(mwSrbNsetfield_head _ _ _).2, (mwSrbNsetfield_head _ _ _).2]
    rfl

theorem codedReply_carries (srbmsg : SRBmessage) (apprcode rcode : Int) :
    Carries (mwSrbDelfield (mwSrbDelfield (codedReply srbmsg apprcode rcode) srbNoreply)
      srbMultiple).map srbReturncode (sprintfD rcode) := by
  have coded : Carries (codedReply srbmsg apprcode rcode).map srbReturncode (sprintfD rcode) := by
    simp [codedReply, mwSrbSetfieldi, mwSrbNsetfield_carries]
  generalize codedReply srbmsg apprcode rcode = reply at coded
  have noreply : strcaseeq srbReturncode srbNoreply = false := by decide
  have multiple : strcaseeq srbReturncode srbMultiple = false := by decide
  rw [mwSrbDelfield, mwSrbDelfield]
  exact (coded.urlmapdel noreply).urlmapdel multiple

/-- The message of the request that the reply is built from, with the data of the reply. -/
def dataReply (limit : Nat) (srbmsg : SRBmessage) (data : Option (List Byte)) : SRBmessage :=
  match data with
  | some data =>
      if data.length > limit then
        mwSrbNsetfield (mwSrbSetfieldi { srbmsg with marker := srbResponseMarker } srbDatatotal
          data.length) srbData (data.take limit)
      else mwSrbNsetfield { srbmsg with marker := srbResponseMarker } srbData data
  | none => mwSrbDelfield { srbmsg with marker := srbResponseMarker } srbData

theorem dataReply_head (limit : Nat) (srbmsg : SRBmessage) (data : Option (List Byte)) :
    (dataReply limit srbmsg data).marker = srbResponseMarker ∧
      (dataReply limit srbmsg data).command = srbmsg.command := by
  cases data with
  | none => exact ⟨rfl, rfl⟩
  | some data =>
      grind [dataReply, mwSrbNsetfield_head, mwSrbSetfieldi]

theorem mwSrbsendcallreply_first (limit : Nat) (srbmsg : SRBmessage)
    (data : Option (List Byte)) (apprcode rcode : Int) :
    (mwSrbsendcallreply limit srbmsg data apprcode rcode).head? =
      some (mwSrbDelfield (mwSrbDelfield (codedReply (dataReply limit srbmsg data) apprcode rcode)
        srbNoreply) srbMultiple) := by
  cases data with
  | none => rfl
  | some data =>
      rw [mwSrbsendcallreply, dataReply]
      split_ifs
      · rfl
      · rfl

structure IsFailureReply (srbmsg : SRBmessage) : Prop where
  command : srbmsg.command = srbSvccall
  marker : srbmsg.marker = srbResponseMarker
  code : ∃ code, code ≠ mwSuccess ∧ code ≠ mwMore ∧
    Carries srbmsg.map srbReturncode (sprintfD code)

/-- The first message of the reply to a call there is no service for. -/
theorem replyMessages_failure (limit : Nat) (map : Urlmap) {cmsg : Call}
    (failed : cmsg.returncode = -Errno.ENOENT.code) :
    ∃ first rest, replyMessages limit map cmsg = first :: rest ∧ IsFailureReply first := by
  have first := mwSrbsendcallreply_first limit
    ⟨srbSvccall, srbResponseMarker, urlmapdel map srbDatatotal⟩
    (if cmsg.data = [] then none else some cmsg.data) cmsg.appreturncode
    (replyCode cmsg.returncode)
  have head := dataReply_head limit
    ⟨srbSvccall, srbResponseMarker, urlmapdel map srbDatatotal⟩
    (if cmsg.data = [] then none else some cmsg.data)
  rcases List.head?_eq_some_iff.mp first with ⟨rest, isReply⟩
  generalize dataReply limit ⟨srbSvccall, srbResponseMarker, urlmapdel map srbDatatotal⟩
    (if cmsg.data = [] then none else some cmsg.data) = base at first head isReply
  have coded := codedReply_head base cmsg.appreturncode (replyCode cmsg.returncode)
  have carries := codedReply_carries base cmsg.appreturncode (replyCode cmsg.returncode)
  refine ⟨_, rest, isReply, ?_, ?_, replyCode cmsg.returncode, ?_, ?_, carries⟩
  · simp [mwSrbDelfield_head, coded, head]
  · simp [mwSrbDelfield_head, coded, head]
  · rw [failed]
    decide
  · rw [failed]
    decide

theorem senddataFrom_marker {limit turns : Nat} {first srbmsg : SRBmessage} {data : List Byte}
    (member : srbmsg ∈ senddataFrom limit turns first data) : srbmsg.marker = first.marker := by
  induction turns generalizing first data with
  | zero => exact absurd member List.not_mem_nil
  | succ turns ih =>
      grind [senddataFrom, mwSrbNsetfield_head]

theorem timed_marker (secstolive : Option Int) (base : SRBmessage) :
    (mwSrbSetfieldi (match secstolive with
      | none => base
      | some timeleft => mwSrbSetfieldi base srbSectolive timeleft) srbHops 0).marker =
      base.marker := by
  cases secstolive with
  | none => exact (mwSrbNsetfield_head _ _ _).1
  | some timeleft => exact (mwSrbNsetfield_head _ _ _).1.trans (mwSrbNsetfield_head _ _ _).1

/-- The messages of a call are no replies. -/
theorem mwSrbsendcall_marker {limit : Nat} {secstolive : Option Int} {uninit : List Byte}
    {handle : UInt32} {svcname : List Byte} {data : Option (List Byte)} {flags : UInt32}
    {srbmsg : SRBmessage}
    (member : srbmsg ∈ mwSrbsendcall limit secstolive uninit handle svcname data flags) :
    srbmsg.marker ≠ srbResponseMarker := by
  have notReply : srbRequestMarker ≠ srbResponseMarker := by decide
  have notNotified : srbNotificationMarker ≠ srbResponseMarker := by decide
  have set : ∀ (base : SRBmessage) key value,
      (mwSrbNsetfield base key value).marker = base.marker :=
    fun _ _ _ => (mwSrbNsetfield_head _ _ _).1
  have opened : (if flags &&& mwNoreplyFlag ≠ 0 then mwSrbInit srbSvccall srbNotificationMarker
      else mwSrbNsetfield (mwSrbInit srbSvccall srbRequestMarker) srbHandle
        (if flags &&& mwNoreplyFlag ≠ 0 then uninit else sprintfUpperX handle)).marker ≠
      srbResponseMarker := by
    split_ifs
    · exact notNotified
    · rw [set]
      exact notReply
  have dataMarker : ∀ {hdl rest : List Byte}, srbmsg ∈ mwSrbsenddata limit hdl rest →
      srbmsg.marker ≠ srbResponseMarker := by
    intro hdl rest isData
    rw [senddataFrom_marker isData, mwSrbSetfield, set]
    exact notNotified
  unfold mwSrbsendcall at member
  cases data with
  | none =>
      rcases List.mem_cons.mp member with isFirst | later
      · rw [isFirst]
        refine ne_of_eq_of_ne (timed_marker secstolive _) ?_
        rw [mwSrbSetfield, set]
        exact opened
      · exact absurd later List.not_mem_nil
  | some data =>
      by_cases long : data.length > limit
      · simp only [if_pos long] at member
        rcases List.mem_cons.mp member with isFirst | later
        · rw [isFirst]
          refine ne_of_eq_of_ne (timed_marker secstolive _) ?_
          simp_all [set, mwSrbSetfieldi, mwSrbSetfield, opened]
        · grind
      · simp only [if_neg long] at member
        rcases List.mem_cons.mp member with isFirst | later
        · rw [isFirst]
          refine ne_of_eq_of_ne (timed_marker secstolive _) ?_
          rw [set, mwSrbSetfield, set]
          exact opened
        · exact absurd later List.not_mem_nil

end MidWay.Gateway

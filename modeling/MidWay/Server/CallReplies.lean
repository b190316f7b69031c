import MidWay.Lib.Runs
import MidWay.Server.MainLoop

/-!
Contract: what becomes of the replies to a server's own calls.

A reply is read from the queue by `_mwfetchipc`, which gives each message a block
of its own, or by `_mwGetServiceRequest`, which has one static buffer. Either may
park it, and what is parked is a pointer. So a reply that the second one parked
is whatever its buffer holds when it is fetched.

`reread` is what the fields of a `Call` are after a shorter message was read over
it. A wait in `_mwfetchipc` is taken up again by another call of it.

Owns: the queue of parked replies, both receive loops as far as they read or park
replies, and the order in which replies are fetched.
-/

namespace MidWay.Server

open MidWay.CLib MidWay.Lib

/-- A pointer to a block of its own, or to the buffer of `_mwGetServiceRequest`. -/
inductive Parked where
  | own (mesg : Call)
  | buffer
deriving DecidableEq, Repr

def Parked.call (callmesg : Call) : Parked → Call
  | .own mesg => mesg
  | .buffer => callmesg

def pushCallReply (queue : List Parked) (reply : Parked) : List Parked := queue ++ [reply]

def popCallReplyByHandle (callmesg : Call) (handle : Int) : List Parked → Option (Call × List Parked)
  | [] => none
  | first :: rest =>
      if handle = 0 ∨ (first.call callmesg).handle = handle then
        some (first.call callmesg, rest)
      else
        (popCallReplyByHandle callmesg handle rest).map fun found => (found.1, first :: found.2)

/-- `callReplyQueue` is the parked replies. `arrived` and `fetched` have no counterpart in the
program: the replies that came into the queue, and those that were returned. -/
structure Replying where
  queue : List Turn
  server : State
  callReplyQueue : List Parked
  arrived : List Call
  fetched : List Call

def Message.reply? : Message → Option Call
  | .svcreply mesg => some mesg
  | _ => none

def replies (queue : List Turn) : List Call := queue.filterMap fun turn => turn.message.reply?

def parkedCalls (callmesg : Call) (queue : List Parked) : List Call :=
  queue.map (Parked.call callmesg)

def Replying.outstanding (state : Replying) : List Call :=
  parkedCalls state.server.callmesg state.callReplyQueue ++ replies state.queue

/-- What `_mwfetchipc` returns of a reply: the return code, the handle, the application's code,
and the segment, offset and length of the data. -/
structure FetchedReply where
  rc : Int
  handle : Int
  appreturncode : Int
  data : Option (Int × Int × Int)
deriving DecidableEq, Repr

def fetchedReply (mesg : Call) : FetchedReply where
  rc := if mesg.returncode > mwMore then -mesg.returncode else mesg.returncode
  handle := mesg.handle
  appreturncode := mesg.appreturncode
  data := if mesg.data = 0 then none else some (mesg.datasegmentid, mesg.data, mesg.datalen)

structure Taken where
  mesg : Option Call
  queue : List Turn
  callReplyQueue : List Parked

/-- The loop of `_mwfetchipc`: replies under other handles are parked, messages that are no
replies stay in the queue. -/
def takeReply (handle : Int) : List Turn → List Parked → Taken
  | [], parked => ⟨none, [], parked⟩
  | turn :: rest, parked =>
      match turn.message.reply? with
      | none =>
          let taken := takeReply handle rest parked
          { taken with queue := turn :: taken.queue }
      | some mesg =>
          if handle ≠ 0 ∧ mesg.handle ≠ handle then
            takeReply handle rest (pushCallReply parked (.own mesg))
          else ⟨some mesg, rest, parked⟩

def Replying.take (state : Replying) (handle : Int) : Taken :=
  match popCallReplyByHandle state.server.callmesg handle state.callReplyQueue with
  | some found => ⟨some found.1, state.queue, found.2⟩
  | none => takeReply handle state.queue state.callReplyQueue

/-- Nothing is returned where the call waits. `segment` are the segments the process can get. -/
def mwfetchipc (segment : Int → Bool) (handle : Int) (state : Replying) :
    Option (Except Errno FetchedReply) × Replying :=
  let taken := state.take handle
  let next := { state with queue := taken.queue, callReplyQueue := taken.callReplyQueue }
  match taken.mesg with
  | none => (none, next)
  | some mesg =>
      if mesg.data ≠ 0 ∧ segment mesg.datasegmentid = false then (some (.error .EFAULT), next)
      else (some (.ok (fetchedReply mesg)), { next with fetched := next.fetched ++ [mesg] })

structure Collected where
  server : State
  parks : Bool
  queue : List Turn

section Collect

variable (reread : Call → Message → Call) (process : Process)

/-- The loop of `_mwGetServiceRequest`, with what the buffer holds after it. -/
def collect : Nat → State → List Turn → Collected
  | _, state, [] => ⟨state, false, []⟩
  | mesglen, state, turn :: rest =>
      if turn.message.length > mesglen then ⟨state, false, turn :: rest⟩
      else
        match turn.message with
        | .svccall mesg =>
            let settled := (state.take mesg).settle process turn.delivery (examine turn.view mesg)
            match examine turn.view mesg with
            | .junk => collect mwMsgMax settled rest
            | _ => ⟨settled, false, rest⟩
        | .svcreply mesg => ⟨{ state with callmesg := mesg }, true, rest⟩
        | .event mesg =>
            let read := { state with callmesg := reread state.callmesg (.event mesg) }
            collect sizeofEvent (read.doIpcevent process mesg) rest
        | .eventack mesg =>
            collect sizeofEvent { state with callmesg := reread state.callmesg (.eventack mesg) } rest
        | .other mtype body =>
            collect (sizeofLong + body)
              { state with callmesg := reread state.callmesg (.other mtype body) } rest

def Process.receives (process : Process) : Bool :=
  process.attached && process.provided != 0 && process.ipcmain

def Replying.getServiceRequest (state : Replying) : Replying :=
  if process.receives then
    let collected := collect reread process mwMsgMax state.server state.queue
    { state with
      queue := collected.queue
      server := collected.server
      callReplyQueue := if collected.parks then pushCallReply state.callReplyQueue .buffer
        else state.callReplyQueue }
  else state

end Collect

def ofHandle (handle : Int) (mesgs : List Call) : List Call :=
  mesgs.filter fun mesg => mesg.handle == handle

theorem ofHandle_append (handle : Int) (first second : List Call) :
    ofHandle handle (first ++ second) = ofHandle handle first ++ ofHandle handle second :=
  List.filter_append first second

def NoneFor (handle : Int) (mesgs : List Call) : Prop :=
  ∀ mesg ∈ mesgs, handle ≠ 0 ∧ mesg.handle ≠ handle

variable {handle : Int}

theorem NoneFor.filtered {mesgs : List Call} (none : NoneFor handle mesgs) :
    ofHandle handle mesgs = [] := by
  apply List.filter_eq_nil_iff.mpr
  intro mesg member same
  exact (none mesg member).2 (eq_of_beq same)

structure Takes (handle : Int) (mesg : Call) (before after : List Call) : Prop where
  wanted : handle = 0 ∨ mesg.handle = handle
  split : ∃ front back, before = front ++ mesg :: back ∧ after = front ++ back ∧
    ∀ other ∈ front, other.handle ≠ mesg.handle

variable {mesg : Call} {before after : List Call}

theorem Takes.filtered (takes : Takes handle mesg before after) (any : Int) :
    ofHandle any [mesg] ++ ofHandle any after = ofHandle any before := by
  rcases takes.split with ⟨front, back, isBefore, isAfter, others⟩
  rw [isBefore, isAfter, ofHandle_append, ofHandle_append]
  by_cases same : mesg.handle = any
  · have noneFront : ofHandle any front = [] := by
      apply List.filter_eq_nil_iff.mpr
      intro other member isAny
      exact others other member ((eq_of_beq isAny).trans same.symm)
    rw [noneFront, List.nil_append, List.nil_append, ← ofHandle_append]
    rfl
  · have noMesg : ofHandle any [mesg] = [] := by
      apply List.filter_eq_nil_iff.mpr
      intro other member isAny
      rw [List.mem_singleton.mp member] at isAny
      exact same (eq_of_beq isAny)
    grind [ofHandle_append, List.nil_append, ofHandle]

theorem Takes.behind (takes : Takes handle mesg before after) {front : List Call}
    (none : NoneFor handle front) :
    Takes handle mesg (front ++ before) (front ++ after) := by
  rcases takes.split with ⟨inner, back, isBefore, isAfter, others⟩
  refine ⟨takes.wanted, front ++ inner, back, ?_, ?_, ?_⟩
  · rw [isBefore, List.append_assoc]
  · rw [isAfter, List.append_assoc]
  · intro other member
    rcases List.mem_append.mp member with inFront | inInner
    · rcases none other inFront with ⟨notZero, different⟩
      rcases takes.wanted with isZero | isHandle
      · exact absurd isZero notZero
      · omega
    · exact others other inInner

theorem Takes.ahead (takes : Takes handle mesg before after) (back : List Call) :
    Takes handle mesg (before ++ back) (after ++ back) := by
  rcases takes.split with ⟨front, inner, isBefore, isAfter, others⟩
  refine ⟨takes.wanted, front, inner ++ back, ?_, ?_, others⟩
  · rw [isBefore, List.append_assoc, List.cons_append]
  · rw [isAfter, List.append_assoc]

theorem Takes.mem (takes : Takes handle mesg before after) :
    mesg ∈ before ∧ ∀ other ∈ after, other ∈ before := by
  rcases takes.split with ⟨front, back, isBefore, isAfter, _⟩
  grind

variable {parked : List Parked}

theorem popCallReplyByHandle_some {callmesg : Call} {found : Call × List Parked}
    (isFound : popCallReplyByHandle callmesg handle parked = some found) :
    Takes handle found.1 (parkedCalls callmesg parked) (parkedCalls callmesg found.2) := by
  induction parked generalizing found with
  | nil => cases isFound
  | cons first rest ih =>
      rw [popCallReplyByHandle] at isFound
      split_ifs at isFound with wanted
      · cases isFound
        exact ⟨wanted, [], parkedCalls callmesg rest, rfl, rfl, List.forall_mem_nil _⟩
      · rw [not_or] at wanted
        cases inRest : popCallReplyByHandle callmesg handle rest with
        | none =>
            simp [inRest] at isFound
        | some other =>
            rw [inRest] at isFound
            cases isFound
            have notFirst : NoneFor handle [first.call callmesg] :=
              List.forall_mem_singleton.mpr wanted
            exact (ih inRest).behind notFirst

theorem popCallReplyByHandle_none {callmesg : Call}
    (isNone : popCallReplyByHandle callmesg handle parked = none) :
    NoneFor handle (parkedCalls callmesg parked) := by
  induction parked with
  | nil => exact List.forall_mem_nil _
  | cons first rest ih =>
      rw [popCallReplyByHandle] at isNone
      split_ifs at isNone with wanted
      rw [not_or] at wanted
      have restNone := ih (Option.map_eq_none_iff.mp isNone)
      exact List.forall_mem_cons.mpr ⟨wanted, restNone⟩

/-- What a fetch takes from the message queue, when nothing parked is for it. -/
theorem takeReply_spec (callmesg : Call) (queue : List Turn)
    (notFor : NoneFor handle (parkedCalls callmesg parked)) {taken : Taken}
    (isTaken : takeReply handle queue parked = taken) :
    (∀ mesg, taken.mesg = some mesg →
        Takes handle mesg (parkedCalls callmesg parked ++ replies queue)
          (parkedCalls callmesg taken.callReplyQueue ++ replies taken.queue)) ∧
      (taken.mesg = none →
        parkedCalls callmesg taken.callReplyQueue ++ replies taken.queue =
            parkedCalls callmesg parked ++ replies queue ∧
          NoneFor handle (parkedCalls callmesg parked ++ replies queue)) := by
  induction queue generalizing parked taken with
  | nil =>
      rw [takeReply] at isTaken
      cases isTaken
      constructor
      · simp
      · intro _
        refine ⟨rfl, ?_⟩
        intro mesg member
        rcases List.mem_append.mp member with inParked | inQueue
        · exact notFor mesg inParked
        · cases inQueue
  | cons turn rest ih =>
      rw [takeReply] at isTaken
      cases isReply : turn.message.reply? with
      | none =>
          have skip (later : List Turn) : replies (turn :: later) = replies later :=
            List.filterMap_cons_none isReply
          grind
      | some mesg =>
          have head : replies (turn :: rest) = mesg :: replies rest :=
            List.filterMap_cons_some isReply
          rw [isReply] at isTaken
          dsimp only at isTaken
          split_ifs at isTaken with other
          · have parkedMore : parkedCalls callmesg (pushCallReply parked (.own mesg)) =
                parkedCalls callmesg parked ++ [mesg] := List.map_append
            have noneMore : NoneFor handle
                (parkedCalls callmesg (pushCallReply parked (.own mesg))) := by
              rw [parkedMore]
              exact List.forall_mem_append.mpr ⟨notFor, List.forall_mem_singleton.mpr other⟩
            grind
          · cases isTaken
            have wanted : handle = 0 ∨ mesg.handle = handle := by
              omega
            constructor
            · intro found isFound
              cases isFound
              have takes : Takes handle mesg (mesg :: replies rest) (replies rest) :=
                ⟨wanted, [], replies rest, rfl, rfl, List.forall_mem_nil _⟩
              rw [head]
              exact takes.behind notFor
            · simp

/-- A fetch takes the oldest outstanding reply it is for, or there is none. -/
theorem Replying.take_spec (state : Replying) (handle : Int) {taken : Taken}
    (isTaken : state.take handle = taken) :
    (∀ mesg, taken.mesg = some mesg → Takes handle mesg state.outstanding
        (parkedCalls state.server.callmesg taken.callReplyQueue ++ replies taken.queue)) ∧
      (taken.mesg = none →
        parkedCalls state.server.callmesg taken.callReplyQueue ++ replies taken.queue =
            state.outstanding ∧ NoneFor handle state.outstanding) := by
  unfold Replying.take at isTaken
  cases popped : popCallReplyByHandle state.server.callmesg handle state.callReplyQueue with
  | some found =>
      rw [popped] at isTaken
      cases isTaken
      constructor
      · intro mesg isMesg
        cases isMesg
        exact (popCallReplyByHandle_some popped).ahead (replies state.queue)
      · simp
  | none =>
      rw [popped] at isTaken
      exact takeReply_spec state.server.callmesg state.queue (popCallReplyByHandle_none popped)
        isTaken

theorem parkedCalls_own (noBuffer : .buffer ∉ parked) (one two : Call) :
    parkedCalls one parked = parkedCalls two parked := by
  apply List.map_congr_left
  intro pointer member
  cases pointer with
  | own mesg => rfl
  | buffer => exact absurd member noBuffer

def Collected.reply (collected : Collected) : List Call :=
  if collected.parks then [collected.server.callmesg] else []

/-- The loop reads past messages that are no replies, and stops at the first reply. -/
theorem collect_replies (reread : Call → Message → Call) (process : Process) (mesglen : Nat)
    (state : State) (queue : List Turn) :
    replies queue = (collect reread process mesglen state queue).reply ++
      replies (collect reread process mesglen state queue).queue := by
  induction queue generalizing mesglen state with
  | nil =>
      rfl
  | cons turn rest ih =>
      rcases turn with ⟨message, view, behaviour, delivery⟩
      rw [collect]
      dsimp only
      by_cases tooLong : message.length > mesglen
      · rw [if_pos tooLong]
        rfl
      rw [if_neg tooLong]
      cases message with
      | svccall mesg =>
          dsimp only
          cases examine view mesg with
          | junk => exact ih _ _
          | unknown => rfl
          | expired => rfl
          | handed svcinfo => rfl
      | svcreply mesg => rfl
      | event mesg => exact ih _ _
      | eventack mesg => exact ih _ _
      | other mtype body => exact ih _ _

def Action.Touches (state : State) : Action → Prop
  | .reply _ _ _ _ delivery => state.requestpending = true ∧ delivery.systemstate = 0
  | .forward _ _ _ route => route.systemstate = 0 ∧ state.callmesg.forwardcount ≤ 100

theorem Action.run_untouched {process : Process} {state after : State} {action : Action}
    (untouched : ¬action.Touches state) (ran : action.run process state = some after) :
    after.callmesg = state.callmesg := by
  cases action with
  | reply data len returncode appreturncode delivery =>
      change (mwreply process state data len returncode appreturncode delivery).map Prod.snd =
        some after at ran
      unfold mwreply at ran
      split_ifs at ran with answered down
      · simp_all
      · simp_all
      all_goals exact absurd ⟨eq_true_of_ne_false answered, not_not.mp down⟩ untouched
  | forward svcname data len route =>
      change some (mwforward process state svcname data len route).2 = some after at ran
      unfold mwforward at ran
      split_ifs at ran with down often
      · simp_all
      · simp_all
      all_goals exact absurd ⟨not_not.mp down, Int.not_lt.mp often⟩ untouched

/-- What happens in a server: a message comes into its queue, it asks for a request, its service
function answers or forwards the request, or it fetches a reply. -/
inductive ReplyStep where
  | arrive (turn : Turn)
  | getServiceRequest
  | act (action : Action)
  | fetch (handle : Int)

inductive Hung where
  | hung
deriving DecidableEq, Repr

variable {state : Replying}

section Runs

variable (reread : Call → Message → Call) (process : Process) (segment : Int → Bool)

def Replying.step (state : Replying) : ReplyStep → Except Hung Replying
  | .arrive turn =>
      .ok { state with
        queue := state.queue ++ [turn]
        arrived := state.arrived ++ replies [turn] }
  | .getServiceRequest => .ok (state.getServiceRequest reread process)
  | .act action =>
      match action.run process state.server with
      | none => .error .hung
      | some server => .ok { state with server := server }
  | .fetch handle => .ok (mwfetchipc segment handle state).2

structure Fresh (state : Replying) : Prop where
  queue : state.queue = []
  callReplyQueue : state.callReplyQueue = []
  arrived : state.arrived = []
  fetched : state.fetched = []

def replying : Machine Replying ReplyStep Hung where
  start := Fresh
  enabled := fun _ _ => True
  step := Replying.step reread process segment

/-- While a reply is parked in the buffer, nothing is read into the buffer or written to it; the
data of a reply is in a segment the process can get. -/
def Undisturbed (state : Replying) : ReplyStep → Prop
  | .arrive turn =>
      ∀ mesg, turn.message.reply? = some mesg → mesg.data = 0 ∨ segment mesg.datasegmentid = true
  | .getServiceRequest =>
      .buffer ∈ state.callReplyQueue → state.queue = [] ∨ process.receives = false
  | .act action => .buffer ∈ state.callReplyQueue → ¬action.Touches state.server
  | .fetch _ => True

/-- Under each handle, what was fetched and what is outstanding is what has arrived. -/
structure InOrder (state : Replying) : Prop where
  order : ∀ handle, ofHandle handle state.fetched ++ ofHandle handle state.outstanding =
    ofHandle handle state.arrived
  data : ∀ mesg ∈ state.outstanding, mesg.data = 0 ∨ segment mesg.datasegmentid = true

variable {segment}

theorem InOrder.arrive (inOrder : InOrder segment state) {turn : Turn}
    (undisturbed : Undisturbed process segment state (.arrive turn)) :
    InOrder segment { state with
      queue := state.queue ++ [turn]
      arrived := state.arrived ++ replies [turn] } := by
  have more : parkedCalls state.server.callmesg state.callReplyQueue ++
      replies (state.queue ++ [turn]) = state.outstanding ++ replies [turn] := by
    rw [replies, List.filterMap_append, ← List.append_assoc]
    rfl
  constructor
  · intro handle
    change ofHandle handle state.fetched ++ ofHandle handle (_ ++ _) = _
    rw [more, ofHandle_append, ofHandle_append, ← List.append_assoc, inOrder.order]
  · intro mesg member
    change mesg ∈ _ ++ _ at member
    rw [more] at member
    rcases List.mem_append.mp member with old | new
    · exact inOrder.data mesg old
    · rcases List.mem_filterMap.mp new with ⟨other, isTurn, isReply⟩
      rw [List.mem_singleton.mp isTurn] at isReply
      exact undisturbed mesg isReply

theorem InOrder.of_same {state next : Replying} (inOrder : InOrder segment state)
    (outstanding : next.outstanding = state.outstanding) (arrived : next.arrived = state.arrived)
    (fetched : next.fetched = state.fetched) : InOrder segment next := by
  constructor
  · simp [outstanding, arrived, fetched, inOrder.order]
  · simp_all [inOrder.data]

theorem getServiceRequest_outstanding
    (undisturbed : Undisturbed process segment state .getServiceRequest) :
    (state.getServiceRequest reread process).outstanding = state.outstanding := by
  unfold Replying.getServiceRequest
  split_ifs with receives
  · by_cases noBuffer : .buffer ∈ state.callReplyQueue
    · rcases undisturbed noBuffer with empty | refuses
      · simp [empty, collect, Replying.outstanding]
      · simp [receives] at refuses
    · have read := collect_replies reread process mwMsgMax state.server state.queue
      generalize collect reread process mwMsgMax state.server state.queue = collected at read
      have same := parkedCalls_own noBuffer collected.server.callmesg state.server.callmesg
      unfold Replying.outstanding
      rw [read, ← same]
      dsimp only
      unfold Collected.reply
      split_ifs
      · rw [← List.append_assoc, pushCallReply, parkedCalls, List.map_append]
        rfl
      · rfl
  · rfl

theorem InOrder.act (inOrder : InOrder segment state) {action : Action}
    (undisturbed : Undisturbed process segment state (.act action)) {server : State}
    (ran : action.run process state.server = some server) :
    InOrder segment { state with server := server } := by
  refine @InOrder.of_same _ state _ inOrder ?_ rfl rfl
  unfold Replying.outstanding
  dsimp only
  by_cases noBuffer : .buffer ∈ state.callReplyQueue
  · rw [Action.run_untouched (undisturbed noBuffer) ran]
  · rw [parkedCalls_own noBuffer server.callmesg state.server.callmesg]

theorem InOrder.fetchable (inOrder : InOrder segment state) (member : mesg ∈ state.outstanding) :
    ¬(mesg.data ≠ 0 ∧ segment mesg.datasegmentid = false) := by
  rintro ⟨hasData, noSegment⟩
  rcases inOrder.data mesg member with noData | isFound
  · exact hasData noData
  · simp [isFound] at noSegment

theorem InOrder.fetch (inOrder : InOrder segment state) (handle : Int) :
    InOrder segment (mwfetchipc segment handle state).2 := by
  rcases state.take_spec handle rfl with ⟨found, notFound⟩
  unfold mwfetchipc
  dsimp only
  cases isMesg : (state.take handle).mesg with
  | none => exact inOrder.of_same (notFound isMesg).1 rfl rfl
  | some mesg =>
      have takes := found mesg isMesg
      dsimp only
      rw [if_neg (inOrder.fetchable takes.mem.1)]
      constructor
      · intro any
        change ofHandle any (state.fetched ++ [mesg]) ++ ofHandle any (_ ++ _) = _
        rw [ofHandle_append, List.append_assoc, takes.filtered any]
        exact inOrder.order any
      · intro other member
        exact inOrder.data other (takes.mem.2 other member)

theorem inOrder_kept :
    (replying reread process segment).Preserves (Undisturbed process segment) (InOrder segment) := by
  intro state step next inOrder _ undisturbed stepped
  cases step with
  | arrive turn =>
      cases stepped
      exact inOrder.arrive process undisturbed
  | getServiceRequest =>
      cases stepped
      apply inOrder.of_same (getServiceRequest_outstanding reread process undisturbed)
      · grind [Replying.getServiceRequest]
      · grind [Replying.getServiceRequest]
  | act action =>
      change (match action.run process state.server with
        | none => Except.error Hung.hung
        | some server => .ok { state with server := server }) = .ok next at stepped
      cases ran : action.run process state.server with
      | none =>
          simp [ran] at stepped
      | some server =>
          rw [ran] at stepped
          cases stepped
          exact inOrder.act process undisturbed ran
  | fetch handle =>
      cases stepped
      exact inOrder.fetch handle

theorem Fresh.inOrder (fresh : Fresh state) : InOrder segment state := by
  have none : state.outstanding = [] := by
    unfold Replying.outstanding
    rw [fresh.queue, fresh.callReplyQueue]
    rfl
  constructor
  · intro handle
    rw [none, fresh.arrived, fresh.fetched]
    rfl
  · simp [none]

/-- In every run in which no reply that is parked in the buffer is disturbed, the replies under
each handle are fetched once, in the order they arrived and as they arrived: those fetched and
those outstanding are those that have arrived, and a fetch returns the oldest one outstanding. -/
theorem replies_survive {state : Replying}
    (reachable : (replying reread process segment).Reachable (Undisturbed process segment) state) :
    (∀ handle, ofHandle handle state.fetched ++ ofHandle handle state.outstanding =
        ofHandle handle state.arrived) ∧
      ∀ handle mesg rest, handle ≠ 0 → ofHandle handle state.outstanding = mesg :: rest →
        ∃ next, mwfetchipc segment handle state = (some (.ok (fetchedReply mesg)), next) ∧
          next.fetched = state.fetched ++ [mesg] := by
  have inOrder : InOrder segment state :=
    reachable.holds (fun _ (fresh : Fresh _) => fresh.inOrder) (inOrder_kept reread process)
  refine ⟨inOrder.order, ?_⟩
  intro handle mesg rest notZero oldest
  rcases state.take_spec handle rfl with ⟨found, notFound⟩
  unfold mwfetchipc
  dsimp only
  cases isMesg : (state.take handle).mesg with
  | none =>
      rw [(notFound isMesg).2.filtered] at oldest
      cases oldest
  | some other =>
      have takes := found other isMesg
      have isHandle : other.handle = handle := by
        rcases takes.wanted with isZero | same
        · exact absurd isZero notZero
        · exact same
      have same : other = mesg := by
        have filtered := takes.filtered handle
        have single : ofHandle handle [other] = [other] :=
          List.filter_eq_self.mpr (List.forall_mem_singleton.mpr (beq_iff_eq.mpr isHandle))
        rw [single, oldest] at filtered
        exact (List.cons.inj filtered).1
      dsimp only
      rw [if_neg (inOrder.fetchable takes.mem.1), same]
      exact ⟨_, rfl, rfl⟩

end Runs

def freshState : Replying := ⟨[], idleState (plainCall 0 0), [], [], []⟩

/-- The reply to a call under the handle 3, and a request under the handle 9. -/
def ownReply : Call := { plainCall 0 0 with handle := 3, returncode := mwSuccess }

def nextRequest : Call := { plainCall 0 0 with handle := 9 }

def arriving (state : Replying) (message : Message) : Replying :=
  { state with
    queue := state.queue ++ [plainTurn message]
    arrived := state.arrived ++ replies [plainTurn message] }

def parkedState : Replying :=
  (arriving freshState (.svcreply ownReply)).getServiceRequest (fun mesg _ => mesg) oneServer

theorem parkedState_reachable :
    (replying (fun mesg _ => mesg) oneServer (fun _ => true)).Reachable
      (Undisturbed oneServer fun _ => true) parkedState := by
  have start : (replying (fun mesg _ => mesg) oneServer (fun _ => true)).Reachable
      (Undisturbed oneServer fun _ => true) freshState := .start ⟨rfl, rfl, rfl, rfl⟩
  have arrived : (replying (fun mesg _ => mesg) oneServer (fun _ => true)).Reachable
      (Undisturbed oneServer fun _ => true) (arriving freshState (.svcreply ownReply)) := by
    refine @Machine.Reachable.step _ _ _ _ _ _ _ (.arrive (plainTurn (.svcreply ownReply))) start
      trivial ?_ rfl
    intro mesg _
    exact Or.inr rfl
  refine @Machine.Reachable.step _ _ _ _ _ _ _ .getServiceRequest arrived trivial ?_ rfl
  intro isBuffer
  cases isBuffer

theorem replies_survive_parked :
    parkedState.callReplyQueue = [.buffer] ∧
      ∃ next, mwfetchipc (fun _ => true) 3 parkedState = (some (.ok (fetchedReply ownReply)), next) ∧
        next.fetched = [ownReply] := by
  refine ⟨rfl, ?_⟩
  exact (replies_survive (fun mesg _ => mesg) oneServer parkedState_reachable).2 3 ownReply []
    (by decide) rfl

theorem replies_survive_not_overwritten :
    ∃ state, (replying (fun mesg _ => mesg) oneServer (fun _ => true)).Reachable
        (fun _ _ => True) state ∧
      ofHandle 3 state.fetched ++ ofHandle 3 state.outstanding ≠ ofHandle 3 state.arrived := by
  refine ⟨(arriving parkedState (.svccall nextRequest)).getServiceRequest (fun mesg _ => mesg)
    oneServer, ?_, ?_⟩
  · have start : (replying (fun mesg _ => mesg) oneServer (fun _ => true)).Reachable
        (fun _ _ => True) freshState := .start ⟨rfl, rfl, rfl, rfl⟩
    have first := @Machine.Reachable.step _ _ _ _ _ _ _
      (.arrive (plainTurn (.svcreply ownReply))) start trivial trivial rfl
    have second := @Machine.Reachable.step _ _ _ _ _ _ _ .getServiceRequest first trivial trivial rfl
    have third := @Machine.Reachable.step _ _ _ _ _ _ _
      (.arrive (plainTurn (.svccall nextRequest))) second trivial trivial rfl
    exact @Machine.Reachable.step _ _ _ _ _ _ _ .getServiceRequest third trivial trivial rfl
  · decide

end MidWay.Server

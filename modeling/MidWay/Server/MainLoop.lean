import Mathlib.Data.List.Chain
import MidWay.Server.Requests

/-!
Contract: which queues a server survives.

What a message does to the loop of `_mwGetServiceRequest` depends on the message
and on the room the message before it left, and on nothing the server did
before. A message that is passed over leaves only its own length as room.

Owns: the outcome of a message, the requests that repeated calls hand out, and
the exact condition under which each valid request is handed out and
`mwMainLoop` does not return.
-/

namespace MidWay.Server

open MidWay.CLib MidWay.Srb

variable {turn : Turn} {queue : List Turn} {call : Call} {svcinfo : Svcinfo} {view : View}

/-- What a message that is received does to the call that received it. -/
inductive Outcome where
  | stop (errno : Errno)
  | hand (svcinfo : Svcinfo)
  | pass (mesglen : Nat)

def Turn.outcome (turn : Turn) : Outcome :=
  match turn.message with
  | .svccall call =>
      match examine turn.view call with
      | .unknown => .stop .ENOENT
      | .expired => .stop .ETIME
      | .junk => .pass mwMsgMax
      | .handed svcinfo => .hand svcinfo
  | .svcreply _ => .stop .EINPROGRESS
  | .event _ | .eventack _ => .pass sizeofEvent
  | .other _ body => .pass (sizeofLong + body)

def Turn.after (process : Process) (state : State) (turn : Turn) : State :=
  match turn.message with
  | .svccall call => (state.take call).settle process turn.delivery (examine turn.view call)
  | .event event => state.doIpcevent process event
  | .svcreply _ | .eventack _ | .other _ _ => state

theorem receive_cons (process : Process) (noblock : Bool) (mesglen : Nat) (state : State)
    (turn : Turn) (rest : List Turn) :
    receive process noblock mesglen state (turn :: rest) =
      if turn.message.length > mesglen then ⟨.failed .E2BIG, state, turn :: rest⟩
      else
        match turn.outcome with
        | .stop errno => ⟨.failed errno, turn.after process state, rest⟩
        | .hand svcinfo => ⟨.request turn svcinfo, turn.after process state, rest⟩
        | .pass room => receive process noblock room (turn.after process state) rest := by
  rw [receive, Turn.outcome, Turn.after]
  split_ifs with tooLong
  · rfl
  · grind

theorem Message.length_le (message : Message) : message.length ≤ mwMsgMax := by
  cases message with
  | svccall call => exact Nat.le_refl _
  | svcreply call => exact Nat.le_refl _
  | event event => exact (by decide : sizeofEvent ≤ mwMsgMax)
  | eventack event => exact (by decide : sizeofEvent ≤ mwMsgMax)
  | other mtype body =>
      grind [Message.length, mwMsgMax, sizeofCall, sizeofLong]

theorem rcOf_ne_EINTR {errno : Errno} (different : errno ≠ .EINTR) :
    rcOf errno ≠ rcOf .EINTR := by
  revert different
  cases errno <;> decide

theorem Turn.outcome_stop_ne_EINTR {errno : Errno} (stops : turn.outcome = .stop errno) :
    errno ≠ .EINTR := by
  rw [Turn.outcome] at stops
  grind

def Turn.request (turn : Turn) : Option Svcinfo :=
  match turn.outcome with
  | .hand svcinfo => some svcinfo
  | .stop _ | .pass _ => none

def Got.requests : Got → List Svcinfo
  | .request _ svcinfo => [svcinfo]
  | .failed _ | .waiting => []

/-- A call hands out the first request of those that are left. -/
theorem receive_requests (process : Process) (noblock : Bool) (mesglen : Nat) (state : State)
    (queue : List Turn) :
    queue.filterMap Turn.request =
      (receive process noblock mesglen state queue).got.requests ++
        (receive process noblock mesglen state queue).rest.filterMap Turn.request := by
  induction queue generalizing mesglen state with
  | nil => cases noblock <;> rfl
  | cons turn rest ih =>
      rw [receive_cons]
      split_ifs with tooLong
      · rfl
      · cases outcome : turn.outcome with
        | stop errno =>
            have none : turn.request = none := by rw [Turn.request, outcome]
            rw [List.filterMap_cons_none none]
            rfl
        | hand svcinfo =>
            have some : turn.request = some svcinfo := by rw [Turn.request, outcome]
            rw [List.filterMap_cons_some some]
            rfl
        | pass room =>
            grind [Turn.request, List.filterMap_cons_none]

theorem receive_rest_suffix (process : Process) (noblock : Bool) (mesglen : Nat) (state : State)
    (queue : List Turn) : (receive process noblock mesglen state queue).rest <:+ queue := by
  induction queue generalizing mesglen state with
  | nil => exact List.suffix_refl []
  | cons turn rest ih =>
      grind [receive_cons, List.suffix_refl, List.suffix_cons]

theorem receive_rest_lt (process : Process) (noblock : Bool) (state : State) (turn : Turn)
    (rest : List Turn) :
    (receive process noblock mwMsgMax state (turn :: rest)).rest.length ≤ rest.length := by
  rw [receive_cons, if_neg (Nat.not_lt.mpr turn.message.length_le)]
  cases turn.outcome with
  | stop errno => exact Nat.le_refl _
  | hand svcinfo => exact Nat.le_refl _
  | pass room => exact (receive_rest_suffix process noblock room _ rest).length_le

theorem receive_waiting_rest (process : Process) (noblock : Bool) (mesglen : Nat) (state : State)
    (queue : List Turn)
    (waits : (receive process noblock mesglen state queue).got = .waiting) :
    (receive process noblock mesglen state queue).rest = [] := by
  induction queue generalizing mesglen state with
  | nil => rfl
  | cons turn rest ih =>
      grind [receive_cons]

/-- A server that is attached, provides a service, and whose instance runs. -/
structure Process.Serving (process : Process) : Prop where
  attached : process.attached = true
  provided : 0 < process.provided
  ipcmain : process.ipcmain = true
  systemstate : process.systemstate = 0

theorem Process.Serving.getServiceRequest {process : Process} (serving : process.Serving)
    (noblock : Bool) (state : State) (queue : List Turn) :
    mwGetServiceRequest process noblock state queue =
      receive process noblock mwMsgMax state queue := by
  have positive := serving.provided
  rw [mwGetServiceRequest, serving.attached, if_neg (by decide), if_neg (by omega),
    serving.ipcmain, if_neg (by decide)]

/-- The requests that a number of calls hand out. -/
def requests (process : Process) (noblock : Bool) : Nat → State → List Turn → List Svcinfo
  | 0, _, _ => []
  | calls + 1, state, queue =>
      let reception := mwGetServiceRequest process noblock state queue
      match reception.got with
      | .request _ svcinfo =>
          svcinfo :: requests process noblock calls reception.state reception.rest
      | .failed _ => requests process noblock calls reception.state reception.rest
      | .waiting => []

/-- As many calls as there are messages empty the queue. -/
def handed (process : Process) (noblock : Bool) (state : State) (queue : List Turn) :
    List Svcinfo :=
  requests process noblock queue.length state queue

theorem Process.Serving.requests_eq {process : Process} (serving : process.Serving) (noblock : Bool)
    {calls : Nat} (enough : queue.length ≤ calls) (state : State) :
    requests process noblock calls state queue = queue.filterMap Turn.request := by
  induction calls generalizing queue state with
  | zero =>
      have empty := List.eq_nil_of_length_eq_zero (Nat.le_zero.mp enough)
      rw [empty]
      rfl
  | succ calls ih =>
      rw [requests, serving.getServiceRequest]
      have left : (receive process noblock mwMsgMax state queue).rest.length ≤ calls := by
        cases queue with
        | nil => exact Nat.zero_le _
        | cons turn rest =>
            grind [Nat.le_trans, receive_rest_lt, Nat.le_of_succ_le_succ]
      have split := receive_requests process noblock mwMsgMax state queue
      have waits := receive_waiting_rest process noblock mwMsgMax state queue
      rw [split]
      generalize receive process noblock mwMsgMax state queue = reception at left waits
      rcases reception with ⟨got, after, rest⟩
      cases got with
      | request turn svcinfo =>
          change svcinfo :: requests process noblock calls after rest = _
          rw [ih left after]
          rfl
      | failed errno => exact ih left after
      | waiting =>
          have empty : rest = [] := waits rfl
          rw [empty]
          rfl

theorem Process.Serving.handed_eq {process : Process} (serving : process.Serving)
    (noblock : Bool) (state : State) (queue : List Turn) :
    handed process noblock state queue = queue.filterMap Turn.request :=
  serving.requests_eq noblock (Nat.le_refl _) state

def GoodReference (view : View) (call : Call) : Prop :=
  call.datalen = 0 ∨ ∃ segment, view.segment call.datasegmentid = some segment ∧ 0 ≤ call.data ∧
    call.data ≤ segment.length ∧ 0 < call.datalen ∧ call.datalen ≤ segment.chunk call.data

/-- The service is known and the data reference is good. -/
structure Valid (view : View) (call : Call) : Prop where
  known : view.service call.svcid = true
  reference : GoodReference view call

/-- The time the caller waits, from the time of issue, is not over. -/
def Unexpired (now : Timeval) (call : Call) : Prop :=
  0 < call.timeout →
    now.sec * 1000000 + now.usec ≤ call.issued * 1000000 + call.uissued + call.timeout * 1000

structure Carries (view : View) (call : Call) (svcinfo : Svcinfo) : Prop where
  handle : svcinfo.handle = call.handle
  ids : svcinfo.cltid = call.cltid ∧ svcinfo.gwid = call.gwid ∧ svcinfo.srvid = call.srvid ∧
    svcinfo.svcid = call.svcid
  flags : svcinfo.flags = call.flags
  service : cstr svcinfo.service = (cstr call.service).take mwMaxSvcName
  datalen : svcinfo.datalen = call.datalen
  noData : call.datalen = 0 → svcinfo.data = none
  data : ∀ segment, view.segment call.datasegmentid = some segment → call.datalen ≠ 0 →
    svcinfo.data = some (segment.bytes call.data call.datalen.toNat)

/-- The offset is not below the length, and the chunk is longer than the data. -/
def Fits (view : View) (call : Call) : Prop :=
  call.datalen = 0 ∨ ∀ segment, view.segment call.datasegmentid = some segment →
    call.datalen ≤ toInt32 call.data ∧ call.datalen < segment.chunk call.data

theorem cstr_strncpyName (src : List Byte) :
    cstr (strncpyName src) = (cstr src).take mwMaxSvcName := by
  have noNul : 0 ∉ (cstr src).take mwMaxSvcName := by
    grind [nul_notMem_cstr]
  have zeros (count : Nat) : cstr (List.replicate count (0 : Byte)) = [] := by
    cases count with
    | zero => rfl
    | succ count => exact cstr_nul _
  rw [strncpyName, cstr_append noNul, zeros, List.append_nil]

/-- A good reference is read exactly when it fits, and then whole. -/
theorem GoodReference.read (good : GoodReference view call) :
    (mwGetbufferFromCall view call = none ∧ ¬ Fits view call) ∨
      ∃ data, mwGetbufferFromCall view call = some data ∧ Fits view call ∧
        (call.datalen = 0 → data = none) ∧
        ∀ segment, view.segment call.datasegmentid = some segment → call.datalen ≠ 0 →
          data = some (segment.bytes call.data call.datalen.toNat) := by
  rcases good with empty | ⟨segment, found, lower, upper, positive, holds⟩
  · apply Or.inr
    refine ⟨none, if_pos empty, Or.inl empty, fun _ => rfl, ?_⟩
    intro segment found notEmpty
    exact absurd empty notEmpty
  · have notEmpty : call.datalen ≠ 0 := by omega
    have only : ∀ other, view.segment call.datasegmentid = some other → segment = other := by
      simp [found, Option.some.inj]
    have adr : mwOffset2adr segment call.data = some call.data := by
      rw [mwOffset2adr, if_neg (by omega), if_neg (by omega)]
    have check : mwShmcheck segment call.data = toInt32 call.data := by
      rw [mwShmcheck, if_neg (by omega)]
    have read : mwGetbufferFromCall view call =
        if toInt32 call.data < 0 ∨ toInt32 call.data < call.datalen then none
        else if segment.chunk call.data ≤ 0 ∨ call.datalen < 0 ∨
          segment.chunk call.data ≤ call.datalen then none
        else some (some (segment.bytes call.data call.datalen.toNat)) := by
      rw [mwGetbufferFromCall, if_neg notEmpty, found]
      dsimp only
      rw [adr]
      dsimp only
      rw [check]
    have fits : Fits view call ↔
        call.datalen ≤ toInt32 call.data ∧ call.datalen < segment.chunk call.data := by
      constructor
      · intro fits
        rcases fits with empty | all
        · exact absurd empty notEmpty
        · exact all segment found
      · intro both
        apply Or.inr
        simp_all
    grind

/-- A valid call whose time is not over is handed out in full exactly when its data fits and
the new block holds its handle. -/
theorem Valid.handed_iff (valid : Valid view call) (current : 0 ≤ (mwSetDeadline view.now call).1) :
    (∃ svcinfo, examine view call = .handed svcinfo ∧ Carries view call svcinfo) ↔
      Fits view call ∧ view.malloced.handle = call.handle := by
  rw [examine, valid.known, if_neg (by decide), if_neg (Int.not_lt.mpr current)]
  rcases valid.reference.read with ⟨refused, unfit⟩ | ⟨data, read, fits, noData, whole⟩
  · simp_all
  · rw [read]
    constructor
    · intro given
      rcases given with ⟨svcinfo, same, carries⟩
      cases same
      exact ⟨fits, carries.handle⟩
    · intro fine
      refine ⟨_, rfl, ?_⟩
      exact
        { handle := fine.2
          ids := ⟨rfl, rfl, rfl, rfl⟩
          flags := rfl
          service := cstr_strncpyName call.service
          datalen := rfl
          noData := noData
          data := whole }

/-- Each valid call of the queue whose time is not over is handed out in full, between the
requests of the messages before it and those of the messages behind it. -/
def HandsOver (process : Process) (noblock : Bool) (state : State) (queue : List Turn) : Prop :=
  ∀ before turn after call, queue = before ++ turn :: after → turn.message = .svccall call →
    Valid turn.view call → Unexpired turn.view.now call →
    ∃ svcinfo, Carries turn.view call svcinfo ∧
      handed process noblock state queue =
        handed process noblock state before ++ svcinfo :: handed process noblock state after

/-- A valid call whose time is not over passes the test of its time, its data fits, and the
new block holds its handle. -/
def Turn.Legible (turn : Turn) : Prop :=
  ∀ call, turn.message = .svccall call → Valid turn.view call → Unexpired turn.view.now call →
    0 ≤ (mwSetDeadline turn.view.now call).1 ∧ Fits turn.view call ∧
      turn.view.malloced.handle = call.handle

theorem Turn.request_call (isCall : turn.message = .svccall call) (svcinfo : Svcinfo) :
    turn.request = some svcinfo ↔ examine turn.view call = .handed svcinfo := by
  rw [Turn.request, Turn.outcome, isCall]
  grind

theorem examine_handed_current (isHanded : examine view call = .handed svcinfo) :
    0 ≤ (mwSetDeadline view.now call).1 := by
  grind [examine]

theorem Process.Serving.handsOver_iff {process : Process} (serving : process.Serving)
    (noblock : Bool) (state : State) (queue : List Turn) :
    HandsOver process noblock state queue ↔ ∀ turn ∈ queue, turn.Legible := by
  have handedEq := serving.handed_eq noblock state
  constructor
  · intro hands turn member call isCall valid unexpired
    rcases List.append_of_mem member with ⟨before, after, split⟩
    rcases hands before turn after call split isCall valid unexpired with ⟨svcinfo, carries, all⟩
    rw [handedEq, handedEq, handedEq, split, List.filterMap_append] at all
    have here := List.append_cancel_left all
    have request : turn.request = some svcinfo := by
      grind [List.filterMap_cons_none, List.length_cons, List.filterMap_cons_some, List.cons.inj]
    have verdict := (Turn.request_call isCall svcinfo).mp request
    have current := examine_handed_current verdict
    exact ⟨current, (valid.handed_iff current).mp ⟨svcinfo, verdict, carries⟩⟩
  · intro legible before turn after call split isCall valid unexpired
    have member : turn ∈ queue := by
      simp [split]
    rcases legible turn member call isCall valid unexpired with ⟨current, fine⟩
    rcases (valid.handed_iff current).mpr fine with ⟨svcinfo, verdict, carries⟩
    grind [List.filterMap_cons_some, Turn.request_call]

/-- The room a message leaves in the receive buffer of the call that took it. -/
def Turn.room (turn : Turn) : Nat :=
  match turn.message with
  | .svccall _ => mwMsgMax
  | .svcreply _ | .event _ | .eventack _ | .other _ _ => turn.message.length

/-- A message that does not end the loop: no reply, and no request that is unknown, expired or
without a service function. -/
structure Turn.Bearable (turn : Turn) : Prop where
  notReply : ∀ call, turn.message ≠ .svcreply call
  known : ∀ call, turn.message = .svccall call → turn.view.service call.svcid = true
  current : ∀ call, turn.message = .svccall call → 0 ≤ (mwSetDeadline turn.view.now call).1
  provided : ∀ call, turn.message = .svccall call → mwGetbufferFromCall turn.view call ≠ none →
    call.svcid ∈ turn.view.serviceFuncList

/-- The messages from here on do not end the loop. -/
def Endures : Nat → List Turn → Prop
  | _, [] => True
  | mesglen, turn :: rest =>
      turn.message.length ≤ mesglen ∧ turn.Bearable ∧ Endures turn.room rest

/-- A queue in which each message leaves room for the next. -/
theorem endures_iff (mesglen : Nat) (queue : List Turn) :
    Endures mesglen queue ↔
      (∀ turn ∈ queue.head?, turn.message.length ≤ mesglen) ∧ (∀ turn ∈ queue, turn.Bearable) ∧
        queue.IsChain fun turn next => next.message.length ≤ turn.room := by
  induction queue generalizing mesglen with
  | nil => simp [Endures]
  | cons turn rest ih =>
      rw [Endures, ih, List.forall_mem_cons, List.isChain_cons]
      grind

/-- What a message that the loop bears does. -/
theorem Turn.bearable_iff (turn : Turn) :
    turn.Bearable ↔
      match turn.outcome with
      | .stop _ => False
      | .hand svcinfo => svcinfo.svcid ∈ turn.view.serviceFuncList
      | .pass _ => True := by
  rw [Turn.outcome]
  cases message : turn.message with
  | svccall call =>
      have same (other : Call) (isCall : turn.message = .svccall other) : call = other := by
        simp_all [Message.svccall.inj]
      have bearable : turn.Bearable ↔ turn.view.service call.svcid = true ∧
          0 ≤ (mwSetDeadline turn.view.now call).1 ∧
          (mwGetbufferFromCall turn.view call ≠ none → call.svcid ∈ turn.view.serviceFuncList) := by
        constructor
        · intro held
          exact ⟨held.known call message, held.current call message, held.provided call message⟩
        · intro held
          constructor
          · intro other
            rw [message]
            exact nofun
          · intro other isCall
            rw [← same other isCall]
            exact held.1
          · intro other isCall
            rw [← same other isCall]
            exact held.2.1
          · intro other isCall
            rw [← same other isCall]
            exact held.2.2
      rw [bearable]
      dsimp only
      rw [examine]
      split_ifs with unknown expired
      · exact ⟨fun held => absurd (held.1.symm.trans unknown) (by decide), nofun⟩
      · exact ⟨fun held => absurd expired (Int.not_lt.mpr held.2.1), nofun⟩
      · have known : turn.view.service call.svcid = true := eq_true_of_ne_false unknown
        cases mwGetbufferFromCall turn.view call with
        | none => exact iff_of_true ⟨known, Int.not_lt.mp expired, absurd rfl⟩ trivial
        | some data =>
            constructor
            · intro held
              exact held.2.2 (Option.some_ne_none data)
            · intro provided
              exact ⟨known, Int.not_lt.mp expired, fun _ => provided⟩
  | svcreply call =>
      exact ⟨fun held => held.notReply call message, nofun⟩
  | event event =>
      refine iff_of_true ⟨?_, ?_, ?_, ?_⟩ trivial <;> intro other <;> rw [message] <;> exact nofun
  | eventack event =>
      refine iff_of_true ⟨?_, ?_, ?_, ?_⟩ trivial <;> intro other <;> rw [message] <;> exact nofun
  | other mtype body =>
      refine iff_of_true ⟨?_, ?_, ?_, ?_⟩ trivial <;> intro other <;> rw [message] <;> exact nofun

theorem Turn.room_of_pass {room : Nat} (passes : turn.outcome = .pass room) :
    turn.room = room := by
  rw [Turn.outcome] at passes
  rw [Turn.room]
  cases message : turn.message with
  | svccall call =>
      grind
  | svcreply call => rw [message] at passes; cases passes
  | event event => rw [message] at passes; cases passes; rfl
  | eventack event => rw [message] at passes; cases passes; rfl
  | other mtype body => rw [message] at passes; cases passes; rfl

theorem Turn.room_of_hand (hands : turn.outcome = .hand svcinfo) :
    turn.room = mwMsgMax := by
  rw [Turn.outcome] at hands
  rw [Turn.room]
  grind

/-- What a call that waits for messages says about the queue. -/
theorem receive_endures (process : Process) (mesglen : Nat) (state : State) (queue : List Turn) :
    match (receive process false mesglen state queue).got with
    | .waiting => Endures mesglen queue
    | .failed errno => ¬ Endures mesglen queue ∧ errno ≠ .EINTR
    | .request turn svcinfo => turn ∈ queue ∧
        (Endures mesglen queue ↔ svcinfo.svcid ∈ turn.view.serviceFuncList ∧
          Endures mwMsgMax (receive process false mesglen state queue).rest) := by
  induction queue generalizing mesglen state with
  | nil => exact trivial
  | cons turn rest ih =>
      rw [receive_cons, Endures, turn.bearable_iff]
      split_ifs with tooLong
      · exact ⟨fun endures => absurd tooLong (Nat.not_lt.mpr endures.1), by decide⟩
      · have short := Nat.not_lt.mp tooLong
        cases outcome : turn.outcome with
        | stop errno => exact ⟨fun endures => endures.2.1, Turn.outcome_stop_ne_EINTR outcome⟩
        | hand svcinfo =>
            simp_all [Turn.room_of_hand, and_iff_right]
        | pass room =>
            have tail := ih room (turn.after process state)
            rw [Turn.room_of_pass outcome]
            grind

/-- The data of a reply finds a place in shared memory. -/
def Action.Placed : Action → Prop
  | .reply (some bytes) len _ _ delivery => dataLength bytes len ≠ 0 → delivery.place ≠ none
  | .reply none _ _ _ _ | .forward _ _ _ _ => True

/-- The service function returns, and no negative number. -/
structure Behaviour.Returns (behaviour : Behaviour) : Prop where
  placed : ∀ action ∈ behaviour.actions, action.Placed
  result : 0 ≤ behaviour.result

theorem mwPutbufferToCall_placed {data : Option (List Byte)} {len : Nat} {returncode : Int}
    {appreturncode : Int} {delivery : Delivery}
    (placed : (Action.reply data len returncode appreturncode delivery).Placed) (call : Call) :
    mwPutbufferToCall call data len delivery.place ≠ none := by
  cases data with
  | none => exact Option.some_ne_none _
  | some bytes =>
      rw [mwPutbufferToCall]
      split_ifs with empty
      · exact Option.some_ne_none _
      · have found := placed empty
        simp_all

theorem mwreply_returns {data : Option (List Byte)} {len : Nat} {returncode appreturncode : Int}
    {delivery : Delivery}
    (placed : (Action.reply data len returncode appreturncode delivery).Placed)
    (process : Process) (state : State) :
    mwreply process state data len returncode appreturncode delivery ≠ none := by
  cases buffer : mwPutbufferToCall state.callmesg data len delivery.place with
  | none => exact absurd buffer (mwPutbufferToCall_placed placed state.callmesg)
  | some call =>
      rw [mwreply, buffer]
      dsimp only
      split_ifs <;> exact Option.some_ne_none _

theorem runActions_returns (process : Process) {actions : List Action}
    (placed : ∀ action ∈ actions, action.Placed) (state : State) :
    ∃ after, runActions process state actions = some after := by
  induction actions generalizing state with
  | nil => exact ⟨state, rfl⟩
  | cons action rest ih =>
      have restPlaced := ih fun other member =>
        placed other (List.mem_cons_of_mem action member)
      have runs : ∃ next, action.run process state = some next := by
        cases action with
        | reply data len returncode appreturncode delivery =>
            have returns := mwreply_returns (placed _ List.mem_cons_self) process state
            rcases Option.ne_none_iff_exists'.mp returns with ⟨result, replied⟩
            exact ⟨result.2, by rw [Action.run, replied]; rfl⟩
        | forward svcname data len route => exact ⟨_, rfl⟩
      rcases runs with ⟨next, run⟩
      simp_all [runActions]

theorem answer_result (process : Process) (turn : Turn) (returned : Int × State) :
    ∃ after, (if returned.2.requestpending then
        (mwreply process returned.2 none 0 returned.1 0 turn.delivery).map fun answered =>
          (returned.1, answered.2)
      else some returned) = some (returned.1, after) := by
  split_ifs with pending
  · have returns := @mwreply_returns none 0 returned.1 0 turn.delivery trivial process returned.2
    rcases Option.ne_none_iff_exists'.mp returns with ⟨result, replied⟩
    exact ⟨result.2, by rw [replied]; rfl⟩
  · exact ⟨returned.2, rfl⟩

theorem mwCallCServiceFunction_provided (process : Process) (returns : turn.behaviour.Returns)
    (provided : svcinfo.svcid ∈ turn.view.serviceFuncList) (state : State) :
    ∃ after, mwCallCServiceFunction process turn svcinfo state =
      some (turn.behaviour.result, after) := by
  rcases runActions_returns process returns.placed state with ⟨ran, run⟩
  rw [mwCallCServiceFunction, if_neg (List.ne_nil_of_mem provided), if_pos provided, run]
  exact answer_result process turn (turn.behaviour.result, ran)

theorem mwCallCServiceFunction_missing (process : Process)
    (missing : svcinfo.svcid ∉ turn.view.serviceFuncList) (state : State) :
    ∃ errno after, errno ≠ .EINTR ∧
      mwCallCServiceFunction process turn svcinfo state = some (rcOf errno, after) := by
  rw [mwCallCServiceFunction]
  split_ifs with empty
  · rcases answer_result process turn (rcOf .ENOENT, state) with ⟨after, answered⟩
    exact ⟨.ENOENT, after, by decide, answered⟩
  · rcases answer_result process turn (rcOf .EBADRQC, state) with ⟨after, answered⟩
    exact ⟨.EBADRQC, after, by decide, answered⟩

section Loop

variable {process : Process} (serving : process.Serving) (sigrst : Bool)
include serving

theorem mainLoop_succ (turns : Nat) (state : State) (queue : List Turn) :
    mwMainLoop process sigrst (turns + 1) state queue =
      match (receive process false mwMsgMax state queue).got with
      | .waiting => .waiting
      | .failed errno =>
          if rcOf errno = rcOf .EINTR ∧ (process.tasksignalled ∨ sigrst) then
            mwMainLoop process sigrst turns (receive process false mwMsgMax state queue).state
              (receive process false mwMsgMax state queue).rest
          else .returned (rcOf errno)
      | .request turn svcinfo =>
          match mwCallCServiceFunction process turn svcinfo
            (receive process false mwMsgMax state queue).state with
          | none => .hung
          | some result =>
              if result.1 = rcOf .EINTR ∧ (process.tasksignalled ∨ sigrst) then
                mwMainLoop process sigrst turns result.2
                  (receive process false mwMsgMax state queue).rest
              else if result.1 < 0 then .returned result.1
              else mwMainLoop process sigrst turns result.2
                (receive process false mwMsgMax state queue).rest := by
  rw [mwMainLoop, mwservicerequest, if_neg (by rw [serving.systemstate]; decide),
    serving.getServiceRequest]
  grind [rcOf_neg]

/-- One turn of the loop takes a request and goes on, waits, or returns. -/
theorem mainLoop_cases (state : State) (functions : ∀ turn ∈ queue, turn.behaviour.Returns) :
    (Endures mwMsgMax queue ∧
        ∀ turns, mwMainLoop process sigrst (turns + 1) state queue = .waiting) ∨
      (¬ Endures mwMsgMax queue ∧
        ∃ rc, ∀ turns, mwMainLoop process sigrst (turns + 1) state queue = .returned rc) ∨
      ∃ after rest, rest <:+ queue ∧ rest.length < queue.length ∧
        (Endures mwMsgMax queue ↔ Endures mwMsgMax rest) ∧
        ∀ turns, mwMainLoop process sigrst (turns + 1) state queue =
          mwMainLoop process sigrst turns after rest := by
  have spec := receive_endures process mwMsgMax state queue
  have suffix := receive_rest_suffix process false mwMsgMax state queue
  cases got : (receive process false mwMsgMax state queue).got with
  | waiting =>
      simp_all [mainLoop_succ, Or.inl]
  | failed errno =>
      rw [got] at spec
      refine Or.inr (Or.inl ⟨spec.1, rcOf errno, fun turns => ?_⟩)
      rw [mainLoop_succ serving, got]
      simp [rcOf_ne_EINTR, spec]
  | request turn svcinfo =>
      rw [got] at spec
      have shorter : (receive process false mwMsgMax state queue).rest.length < queue.length := by
        cases queue with
        | nil => exact absurd spec.1 List.not_mem_nil
        | cons first others =>
            exact Nat.lt_succ_of_le (receive_rest_lt process false state first others)
      by_cases provided : svcinfo.svcid ∈ turn.view.serviceFuncList
      · have returns := functions turn spec.1
        have notNegative := returns.result
        rcases mwCallCServiceFunction_provided process returns provided
          (receive process false mwMsgMax state queue).state with ⟨after, served⟩
        refine Or.inr (Or.inr ⟨after, _, suffix, shorter, ?_, fun turns => ?_⟩)
        · rw [spec.2, and_iff_right provided]
        · simp_all [mainLoop_succ, if_neg, ite_self]
      · rcases mwCallCServiceFunction_missing process provided
          (receive process false mwMsgMax state queue).state with ⟨errno, after, plain, served⟩
        refine Or.inr (Or.inl ⟨fun endures => provided (spec.2.mp endures).1, rcOf errno,
          fun turns => ?_⟩)
        rw [mainLoop_succ serving, got]
        dsimp only
        rw [served]
        dsimp only
        rw [if_neg fun both => rcOf_ne_EINTR plain both.1, if_pos (rcOf_neg errno)]

theorem mainLoop_endures (endures : Endures mwMsgMax queue)
    (functions : ∀ turn ∈ queue, turn.behaviour.Returns) (turns : Nat) (state : State) (rc : Int) :
    mwMainLoop process sigrst turns state queue ≠ .returned rc := by
  induction turns generalizing state queue with
  | zero => exact nofun
  | succ turns ih =>
      rcases mainLoop_cases serving sigrst state functions with
        ⟨_, waits⟩ | ⟨ends, _⟩ | ⟨after, rest, suffix, _, same, goesOn⟩
      · rw [waits]
        exact nofun
      · exact absurd endures ends
      · rw [goesOn]
        grind

theorem mainLoop_returns (ends : ¬ Endures mwMsgMax queue)
    (functions : ∀ turn ∈ queue, turn.behaviour.Returns) (state : State) :
    ∃ turns rc, mwMainLoop process sigrst turns state queue = .returned rc := by
  -- Each turn that goes on leaves a shorter queue that does not endure either.
  induction length : queue.length using Nat.strong_induction_on generalizing queue state with
  | _ size ih =>
      rcases mainLoop_cases serving sigrst state functions with
        ⟨endures, _⟩ | ⟨_, rc, returns⟩ | ⟨after, rest, suffix, shorter, same, goesOn⟩
      · exact absurd endures ends
      · exact ⟨1, rc, returns 0⟩
      · have restFunctions : ∀ turn ∈ rest, turn.behaviour.Returns :=
          fun turn member => functions turn (suffix.mem member)
        rcases ih rest.length (length ▸ shorter)
          (fun endures => ends (same.mpr endures)) restFunctions after rfl with ⟨turns, rc, returned⟩
        exact ⟨turns + 1, rc, (goesOn turns).trans returned⟩

end Loop

/-- Each message is one the loop bears and can be read, and leaves room for the next: a message
that is not a request is followed by none that is longer. -/
structure Survivable (queue : List Turn) : Prop where
  bearable : ∀ turn ∈ queue, turn.Bearable
  legible : ∀ turn ∈ queue, turn.Legible
  room : queue.IsChain fun turn next => next.message.length ≤ turn.room

/-- A server hands out each valid request and goes on exactly for the queues it survives. -/
theorem server_keeps_serving {process : Process} (serving : process.Serving)
    (noblock sigrst : Bool) (state : State) (queue : List Turn)
    (functions : ∀ turn ∈ queue, turn.behaviour.Returns) :
    (HandsOver process noblock state queue ∧
        ∀ turns rc, mwMainLoop process sigrst turns state queue ≠ .returned rc) ↔
      Survivable queue := by
  have first : ∀ turn ∈ queue.head?, turn.message.length ≤ mwMsgMax :=
    fun turn _ => turn.message.length_le
  have endures : (∀ turns rc, mwMainLoop process sigrst turns state queue ≠ .returned rc) ↔
      Endures mwMsgMax queue := by
    constructor
    · intro never
      by_contra ends
      rcases mainLoop_returns serving sigrst ends functions state with ⟨turns, rc, returned⟩
      exact never turns rc returned
    · simp_all [mainLoop_endures]
  rw [serving.handsOver_iff, endures, endures_iff]
  constructor
  · intro held
    exact ⟨held.2.2.1, held.1, held.2.2.2⟩
  · intro survivable
    exact ⟨survivable.legible, first, survivable.bearable, survivable.room⟩

def oneServer : Process := ⟨true, 1, true, 0, 16777217, 16777217, false⟩

theorem oneServer_serving : oneServer.Serving := ⟨rfl, by decide, rfl, rfl⟩

def idleState (call : Call) : State := ⟨call, false, []⟩

/-- A call of service 8 by client 33, with `datalen` bytes at `offset` of segment 0. -/
def plainCall (offset datalen : Int) : Call :=
  ⟨7, 33, unassigned, unassigned, 8, 0, [83], 1000, 0, 0, 0, offset, datalen, 0, 0, 0⟩

/-- Chunks of 64 bytes in a segment of 4096, and a block that holds the handle 7. -/
def plainView : View where
  now := ⟨1000, 1⟩
  service := fun svcid => svcid == 8
  client := fun _ => none
  segment := fun segmentid => if segmentid = 0 then some ⟨4096, fun _ => 64, fun _ => 97⟩ else none
  serviceFuncList := [8]
  malloced := ⟨7, 0, 0, 0, 0, none, 0, 0, 0, [], 0, 0, 0, [], []⟩

def plainTurn (message : Message) : Turn := ⟨message, plainView, ⟨[], 1⟩, ⟨0, none, 0, 0⟩⟩

theorem server_keeps_serving_event :
    HandsOver oneServer false (idleState (plainCall 0 0))
        [plainTurn (.svccall (plainCall 128 8)), plainTurn (.event ⟨[], 1, 0, 0, 0, 0⟩)] ∧
      ∀ turns rc, mwMainLoop oneServer false turns (idleState (plainCall 0 0))
        [plainTurn (.svccall (plainCall 128 8)), plainTurn (.event ⟨[], 1, 0, 0, 0, 0⟩)] ≠
          .returned rc := by
  apply (server_keeps_serving oneServer_serving false false _ _ ?_).mpr
  · have legible (message : Message) (fits : ∀ call, message = .svccall call →
        0 ≤ (mwSetDeadline plainView.now call).1 ∧ Fits plainView call ∧ 7 = call.handle) :
        (plainTurn message).Legible := fun call isCall _ _ => fits call isCall
    constructor
    · intro turn member
      rw [Turn.bearable_iff]
      rcases List.mem_pair.mp member with rfl | rfl
      · change (8 : Int) ∈ [(8 : Int)]
        decide
      · trivial
    · intro turn member
      rcases List.mem_pair.mp member with rfl | rfl
      · apply legible
        intro call isCall
        cases isCall
        refine ⟨by decide, Or.inr ?_, rfl⟩
        intro segment found
        cases found
        decide
      · simp [legible]
    · exact List.isChain_pair.mpr (by decide)
  · intro turn member
    rcases List.mem_pair.mp member with rfl | rfl
    · exact ⟨nofun, by decide⟩
    · exact ⟨nofun, by decide⟩

/-- After an event a call is too long for the room that is left, and the loop returns `-E2BIG`;
a call with 64 bytes of data in a chunk of 64 bytes is not handed out. -/
theorem server_keeps_serving_not_after_event :
    mwMainLoop oneServer false 1 (idleState (plainCall 0 0))
        [plainTurn (.event ⟨[], 1, 0, 0, 0, 0⟩), plainTurn (.svccall (plainCall 128 8))] =
          .returned (-7) ∧
      ¬ HandsOver oneServer false (idleState (plainCall 0 0))
        [plainTurn (.svccall (plainCall 128 64))] := by
  refine ⟨by decide, ?_⟩
  rw [oneServer_serving.handsOver_iff]
  intro legible
  have valid : Valid plainView (plainCall 128 64) :=
    ⟨rfl, Or.inr ⟨_, rfl, by decide, by decide, by decide, by decide⟩⟩
  have unexpired : Unexpired plainView.now (plainCall 128 64) := by
    intro positive
    exact absurd positive (by decide)
  have fits := (legible _ List.mem_cons_self (plainCall 128 64) rfl valid unexpired).2.1
  rcases fits with empty | all
  · exact absurd empty (by decide)
  · exact absurd (all _ rfl).2 (by decide)

end MidWay.Server

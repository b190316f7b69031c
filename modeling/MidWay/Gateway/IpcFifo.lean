import MidWay.CLib.Bytes
import MidWay.CLib.Errno
import MidWay.Lib.Queue

/-!
Contract: the fifo of a gateway for messages whose recipient has a full queue.

`ipc_sendmessage` flushes the fifo, tries the message three times, and enqueues it
when the queue was full each time. What is enqueued is the pointer of the caller. A
send that does not wait is not interrupted, so a return code of zero means that the
message is on the queue.

The first entry of an empty fifo is linked to itself, and is never at the end of a
flush.

Owns: `ipcSendmessage`, `flushIpcFifo`, and when the fifo is faithful.
-/

namespace MidWay.Gateway.IpcFifo

open MidWay.CLib MidWay.Lib

/-- A message, with the two fields of a `Call` that name its data. -/
structure Message where
  datasegmentid : Int
  data : Int
  bytes : List Byte
deriving DecidableEq, Repr

/-- A `struct ipcfifo`; `message` is the address of the message. -/
structure Ipcfifo where
  mwid : UInt32
  message : Nat
  msglen : Nat
  next : Option Nat
  prev : Option Nat
deriving DecidableEq, Repr

inductive Event where
  | put (mwid : UInt32) (message : Message)
  | mwfree (segmentid offset : Int)
  | detachMmap (segmentid : Int)
  | wakeFastTask
deriving DecidableEq, Repr

/-- `memory` is what stands at an address, and `malloced` says which addresses `free` takes;
`turn` counts the calls of `msgsnd`. The messages `accepted` are kept for the specification. -/
structure State where
  entries : Nat → Option Ipcfifo
  head : Option Nat
  tail : Option Nat
  ipcfifolen : Int
  memory : Nat → Message
  malloced : Nat → Bool
  turn : Nat
  events : List Event
  accepted : List (UInt32 × Message)

/-- A null pointer or freed memory is accessed, or memory is freed that is not from `malloc`. -/
inductive Fault where
  | badAccess
  | badFree
deriving DecidableEq, Repr

def lowLargeBufferNumber : Int := 999

def State.update (state : State) (adr : Option Nat) (change : Ipcfifo → Ipcfifo) :
    Except Fault State :=
  match adr.bind state.entries, adr with
  | some entry, some place =>
      .ok { state with
        entries := fun other => if other = place then some (change entry) else state.entries other }
  | _, _ => .error .badAccess

/-- `if (adr) adr->... = ...`. -/
def State.updateIf (state : State) (adr : Option Nat) (change : Ipcfifo → Ipcfifo) :
    Except Fault State :=
  if adr.isSome then state.update adr change else .ok state

def State.record (state : State) (events : List Event) : State :=
  { state with events := state.events ++ events }

/-- `free` of a message. -/
def State.freeMessage (state : State) (message : Nat) : Except Fault State :=
  if state.malloced message then
    .ok { state with
      malloced := fun other => if other = message then false else state.malloced other }
  else .error .badFree

/-- `del_fifo_entry`. The next entry is read from the entry when that is freed already. -/
def delFifoEntry (state : State) (qe : Nat) : Except Fault (Option Nat × State) := do
  let entry ← (state.entries qe).elim (.error .badAccess) Except.ok
  let state ← state.freeMessage entry.message
  let state ← state.updateIf entry.next fun other => { other with prev := entry.prev }
  let entry ← (state.entries qe).elim (.error .badAccess) Except.ok
  let state ← state.updateIf entry.prev fun other => { other with next := entry.next }
  let entry ← (state.entries qe).elim (.error .badAccess) Except.ok
  let state := { state with
    head := if state.head = some qe then entry.prev else state.head
    tail := if state.tail = some qe then entry.next else state.tail
    entries := fun other => if other = qe then none else state.entries other
    ipcfifolen := state.ipcfifolen - 1 }
  let freed ← (state.entries qe).elim (.error .badAccess) Except.ok
  .ok (freed.next, state)

def droppedData (message : Message) : List Event :=
  .mwfree message.datasegmentid message.data ::
    if message.datasegmentid > lowLargeBufferNumber then [.detachMmap message.datasegmentid]
    else []

section

variable (msgsnd : Nat → Int)

/-- The loop of `flush_ipc_fifo` from an entry on. It has no result when it does not end within
so many turns. -/
def flushFrom : Nat → State → Option Nat → Option (Except Fault State)
  | 0, _, _ => none
  | _ + 1, state, none => some (.ok state)
  | turns + 1, state, some qe =>
      match state.entries qe with
      | none => some (.error .badAccess)
      | some entry =>
          let message := state.memory entry.message
          let rc := msgsnd state.turn
          let state := { state with turn := state.turn + 1 }
          if rc = 0 then
            match delFifoEntry (state.record [.put entry.mwid message]) qe with
            | .error fault => some (.error fault)
            | .ok (qe, state) => flushFrom turns state qe
          else if rc = rcOf .EAGAIN ∨ rc = rcOf .ENOMEM then flushFrom turns state entry.next
          else
            match delFifoEntry (state.record (droppedData message)) qe with
            | .error fault => some (.error fault)
            | .ok (qe, state) => flushFrom turns state qe

def flushIpcFifo (turns : Nat) (state : State) : Option (Except Fault State) :=
  if state.ipcfifolen = 0 then some (.ok state) else flushFrom msgsnd turns state state.tail

def sendRetry : Nat → State → Int × State
  | 0, state => (msgsnd state.turn, { state with turn := state.turn + 1 })
  | left + 1, state =>
      let rc := msgsnd state.turn
      let state := { state with turn := state.turn + 1 }
      if rc = rcOf .EAGAIN then sendRetry left state else (rc, state)

/-- The end of `ipc_sendmessage`, for a queue that stays full. `qe` is what `malloc` gives. -/
def enqueue (state : State) (id : UInt32) (message mesgsize qe : Nat) : Except Fault State := do
  let state := { state with
    entries := fun other =>
      if other = qe then some ⟨id, message, mesgsize, none, none⟩ else state.entries other }
  let state := if state.head = none then { state with head := some qe, tail := some qe } else state
  let state := { state with ipcfifolen := state.ipcfifolen + 1 }
  let state ← state.update state.head fun entry => { entry with next := some qe }
  let state ← state.update (some qe) fun entry => { entry with prev := state.head }
  .ok ({ state with head := some qe }.record [.wakeFastTask])

/-- `ipc_sendmessage`. -/
def ipcSendmessage (turns : Nat) (state : State) (id : UInt32) (message mesgsize qe : Nat) :
    Option (Except Fault State) :=
  match flushIpcFifo msgsnd turns state with
  | none => none
  | some (.error fault) => some (.error fault)
  | some (.ok state) =>
      let cmsg := state.memory message
      let (rc, state) := sendRetry msgsnd 2 state
      if rc = 0 then
        let sent := { state with accepted := state.accepted ++ [(id, cmsg)] }.record [.put id cmsg]
        some (.ok (if cmsg.datasegmentid > lowLargeBufferNumber then
          sent.record [.detachMmap cmsg.datasegmentid] else sent))
      else if rc = rcOf .EAGAIN then
        some (enqueue { state with accepted := state.accepted ++ [(id, cmsg)] } id message mesgsize
          qe)
      else some (.ok (state.record (droppedData cmsg)))

end

inductive Action where
  | send (id : UInt32) (message mesgsize : Nat)
  | flush
  | others (memory : Nat → Message) (malloced : Nat → Bool)

inductive Step (msgsnd : Nat → Int) (state : State) : Action → State → Prop
  | send {id : UInt32} {message mesgsize turns qe : Nat} {after : State}
      (unused : state.entries qe = none)
      (returned : ipcSendmessage msgsnd turns state id message mesgsize qe = some (.ok after)) :
      Step msgsnd state (.send id message mesgsize) after
  | flush {turns : Nat} {after : State}
      (returned : flushIpcFifo msgsnd turns state = some (.ok after)) :
      Step msgsnd state .flush after
  | others (memory : Nat → Message) (malloced : Nat → Bool) :
      Step msgsnd state (.others memory malloced)
        { state with memory := memory, malloced := malloced }

inductive Run (msgsnd : Nat → Int) : State → List Action → State → Prop
  | done (state : State) : Run msgsnd state [] state
  | step {state next last : State} {action : Action} {rest : List Action}
      (first : Step msgsnd state action next) (later : Run msgsnd next rest last) :
      Run msgsnd state (action :: rest) last

def State.next (state : State) (adr : Nat) : Option Nat := (state.entries adr).bind Ipcfifo.next

def State.prev (state : State) (adr : Nat) : Option Nat := (state.entries adr).bind Ipcfifo.prev

def Event.putTo (id : UInt32) : Event → Option Message
  | .put mwid message => if mwid = id then some message else none
  | _ => none

def State.putTo (state : State) (id : UInt32) : List Message :=
  state.events.filterMap (Event.putTo id)

def State.acceptedTo (state : State) (id : UInt32) : List Message :=
  (state.accepted.filter fun sent => sent.1 = id).map Prod.snd

/-- The entries from the tail on: linked in both directions, as many as are counted, and each
recipient has got its first messages, as they were, and waits for as many as are queued. -/
structure State.Queued (state : State) (queued : List Nat) : Prop where
  linked : Queue state.next state.prev state.tail state.head queued
  counted : (queued.length : Int) = state.ipcfifolen
  inOrder : ∀ id, ∃ waiting, state.acceptedTo id = state.putTo id ++ waiting ∧
    waiting.length =
      (queued.filter fun adr => (state.entries adr).map Ipcfifo.mwid = some id).length

/-- The fifo is in order, and a flush of it ends, whatever the queues answer. -/
structure State.Faithful (state : State) : Prop where
  queued : ∃ queued, state.Queued queued
  flushes : ∀ msgsnd, ∃ turns after, flushIpcFifo msgsnd turns state = some (.ok after)

section

variable (msgsnd : Nat → Int)

def AlwaysFaithful (state : State) (actions : List Action) : Prop :=
  ∀ done later reached, actions = done ++ later → Run msgsnd state done reached →
    reached.Faithful

def Refused (state : State) : Action → Prop
  | .send _ _ _ => ∀ attempt < 3, msgsnd (state.turn + attempt) = rcOf .EAGAIN
  | _ => False

def NeverRefused (state : State) (actions : List Action) : Prop :=
  ∀ done action later reached, actions = done ++ action :: later →
    Run msgsnd state done reached → ¬Refused msgsnd reached action

end

structure State.Empty (state : State) : Prop where
  entries : state.entries = fun _ => none
  ends : state.head = none ∧ state.tail = none
  length : state.ipcfifolen = 0
  settled : ∀ id, state.acceptedTo id = state.putTo id

variable {msgsnd : Nat → Int} {state : State}

theorem State.Empty.flush (empty : state.Empty) (turns : Nat) :
    flushIpcFifo msgsnd turns state = some (.ok state) := if_pos empty.length

theorem State.Empty.faithful (empty : state.Empty) : state.Faithful := by
  refine ⟨⟨[], ?_, empty.length.symm, ?_⟩, fun msgsnd => ⟨0, state, empty.flush 0⟩⟩
  · simp [empty.ends, Queue.empty]
  · simp [empty.settled]

theorem sendRetry_refused (refused : ∀ attempt < 3, msgsnd (state.turn + attempt) = rcOf .EAGAIN) :
    sendRetry msgsnd 2 state = (rcOf .EAGAIN, { state with turn := state.turn + 3 }) := by
  have first := refused 0 (by decide)
  have second := refused 1 (by decide)
  have third := refused 2 (by decide)
  rw [Nat.add_zero] at first
  simp only [sendRetry, first, second, third, if_true]

theorem sendRetry_accepted
    (accepted : ¬∀ attempt < 3, msgsnd (state.turn + attempt) = rcOf .EAGAIN) :
    ∃ rc turn, sendRetry msgsnd 2 state = (rc, { state with turn := turn }) ∧
      rc ≠ rcOf .EAGAIN := by
  simp only [sendRetry]
  split_ifs with first second
  · grind
  · exact ⟨_, _, rfl, second⟩
  · exact ⟨_, _, rfl, first⟩

theorem State.Empty.settle (empty : state.Empty) (turn : Nat) (id : UInt32) (cmsg : Message) :
    ({ state with turn := turn, accepted := state.accepted ++ [(id, cmsg)] }.record
      [.put id cmsg]).Empty := by
  refine ⟨empty.entries, empty.ends, empty.length, ?_⟩
  intro other
  have settled := empty.settled other
  unfold State.acceptedTo State.putTo at settled ⊢
  simp only [State.record, List.filter_append, List.map_append, List.filterMap_append, settled]
  by_cases same : id = other
  · simp [same, Event.putTo]
  · simp [same, Event.putTo]

theorem State.Empty.record (empty : state.Empty) {events : List Event}
    (noPuts : ∀ event ∈ events, ∀ id, Event.putTo id event = none) :
    (state.record events).Empty := by
  refine ⟨empty.entries, empty.ends, empty.length, ?_⟩
  intro id
  have nothing : events.filterMap (Event.putTo id) = [] :=
    List.filterMap_eq_nil_iff.mpr fun event member => noPuts event member id
  unfold State.putTo
  rw [State.record, List.filterMap_append, nothing, List.append_nil]
  exact empty.settled id

theorem droppedData_noPuts (message : Message) :
    ∀ event ∈ droppedData message, ∀ id, Event.putTo id event = none := by
  intro event member id
  unfold droppedData at member
  split_ifs at member
  · simp only [List.mem_cons, List.not_mem_nil, or_false] at member
    rcases member with rfl | rfl
    · rfl
    · rfl
  · rw [List.mem_singleton.mp member]
    rfl

/-- A message that does not meet a full queue three times leaves the fifo empty. -/
theorem State.Empty.send (empty : state.Empty)
    (accepted : ¬∀ attempt < 3, msgsnd (state.turn + attempt) = rcOf .EAGAIN) {turns : Nat}
    {id : UInt32} {message mesgsize qe : Nat} {after : State}
    (returned : ipcSendmessage msgsnd turns state id message mesgsize qe = some (.ok after)) :
    after.Empty := by
  rcases sendRetry_accepted accepted with ⟨rc, turn, sent, notFull⟩
  unfold ipcSendmessage at returned
  rw [empty.flush turns] at returned
  simp only [sent] at returned
  by_cases isZero : rc = 0
  · rw [if_pos isZero] at returned
    cases returned
    have settled := empty.settle turn id (state.memory message)
    split_ifs
    · exact settled.record (by simp [Event.putTo])
    · exact settled
  · rw [if_neg isZero, if_neg notFull] at returned
    cases returned
    have sameFifo : ({ state with turn := turn } : State).Empty :=
      ⟨empty.entries, empty.ends, empty.length, empty.settled⟩
    exact sameFifo.record (droppedData_noPuts _)

structure State.SelfLinked (state : State) (qe : Nat) : Prop where
  entry : ∃ entry, state.entries qe = some entry ∧ entry.next = some qe ∧ entry.prev = some qe
  ends : state.head = some qe ∧ state.tail = some qe
  length : state.ipcfifolen = 1

variable (state) in
theorem enqueue_empty (none : state.head = none) (noLength : state.ipcfifolen = 0) (id : UInt32)
    (message mesgsize qe : Nat) :
    ∃ after, enqueue state id message mesgsize qe = .ok after ∧ after.SelfLinked qe := by
  simp only [enqueue, none, if_true, State.update, Option.bind_some, bind, Except.bind, noLength,
    Int.zero_add]
  exact ⟨_, rfl, ⟨⟨_, if_pos rfl, rfl, rfl⟩, ⟨rfl, rfl⟩, rfl⟩⟩

theorem State.SelfLinked.not_faithful {qe : Nat} (self : state.SelfLinked qe) :
    ¬state.Faithful := by
  rintro ⟨⟨queued, linked, counted, -⟩, -⟩
  rw [self.length] at counted
  rcases List.length_eq_one_iff.mp (show queued.length = 1 by omega) with ⟨only, rfl⟩
  have isOnly : some qe = some only := self.ends.2.symm.trans linked.first
  have atEnd : state.next only = none := linked.linked.2.1
  rcases self.entry with ⟨entry, isEntry, next, -⟩
  rw [← Option.some.inj isOnly, State.next, isEntry, Option.bind_some, next] at atEnd
  cases atEnd

theorem State.SelfLinked.flushFrom {qe : Nat} (self : state.SelfLinked qe)
    (full : ∀ turn, msgsnd turn = rcOf .EAGAIN) (turns : Nat) :
    flushFrom msgsnd turns state (some qe) = none := by
  rcases self.entry with ⟨entry, isEntry, next, -⟩
  induction turns generalizing state with
  | zero => rfl
  | succ turns ih =>
      have notPut : ¬rcOf .EAGAIN = 0 := by decide
      rw [IpcFifo.flushFrom, isEntry]
      simp only [full state.turn, notPut, if_false, true_or, if_true, next]
      exact ih ⟨self.entry, self.ends, self.length⟩ isEntry

theorem State.Empty.step (empty : state.Empty) {action : Action}
    (accepted : ¬Refused msgsnd state action) {next : State}
    (step : Step msgsnd state action next) : next.Empty := by
  cases step with
  | send unused returned => exact empty.send accepted returned
  | flush returned =>
      simp_all [empty.flush]
  | others memory malloced => exact ⟨empty.entries, empty.ends, empty.length, empty.settled⟩

/-- A message that meets a full queue three times is linked to itself. -/
theorem State.Empty.refused (empty : state.Empty) {action : Action}
    (refused : Refused msgsnd state action) :
    ∃ next qe, Step msgsnd state action next ∧ next.SelfLinked qe := by
  cases action with
  | send id message mesgsize =>
      let waiting : State := { state with
        turn := state.turn + 3
        accepted := state.accepted ++ [(id, state.memory message)] }
      rcases enqueue_empty waiting empty.ends.1 empty.length id message mesgsize 0 with
        ⟨next, enqueued, self⟩
      have returned : ipcSendmessage msgsnd 0 state id message mesgsize 0 = some (.ok next) := by
        have notPut : ¬rcOf .EAGAIN = 0 := by decide
        unfold ipcSendmessage
        rw [empty.flush 0]
        simp only [sendRetry_refused refused, notPut, if_false, if_true]
        exact congrArg some enqueued
      exact ⟨next, 0, Step.send (congrFun empty.entries 0) returned, self⟩
  | flush => exact refused.elim
  | others memory malloced => exact refused.elim

theorem alwaysFaithful_cons (action : Action) (rest : List Action) :
    AlwaysFaithful msgsnd state (action :: rest) ↔
      state.Faithful ∧
        ∀ next, Step msgsnd state action next → AlwaysFaithful msgsnd next rest := by
  constructor
  · intro always
    refine ⟨always [] _ state rfl (.done state), ?_⟩
    intro next first done later reached isRest run
    exact always (action :: done) later reached (congrArg (action :: ·) isRest) (.step first run)
  · rintro ⟨faithful, after⟩ done later reached isActions run
    cases run with
    | done => exact faithful
    | step first run =>
        rcases List.cons_eq_cons.mp isActions with ⟨rfl, isRest⟩
        exact after _ first _ later reached isRest run

theorem neverRefused_cons (action : Action) (rest : List Action) :
    NeverRefused msgsnd state (action :: rest) ↔
      ¬Refused msgsnd state action ∧
        ∀ next, Step msgsnd state action next → NeverRefused msgsnd next rest := by
  constructor
  · intro never
    refine ⟨never [] action rest state rfl (.done state), ?_⟩
    intro next first done other later reached isRest run
    exact never (action :: done) other later reached (congrArg (action :: ·) isRest)
      (.step first run)
  · rintro ⟨accepted, after⟩ done other later reached isActions run
    cases run with
    | done =>
        simp_all
    | step first run =>
        rcases List.cons_eq_cons.mp isActions with ⟨rfl, isRest⟩
        exact after _ first _ other later reached isRest run

/-- From an empty fifo on, it stays faithful if and only if no message meets a full queue three
times. -/
theorem alwaysFaithful_iff (msgsnd : Nat → Int) {state : State} (empty : state.Empty)
    (actions : List Action) :
    AlwaysFaithful msgsnd state actions ↔ NeverRefused msgsnd state actions := by
  induction actions generalizing state with
  | nil =>
      constructor
      · intro _ done action later reached isNil
        cases (List.append_eq_nil_iff.mp isNil.symm).2
      · intro _ done later reached isNil run
        rw [(List.append_eq_nil_iff.mp isNil.symm).1] at run
        cases run
        exact empty.faithful
  | cons action rest ih =>
      rw [alwaysFaithful_cons, neverRefused_cons]
      by_cases refused : Refused msgsnd state action
      · rcases empty.refused refused with ⟨next, qe, step, self⟩
        constructor
        · rintro ⟨-, after⟩
          exact absurd (after next step [] rest next rfl (.done next)) self.not_faithful
        · simp [refused]
      · constructor
        · rintro ⟨-, after⟩
          exact ⟨refused, fun next step =>
            (ih (empty.step refused step)).mp (after next step)⟩
        · rintro ⟨-, after⟩
          exact ⟨empty.faithful, fun next step =>
            (ih (empty.step refused step)).mpr (after next step)⟩

def fresh : State where
  entries := fun _ => none
  head := none
  tail := none
  ipcfifolen := 0
  memory := fun _ => ⟨0, 0, []⟩
  malloced := fun _ => false
  turn := 0
  events := []
  accepted := []

theorem fresh_empty : fresh.Empty := ⟨rfl, ⟨rfl, rfl⟩, rfl, fun _ => rfl⟩

theorem alwaysFaithful_iff_flush :
    AlwaysFaithful (fun _ => 0) fresh [.send 7 0 296, .flush] ↔
      NeverRefused (fun _ => 0) fresh [.send 7 0 296, .flush] :=
  alwaysFaithful_iff (fun _ => 0) fresh_empty [.send 7 0 296, .flush]

/-- The queue of a server is full. Its first message is linked to itself, and the flush of the
next call never ends. -/
theorem full_queue_unfaithful :
    ∃ next qe, Step (fun _ => rcOf .EAGAIN) fresh (.send 7 0 296) next ∧ ¬next.Faithful ∧
      ¬AlwaysFaithful (fun _ => rcOf .EAGAIN) fresh [.send 7 0 296] ∧
      next.tail = some qe ∧
      ∀ turns, flushIpcFifo (fun _ => rcOf .EAGAIN) turns next = none := by
  have refused : Refused (fun _ => rcOf .EAGAIN) fresh (.send 7 0 296) := fun _ _ => rfl
  rcases fresh_empty.refused refused with ⟨next, qe, step, self⟩
  refine ⟨next, qe, step, self.not_faithful, ?_, self.ends.2, ?_⟩
  · intro always
    exact self.not_faithful (always _ [] next rfl (.step step (.done next)))
  · simp [self.length, flushIpcFifo, self.ends, self.flushFrom]

end MidWay.Gateway.IpcFifo

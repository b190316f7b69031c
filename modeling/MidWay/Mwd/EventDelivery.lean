import MidWay.Mwd.EventBuffers

/-!
Contract: the order in which the members are sent events.

Every copy of an event is to go out once, and every copy for a member before those of
later events. A copy that finds the queue of the member full waits in the blocking
queue for the next task. The copies of events that come in the meantime do not wait
behind it, and neither do those that wait with it.

Each copy is known by its member and the number of its event. What was sent and what
waits is kept for each run beside the queues of `mwd`.

Owns: `doEvents`, `DeliveryRun`, and that copies are sent in turn as long as none
overtakes another.
-/

namespace MidWay.Mwd

open MidWay.CLib MidWay.Lib MidWay.Shm

structure EventCopy where
  member : Int
  number : Nat
  eventid : Int
deriving DecidableEq, Repr

/-- `posted` and `dispatched` are the events in the order of `event_enqueue` and of `do_event`,
`blocked` is what waits in the blocking queue, and `sent` is what went out. -/
structure DeliveryRun where
  state : EventState
  posted : List Event
  dispatched : List Event
  blocked : List EventCopy
  sent : List EventCopy

def copiesOf (recipients : List (Int × Delivery)) (delivery : Delivery) (number : Nat)
    (eventid : Int) : List EventCopy :=
  (recipients.filter fun recipient => recipient.2 == delivery).map fun recipient =>
    ⟨recipient.1, number, eventid⟩

def DeliveryRun.flush (run : DeliveryRun) (put : Nat → Delivery) : DeliveryRun :=
  { run with
    state := run.state.flushBlockingqueue put
    blocked := (flushFrom put run.blocked).2
    sent := run.sent ++ (flushFrom put run.blocked).1 }

inductive DeliveryAction where
  | post (evmsg : Event)
  | ack (eventid senderid : Int)
  /-- The task, with what the queues do in the flush and for each event that it has time for. -/
  | task (flushed : Nat → Delivery) (puts : List (Nat → Delivery))

section

variable (segment : Int → Option Mapping) (matching : Matching)

def DeliveryRun.doEvent (run : DeliveryRun) (put : Nat → Delivery) :
    Except EventFailure DeliveryRun :=
  match run.state.eventqueue with
  | [] => .ok run
  | ev :: _ =>
      let recipients := ev.recipients matching put run.state.subscriptions
      (run.state.doEvent segment matching put).map fun state =>
        { run with
          state := state
          dispatched := run.dispatched ++ [ev]
          blocked := run.blocked ++ copiesOf recipients .full run.dispatched.length ev.eventid
          sent := run.sent ++ copiesOf recipients .sent run.dispatched.length ev.eventid }

def DeliveryRun.doEvents (run : DeliveryRun) (flushed : Nat → Delivery)
    (puts : List (Nat → Delivery)) : Except EventFailure DeliveryRun :=
  puts.foldlM (DeliveryRun.doEvent segment matching) (run.flush flushed)

def DeliveryRun.step (run : DeliveryRun) : DeliveryAction → Except EventFailure DeliveryRun
  | .post evmsg =>
      .ok { run with
        state := run.state.post segment evmsg
        posted := run.posted ++ (run.state.post segment evmsg).eventqueue.getLast?.toList }
  | .ack eventid senderid =>
      (run.state.eventAck segment eventid senderid).map fun state => { run with state := state }
  | .task flushed puts => run.doEvents segment matching flushed puts

def DeliveryAction.enabled : DeliveryAction → Prop
  | .task _ puts => ∀ put ∈ puts, ∀ turn, put turn ≠ .failed
  | _ => True

def deliveryMachine : Machine DeliveryRun DeliveryAction EventFailure where
  start run := ∃ subscriptions lastEventid,
    run = ⟨⟨subscriptions, [], lastEventid, [], [], []⟩, [], [], [], []⟩
  enabled _ action := action.enabled
  step := DeliveryRun.step segment matching

def FlushesInTurn (blocked : List EventCopy) (flushed : Nat → Delivery) : Prop :=
  ∀ i j first second, i < j → blocked[i]? = some first → blocked[j]? = some second →
    first.member = second.member → flushed j = .sent → flushed i = .sent

/-- No copy is sent to a member for which another waits, for as many events as there is time. -/
def SendsInTurn : DeliveryRun → List (Nat → Delivery) → Prop
  | _, [] => True
  | run, put :: puts =>
      (∀ ev rest, run.state.eventqueue = ev :: rest →
        ∀ recipient ∈ ev.recipients matching put run.state.subscriptions, recipient.2 = .sent →
          ∀ copy ∈ run.blocked, copy.member ≠ recipient.1) ∧
      ∀ next, run.doEvent segment matching put = .ok next → SendsInTurn next puts

def InTurn (run : DeliveryRun) : DeliveryAction → Prop
  | .task flushed puts =>
      FlushesInTurn run.blocked flushed ∧ SendsInTurn segment matching (run.flush flushed) puts
  | _ => True

end

/-- How many copies of the event a member is to be sent: one for each subscription. -/
def Event.copies (ev : Event) (matching : Matching) (subscriptions : List Subscription)
    (id : Int) : Nat :=
  subscriptions.countP fun se =>
    se.id = id && (ev.forClient matching se && ev.matchesPattern matching se)

/-- What a member is to be sent: all copies of the first event, then those of the second. -/
def expected (matching : Matching) (subscriptions : List Subscription) (id : Int)
    (events : List Event) : List Nat :=
  events.zipIdx.flatMap fun entry =>
    List.replicate (entry.1.copies matching subscriptions id) entry.2

def numbersOf (id : Int) (copies : List EventCopy) : List Nat :=
  (copies.filter fun copy => copy.member = id).map EventCopy.number

/-- The events are handled in the order they were posted. What a member was sent, and then what
waits for it, is just what it is to be sent of the events handled so far. -/
structure DeliveryRun.InOrder (run : DeliveryRun) (matching : Matching) : Prop where
  posted : run.posted = run.dispatched ++ run.state.eventqueue
  blocking : run.state.blocking = run.blocked.map fun copy => (copy.member, copy.eventid)
  delivered : ∀ id, numbersOf id run.sent ++ numbersOf id run.blocked =
    expected matching run.state.subscriptions id run.dispatched

theorem flushFrom_map {First Second : Type} (f : First → Second) (put : Nat → Delivery)
    (messages : List First) :
    flushFrom put (messages.map f) =
      ((flushFrom put messages).1.map f, (flushFrom put messages).2.map f) := by
  induction messages generalizing put with
  | nil => rfl
  | cons msg messages ih =>
      grind [flushFrom]

theorem numbersOf_append (id : Int) (first second : List EventCopy) :
    numbersOf id (first ++ second) = numbersOf id first ++ numbersOf id second := by
  simp [List.filter_append, List.map_append, numbersOf]

variable {id : Int}

theorem numbersOf_cons_self {copy : EventCopy} (isMember : copy.member = id)
    (copies : List EventCopy) :
    numbersOf id (copy :: copies) = copy.number :: numbersOf id copies := by
  simp_all [List.filter_cons_of_pos, List.map_cons, numbersOf]

theorem numbersOf_cons_ne {copy : EventCopy} (isOther : copy.member ≠ id)
    (copies : List EventCopy) : numbersOf id (copy :: copies) = numbersOf id copies := by
  simp_all [List.filter_cons_of_neg, numbersOf]

variable {put : Nat → Delivery}

theorem numbersOf_flushFrom_none {copies : List EventCopy}
    (refused : ∀ i copy, copies[i]? = some copy → copy.member = id → put i ≠ .sent) :
    numbersOf id (flushFrom put copies).1 = [] := by
  induction copies generalizing put with
  | nil => rfl
  | cons copy copies ih =>
      grind [flushFrom, numbersOf_cons_ne]

/-- A flush in turn splits what waits for a member into what goes out and what stays. -/
theorem numbersOf_flushFrom {copies : List EventCopy} (inTurn : FlushesInTurn copies put)
    (id : Int) :
    numbersOf id (flushFrom put copies).1 ++ numbersOf id (flushFrom put copies).2 =
      numbersOf id copies := by
  induction copies generalizing put with
  | nil => rfl
  | cons copy copies ih =>
      have rest := @ih (fun turn => put (turn + 1))
        fun i j first second before isFirst isSecond =>
          inTurn (i + 1) (j + 1) first second (by omega) isFirst isSecond
      rw [flushFrom]
      dsimp only
      by_cases isMember : copy.member = id
      · rw [numbersOf_cons_self isMember]
        split_ifs with taken
        · rw [numbersOf_cons_self isMember, List.cons_append, rest]
        · have nothing : numbersOf id (flushFrom (fun turn => put (turn + 1)) copies).1 = [] := by
            apply numbersOf_flushFrom_none
            intro i other found isOther out
            exact taken (inTurn 0 (i + 1) copy other (by omega) rfl found
              (isMember.trans isOther.symm) out)
          simp_all [numbersOf_cons_self, nothing, List.nil_append, rest]
      · grind [numbersOf_cons_ne]

variable {run : DeliveryRun}

theorem DeliveryRun.InOrder.flush {matching : Matching} (inOrder : run.InOrder matching)
    {flushed : Nat → Delivery} (inTurn : FlushesInTurn run.blocked flushed) :
    (run.flush flushed).InOrder matching := by
  refine ⟨inOrder.posted, ?_, ?_⟩
  · change (flushFrom flushed run.state.blocking).2 = _
    rw [inOrder.blocking, flushFrom_map]
    rfl
  · intro id
    change numbersOf id (run.sent ++ (flushFrom flushed run.blocked).1) ++
      numbersOf id (flushFrom flushed run.blocked).2 = _
    rw [numbersOf_append, List.append_assoc, numbersOf_flushFrom inTurn id]
    exact inOrder.delivered id

theorem numbersOf_copiesOf (id : Int) (recipients : List (Int × Delivery)) (delivery : Delivery)
    (number : Nat) (eventid : Int) :
    numbersOf id (copiesOf recipients delivery number eventid) =
      List.replicate (recipients.count (id, delivery)) number := by
  induction recipients with
  | nil => rfl
  | cons recipient recipients ih =>
      unfold copiesOf at ih ⊢
      by_cases isDelivery : recipient.2 = delivery
      · rw [List.filter_cons_of_pos (by simpa using isDelivery), List.map_cons]
        by_cases isMember : recipient.1 = id
        · rw [numbersOf_cons_self isMember, ih,
            show recipient = (id, delivery) from Prod.ext isMember isDelivery,
            List.count_cons_self, List.replicate_succ]
        · rw [numbersOf_cons_ne isMember, ih, List.count_cons_of_ne]
          intro same
          exact isMember (congrArg Prod.fst same)
      · rw [List.filter_cons_of_neg (by simpa using isDelivery), ih,
          List.count_cons_of_ne]
        intro same
        exact isDelivery (congrArg Prod.snd same)

/-- Every copy is sent or waits. -/
theorem count_recipients {matching : Matching} (alive : ∀ turn, put turn ≠ .failed) (ev : Event)
    (subscriptions : List Subscription) (id : Int) :
    (ev.recipients matching put subscriptions).count (id, .sent) +
        (ev.recipients matching put subscriptions).count (id, .full) =
      ev.copies matching subscriptions id := by
  unfold Event.copies
  induction subscriptions generalizing put with
  | nil => rfl
  | cons se subscriptions ih =>
      have rest := @ih (fun turn => put (turn + 1)) fun turn => alive (turn + 1)
      rw [Event.recipients]
      by_cases matched : (ev.forClient matching se && ev.matchesPattern matching se) = false
      · simp_all [List.countP_cons_of_neg]
      · rw [if_neg matched]
        rw [Bool.not_eq_false] at matched
        cases taken : put 0 with
        | failed => exact absurd taken (alive 0)
        | sent =>
            grind
        | full =>
            grind

theorem expected_append (matching : Matching) (subscriptions : List Subscription) (id : Int)
    (events : List Event) (ev : Event) :
    expected matching subscriptions id (events ++ [ev]) =
      expected matching subscriptions id events ++
        List.replicate (ev.copies matching subscriptions id) events.length := by
  unfold expected
  rw [List.zipIdx_append, List.flatMap_append, Nat.zero_add, List.zipIdx_singleton,
    List.flatMap_singleton]

variable {state after : EventState}

theorem EventState.mwfree_queues {adr : Option Int} (result : state.mwfree adr = .ok after) :
    after.eventqueue = state.eventqueue ∧ after.subscriptions = state.subscriptions ∧
      after.blocking = state.blocking := by
  unfold EventState.mwfree at result
  split at result
  · simp_all
  · grind

/-- What `do_event` does to the queues of messages. -/
theorem EventState.doEvent_queues {segment : Int → Option Mapping} {matching : Matching}
    {ev : Event} {rest : List Event} (queue : state.eventqueue = ev :: rest)
    (result : state.doEvent segment matching put = .ok after) :
    after.eventqueue = rest ∧ after.subscriptions = state.subscriptions ∧
      after.blocking = state.blocking ++
        ((ev.recipients matching put state.subscriptions).filter fun recipient =>
          recipient.2 == .full).map fun recipient => (recipient.1, ev.eventid) := by
  unfold EventState.doEvent at result
  rw [queue] at result
  dsimp only at result
  generalize (if ev.data ≠ 0 then
    (ev.recipients matching put state.subscriptions).map Prod.fst else []) = ids at result
  split_ifs at result
  · grind
  · exact EventState.mwfree_queues result
  · grind

/-- One event: its copies go out only where nothing waits. -/
theorem DeliveryRun.InOrder.doEvent {segment : Int → Option Mapping} {matching : Matching}
    {run next : DeliveryRun} (inOrder : run.InOrder matching) {put : Nat → Delivery}
    (alive : ∀ turn, put turn ≠ .failed)
    (inTurn : ∀ ev rest, run.state.eventqueue = ev :: rest →
      ∀ recipient ∈ ev.recipients matching put run.state.subscriptions, recipient.2 = .sent →
        ∀ copy ∈ run.blocked, copy.member ≠ recipient.1)
    (result : run.doEvent segment matching put = .ok next) : next.InOrder matching := by
  unfold DeliveryRun.doEvent at result
  cases queue : run.state.eventqueue with
  | nil =>
      simp_all
  | cons ev rest =>
      rw [queue] at result
      dsimp only at result
      cases done : run.state.doEvent segment matching put with
      | error failure =>
          rw [done] at result
          cases result
      | ok state =>
          rw [done] at result
          cases result
          obtain ⟨isRest, sameSubscriptions, isBlocking⟩ := EventState.doEvent_queues queue done
          refine ⟨?_, ?_, ?_⟩
          · simp [inOrder.posted, queue, isRest, List.append_assoc]
          · simp [isBlocking, inOrder.blocking, List.map_append, List.map_map, copiesOf]
          · intro id
            change numbersOf id (run.sent ++ copiesOf _ _ _ _) ++
              numbersOf id (run.blocked ++ copiesOf _ _ _ _) =
                expected matching state.subscriptions id (run.dispatched ++ [ev])
            rw [sameSubscriptions, expected_append, ← inOrder.delivered id,
              ← count_recipients alive ev run.state.subscriptions id, List.replicate_add,
              numbersOf_append, numbersOf_append, numbersOf_copiesOf, numbersOf_copiesOf]
            by_cases goes : (id, Delivery.sent) ∈ ev.recipients matching put run.state.subscriptions
            · have nothingWaits : numbersOf id run.blocked = [] := by
                unfold numbersOf
                rw [List.map_eq_nil_iff, List.filter_eq_nil_iff]
                intro copy member
                simpa using inTurn ev rest queue _ goes rfl copy member
              rw [nothingWaits, List.nil_append, List.append_nil, List.append_assoc]
            · rw [List.count_eq_zero_of_not_mem goes, List.replicate_zero, List.append_nil,
                List.nil_append, List.append_assoc]

/-- As many events as there is time for. -/
theorem DeliveryRun.InOrder.doEvents {segment : Int → Option Mapping} {matching : Matching}
    {next : DeliveryRun} (inOrder : run.InOrder matching) {puts : List (Nat → Delivery)}
    (alive : ∀ put ∈ puts, ∀ turn, put turn ≠ .failed)
    (inTurn : SendsInTurn segment matching run puts)
    (result : puts.foldlM (DeliveryRun.doEvent segment matching) run = .ok next) :
    next.InOrder matching := by
  induction puts generalizing run with
  | nil =>
      cases result
      exact inOrder
  | cons put puts ih =>
      rw [List.forall_mem_cons] at alive
      rw [List.foldlM_cons] at result
      cases done : run.doEvent segment matching put with
      | error failure =>
          rw [done] at result
          cases result
      | ok after =>
          rw [done] at result
          exact ih (inOrder.doEvent alive.1 inTurn.1 done) alive.2
            (inTurn.2 after done) result

theorem EventState.eventAck_queues {segment : Int → Option Mapping} {eventid senderid : Int}
    (result : state.eventAck segment eventid senderid = .ok after) :
    after.eventqueue = state.eventqueue ∧ after.subscriptions = state.subscriptions ∧
      after.blocking = state.blocking := by
  unfold EventState.eventAck at result
  dsimp only at result
  split at result
  · grind
  · have queues := EventState.mwfree_queues result
    exact queues

theorem EventState.post_queue (segment : Int → Option Mapping) (state : EventState)
    (evmsg : Event) :
    (state.post segment evmsg).eventqueue =
      state.eventqueue ++ (state.post segment evmsg).eventqueue.getLast?.toList := by
  grind [List.getLast, EventState.post, EventState.eventEnqueue]

theorem deliveryMachine_preserves (segment : Int → Option Mapping) (matching : Matching) :
    (deliveryMachine segment matching).Preserves (InTurn segment matching)
      fun run => run.InOrder matching := by
  intro run action next inOrder enabled inTurn result
  cases action with
  | post evmsg =>
      cases result
      have kept : (run.state.post segment evmsg).subscriptions = run.state.subscriptions ∧
          (run.state.post segment evmsg).blocking = run.state.blocking := by
        unfold EventState.post EventState.eventEnqueue
        split_ifs
        · exact ⟨rfl, rfl⟩
        · exact ⟨rfl, rfl⟩
      refine ⟨?_, kept.2.trans inOrder.blocking, ?_⟩
      · change run.posted ++ _ = run.dispatched ++ (run.state.post segment evmsg).eventqueue
        rw [inOrder.posted, List.append_assoc, ← EventState.post_queue]
      · simp [kept, inOrder.delivered]
  | ack eventid senderid =>
      change Except.map _ (run.state.eventAck segment eventid senderid) = .ok next at result
      cases acked : run.state.eventAck segment eventid senderid with
      | error failure =>
          rw [acked] at result
          cases result
      | ok state =>
          rw [acked] at result
          cases result
          obtain ⟨sameQueue, sameSubscriptions, sameBlocking⟩ := EventState.eventAck_queues acked
          refine ⟨?_, sameBlocking.trans inOrder.blocking, ?_⟩
          · simp [sameQueue, inOrder.posted]
          · simp [sameSubscriptions, inOrder.delivered]
  | task flushed puts =>
      exact DeliveryRun.InOrder.doEvents (inOrder.flush inTurn.1) enabled inTurn.2 result

/-- As long as no copy overtakes another, every member is sent each event once for each matching
subscription, and the events in the order they were posted. -/
theorem deliveryMachine_inOrder (segment : Int → Option Mapping) (matching : Matching)
    {run : DeliveryRun}
    (reachable : (deliveryMachine segment matching).Reachable (InTurn segment matching) run) :
    run.InOrder matching := by
  apply reachable.holds _ (deliveryMachine_preserves segment matching)
  rintro start ⟨subscriptions, lastEventid, rfl⟩
  exact ⟨rfl, rfl, fun _ => rfl⟩

/-- A server with a subscription to `e`, and nothing posted. -/
def oneSubscriber : DeliveryRun := ⟨⟨[⟨[101], 1, 0x01000001, 0⟩], [], 0, [], [], []⟩, [], [], [], []⟩

/-- The event `e` without data. -/
def bareEvent (eventid : Int) : Event := ⟨[101], eventid, 0, 0, [], []⟩

/-- The event has found the queue full, and then went out of the blocking queue. -/
def deliveredLate : DeliveryRun :=
  ⟨⟨[⟨[101], 1, 0x01000001, 0⟩], [], 1, [], [], []⟩, [bareEvent 1], [bareEvent 1], [],
    [⟨0x01000001, 0, 1⟩]⟩

theorem deliveryMachine_inOrder_late :
    (deliveryMachine oneSegment plainMatching).Reachable (InTurn oneSegment plainMatching)
        deliveredLate ∧ deliveredLate.InOrder plainMatching := by
  have start : (deliveryMachine oneSegment plainMatching).Reachable
      (InTurn oneSegment plainMatching) oneSubscriber := .start ⟨_, _, rfl⟩
  have posted := @Machine.Reachable.next _ _ _ _ _ _ start (.post (bareEvent 0)) trivial trivial rfl
  have inTurn : InTurn oneSegment plainMatching ((deliveryMachine oneSegment plainMatching).next
      oneSubscriber (.post (bareEvent 0))) (.task (fun _ => .sent) [fun _ => .full]) := by
    refine ⟨fun _ _ _ _ _ _ _ _ _ => rfl, ?_, fun _ _ => trivial⟩
    intro ev rest queue recipient member isSent copy waits
    cases waits
  have blocked := @Machine.Reachable.next _ _ _ _ _ _ posted
    (.task (fun _ => .sent) [fun _ => .full])
    (fun put member turn isFailed => by
      rw [List.mem_singleton.mp member] at isFailed
      cases isFailed) inTurn rfl
  have late := @Machine.Reachable.next _ _ _ _ _ _ blocked (.task (fun _ => .sent) [])
    (List.forall_mem_nil _) ⟨fun _ _ _ _ _ _ _ _ _ => rfl, trivial⟩ rfl
  exact ⟨late, deliveryMachine_inOrder oneSegment plainMatching late⟩

/-- Two events for the server. The queue was full for the first one, and not for the second. -/
def overtaken : DeliveryRun :=
  ⟨⟨[⟨[101], 1, 0x01000001, 0⟩], [], 2, [], [(0x01000001, 1)], []⟩, [bareEvent 1, bareEvent 2],
    [bareEvent 1, bareEvent 2], [⟨0x01000001, 0, 1⟩], [⟨0x01000001, 1, 2⟩]⟩

theorem deliveryMachine_overtaken :
    (deliveryMachine oneSegment plainMatching).Reachable (fun _ _ => True) overtaken ∧
      ¬overtaken.InOrder plainMatching := by
  have start : (deliveryMachine oneSegment plainMatching).Reachable (fun _ _ => True)
      oneSubscriber := .start ⟨_, _, rfl⟩
  have one := @Machine.Reachable.next _ _ _ _ _ _ start (.post (bareEvent 0)) trivial trivial rfl
  have two := @Machine.Reachable.next _ _ _ _ _ _ one (.post (bareEvent 0)) trivial trivial rfl
  have sent := @Machine.Reachable.next _ _ _ _ _ _ two
    (.task (fun _ => .sent) [fun _ => .full, fun _ => .sent])
    (fun put member turn isFailed => by
      simp only [List.mem_cons, List.not_mem_nil, or_false] at member
      rcases member with rfl | rfl
      · cases isFailed
      · cases isFailed) trivial rfl
  refine ⟨sent, ?_⟩
  intro inOrder
  exact absurd (inOrder.delivered 0x01000001) (by decide)

end MidWay.Mwd

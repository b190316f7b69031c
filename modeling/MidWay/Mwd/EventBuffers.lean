import MidWay.Lib.Holders
import MidWay.Lib.Runs
import MidWay.Mwd.EventQueue

/-!
Contract: when `mwd` frees the buffer of an event.

Beside the queues of `mwd` stands what the buffers are for: each one that was sent, with
the recipients that have neither acked it nor left. A buffer is to be in use exactly as
long as its event waits to be sent or somebody is in its list.

Acks keep to that, unless a younger event with the same id waits as well. The exit of a
member keeps to it only if the member waits once for each event and is nowhere the last
one.

Owns: the machine of posts, subscriptions, acks and exits, and that the buffers in use
are the ones somebody waits for.
-/

namespace MidWay.Mwd

open MidWay.CLib MidWay.Lib MidWay.Shm

variable {id senderid : Int} {subscriptions : List Subscription}

structure EventBuffer where
  eventid : Int
  adr : Int
deriving DecidableEq, Repr

def adrOf (holding : Holding EventBuffer Int) : Int := holding.resource.adr

/-- The queues, and the buffers with those that wait for them. -/
structure EventRun where
  state : EventState
  held : List (Holding EventBuffer Int)

inductive EventAction where
  | subscribe (matching : Matching) (se : Subscription)
  | unsubscribe (subid mwid : Int)
  | post (evmsg : Event)
  | sendNext (matching : Matching) (put : Nat → Delivery)
  | flush (put : Nat → Delivery)
  /-- A recipient acks the buffer at the position. -/
  | ack (position : Nat) (senderid : Int)
  /-- An ack of somebody who does not wait for such an event. -/
  | strayAck (eventid senderid : Int)
  | exit (id : Int)

section

variable (segment : Int → Option Mapping)

def Event.buffer (ev : Event) : Option Int :=
  if ev.data = 0 then none else mwoffset2adr ev.data (segment ev.datasegmentid)

/-- A poster hands over a buffer that no other event has. -/
def EventState.post (state : EventState) (evmsg : Event) : EventState :=
  { state.eventEnqueue evmsg with buffers := (evmsg.buffer segment).toList ++ state.buffers }

/-- Who the next event is sent to, if it has data. -/
def EventState.waiting (state : EventState) (matching : Matching) (put : Nat → Delivery)
    (ev : Event) : List Int :=
  if ev.data ≠ 0 then (ev.recipients matching put state.subscriptions).map Prod.fst else []

def EventRun.sends (run : EventRun) (matching : Matching) (put : Nat → Delivery) :
    List (Holding EventBuffer Int) :=
  match run.state.eventqueue with
  | [] => run.held
  | ev :: _ =>
      awaited [⟨⟨ev.eventid, (ev.buffer segment).getD 0⟩, run.state.waiting matching put ev⟩] ++
        run.held

def EventRun.step (run : EventRun) : EventAction → Except EventFailure EventRun
  | .subscribe matching se => .ok { run with state := run.state.eventSubscribe matching se }
  | .unsubscribe subid mwid => .ok { run with state := run.state.eventUnsubscribe subid mwid }
  | .post evmsg => .ok { run with state := run.state.post segment evmsg }
  | .sendNext matching put =>
      (run.state.doEvent segment matching put).map fun state => ⟨state, run.sends segment matching put⟩
  | .flush put => .ok { run with state := run.state.flushBlockingqueue put }
  | .ack position senderid =>
      (run.state.eventAck segment ((run.held[position]?.map fun holding =>
          holding.resource.eventid).getD 0) senderid).map
        fun state => ⟨state, release run.held position senderid⟩
  | .strayAck eventid senderid =>
      (run.state.eventAck segment eventid senderid).map fun state => { run with state := state }
  | .exit id => (run.state.eventClearId id).map fun state => ⟨state, leave run.held id⟩

/-- Members have ids, and only who waits for a buffer acks it. -/
def EventRun.enabled (run : EventRun) : EventAction → Prop
  | .subscribe _ se => se.id ≠ unassigned
  | .post evmsg =>
      evmsg.data ≠ 0 → ∃ adr, evmsg.buffer segment = some adr ∧ adr ∉ run.state.buffers
  | .ack position senderid => ∃ holding, run.held[position]? = some holding ∧
      senderid ∈ holding.waiting
  | .strayAck eventid senderid => senderid ≠ unassigned ∧
      ∀ holding ∈ run.held, holding.resource.eventid = eventid → senderid ∉ holding.waiting
  | .exit id => id ≠ unassigned
  | _ => True

def eventMachine : Machine EventRun EventAction EventFailure where
  start run := ∃ lastEventid, run = ⟨⟨[], [], lastEventid, [], [], []⟩, []⟩
  enabled := EventRun.enabled segment
  step := EventRun.step segment

/-- An event without recipients has its data in the first segment; no younger event with the
same id waits when one is acked; and who exits waits for each event at most once, and not
alone. -/
def Orderly (run : EventRun) : EventAction → Prop
  | .sendNext matching put => ∀ ev rest, run.state.eventqueue = ev :: rest →
      run.state.waiting matching put ev = [] → ev.data ≠ 0 →
      mwoffset2adr ev.data (segment 0) = ev.buffer segment
  | .ack position _ => ∀ holding, run.held[position]? = some holding →
      ∀ younger ∈ run.held.take position, younger.resource.eventid ≠ holding.resource.eventid
  | .exit id => ∀ holding ∈ run.held, id ∈ holding.waiting →
      holding.waiting.count id = 1 ∧ ∃ other ∈ holding.waiting, other ≠ id
  | _ => True

/-- The queue has one entry for each recipient that waits. -/
structure Tracks (ev : QueuedEvent) (holding : Holding EventBuffer Int) : Prop where
  eventid : ev.evmsg.eventid = holding.resource.eventid
  hasData : ev.evmsg.data ≠ 0
  buffer : ev.evmsg.buffer segment = some holding.resource.adr
  waiting : (ev.pendingAckIds.filter fun id => id ≠ unassigned) = holding.waiting
  pendingAcks : ev.pendingAcks = holding.waiting.length
  waits : holding.waiting ≠ []

/-- The buffers in use are those of events that are still to be sent, and those somebody waits
for. -/
structure EventRun.Accounts (run : EventRun) : Prop where
  nodup : run.state.buffers.Nodup
  buffers : run.state.buffers.Perm (run.state.eventqueue.filterMap (Event.buffer segment) ++
    run.held.map adrOf)

structure EventRun.Sound (run : EventRun) : Prop extends run.Accounts segment where
  tracks : List.Forall₂ (Tracks segment) run.state.ackqueue run.held
  members : ∀ se ∈ run.state.subscriptions, se.id ≠ unassigned
  posted : ∀ ev ∈ run.state.eventqueue, ev.data ≠ 0 → ∃ adr, ev.buffer segment = some adr

end

theorem clearEntry_eq_none {ids : List Int} (absent : id ∉ ids) :
    clearEntry id ids = none := by
  induction ids with
  | nil => rfl
  | cons entry ids ih =>
      rw [List.mem_cons, not_or] at absent
      simp [clearEntry, ih, Ne.symm, absent]

/-- The entry of a member that waits is the first one of the list of those who wait. -/
theorem clearEntry_mem (isMember : id ≠ unassigned) {ids : List Int} (present : id ∈ ids) :
    ∃ cleared, clearEntry id ids = some cleared ∧
      (cleared.filter fun id => id ≠ unassigned) =
        (ids.filter fun id => id ≠ unassigned).erase id := by
  induction ids with
  | nil => cases present
  | cons entry ids ih =>
      by_cases same : entry = id
      · refine ⟨unassigned :: ids, ?_, ?_⟩
        · rw [clearEntry, if_pos same]
        · rw [same, List.filter_cons_of_neg (by simp), List.filter_cons_of_pos (by simpa using isMember),
            List.erase_cons_head]
      · have later : id ∈ ids := by
          rcases List.mem_cons.mp present with isHead | later
          · exact absurd isHead.symm same
          · exact later
        grind [clearEntry]

section

variable {segment : Int → Option Mapping} {ev : QueuedEvent} {holding : Holding EventBuffer Int}
  (tracks : Tracks segment ev holding)
include tracks

theorem Tracks.mem_waiting :
    id ∈ holding.waiting ↔ id ∈ ev.pendingAckIds ∧ id ≠ unassigned := by
  rw [← tracks.waiting, List.mem_filter, decide_eq_true_eq]

theorem Tracks.not_waiting (isMember : id ≠ unassigned) (notWaiting : id ∉ holding.waiting) :
    clearEntry id ev.pendingAckIds = none := by
  apply clearEntry_eq_none
  intro present
  exact notWaiting (tracks.mem_waiting.mpr ⟨present, isMember⟩)

/-- What an ack leaves of an entry. -/
theorem Tracks.cleared (waits : id ∈ holding.waiting) :
    ∃ ids, clearEntry id ev.pendingAckIds = some ids ∧
      (ev.pendingAcks - 1 = 0 ↔ holding.waiting.erase id = []) ∧
      (holding.waiting.erase id ≠ [] →
        Tracks segment { ev with pendingAckIds := ids, pendingAcks := ev.pendingAcks - 1 }
          { holding with waiting := holding.waiting.erase id }) := by
  rcases tracks.mem_waiting.mp waits with ⟨present, isMember⟩
  rcases clearEntry_mem isMember present with ⟨ids, result, filtered⟩
  have one : 1 ≤ holding.waiting.length := List.length_pos_of_mem waits
  have left : (holding.waiting.erase id).length = holding.waiting.length - 1 :=
    List.length_erase_of_mem waits
  refine ⟨ids, result, ?_, ?_⟩
  · rw [tracks.pendingAcks, ← List.length_eq_zero_iff, left]
    omega
  · intro nonempty
    refine ⟨tracks.eventid, tracks.hasData, tracks.buffer, ?_, ?_, nonempty⟩
    · rw [filtered, tracks.waiting]
    · simp_all [tracks.pendingAcks]

end

section

variable {segment : Int → Option Mapping} {queue : List QueuedEvent}
  {held : List (Holding EventBuffer Int)} (tracks : List.Forall₂ (Tracks segment) queue held)
include tracks

theorem tracks_waits : ∀ holding ∈ held, holding.waiting ≠ [] := by
  induction tracks with
  | nil => exact List.forall_mem_nil _
  | cons first _ ih =>
      rw [List.forall_mem_cons]
      exact ⟨first.waits, ih⟩

/-- What an ack does: the recipient's entry is cleared, and the buffer is freed when it was the
last. -/
theorem ackEntry_release {position : Nat} {holding : Holding EventBuffer Int}
    (found : held[position]? = some holding) (waits : senderid ∈ holding.waiting)
    (first : ∀ younger ∈ held.take position, younger.resource.eventid ≠ holding.resource.eventid) :
    ∃ after freed, ackEntry holding.resource.eventid senderid queue = (after, freed) ∧
      List.Forall₂ (Tracks segment) after (release held position senderid) ∧
      ((freed = none ∧ (release held position senderid).map adrOf = held.map adrOf) ∨
        ∃ evmsg, freed = some evmsg ∧ evmsg.data ≠ 0 ∧
          evmsg.buffer segment = some holding.resource.adr ∧
          (held.map adrOf).Perm
            (holding.resource.adr :: (release held position senderid).map adrOf)) := by
  induction tracks generalizing position with
  | nil => cases found
  | @cons ev head queue held head_tracks rest ih =>
      cases position with
      | zero =>
          cases found
          rcases head_tracks.cleared waits with ⟨ids, result, last, more⟩
          rw [ackEntry, if_neg (not_not.mpr head_tracks.eventid.symm)]
          simp only [result]
          by_cases isLast : holding.waiting.erase senderid = []
          · rw [if_pos (last.mpr isLast), release_last (tracks_waits rest) isLast]
            exact ⟨_, _, rfl, rest, Or.inr ⟨_, rfl, head_tracks.hasData, head_tracks.buffer,
              List.Perm.refl _⟩⟩
          · rw [if_neg (fun isZero => isLast (last.mp isZero)),
              release_more (tracks_waits rest) isLast]
            exact ⟨_, _, rfl, .cons (more isLast) rest, Or.inl ⟨rfl, rfl⟩⟩
      | succ position =>
          have younger := first head (by simp)
          have different : holding.resource.eventid ≠ ev.evmsg.eventid := by
            simp [head_tracks.eventid, younger.symm]
          rcases ih found (fun younger member => first younger (by
            rw [List.take_succ_cons]
            exact List.mem_cons_of_mem _ member)) with ⟨after, freed, result, tracked, freeing⟩
          rw [release_succ head_tracks.waits]
          refine ⟨ev :: after, freed, ?_, .cons head_tracks tracked, ?_⟩
          · rw [ackEntry, if_pos different, result]
          · grind

theorem ackEntry_stray {eventid : Int} (isMember : senderid ≠ unassigned)
    (stray : ∀ holding ∈ held, holding.resource.eventid = eventid → senderid ∉ holding.waiting) :
    ackEntry eventid senderid queue = (queue, none) := by
  induction tracks with
  | nil => rfl
  | @cons ev head queue held head_tracks rest ih =>
      rw [List.forall_mem_cons] at stray
      by_cases same : eventid = ev.evmsg.eventid
      · have notWaiting := stray.1 (head_tracks.eventid.symm.trans same.symm)
        rw [ackEntry, if_neg (not_not.mpr same), head_tracks.not_waiting isMember notWaiting]
      · rw [ackEntry, if_pos same, ih stray.2]

end

theorem clearPendingackByid_cons (id : Int) (ev : QueuedEvent) (queue : List QueuedEvent)
    {kept : QueuedEvent}
    (keeps : (clearEntry id ev.pendingAckIds = none ∧ kept = ev) ∨
      ∃ ids, clearEntry id ev.pendingAckIds = some ids ∧ ev.pendingAcks - 1 ≠ 0 ∧
        kept = { ev with pendingAckIds := ids, pendingAcks := ev.pendingAcks - 1 })
    {after : List QueuedEvent} (rest : clearPendingackByid id queue = .ok (after, [])) :
    clearPendingackByid id (ev :: queue) = .ok (kept :: after, []) := by
  cases queue with
  | nil =>
      cases rest
      rcases keeps with ⟨isNone, rfl⟩ | ⟨ids, isSome, more, rfl⟩
      · simp only [clearPendingackByid, isNone]
      · simp only [clearPendingackByid, isSome, if_neg more]
  | cons next queue =>
      rcases keeps with ⟨isNone, rfl⟩ | ⟨ids, isSome, more, rfl⟩
      · rw [clearPendingackByid]
        simp only [isNone, rest]
        rfl
      · rw [clearPendingackByid]
        simp only [isSome, if_neg more, rest]
        rfl

/-- A member that waits for nothing twice, and nowhere alone, leaves. -/
theorem clearPendingackByid_leave {segment : Int → Option Mapping} {queue : List QueuedEvent}
    {held : List (Holding EventBuffer Int)} (tracks : List.Forall₂ (Tracks segment) queue held)
    {id : Int} (isMember : id ≠ unassigned)
    (orderly : ∀ holding ∈ held, id ∈ holding.waiting →
      holding.waiting.count id = 1 ∧ ∃ other ∈ holding.waiting, other ≠ id) :
    ∃ after, clearPendingackByid id queue = .ok (after, []) ∧
      List.Forall₂ (Tracks segment) after (leave held id) ∧
      (leave held id).map adrOf = held.map adrOf := by
  induction tracks with
  | nil => exact ⟨[], rfl, .nil, rfl⟩
  | @cons ev head queue held head_tracks rest ih =>
      rw [List.forall_mem_cons] at orderly
      rcases ih orderly.2 with ⟨after, result, tracked, same⟩
      by_cases waits : id ∈ head.waiting
      · rcases orderly.1 waits with ⟨once, other, otherWaits, different⟩
        have isErase := filter_ne_eq_erase (Nat.le_of_eq once)
        have more : (head.waiting.filter fun other => other ≠ id) ≠ [] := by
          apply List.ne_nil_of_mem (a := other)
          simp_all
        have moreErased : head.waiting.erase id ≠ [] := by
          simp_all
        rcases head_tracks.cleared waits with ⟨ids, cleared, last, kept⟩
        rw [leave_cons more, isErase, List.map_cons, List.map_cons, same]
        exact ⟨_, clearPendingackByid_cons id ev queue (Or.inr ⟨ids, cleared,
          fun isZero => moreErased (last.mp isZero), rfl⟩) result,
          .cons (kept moreErased) tracked, rfl⟩
      · have unchanged : (head.waiting.filter fun other => other ≠ id) = head.waiting := by
          rw [List.filter_eq_self]
          intro other member
          have different : other ≠ id := fun isId => waits (isId ▸ member)
          simpa using different
        rw [leave_cons (by rw [unchanged]; exact head_tracks.waits), unchanged, List.map_cons,
          List.map_cons, same]
        exact ⟨_, clearPendingackByid_cons id ev queue (Or.inl
          ⟨head_tracks.not_waiting isMember waits, rfl⟩) result, .cons head_tracks tracked, rfl⟩

theorem mem_unsubscribe {subid mwid : Int} {se : Subscription}
    (member : se ∈ unsubscribe subid mwid subscriptions) : se ∈ subscriptions := by
  fun_induction unsubscribe subid mwid subscriptions with
  | case1 => cases member
  | case2 only isOne => cases member
  | case3 only isOther => exact member
  | case4 head next rest isOne isSingle => exact List.mem_cons_of_mem _ member
  | case5 head next rest isOne isAll ih =>
      grind
  | case6 head next rest isOther ih =>
      grind

theorem EventState.eventSubscribe_subscriptions (matching : Matching) (state : EventState)
    (se : Subscription) :
    ∃ subscriptions, state.eventSubscribe matching se =
        { state with subscriptions := subscriptions } ∧
      subscriptions ⊆ se :: state.subscriptions := by
  unfold EventState.eventSubscribe
  generalize (if se.flags &&& mwEveregexp ≠ 0 then matching.regcomp true se.pattern
    else if se.flags &&& mwEvregexp ≠ 0 then matching.regcomp false se.pattern
    else true) = compiled
  cases compiled with
  | true => exact ⟨_, rfl, List.Subset.refl _⟩
  | false => exact ⟨_, rfl, List.subset_cons_self _ _⟩

theorem EventState.eventUnsubscribe_subscriptions (state : EventState) (subid mwid : Int) :
    ∃ subscriptions, state.eventUnsubscribe subid mwid =
        { state with subscriptions := subscriptions } ∧
      subscriptions ⊆ state.subscriptions := by
  unfold EventState.eventUnsubscribe
  split_ifs with illegal
  · exact ⟨_, rfl, List.Subset.refl _⟩
  · exact ⟨_, rfl, fun _ => mem_unsubscribe⟩

theorem mem_recipients {ev : Event} {matching : Matching} {put : Nat → Delivery}
    {recipient : Int × Delivery} (member : recipient ∈ ev.recipients matching put subscriptions) :
    ∃ se ∈ subscriptions, se.id = recipient.1 := by
  induction subscriptions generalizing put with
  | nil => cases member
  | cons se rest ih =>
      grind [Event.recipients]

theorem EventState.eventEnqueue_queue (state : EventState) (evmsg : Event) :
    ∃ eventid lastEventid, state.eventEnqueue evmsg = { state with
      eventqueue := state.eventqueue ++ [{ evmsg with eventid := eventid }]
      lastEventid := lastEventid } := by
  unfold EventState.eventEnqueue
  split_ifs with unnumbered
  · exact ⟨_, _, rfl⟩
  · exact ⟨evmsg.eventid, state.lastEventid, rfl⟩

theorem EventState.mwfree_inUse {state : EventState} {adr : Int} (inUse : adr ∈ state.buffers) :
    state.mwfree (some adr) = .ok { state with buffers := state.buffers.erase adr } :=
  if_pos inUse

section

variable {segment : Int → Option Mapping} {run : EventRun} (sound : run.Sound segment)
include sound

theorem EventRun.Sound.waiting_members (matching : Matching) (put : Nat → Delivery) (ev : Event) :
    ∀ id ∈ run.state.waiting matching put ev, id ≠ unassigned := by
  intro id member
  unfold EventState.waiting at member
  split_ifs at member with hasData
  · rcases List.mem_map.mp member with ⟨recipient, isRecipient, same⟩
    rcases mem_recipients isRecipient with ⟨se, subscribed, isId⟩
    rw [← same, ← isId]
    exact sound.members se subscribed
  · cases member

theorem EventRun.Sound.resubscribed (members : ∀ se ∈ subscriptions, se.id ≠ unassigned) :
    EventRun.Sound segment
      { run with state := { run.state with subscriptions := subscriptions } } :=
  ⟨⟨sound.nodup, sound.buffers⟩, sound.tracks, members, sound.posted⟩

/-- Buffers that no event has yet come with a post. -/
theorem EventRun.Sound.post {evmsg : Event} (enabled : run.enabled segment (.post evmsg)) :
    EventRun.Sound segment { run with state := run.state.post segment evmsg } := by
  rcases run.state.eventEnqueue_queue evmsg with ⟨eventid, lastEventid, enqueued⟩
  have same : Event.buffer segment { evmsg with eventid := eventid } = evmsg.buffer segment := rfl
  unfold EventState.post
  rw [enqueued]
  refine ⟨⟨?_, ?_⟩, sound.tracks, sound.members, ?_⟩
  · cases isBuffer : evmsg.buffer segment with
    | none => exact sound.nodup
    | some adr =>
        have hasData : evmsg.data ≠ 0 := by
          simp_all [Event.buffer]
        rcases enabled hasData with ⟨other, isOther, fresh⟩
        rw [isBuffer] at isOther
        cases isOther
        exact List.nodup_cons.mpr ⟨fresh, sound.nodup⟩
  · simp only [List.filterMap_append, List.filterMap_cons, List.filterMap_nil, same]
    cases evmsg.buffer segment with
    | none =>
        simp [Option.toList_none, List.nil_append, List.append_nil, sound.buffers]
    | some adr =>
        simp only [Option.toList_some, List.singleton_append, List.append_assoc]
        exact (sound.buffers.cons adr).trans List.perm_middle.symm
  · intro ev member hasData
    rcases List.mem_append.mp member with queued | isLast
    · exact sound.posted ev queued hasData
    · rw [List.mem_singleton.mp isLast] at hasData ⊢
      rcases enabled hasData with ⟨adr, isAdr, _⟩
      exact ⟨adr, isAdr⟩

/-- The buffer that is freed is one nobody waits for any more. -/
theorem EventRun.Sound.freed {state : EventState} {held : List (Holding EventBuffer Int)}
    {adr : Int} (buffers : state.buffers = run.state.buffers)
    (frees : (run.state.eventqueue.filterMap (Event.buffer segment) ++ run.held.map adrOf).Perm
      (adr :: (state.eventqueue.filterMap (Event.buffer segment) ++ held.map adrOf)))
    (tracks : List.Forall₂ (Tracks segment) state.ackqueue held)
    (members : state.subscriptions = run.state.subscriptions)
    (queued : state.eventqueue ⊆ run.state.eventqueue) :
    ∃ next, state.mwfree (some adr) = .ok next ∧ EventRun.Sound segment ⟨next, held⟩ := by
  have perm : state.buffers.Perm
      (adr :: (state.eventqueue.filterMap (Event.buffer segment) ++ held.map adrOf)) := by
    rw [buffers]
    exact sound.buffers.trans frees
  have inUse : adr ∈ state.buffers := perm.mem_iff.mpr List.mem_cons_self
  refine ⟨_, EventState.mwfree_inUse inUse, ⟨?_, ?_⟩, tracks, ?_, ?_⟩
  · simp [buffers, sound.nodup.erase]
  · grind
  · simp_all [sound.members]
  · intro ev member
    exact sound.posted ev (queued member)

theorem EventRun.Sound.sendNext {matching : Matching} {put : Nat → Delivery}
    (orderly : Orderly segment run (.sendNext matching put)) :
    ∃ next, run.step segment (.sendNext matching put) = .ok next ∧ next.Sound segment := by
  rw [EventRun.step, EventState.doEvent, EventRun.sends]
  cases queue : run.state.eventqueue with
  | nil => exact ⟨_, rfl, sound⟩
  | cons ev rest =>
      have members := sound.waiting_members matching put ev
      have later : rest ⊆ run.state.eventqueue := by
        simp [queue]
      dsimp only
      change ∃ next, Except.map _ (if run.state.waiting matching put ev ≠ [] then _ else _) =
        .ok next ∧ _
      by_cases someone : run.state.waiting matching put ev ≠ []
      · have hasData : ev.data ≠ 0 := by
          intro noData
          apply someone
          rw [EventState.waiting, if_neg (not_not.mpr noData)]
        rcases sound.posted ev (by rw [queue]; exact List.mem_cons_self) hasData with ⟨adr, isAdr⟩
        rw [if_pos someone, isAdr]
        refine ⟨_, rfl, ⟨sound.nodup, ?_⟩, ?_, sound.members, fun other member =>
          sound.posted other (later member)⟩
        · have buffers := sound.buffers
          rw [queue, List.filterMap_cons_some isAdr] at buffers
          rw [awaited_cons someone]
          exact buffers.trans List.perm_middle.symm
        · rw [awaited_cons someone]
          refine .cons ⟨rfl, hasData, isAdr, ?_, rfl, someone⟩ sound.tracks
          change (run.state.waiting matching put ev).filter _ = run.state.waiting matching put ev
          simp_all [List.filter_eq_self]
      · have nobody : run.state.waiting matching put ev = [] := not_not.mp someone
        rw [if_neg someone, nobody]
        by_cases hasData : ev.data ≠ 0
        · rcases sound.posted ev (by rw [queue]; exact List.mem_cons_self) hasData
            with ⟨adr, isAdr⟩
          rw [if_pos hasData, orderly ev rest queue nobody hasData, isAdr]
          have frees : (run.state.eventqueue.filterMap (Event.buffer segment) ++
              run.held.map adrOf).Perm
              (adr :: (rest.filterMap (Event.buffer segment) ++ run.held.map adrOf)) := by
            rw [queue, List.filterMap_cons_some isAdr]
            exact .refl _
          rcases @EventRun.Sound.freed segment run sound { run.state with eventqueue := rest, blocking := _ } run.held adr rfl
            frees sound.tracks rfl later with ⟨next, result, kept⟩
          rw [result]
          exact ⟨_, rfl, kept⟩
        · rw [if_neg hasData]
          have noBuffer : ev.buffer segment = none := by
            rw [Event.buffer, if_pos (not_not.mp hasData)]
          refine ⟨_, rfl, ⟨sound.nodup, ?_⟩, sound.tracks, sound.members, fun other member =>
            sound.posted other (later member)⟩
          have buffers := sound.buffers
          rw [queue, List.filterMap_cons_none noBuffer] at buffers
          exact buffers

theorem EventRun.Sound.ack {position : Nat} (enabled : run.enabled segment (.ack position senderid))
    (orderly : Orderly segment run (.ack position senderid)) :
    ∃ next, run.step segment (.ack position senderid) = .ok next ∧ next.Sound segment := by
  rcases enabled with ⟨holding, found, waits⟩
  rcases ackEntry_release sound.tracks found waits (orderly holding found)
    with ⟨after, freed, result, tracked, freeing⟩
  simp only [EventRun.step, EventState.eventAck, found, Option.map_some, Option.getD_some, result]
  rcases freeing with ⟨rfl, same⟩ | ⟨evmsg, rfl, hasData, buffer, frees⟩
  · refine ⟨_, rfl, ⟨sound.nodup, ?_⟩, tracked, sound.members, sound.posted⟩
    simp [same, sound.buffers]
  · rw [Event.buffer, if_neg hasData] at buffer
    dsimp only
    rw [buffer]
    rcases @EventRun.Sound.freed segment run sound { run.state with ackqueue := after }
      (release run.held position senderid) holding.resource.adr rfl
      ((frees.append_left _).trans List.perm_middle) tracked rfl (List.Subset.refl _)
      with ⟨next, result, kept⟩
    rw [result]
    exact ⟨_, rfl, kept⟩

theorem EventRun.Sound.strayAck {eventid : Int}
    (enabled : run.enabled segment (.strayAck eventid senderid)) :
    ∃ next, run.step segment (.strayAck eventid senderid) = .ok next ∧ next.Sound segment := by
  simp only [EventRun.step, EventState.eventAck, ackEntry_stray sound.tracks enabled.1 enabled.2]
  exact ⟨_, rfl, sound⟩

theorem EventRun.Sound.exit (isMember : id ≠ unassigned)
    (orderly : Orderly segment run (.exit id)) :
    ∃ next, run.step segment (.exit id) = .ok next ∧ next.Sound segment := by
  rcases clearPendingackByid_leave sound.tracks isMember orderly
    with ⟨after, result, tracked, same⟩
  have cleared : run.state.eventClearId id =
      .ok (EventState.eventUnsubscribe
        { run.state.clearBlockingqueueByid id with ackqueue := after } unassigned id) := by
    unfold EventState.eventClearId
    change (clearPendingackByid id run.state.ackqueue >>= _) = _
    rw [result]
    rfl
  rw [EventRun.step, cleared]
  refine ⟨_, rfl, ⟨sound.nodup, ?_⟩, tracked, ?_, sound.posted⟩
  · change run.state.buffers.Perm (_ ++ (leave run.held id).map adrOf)
    rw [same]
    exact sound.buffers
  · intro se member
    exact sound.members se (mem_unsubscribe member)

end

theorem eventMachine_keeps (segment : Int → Option Mapping) :
    (eventMachine segment).Keeps (Orderly segment) (EventRun.Sound segment) := by
  intro run action sound enabled orderly
  cases action with
  | subscribe matching se =>
      rcases run.state.eventSubscribe_subscriptions matching se with ⟨after, same, subset⟩
      refine ⟨_, rfl, ?_⟩
      rw [same]
      apply sound.resubscribed
      intro other member
      rcases List.mem_cons.mp (subset member) with isNew | isOld
      · rw [isNew]
        exact enabled
      · exact sound.members other isOld
  | unsubscribe subid mwid =>
      rcases run.state.eventUnsubscribe_subscriptions subid mwid with ⟨after, same, subset⟩
      refine ⟨_, rfl, ?_⟩
      rw [same]
      exact sound.resubscribed fun se member => sound.members se (subset member)
  | post evmsg => exact ⟨_, rfl, sound.post enabled⟩
  | sendNext matching put => exact sound.sendNext orderly
  | flush put =>
      exact ⟨_, rfl, ⟨sound.nodup, sound.buffers⟩, sound.tracks, sound.members, sound.posted⟩
  | ack position senderid => exact sound.ack enabled orderly
  | strayAck eventid senderid => exact sound.strayAck enabled
  | exit id => exact sound.exit enabled orderly

/-- In every orderly run each buffer is in use exactly as long as its event is to be sent or a
recipient has neither acked it nor left, and no step frees anything else or follows a null
pointer. -/
theorem eventMachine_accounts (segment : Int → Option Mapping) {run : EventRun}
    (reachable : (eventMachine segment).Reachable (Orderly segment) run) :
    run.Accounts segment ∧ (∀ holding ∈ run.held, holding.waiting ≠ []) ∧
      ∀ action, run.enabled segment action → Orderly segment run action →
        ∃ next, run.step segment action = .ok next := by
  have sound : run.Sound segment := by
    apply reachable.safe _ (eventMachine_keeps segment)
    rintro start ⟨lastEventid, rfl⟩
    exact ⟨⟨.nil, .nil⟩, .nil, List.forall_mem_nil _, List.forall_mem_nil _⟩
  refine ⟨sound.toAccounts, tracks_waits sound.tracks, ?_⟩
  intro action enabled orderly
  rcases eventMachine_keeps segment run action sound enabled orderly with ⟨next, result, _⟩
  exact ⟨next, result⟩

def plainMatching : Matching where
  regcomp := fun _ _ => true
  regexec := fun _ pattern name => pattern == name
  fnmatch := fun pattern name => pattern == name
  client := fun _ => some ([], [])

def oneSegment (id : Int) : Option Mapping := if id = 0 then some ⟨0, 1000, 500⟩ else none

/-- A server subscribes to `e`. -/
def subscribes (id : Int) : EventAction := .subscribe plainMatching ⟨[101], 1, id, 0⟩

/-- The event `e` with its data at an offset. -/
def posts (data : Int) : EventAction := .post ⟨[101], 0, data, 0, [], []⟩

def sends : EventAction := .sendNext plainMatching fun _ => .sent

/-- The run after an action; it stays where it is when `mwd` ends. -/
def EventRun.next (run : EventRun) (action : EventAction) : EventRun :=
  match run.step oneSegment action with
  | .error _ => run
  | .ok after => after

def emptyRun : EventRun := ⟨⟨[], [], 0, [], [], []⟩, []⟩

theorem EventRun.reaches {condition : EventRun → EventAction → Prop} {run : EventRun}
    (reachable : (eventMachine oneSegment).Reachable condition run) {action : EventAction}
    (enabled : run.enabled oneSegment action) (meets : condition run action)
    (goesOn : (run.step oneSegment action).isOk = true) :
    (eventMachine oneSegment).Reachable condition (run.next action) := by
  cases stepped : run.step oneSegment action with
  | error failure =>
      rw [stepped] at goesOn
      cases goesOn
  | ok after =>
      have same : run.next action = after := by rw [EventRun.next, stepped]
      rw [same]
      exact reachable.step enabled meets stepped

def sentToTwo : EventRun :=
  (((emptyRun.next (subscribes 0x01000001)).next (subscribes 0x01000002)).next (posts 40)).next sends

/-- Two events with data were sent to one server. -/
def twoSent : EventRun :=
  ((((emptyRun.next (subscribes 0x01000001)).next (posts 40)).next (posts 80)).next sends).next sends

/-- The buffer is in use until the other server acks it, too. -/
theorem eventMachine_accounts_acked :
    (eventMachine oneSegment).Reachable (Orderly oneSegment)
        (sentToTwo.next (.ack 0 0x01000001)) ∧
      EventRun.Accounts oneSegment (sentToTwo.next (.ack 0 0x01000001)) := by
  have one : (0x01000001 : Int) ≠ unassigned := by decide
  have two : (0x01000002 : Int) ≠ unassigned := by decide
  have first := @EventRun.reaches (Orderly oneSegment) emptyRun (.start ⟨0, rfl⟩)
    (subscribes 0x01000001) one trivial rfl
  have subscribed := @EventRun.reaches _ _ first (subscribes 0x01000002) two trivial rfl
  have posted := @EventRun.reaches _ _ subscribed (posts 40)
    (fun _ => ⟨1040, rfl, List.not_mem_nil⟩) trivial rfl
  have sent : (eventMachine oneSegment).Reachable (Orderly oneSegment) sentToTwo := by
    apply @EventRun.reaches _ _ posted sends trivial _ rfl
    intro ev rest queue nobody
    cases queue
    cases nobody
  have acked := @EventRun.reaches _ _ sent (.ack 0 0x01000001) ⟨_, rfl, by decide⟩
    (fun _ _ => List.forall_mem_nil _) rfl
  exact ⟨acked, (eventMachine_accounts oneSegment acked).1⟩

/-- The server exits: nobody waits any more, and both buffers are in use. -/
theorem eventMachine_accounts_not_exited :
    (eventMachine oneSegment).Reachable (fun _ _ => True) (twoSent.next (.exit 0x01000001)) ∧
      ¬EventRun.Accounts oneSegment (twoSent.next (.exit 0x01000001)) := by
  have one : (0x01000001 : Int) ≠ unassigned := by decide
  have subscribed := @EventRun.reaches (fun _ _ => True) emptyRun (.start ⟨0, rfl⟩)
    (subscribes 0x01000001) one trivial rfl
  have posted := @EventRun.reaches _ _ (@EventRun.reaches _ _ subscribed (posts 40)
    (fun _ => ⟨1040, rfl, List.not_mem_nil⟩) trivial rfl) (posts 80)
    (fun _ => ⟨1080, rfl, by decide⟩) trivial rfl
  have sent : (eventMachine oneSegment).Reachable (fun _ _ => True) twoSent :=
    @EventRun.reaches _ _ (@EventRun.reaches _ _ posted sends trivial trivial rfl) sends trivial
      trivial rfl
  refine ⟨@EventRun.reaches _ _ sent (.exit 0x01000001) one trivial rfl, ?_⟩
  intro accounts
  have length := accounts.buffers.length_eq
  revert length
  decide

end MidWay.Mwd

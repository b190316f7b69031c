import MidWay.Gateway.Sessions
import MidWay.Mwd.EventBuffers

/-!
Contract: what a gateway does with an event from `mwd`, as `ipcserver.c` and
`srbevents.c` have it.

An event of a user goes to the SRB clients with a matching subscription, and to the
peers when it is from this instance. The names that start with a point belong to
MidWay. Every member that is sent an event with data has to ack it, and `mwd` looks for
the ack by the ids of the event and of its sender.

The bytes of the shared segments, and the `mwprovideevent` at an address, are
parameters.

Owns: `doSrbEventDispatch`, `doEventMessage`, and the events whose ack `mwd` takes.
-/

namespace MidWay.Gateway

open MidWay.CLib MidWay.Url MidWay.Srb MidWay.Shm

/-- The `Event` on the queue of a gateway; `mwd` leaves 0 as its sender. -/
structure EventMessage extends Mwd.Event where
  subscriptionid : Int
  senderid : Int
  datalen : Int
  flags : UInt32
deriving DecidableEq, Repr

def mwEventPeerGenerated : UInt32 := 0x10000000

def newServiceEvent : List Byte := ascii ".mwprovide".toList
def delServiceEvent : List Byte := ascii ".mwunprovide".toList

structure ProvideEvent where
  name : List Byte
  provider : Int
  svcid : UInt32
deriving DecidableEq, Repr

/-- `sizeof(mwprovideevent)`. -/
def sizeofProvideEvent : Int := 44

/-- What a gateway finds when it handles an event. `upPeers` are the connections of the peers
in state `UP`. -/
structure EventSight where
  myGatewayid : Int
  segment : Int → Option Mapping
  memory : Int → Byte
  provideevent : Int → ProvideEvent
  tables : IpcTables
  matching : Mwd.Matching
  upPeers : List Nat

inductive EventCrash where
  | unmapped
deriving DecidableEq, Repr

inductive ServiceNews where
  | provided (name : List Byte)
  | unprovided (name : List Byte)
deriving DecidableEq, Repr

/-- What a gateway sends, by connection, and to `mwd`; and what it passes to `impexp.c`. -/
structure EventOutcome where
  toClients : List (Nat × SRBmessage)
  toPeers : List (Nat × SRBmessage)
  service : Option ServiceNews
  acks : List EventMessage
deriving DecidableEq, Repr

def EventSight.checkmatch (sight : EventSight) (name : List Byte) (p : Subscription) : Bool :=
  if p.flags &&& mwEvglob ≠ 0 then sight.matching.fnmatch p.pattern name
  else if p.flags &&& (mwEvregexp ||| mwEveregexp) ≠ 0 then
    sight.matching.regexec (p.flags &&& mwEveregexp ≠ 0) p.pattern name
  else p.pattern == name

/-- The length is passed on as an `int`. -/
def EventMessage.vlen (ev : EventMessage) : Int := Int.bmod ev.datalen (2 ^ 32)

/-- Data that is not in the segment becomes a field without a value. -/
def EventSight.addData (sight : EventSight) (ev : EventMessage) (srbmsg : SRBmessage) :
    Except EventCrash SRBmessage :=
  let si := sight.segment ev.datasegmentid
  if ev.datalen ≤ 0 ∨ ev.vlen < 0 then .ok srbmsg
  else
    match Mwd.mwoffset2adr ev.data si with
    | none => .ok { srbmsg with map := (urlmapnadd srbmsg.map srbData none).getD srbmsg.map }
    | some adr =>
        if si.any fun si => adr + ev.vlen > si.finish then .error .unmapped
        else
          .ok (mwSrbNsetfield srbmsg srbData
            ((List.range ev.vlen.toNat).map fun i => sight.memory (adr + i)))

/-- The loop over the subscriptions; the message keeps the field that was set. -/
def EventSight.toSubscribers (sight : EventSight) (ev : EventMessage) :
    SRBmessage → List Subscription → SRBmessage × List (Nat × SRBmessage)
  | srbmsg, [] => (srbmsg, [])
  | srbmsg, p :: rest =>
      if sight.checkmatch ev.event p then
        let srbmsg := mwSrbSetfieldi srbmsg srbSubscriptionid ev.subscriptionid
        let (last, sent) := sight.toSubscribers ev srbmsg rest
        (last, (p.fd, srbmsg) :: sent)
      else sight.toSubscribers ev srbmsg rest

/-- What the peers are sent: the names of the addressee instead of the subscription. -/
def EventMessage.forPeers (ev : EventMessage) (srbmsg : SRBmessage) : SRBmessage :=
  let srbmsg := mwSrbDelfield srbmsg srbSubscriptionid
  let srbmsg :=
    if ev.username ≠ [] then mwSrbSetfield srbmsg srbUser ev.username else srbmsg
  if ev.clientname ≠ [] then mwSrbSetfield srbmsg srbClientname ev.clientname else srbmsg

/-- An event that came from a peer goes to no peer. Data is acked when it has a length. -/
def EventSight.doSrbEventDispatch (sight : EventSight) (subscriptions : List Subscription)
    (ev : EventMessage) : Except EventCrash EventOutcome := do
  let srbmsg := mwSrbSetfield (mwSrbInit srbEvent srbNotificationMarker) srbName ev.event
  let srbmsg ← sight.addData ev srbmsg
  let (srbmsg, toClients) := sight.toSubscribers ev srbmsg subscriptions
  return {
    toClients := toClients
    toPeers :=
      if ev.flags &&& mwEventPeerGenerated = 0 then
        sight.upPeers.map fun fd => (fd, ev.forPeers srbmsg)
      else []
    service := none
    acks := if ev.datalen > 0 then [{ ev with senderid := sight.myGatewayid }] else [] }

/-- An entry without a server is not found, so that of an import is not. -/
def IpcTables.mwGetServiceByid (tables : IpcTables) (svcid : UInt32) : Option Serviceentry :=
  if tables.attached = false then none
  else if svcid &&& mwServiceMask = 0 ∨ svcid = unassigned then none
  else
    match tables.svctbl[(svcid &&& mwIndexMask).toNat]? with
    | none => none
    | some entry => if entry.server = unassigned then none else some entry

def EventSight.serviceNews (sight : EventSight) (isNew : Bool) (pe : ProvideEvent) :
    Option ServiceNews :=
  let svcent := sight.tables.mwGetServiceByid pe.svcid
  if svcent.any fun entry => entry.location = .gwpeer then none
  else if pe.provider = sight.myGatewayid then none
  else if isNew then
    if svcent.any fun entry => entry.location = .gwlocal then some (.provided pe.name) else none
  else some (.unprovided pe.name)

def EventMessage.ackAsCame (evmsg : EventMessage) (service : Option ServiceNews) : EventOutcome :=
  { toClients := []
    toPeers := []
    service := service
    acks := if evmsg.data ≠ 0 then [evmsg] else [] }

def EventOutcome.ignored : EventOutcome := ⟨[], [], none, []⟩

def EventSight.doEventMessage (sight : EventSight) (subscriptions : List Subscription)
    (evmsg : EventMessage) : Except EventCrash EventOutcome :=
  if evmsg.event.head? ≠ some 46 then sight.doSrbEventDispatch subscriptions evmsg
  else if evmsg.event = newServiceEvent ∨ evmsg.event = delServiceEvent then
    let si := sight.segment evmsg.datasegmentid
    if evmsg.datalen ≠ sizeofProvideEvent then .ok .ignored
    else
      match Mwd.mwoffset2adr evmsg.data si with
      | none => .ok .ignored
      | some adr =>
          if si.any fun si => adr + sizeofProvideEvent > si.finish then .error .unmapped
          else
            .ok (evmsg.ackAsCame
              (sight.serviceNews (evmsg.event = newServiceEvent) (sight.provideevent adr)))
  else .ok (evmsg.ackAsCame none)

section

variable {sight : EventSight} {subscriptions : List Subscription} {ev : EventMessage}
  {outcome : EventOutcome}

/-- The data is not behind the end of its segment. -/
def EventSight.InSegment (sight : EventSight) (ev : EventMessage) : Prop :=
  ∀ si adr, sight.segment ev.datasegmentid = some si → Mwd.mwoffset2adr ev.data (some si) = some adr →
    adr + ev.vlen ≤ si.finish

theorem mwoffset2adr_le {offset adr : Int} {si : Mapping}
    (inside : Mwd.mwoffset2adr offset (some si) = some adr) : adr ≤ si.finish := by
  grind [Mwd.mwoffset2adr, Option.some.injEq]

theorem EventSight.addData_ok_iff (srbmsg : SRBmessage) :
    (∃ filled, sight.addData ev srbmsg = .ok filled) ↔ (0 < ev.datalen → sight.InSegment ev) := by
  unfold EventSight.addData EventSight.InSegment
  dsimp only
  by_cases short : ev.datalen ≤ 0 ∨ ev.vlen < 0
  · rw [if_pos short]
    refine iff_of_true ⟨_, rfl⟩ ?_
    intro positive si adr _ inside
    have bound := mwoffset2adr_le inside
    omega
  · rw [if_neg short]
    have positive : 0 < ev.datalen := by omega
    cases segment : sight.segment ev.datasegmentid with
    | none => exact iff_of_true ⟨_, rfl⟩ (by simp)
    | some si =>
        cases place : Mwd.mwoffset2adr ev.data (some si) with
        | none =>
            grind
        | some adr =>
            dsimp only [Option.any_some]
            by_cases behind : adr + ev.vlen > si.finish
            · simp_all
            · rw [if_neg (by simpa using behind)]
              grind

theorem EventSight.doSrbEventDispatch_acks
    (result : sight.doSrbEventDispatch subscriptions ev = .ok outcome) :
    outcome.acks =
      if ev.datalen > 0 then [{ ev with senderid := sight.myGatewayid }] else [] := by
  rw [EventSight.doSrbEventDispatch] at result
  cases filled : sight.addData ev
      (mwSrbSetfield (mwSrbInit srbEvent srbNotificationMarker) srbName ev.event) with
  | error crash =>
      simp [filled] at result
  | ok srbmsg =>
      rw [filled] at result
      cases result
      rfl

theorem EventSight.doSrbEventDispatch_ok_iff :
    (∃ outcome, sight.doSrbEventDispatch subscriptions ev = .ok outcome) ↔
      (0 < ev.datalen → sight.InSegment ev) := by
  rw [← sight.addData_ok_iff
    (mwSrbSetfield (mwSrbInit srbEvent srbNotificationMarker) srbName ev.event)]
  simp only [EventSight.doSrbEventDispatch]
  cases filled : sight.addData ev
      (mwSrbSetfield (mwSrbInit srbEvent srbNotificationMarker) srbName ev.event) with
  | error crash => exact iff_of_false (by rintro ⟨_, ⟨⟩⟩) (by rintro ⟨_, ⟨⟩⟩)
  | ok srbmsg => exact iff_of_true ⟨_, rfl⟩ ⟨_, rfl⟩

/-- An event of MidWay is acked, if at all, in the name of whoever sent it. -/
theorem EventSight.doEventMessage_asCame (isInternal : ev.event.head? = some 46)
    (result : sight.doEventMessage subscriptions ev = .ok outcome) :
    ∀ ack ∈ outcome.acks, ack = ev := by
  have asCame : ∀ service, ∀ ack ∈ (ev.ackAsCame service).acks, ack = ev := by
    simp [EventMessage.ackAsCame]
  have noAck : ∀ ack ∈ EventOutcome.ignored.acks, ack = ev := by
    intro ack member
    cases member
  unfold EventSight.doEventMessage at result
  grind

end

section

variable {queue : List Mwd.QueuedEvent} {position : Nat} {queued : Mwd.QueuedEvent}

/-- The event an ack is about, for `mwd`. -/
def ackedPosition (queue : List Mwd.QueuedEvent) (ack : EventMessage) : Option Nat :=
  queue.findIdx? fun queued => ack.eventid == queued.evmsg.eventid

/-- The queue when one copy of the event is acked, and the event whose buffer is to be freed. -/
def ackedQueue (queue : List Mwd.QueuedEvent) (position : Nat) (queued : Mwd.QueuedEvent)
    (gwid : Int) : List Mwd.QueuedEvent × Option Mwd.Event :=
  if queued.pendingAcks = 1 then (queue.eraseIdx position, some queued.evmsg)
  else
    (queue.set position
      { queued with
        pendingAckIds := queued.pendingAckIds.set (queued.pendingAckIds.idxOf gwid) Mwd.unassigned
        pendingAcks := queued.pendingAcks - 1 }, none)

/-- There is one ack, and `mwd` takes it as that of the gateway for the event at the position. -/
def AckedOnce (queue : List Mwd.QueuedEvent) (position : Nat) (queued : Mwd.QueuedEvent)
    (gwid : Int) (acks : List EventMessage) : Prop :=
  ∃ ack, acks = [ack] ∧ ack.senderid = gwid ∧ ackedPosition queue ack = some position ∧
    Mwd.ackEntry ack.eventid ack.senderid queue = ackedQueue queue position queued gwid

/-- `event_ack` goes to the first event with the id. -/
theorem ackedPosition_iff (found : queue[position]? = some queued) {ack : EventMessage}
    (isEvent : ack.eventid = queued.evmsg.eventid) :
    ackedPosition queue ack = some position ↔
      ∀ younger ∈ queue.take position, younger.evmsg.eventid ≠ ack.eventid := by
  obtain ⟨inRange, isQueued⟩ := List.getElem?_eq_some_iff.mp found
  unfold ackedPosition
  rw [List.findIdx?_eq_some_iff_getElem]
  constructor
  · rintro ⟨_, _, earlier⟩ younger member same
    obtain ⟨index, before, isYounger⟩ := List.mem_take_iff_getElem.mp member
    grind
  · intro first
    refine ⟨inRange, by rw [isQueued, isEvent, beq_self_eq_true], ?_⟩
    intro index before same
    rw [beq_iff_eq] at same
    exact first _ (List.mem_take_iff_getElem.mpr ⟨index, by omega, rfl⟩) same.symm

theorem clearEntry_set {id : Int} {ids : List Int} (member : id ∈ ids) :
    Mwd.clearEntry id ids = some (ids.set (ids.idxOf id) Mwd.unassigned) := by
  induction ids with
  | nil => cases member
  | cons entry ids ih =>
      unfold Mwd.clearEntry
      grind

/-- The entries before the first event with the id stay as they are. -/
theorem ackEntry_eq {eventid senderid : Int} (found : queue[position]? = some queued)
    (isEvent : eventid = queued.evmsg.eventid) (waits : senderid ∈ queued.pendingAckIds)
    (first : ∀ younger ∈ queue.take position, younger.evmsg.eventid ≠ eventid) :
    Mwd.ackEntry eventid senderid queue = ackedQueue queue position queued senderid := by
  induction queue generalizing position with
  | nil => cases found
  | cons head queue ih =>
      cases position with
      | zero =>
          cases found
          rw [Mwd.ackEntry, if_neg (not_not.mpr isEvent), clearEntry_set waits]
          unfold ackedQueue
          grind
      | succ position =>
          rw [List.take_succ_cons, List.forall_mem_cons] at first
          rw [Mwd.ackEntry, if_pos first.1.symm, ih found first.2]
          grind [List.eraseIdx_cons_succ, List.set_cons_succ, ackedQueue]

end

/-- The gateway's ack of an event with data arrives for just these events. -/
theorem doEventMessage_acked_iff {queue : List Mwd.QueuedEvent} {position : Nat}
    {queued : Mwd.QueuedEvent} (found : queue[position]? = some queued)
    {sight : EventSight} (isGateway : Mwd.gwidOf sight.myGatewayid ≠ Mwd.unassigned)
    (waits : sight.myGatewayid ∈ queued.pendingAckIds)
    {evmsg : EventMessage} (sent : evmsg.toEvent = queued.evmsg ∧ evmsg.senderid = 0)
    (subscriptions : List Subscription) :
    (∃ outcome, sight.doEventMessage subscriptions evmsg = .ok outcome ∧
        AckedOnce queue position queued sight.myGatewayid outcome.acks) ↔
      evmsg.event.head? ≠ some 46 ∧ 0 < evmsg.datalen ∧ sight.InSegment evmsg ∧
        ∀ younger ∈ queue.take position, younger.evmsg.eventid ≠ evmsg.eventid := by
  have isEvent : evmsg.eventid = queued.evmsg.eventid := congrArg Mwd.Event.eventid sent.1
  have notMwd : sight.myGatewayid ≠ 0 := by
    intro isMwd
    exact isGateway (by rw [isMwd]; decide)
  constructor
  · rintro ⟨outcome, result, ack, acks, sender, place, -⟩
    by_cases isInternal : evmsg.event.head? = some 46
    · have asCame := EventSight.doEventMessage_asCame isInternal result ack (by simp [acks])
      rw [asCame, sent.2] at sender
      exact absurd sender.symm notMwd
    · unfold EventSight.doEventMessage at result
      rw [if_pos isInternal] at result
      have made := EventSight.doSrbEventDispatch_acks result
      rw [acks] at made
      split_ifs at made with hasLength
      rw [List.cons.injEq] at made
      have inSegment := EventSight.doSrbEventDispatch_ok_iff.mp ⟨outcome, result⟩ hasLength
      refine ⟨isInternal, hasLength, inSegment, ?_⟩
      have same : ack.eventid = evmsg.eventid := by rw [made.1]
      rw [← same]
      exact (ackedPosition_iff found (same.trans isEvent)).mp place
  · rintro ⟨isUser, hasLength, inSegment, first⟩
    obtain ⟨outcome, result⟩ :=
      (@EventSight.doSrbEventDispatch_ok_iff sight subscriptions evmsg).mpr fun _ => inSegment
    have made := EventSight.doSrbEventDispatch_acks result
    rw [if_pos hasLength] at made
    refine ⟨outcome, ?_, _, made, rfl, (ackedPosition_iff found isEvent).mpr first,
      ackEntry_eq found isEvent waits first⟩
    unfold EventSight.doEventMessage
    rw [if_pos isUser]
    exact result

def pendingEvent (name : List Byte) : Mwd.QueuedEvent :=
  ⟨⟨name, 1, 40, 0, [], []⟩, [0x04000001], 1⟩

/-- The gateway, with the segment of `mwd` and no services. -/
def smallSight : EventSight where
  myGatewayid := 0x04000001
  segment := Mwd.oneSegment
  memory := fun _ => 0
  provideevent := fun _ => ⟨[], 0, 0⟩
  tables := ⟨true, [], [], [], [], 1, by decide, by decide⟩
  matching := Mwd.plainMatching
  upPeers := []

def gatewayCopy (name : List Byte) : EventMessage :=
  { event := name, eventid := 1, data := 40, datasegmentid := 0, username := [], clientname := [],
    subscriptionid := 0, senderid := 0, datalen := 8, flags := 0 }

theorem doEventMessage_acked_iff_user :
    ∃ outcome, smallSight.doEventMessage [] (gatewayCopy [101]) = .ok outcome ∧
      AckedOnce [pendingEvent [101]] 0 (pendingEvent [101]) 0x04000001 outcome.acks := by
  apply (doEventMessage_acked_iff rfl _ _ _ []).mpr
  · refine ⟨by decide, by decide, ?_, List.forall_mem_nil _⟩
    intro si adr isSegment place
    cases isSegment
    cases place
    decide
  · decide
  · decide
  · exact ⟨rfl, rfl⟩

/-- An event of MidWay is acked with the sender that `mwd` had put there, and `mwd` goes on
waiting. -/
theorem doEventMessage_not_acked :
    ∃ outcome, smallSight.doEventMessage [] (gatewayCopy [46, 120]) = .ok outcome ∧
      ¬AckedOnce [pendingEvent [46, 120]] 0 (pendingEvent [46, 120]) 0x04000001 outcome.acks ∧
      ∃ ack, outcome.acks = [ack] ∧
        Mwd.ackEntry ack.eventid ack.senderid [pendingEvent [46, 120]] =
          ([pendingEvent [46, 120]], none) := by
  refine ⟨(gatewayCopy [46, 120]).ackAsCame none, by decide, ?_, gatewayCopy [46, 120], by decide,
    by decide⟩
  rintro ⟨ack, acks, sender, -⟩
  have isCopy : ack = gatewayCopy [46, 120] := by
    have same : [gatewayCopy [46, 120]] = [ack] := acks
    rw [List.cons.injEq] at same
    exact same.1.symm
  rw [isCopy] at sender
  exact absurd sender (by decide)

end MidWay.Gateway

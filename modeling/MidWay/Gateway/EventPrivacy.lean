import MidWay.Gateway.EventMessages

/-!
Contract: who gets an event that is addressed to a user or to a client.

`mwd` compares the names of a client before it sends to it. A gateway subscribes to
everything, is sent the event whatever its addressee, and sends it to its own clients
by their subscriptions alone. The names that count are those `mwd` has of a client,
however it is attached.

Owns: `EventInstance.deliveredTo`, and the subscriptions for which it has only clients
of the right name.
-/

namespace MidWay.Gateway

open MidWay.CLib MidWay.Srb

/-- A gateway with the subscriptions of its clients, and the id of the client on each of its
connections. -/
structure EventGateway where
  sight : EventSight
  subscriptions : List Subscription
  client : Nat → Int

/-- An instance: what `mwd` has of the clients, its subscriptions, and the gateways. -/
structure EventInstance where
  matching : Mwd.Matching
  subscriptions : List Mwd.Subscription
  gateways : List EventGateway

def EventGateway.deliversTo (gateway : EventGateway) (ev : EventMessage) : List Int :=
  match gateway.sight.doEventMessage gateway.subscriptions ev with
  | .error _ => []
  | .ok outcome => outcome.toClients.map fun sent => gateway.client sent.1

section

variable (inst : EventInstance) (put : Nat → Mwd.Delivery) (ev : EventMessage)

/-- The members `mwd` sends the event to. -/
def EventInstance.recipients : List Int :=
  (ev.toEvent.recipients inst.matching put inst.subscriptions).map Prod.fst

/-- The clients that get the event, from `mwd` or from a gateway. -/
def EventInstance.deliveredTo : List Int :=
  ((inst.recipients put ev).filter fun id => Mwd.filterId Mwd.mwClientMask id ≠ Mwd.unassigned) ++
    (inst.gateways.filter fun gateway =>
      gateway.sight.myGatewayid ∈ inst.recipients put ev).flatMap fun gateway =>
        gateway.deliversTo ev

structure EventInstance.Addressed (id : Int) : Prop where
  username : ev.username ≠ [] → (inst.matching.client id).map Prod.fst = some ev.username
  clientname : ev.clientname ≠ [] → (inst.matching.client id).map Prod.snd = some ev.clientname

end

/-- Whoever is sent an event has a subscription that `mwd` compared with it. -/
theorem mem_recipients_compared {ev : Mwd.Event} {matching : Mwd.Matching}
    {put : Nat → Mwd.Delivery} {subscriptions : List Mwd.Subscription}
    {recipient : Int × Mwd.Delivery}
    (member : recipient ∈ ev.recipients matching put subscriptions) :
    ∃ se ∈ subscriptions, se.id = recipient.1 ∧ ev.forClient matching se = true := by
  induction subscriptions generalizing put with
  | nil => cases member
  | cons se rest ih =>
      have later
          (member : recipient ∈ ev.recipients matching (fun turn => put (turn + 1)) rest) :
          ∃ other ∈ se :: rest, other.id = recipient.1 ∧ ev.forClient matching other = true := by
        obtain ⟨other, isLater, same⟩ := ih member
        exact ⟨other, List.mem_cons_of_mem _ isLater, same⟩
      grind [Mwd.Event.recipients]

theorem addressed_of_forClient {inst : EventInstance} {ev : EventMessage} {se : Mwd.Subscription}
    (isClient : Mwd.filterId Mwd.mwClientMask se.id ≠ Mwd.unassigned)
    (compared : ev.toEvent.forClient inst.matching se = true) : inst.Addressed ev se.id := by
  rw [Mwd.Event.forClient, if_neg isClient] at compared
  cases names : inst.matching.client se.id with
  | none =>
      simp [names] at compared
  | some names' =>
      rw [names] at compared
      simp only [Bool.and_eq_true, Bool.or_eq_true, beq_iff_eq] at compared
      refine ⟨?_, ?_⟩
      · grind
      · grind

theorem EventSight.toSubscribers_fds (sight : EventSight) (ev : EventMessage) (srbmsg : SRBmessage)
    (subscriptions : List Subscription) :
    (sight.toSubscribers ev srbmsg subscriptions).2.map Prod.fst =
      (subscriptions.filter fun p => sight.checkmatch ev.event p).map Subscription.fd := by
  induction subscriptions generalizing srbmsg with
  | nil => rfl
  | cons p rest ih =>
      unfold EventSight.toSubscribers
      grind

def EventGateway.Relays (gateway : EventGateway) (ev : EventMessage) : Prop :=
  ev.event.head? ≠ some 46 ∧ (0 < ev.datalen → gateway.sight.InSegment ev)

theorem EventSight.doSrbEventDispatch_toClients {sight : EventSight}
    {subscriptions : List Subscription} {ev : EventMessage} {outcome : EventOutcome}
    (result : sight.doSrbEventDispatch subscriptions ev = .ok outcome) :
    outcome.toClients.map Prod.fst =
      (subscriptions.filter fun p => sight.checkmatch ev.event p).map Subscription.fd := by
  rw [EventSight.doSrbEventDispatch] at result
  cases filled : sight.addData ev
      (mwSrbSetfield (mwSrbInit srbEvent srbNotificationMarker) srbName ev.event) with
  | error crash =>
      simp [filled] at result
  | ok srbmsg =>
      rw [filled] at result
      cases result
      exact sight.toSubscribers_fds ev srbmsg subscriptions

theorem EventSight.doEventMessage_noClients {sight : EventSight}
    {subscriptions : List Subscription} {ev : EventMessage} {outcome : EventOutcome}
    (isInternal : ev.event.head? = some 46)
    (result : sight.doEventMessage subscriptions ev = .ok outcome) : outcome.toClients = [] := by
  unfold EventSight.doEventMessage at result
  dsimp only at result
  rw [if_neg (not_not.mpr isInternal)] at result
  split_ifs at result
  · cases result
    rfl
  · split at result
    · cases result
      rfl
    · split_ifs at result
      cases result
      rfl
  · cases result
    rfl

/-- The clients of a gateway, by their subscriptions alone. -/
theorem EventGateway.mem_deliversTo {gateway : EventGateway} {ev : EventMessage} {id : Int} :
    id ∈ gateway.deliversTo ev ↔ gateway.Relays ev ∧ ∃ p ∈ gateway.subscriptions,
      gateway.sight.checkmatch ev.event p = true ∧ gateway.client p.fd = id := by
  unfold EventGateway.deliversTo EventGateway.Relays
  by_cases isInternal : ev.event.head? = some 46
  · refine iff_of_false ?_ fun relays => relays.1.1 isInternal
    cases result : gateway.sight.doEventMessage gateway.subscriptions ev with
    | error crash => exact List.not_mem_nil
    | ok outcome =>
        grind [EventSight.doEventMessage_noClients]
  · rw [EventSight.doEventMessage, if_pos isInternal,
      ← @EventSight.doSrbEventDispatch_ok_iff gateway.sight gateway.subscriptions ev]
    cases result : gateway.sight.doSrbEventDispatch gateway.subscriptions ev with
    | error crash => exact iff_of_false List.not_mem_nil (by rintro ⟨⟨_, _, ⟨⟩⟩, _⟩)
    | ok outcome =>
        dsimp only
        have fds := EventSight.doSrbEventDispatch_toClients result
        have clients : (outcome.toClients.map fun sent => gateway.client sent.1) =
            (gateway.subscriptions.filter fun p => gateway.sight.checkmatch ev.event p).map
              fun p => gateway.client p.fd := by
          have mapped := congrArg (List.map gateway.client) fds
          rwa [List.map_map, List.map_map] at mapped
        grind

/-- An event reaches only clients with its names for just these subscriptions. -/
theorem deliveredTo_addressed_iff (inst : EventInstance) (put : Nat → Mwd.Delivery)
    (ev : EventMessage) :
    (∀ id ∈ inst.deliveredTo put ev, inst.Addressed ev id) ↔
      ∀ gateway ∈ inst.gateways, gateway.sight.myGatewayid ∈ inst.recipients put ev →
        gateway.Relays ev → ∀ p ∈ gateway.subscriptions,
          gateway.sight.checkmatch ev.event p = true → inst.Addressed ev (gateway.client p.fd) := by
  unfold EventInstance.deliveredTo
  constructor
  · intro addressed gateway member isSent relays p inList matched
    apply addressed
    apply List.mem_append_right
    rw [List.mem_flatMap]
    refine ⟨gateway, List.mem_filter.mpr ⟨member, by simpa using isSent⟩, ?_⟩
    exact EventGateway.mem_deliversTo.mpr ⟨relays, p, inList, matched, rfl⟩
  · intro addressed id member
    rcases List.mem_append.mp member with fromMwd | fromGateway
    · obtain ⟨isRecipient, isClient⟩ := List.mem_filter.mp fromMwd
      obtain ⟨recipient, sent, isId⟩ := List.mem_map.mp isRecipient
      obtain ⟨se, -, same, compared⟩ := mem_recipients_compared sent
      rw [← isId, ← same] at isClient ⊢
      exact addressed_of_forClient (by simpa using isClient) compared
    · obtain ⟨gateway, inList, delivered⟩ := List.mem_flatMap.mp fromGateway
      obtain ⟨isGateway, isSent⟩ := List.mem_filter.mp inList
      obtain ⟨relays, p, inSubscriptions, matched, isId⟩ :=
        EventGateway.mem_deliversTo.mp delivered
      rw [← isId]
      exact addressed gateway isGateway (by simpa using isSent) relays p inSubscriptions matched

/-- A gateway with one client, which subscribed to `e`. -/
def oneClientGateway : EventGateway where
  sight := smallSight
  subscriptions := [⟨7, 1, [101], 0⟩]
  client := fun _ => 0x02000001

/-- The client is `b` for `mwd`. -/
def oneClientInstance : EventInstance where
  matching := { Mwd.plainMatching with client := fun _ => some ([], [98]) }
  subscriptions := [⟨[101], 0, 0x04000001, 0⟩]
  gateways := [oneClientGateway]

/-- The event `e` for the client `a`. -/
def eventForOther : EventMessage :=
  { gatewayCopy [101] with clientname := [97] }

/-- The client `b` gets what is for `a`. -/
theorem deliveredTo_not_addressed :
    (0x02000001 : Int) ∈ oneClientInstance.deliveredTo (fun _ => .sent) eventForOther ∧
      ¬oneClientInstance.Addressed eventForOther 0x02000001 := by
  refine ⟨by decide, ?_⟩
  rintro ⟨-, clientname⟩
  exact absurd (clientname (by decide)) (by decide)

end MidWay.Gateway

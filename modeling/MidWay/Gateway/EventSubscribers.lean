import Mathlib.Data.List.Forall2
import MidWay.Client.ReplyQueue
import MidWay.Gateway.EventMessages

/-!
Contract: the subscription an SRB client is told of with an event, and the handler that
runs there.

A client numbers its own subscriptions, and so does the gateway, which is a member of
`mwd` itself. One message is used for all receivers; what is set in it as the
subscription is the number of the gateway.

Owns: `process_event`, `_mw_doevent`, and when every client hears of its own number.
-/

namespace MidWay.Client

open MidWay.CLib MidWay.Srb MidWay.Url

/-- An entry of `subscriptions`, with its handler. -/
structure SubscribedEvent (Handler : Type) where
  subscriptionid : Int
  callback : Handler

structure HandlerCall (Handler : Type) where
  callback : Handler
  event : List Byte
  data : Option (List Byte)

variable {Handler : Type}

def mwDoevent (subscriptions : List (SubscribedEvent Handler)) (subid : Int) (event : List Byte)
    (data : Option (List Byte)) : Option (HandlerCall Handler) :=
  (subscriptions.find? fun se => se.subscriptionid == subid).map fun se =>
    ⟨se.callback, event, data⟩

def processEvent (subscriptions : List (SubscribedEvent Handler)) (map : Urlmap) :
    Except Fault (Option (HandlerCall Handler)) :=
  match urlmapgetvalue map Gateway.srbName with
  | none => .ok none
  | some name =>
      match urlmapget map Gateway.srbSubscriptionid with
      | none => .ok none
      | some idx =>
          match (map[idx]?).bind UrlmapEntry.value with
          | none => .error .nullPointer
          | some value =>
              .ok (mwDoevent subscriptions (atoi value) name (urlmapgetvalue map srbData))

end MidWay.Client

namespace MidWay.Gateway

open MidWay.CLib MidWay.Url MidWay.Srb MidWay.Client

def IsInt (value : Int) : Prop := -2147483648 ≤ value ∧ value < 2147483648

/-- An `EVENT` for this subscription, that can be sent, and runs the handler of its id. -/
structure RightMessage {Handler : Type} (handlers : Nat → List (SubscribedEvent Handler))
    (ev : EventMessage) (p : Subscription) (sent : Nat × SRBmessage) : Prop where
  connection : sent.1 = p.fd
  isEvent : sent.2.command = srbEvent ∧ sent.2.marker = srbNotificationMarker
  subscriptionid : mwSrbGetfield sent.2 srbSubscriptionid = some (sprintfD p.id)
  isSent : (mwSrbencodemessage sent.2 (srbMessageMaxLen + 1)).isOk = true
  handler : ∃ data, processEvent (handlers p.fd) sent.2.map =
    .ok (mwDoevent (handlers p.fd) p.id ev.event data)

def EventSight.eventMessage (sight : EventSight) (ev : EventMessage) : Except EventCrash SRBmessage :=
  sight.addData ev
    (mwSrbSetfield (mwSrbInit srbEvent srbNotificationMarker) srbName ev.event)

def EventSight.Fits (sight : EventSight) (ev : EventMessage) (id : Int) : Prop :=
  ∀ srbmsg, sight.eventMessage ev = .ok srbmsg →
    (mwSrbencodemessage (mwSrbSetfieldi srbmsg srbSubscriptionid id) (srbMessageMaxLen + 1)).isOk =
      true

theorem eventMessage_shape {sight : EventSight} {ev : EventMessage} {srbmsg : SRBmessage}
    (made : sight.eventMessage ev = .ok srbmsg) :
    ∃ rest, srbmsg = ⟨srbEvent, srbNotificationMarker, ⟨srbName, some ev.event⟩ :: rest⟩ ∧
      ∀ entry ∈ rest, entry.key = srbData := by
  have start : mwSrbSetfield (mwSrbInit srbEvent srbNotificationMarker) srbName ev.event =
      ⟨srbEvent, srbNotificationMarker, [⟨srbName, some ev.event⟩]⟩ := rfl
  have added (value : Option (List Byte)) :
      urlmapnadd [⟨srbName, some ev.event⟩] srbData value =
        some [⟨srbName, some ev.event⟩, ⟨srbData, value⟩] := by
    apply urlmapnadd_absent
    intro entry member
    rw [List.mem_singleton.mp member]
    change srbName ≠ srbData
    decide
  rw [EventSight.eventMessage, start, EventSight.addData] at made
  split_ifs at made
  · grind
  · grind [mwSrbNsetfield]

theorem urlmapnset_last {map : Urlmap} {key : List Byte} (old value : Option (List Byte))
    (absent : ∀ entry ∈ map, strcaseeq key entry.key = false) :
    urlmapnset (map ++ [⟨key, old⟩]) key value = some (map ++ [⟨key, value⟩]) := by
  induction map with
  | nil => rw [List.nil_append, urlmapnset, if_pos (strcaseeq_self key), List.nil_append]
  | cons entry rest ih =>
      simp_all [List.cons_append, urlmapnset]

theorem urlmapget_last {map : Urlmap} {key : List Byte} (value : Option (List Byte))
    (absent : ∀ entry ∈ map, strcaseeq key entry.key = false) :
    urlmapget (map ++ [⟨key, value⟩]) key = some map.length := by
  grind [urlmapget, List.findIdx, strcaseeq_self]

section

variable {srbmsg : SRBmessage}
  (absent : ∀ entry ∈ srbmsg.map, strcaseeq srbSubscriptionid entry.key = false)

def withSubscription (srbmsg : SRBmessage) (id : Int) : SRBmessage :=
  { srbmsg with map := srbmsg.map ++ [⟨srbSubscriptionid, some (sprintfD id)⟩] }

include absent

theorem setSubscriptionid (id : Int) :
    mwSrbSetfieldi srbmsg srbSubscriptionid id = withSubscription srbmsg id := by
  have added := urlmapnadd_absent (some (sprintfD id)) fun entry member same => by
    have apart := absent entry member
    rw [same, strcaseeq_self] at apart
    cases apart
  rw [mwSrbSetfieldi, mwSrbNsetfield, added]
  rfl

theorem setSubscriptionid_again (old id : Int) :
    mwSrbSetfieldi (withSubscription srbmsg old) srbSubscriptionid id =
      withSubscription srbmsg id := by
  have present : urlmapnadd (withSubscription srbmsg old).map srbSubscriptionid
      (some (sprintfD id)) = none :=
    urlmapnadd_present (some (sprintfD id))
      (List.mem_append_right srbmsg.map List.mem_cons_self :
        (⟨srbSubscriptionid, some (sprintfD old)⟩ : UrlmapEntry) ∈ _)
  have set : urlmapnset (withSubscription srbmsg old).map srbSubscriptionid (some (sprintfD id)) =
      some (srbmsg.map ++ [⟨srbSubscriptionid, some (sprintfD id)⟩]) := urlmapnset_last _ _ absent
  rw [mwSrbSetfieldi, mwSrbNsetfield, present]
  dsimp only
  rw [set, Option.getD_some]
  rfl

/-- Every subscription that matches is sent the same message. -/
theorem toSubscribers_eq (sight : EventSight) (ev : EventMessage) (current : SRBmessage)
    (isSame : current = srbmsg ∨ current = withSubscription srbmsg ev.subscriptionid)
    (subscriptions : List Subscription) :
    (sight.toSubscribers ev current subscriptions).2 =
      (subscriptions.filter fun p => sight.checkmatch ev.event p).map fun p =>
        (p.fd, withSubscription srbmsg ev.subscriptionid) := by
  have set : mwSrbSetfieldi current srbSubscriptionid ev.subscriptionid =
      withSubscription srbmsg ev.subscriptionid := by
    obtain rfl | rfl := isSame
    · exact setSubscriptionid absent ev.subscriptionid
    · exact setSubscriptionid_again absent ev.subscriptionid ev.subscriptionid
  induction subscriptions generalizing current with
  | nil => rfl
  | cons p rest ih =>
      rw [EventSight.toSubscribers]
      by_cases matched : sight.checkmatch ev.event p = true
      · rw [if_pos matched, List.filter_cons_of_pos matched, set]
        exact congrArg ((p.fd, withSubscription srbmsg ev.subscriptionid) :: ·)
          (ih _ (Or.inr rfl)
            (setSubscriptionid_again absent ev.subscriptionid ev.subscriptionid))
      · grind

end

theorem sprintfD_inj {one two : Int} (oneInt : IsInt one) (twoInt : IsInt two)
    (same : sprintfD one = sprintfD two) : one = two := by
  have read := sscanfD_sprintfD oneInt.1 oneInt.2
  rw [same, sscanfD_sprintfD twoInt.1 twoInt.2] at read
  exact (Option.some.inj read).symm

section

variable {Handler : Type} {handlers : Nat → List (SubscribedEvent Handler)} {sight : EventSight}
  {ev : EventMessage} {srbmsg : SRBmessage}

theorem eventMessage_absent (made : sight.eventMessage ev = .ok srbmsg) :
    ∀ entry ∈ srbmsg.map, strcaseeq srbSubscriptionid entry.key = false := by
  obtain ⟨rest, rfl, isData⟩ := eventMessage_shape made
  rw [List.forall_mem_cons]
  constructor
  · rfl
  · intro entry member
    rw [isData entry member]
    decide

/-- The message with an id is right for a subscription when that is its id. -/
theorem rightMessage_iff (made : sight.eventMessage ev = .ok srbmsg) {p : Subscription}
    (isInt : IsInt p.id) {id : Int} (idInt : IsInt id) :
    RightMessage handlers ev p (p.fd, withSubscription srbmsg id) ↔ p.id = id ∧ sight.Fits ev id := by
  have absent := eventMessage_absent made
  have found := urlmapget_last (some (sprintfD id)) absent
  have value : ((withSubscription srbmsg id).map[srbmsg.map.length]?).bind UrlmapEntry.value =
      some (sprintfD id) := by
    change ((srbmsg.map ++ [⟨srbSubscriptionid, some (sprintfD id)⟩])[srbmsg.map.length]?).bind
      UrlmapEntry.value = _
    rw [List.getElem?_append_right (Nat.le_refl _), Nat.sub_self]
    rfl
  have field : mwSrbGetfield (withSubscription srbmsg id) srbSubscriptionid =
      some (sprintfD id) := by
    rw [mwSrbGetfield, urlmapgetvalue, withSubscription, found]
    exact value
  have fits : sight.Fits ev id ↔
      (mwSrbencodemessage (withSubscription srbmsg id) (srbMessageMaxLen + 1)).isOk = true := by
    rw [EventSight.Fits, made]
    constructor
    · simp_all [setSubscriptionid]
    · simp_all [setSubscriptionid]
  rw [fits]
  constructor
  · intro right
    have same := field.symm.trans right.subscriptionid
    exact ⟨(sprintfD_inj idInt isInt (Option.some.inj same)).symm, right.isSent⟩
  · intro given
    obtain ⟨same, isOk⟩ := given
    obtain ⟨rest, rfl, _⟩ := eventMessage_shape made
    rw [← same] at field isOk found value ⊢
    refine ⟨rfl, ⟨rfl, rfl⟩, field, isOk,
      urlmapgetvalue (withSubscription ⟨srbEvent, srbNotificationMarker,
        ⟨srbName, some ev.event⟩ :: rest⟩ p.id).map srbData, ?_⟩
    have name : urlmapgetvalue (withSubscription ⟨srbEvent, srbNotificationMarker,
        ⟨srbName, some ev.event⟩ :: rest⟩ p.id).map srbName = some ev.event := rfl
    have read : atoi (sprintfD p.id) = p.id := by
      rw [atoi, sscanfD_sprintfD isInt.1 isInt.2, Option.getD_some]
    simp_all [processEvent, name, withSubscription, found, value, read]

end

/-- Every client hears of its own number, once for each subscription that matches, in exactly these
cases. -/
theorem dispatch_own_ids_iff {Handler : Type} (handlers : Nat → List (SubscribedEvent Handler))
    (sight : EventSight) (subscriptions : List Subscription) (ev : EventMessage)
    (areInts : ∀ p ∈ subscriptions, IsInt p.id) (isInt : IsInt ev.subscriptionid) :
    (∃ outcome, sight.doSrbEventDispatch subscriptions ev = .ok outcome ∧
        List.Forall₂ (RightMessage handlers ev)
          (subscriptions.filter fun p => sight.checkmatch ev.event p) outcome.toClients) ↔
      (0 < ev.datalen → sight.InSegment ev) ∧
        ∀ p ∈ subscriptions, sight.checkmatch ev.event p = true →
          p.id = ev.subscriptionid ∧ sight.Fits ev ev.subscriptionid := by
  have readable := @EventSight.addData_ok_iff sight ev
    (mwSrbSetfield (mwSrbInit srbEvent srbNotificationMarker) srbName ev.event)
  rw [← readable]
  rw [EventSight.doSrbEventDispatch]
  cases made : sight.addData ev
      (mwSrbSetfield (mwSrbInit srbEvent srbNotificationMarker) srbName ev.event) with
  | error crash =>
      simp
  | ok srbmsg =>
      have sent := toSubscribers_eq (eventMessage_absent made) sight ev srbmsg (Or.inl rfl)
        subscriptions
      have right : List.Forall₂ (RightMessage handlers ev)
          (subscriptions.filter fun p => sight.checkmatch ev.event p)
          (sight.toSubscribers ev srbmsg subscriptions).2 ↔
          ∀ p ∈ subscriptions, sight.checkmatch ev.event p = true →
            p.id = ev.subscriptionid ∧ sight.Fits ev ev.subscriptionid := by
        rw [sent, List.forall₂_map_right_iff, List.forall₂_same]
        constructor
        · intro all p member matched
          exact (rightMessage_iff made (areInts p member) isInt).mp
            (all p (List.mem_filter.mpr ⟨member, matched⟩))
        · intro all p member
          obtain ⟨inList, matched⟩ := List.mem_filter.mp member
          exact (rightMessage_iff made (areInts p inList) isInt).mpr (all p inList matched)
      rw [← right]
      constructor
      · simp
      · simp

/-- Two clients that subscribed to the event `e`, with these ids. -/
def twoSubscribers (first second : Int) : List Subscription :=
  [⟨5, first, [101], 0⟩, ⟨6, second, [101], 0⟩]

/-- The event `e` without data, for this subscription of the gateway. -/
def plainEvent (subscriptionid : Int) : EventMessage :=
  { event := [101], eventid := 1, data := 0, datasegmentid := 0, username := [], clientname := [],
    subscriptionid := subscriptionid, senderid := 0, datalen := 0, flags := 0 }

def ownHandlers (fd : Nat) : List (SubscribedEvent Nat) := [⟨3, fd⟩]

theorem dispatch_own_ids_same :
    ∃ outcome, smallSight.doSrbEventDispatch (twoSubscribers 3 3) (plainEvent 3) = .ok outcome ∧
      List.Forall₂ (RightMessage ownHandlers (plainEvent 3))
        ((twoSubscribers 3 3).filter fun p => smallSight.checkmatch [101] p) outcome.toClients := by
  apply (dispatch_own_ids_iff ownHandlers smallSight (twoSubscribers 3 3) (plainEvent 3) ?_
    ⟨by decide, by decide⟩).mpr
  · refine ⟨fun positive => absurd positive (by decide), ?_⟩
    intro p member _
    refine ⟨?_, ?_⟩
    · revert p
      decide
    · intro srbmsg made
      cases made
      decide
  · intro p member
    have isThree : p.id = 3 := by
      revert p
      decide
    rw [isThree]
    exact ⟨by decide, by decide⟩

/-- The second client is told of the number of the gateway, which is that of the first. -/
theorem dispatch_foreign_id :
    ¬∃ outcome, smallSight.doSrbEventDispatch (twoSubscribers 3 4) (plainEvent 3) = .ok outcome ∧
      List.Forall₂ (RightMessage ownHandlers (plainEvent 3))
        ((twoSubscribers 3 4).filter fun p => smallSight.checkmatch [101] p) outcome.toClients := by
  intro given
  obtain ⟨outcome, isOutcome, all⟩ := given
  have sent : outcome.toClients.map (fun sent => mwSrbGetfield sent.2 srbSubscriptionid) =
      [some [51], some [51]] := by
    cases isOutcome
    decide
  have wanted : ((twoSubscribers 3 4).filter fun p => smallSight.checkmatch [101] p) =
      twoSubscribers 3 4 := by
    decide
  rw [wanted] at all
  generalize outcome.toClients = messages at sent all
  cases all with
  | cons _ rest =>
      cases rest with
      | cons second none =>
          cases none
          have field := second.subscriptionid
          rw [List.map_cons, List.map_cons, List.cons.injEq, List.cons.injEq] at sent
          rw [sent.2.1] at field
          exact absurd field (by decide)

end MidWay.Gateway

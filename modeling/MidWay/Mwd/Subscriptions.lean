import MidWay.Mwd.EventQueue

/-!
Contract: what is left of a member's subscriptions when it goes.

The loop of `event_unsubscribe` takes an element out of the list and steps over the one
behind it. So of several subscriptions of a member in a row every second one stays. A
client is unsubscribed twice, which makes up for runs of up to three.

Owns: the departures of a member, and when they leave none of its subscriptions.
-/

namespace MidWay.Mwd

inductive Departure where
  | unsubscribe (subid : Int)
  | clearId
  | delserver
  | delclient
deriving DecidableEq, Repr

/-- What `delserver` and `delclient` do to the events; both begin with `event_clear_id`. -/
def EventState.depart (state : EventState) (id : Int) :
    Departure → Except EventFailure EventState
  | .unsubscribe subid => .ok (state.eventUnsubscribe subid id)
  | .clearId => state.eventClearId id
  | .delserver => state.eventClearId id
  | .delclient => (state.eventClearId id).map fun state => state.eventUnsubscribe unassigned id

def withoutMember (id : Int) (subscriptions : List Subscription) : List Subscription :=
  subscriptions.filter fun se => se.id ≠ id

def Departure.leaves (id : Int) (subscriptions : List Subscription) :
    Departure → List Subscription
  | .unsubscribe subid =>
      if subid = unassigned then withoutMember id subscriptions
      else subscriptions.eraseP fun se => se.id = id ∧ se.subscriptionid = subid
  | .clearId => withoutMember id subscriptions
  | .delserver => withoutMember id subscriptions
  | .delclient => withoutMember id subscriptions

/-- At most `limit` subscriptions of the member stand in a row, when `used` of them stand in front
of the list. -/
def RunsAtMost (limit : Nat) (id : Int) : Nat → List Subscription → Prop
  | _, [] => True
  | used, se :: rest =>
      if se.id = id then used < limit ∧ RunsAtMost limit id (used + 1) rest
      else RunsAtMost limit id 0 rest

def Departure.Tolerates (id : Int) (subscriptions : List Subscription) : Departure → Prop
  | .unsubscribe subid => subid = unassigned → RunsAtMost 1 id 0 subscriptions
  | .clearId => RunsAtMost 1 id 0 subscriptions
  | .delserver => RunsAtMost 1 id 0 subscriptions
  | .delclient => RunsAtMost 3 id 0 subscriptions

section

variable {id : Int} {se : Subscription} {subscriptions : List Subscription}

theorem withoutMember_own (own : se.id = id) :
    withoutMember id (se :: subscriptions) = withoutMember id subscriptions :=
  List.filter_cons_of_neg (by simpa using own)

theorem withoutMember_other (other : se.id ≠ id) :
    withoutMember id (se :: subscriptions) = se :: withoutMember id subscriptions :=
  List.filter_cons_of_pos (by simpa using other)

theorem unsubscribe_own {next : Subscription} (own : se.id = id) :
    unsubscribe unassigned id (se :: next :: subscriptions) =
      next :: unsubscribe unassigned id subscriptions := by
  rw [unsubscribe, if_pos ⟨own, Or.inl rfl⟩, if_neg (not_not.mpr rfl)]

theorem unsubscribe_last (own : se.id = id) : unsubscribe unassigned id [se] = [] := by
  rw [unsubscribe, if_pos ⟨own, Or.inl rfl⟩]

theorem unsubscribe_other (other : se.id ≠ id) :
    unsubscribe unassigned id (se :: subscriptions) =
      se :: unsubscribe unassigned id subscriptions := by
  have unmatched (matched : Prop) : ¬(se.id = id ∧ matched) := fun own => other own.1
  cases subscriptions with
  | nil =>
      simp only [unsubscribe]
      rw [if_neg (unmatched _)]
  | cons next rest => rw [unsubscribe, if_neg (unmatched _)]

theorem runsAtMost_own {limit used : Nat} (own : se.id = id) :
    RunsAtMost limit id used (se :: subscriptions) ↔
      used < limit ∧ RunsAtMost limit id (used + 1) subscriptions := by
  rw [RunsAtMost, if_pos own]

theorem runsAtMost_other {limit used : Nat} (other : se.id ≠ id) :
    RunsAtMost limit id used (se :: subscriptions) ↔ RunsAtMost limit id 0 subscriptions := by
  rw [RunsAtMost, if_neg other]

end

/-- A list is taken as the loop takes it: an element that stays, or one that goes together with
the one behind it. -/
theorem unsubscribe_induction {id : Int} {motive : List Subscription → Prop} (nil : motive [])
    (other : ∀ se rest, se.id ≠ id → motive rest → motive (se :: rest))
    (last : ∀ se, se.id = id → motive [se])
    (own : ∀ se next rest, se.id = id → motive rest → motive (se :: next :: rest))
    (subscriptions : List Subscription) : motive subscriptions := by
  induction length : subscriptions.length using Nat.strong_induction_on generalizing subscriptions with
  | _ count ih =>
      cases subscriptions with
      | nil => exact nil
      | cons se rest =>
          rw [List.length_cons] at length
          by_cases isOwn : se.id = id
          · cases rest with
            | nil => exact last se isOwn
            | cons next rest =>
                grind
          · exact other se rest isOwn (ih rest.length (by omega) rest rfl)

theorem withoutMember_unsubscribe (id : Int) (subscriptions : List Subscription) :
    withoutMember id (unsubscribe unassigned id subscriptions) = withoutMember id subscriptions := by
  induction subscriptions using @unsubscribe_induction id with
  | nil => rfl
  | other se rest isOther ih =>
      simp_all [unsubscribe_other, withoutMember_other]
  | last se isOwn => rw [unsubscribe_last isOwn, withoutMember_own isOwn]
  | own se next rest isOwn ih =>
      grind [unsubscribe_own, withoutMember_own, withoutMember_other]

/-- One pass is enough when no two stand next to each other. -/
theorem unsubscribe_all_iff (id : Int) (subscriptions : List Subscription) :
    unsubscribe unassigned id subscriptions = withoutMember id subscriptions ↔
      RunsAtMost 1 id 0 subscriptions := by
  induction subscriptions using @unsubscribe_induction id with
  | nil => exact iff_of_true rfl trivial
  | other se rest isOther ih =>
      simp_all [unsubscribe_other, withoutMember_other, runsAtMost_other]
  | last se isOwn =>
      rw [unsubscribe_last isOwn, withoutMember_own isOwn, runsAtMost_own isOwn]
      exact iff_of_true rfl ⟨Nat.one_pos, trivial⟩
  | own se next rest isOwn ih =>
      rw [unsubscribe_own isOwn, withoutMember_own isOwn, runsAtMost_own isOwn]
      by_cases nextOwn : next.id = id
      · rw [withoutMember_own nextOwn, runsAtMost_own nextOwn]
        apply iff_of_false
        · intro same
          have kept : next ∈ withoutMember id rest := by
            grind
          have isOther := (List.mem_filter.mp kept).2
          exact of_decide_eq_true isOther nextOwn
        · omega
      · simp_all [withoutMember_other, runsAtMost_other, and_iff_right]

/-- A pass leaves every second one of a run. -/
theorem runsAtMost_unsubscribe (id : Int) (subscriptions : List Subscription) :
    ∀ used ≤ 1, RunsAtMost 1 id used (unsubscribe unassigned id subscriptions) ↔
      RunsAtMost 3 id (2 * used) subscriptions := by
  induction subscriptions using @unsubscribe_induction id with
  | nil =>
      intro used _
      exact iff_of_true trivial trivial
  | other se rest isOther ih =>
      simp_all [unsubscribe_other, runsAtMost_other]
  | last se isOwn =>
      intro used few
      rw [unsubscribe_last isOwn, runsAtMost_own isOwn]
      exact iff_of_true trivial ⟨by omega, trivial⟩
  | own se next rest isOwn ih =>
      intro used few
      rw [unsubscribe_own isOwn, runsAtMost_own isOwn]
      by_cases nextOwn : next.id = id
      · rw [runsAtMost_own nextOwn, runsAtMost_own nextOwn]
        grind
      · rw [runsAtMost_other nextOwn, runsAtMost_other nextOwn]
        grind

theorem unsubscribe_twice_iff (id : Int) (subscriptions : List Subscription) :
    unsubscribe unassigned id (unsubscribe unassigned id subscriptions) =
        withoutMember id subscriptions ↔ RunsAtMost 3 id 0 subscriptions := by
  rw [← withoutMember_unsubscribe, unsubscribe_all_iff]
  exact runsAtMost_unsubscribe id subscriptions 0 (Nat.zero_le 1)

theorem unsubscribe_one {subid : Int} (isReal : subid ≠ unassigned) (id : Int)
    (subscriptions : List Subscription) :
    unsubscribe subid id subscriptions =
      subscriptions.eraseP fun se => se.id = id ∧ se.subscriptionid = subid := by
  fun_induction unsubscribe subid id subscriptions with
  | case1 => rfl
  | case2 se matched =>
      rw [List.eraseP_cons_of_pos (by simpa [isReal] using matched)]
  | case3 se unmatched =>
      rw [List.eraseP_cons_of_neg (by simpa [isReal] using unmatched), List.eraseP_nil]
  | case4 se next rest matched _ =>
      rw [List.eraseP_cons_of_pos (by simpa [isReal] using matched)]
  | case5 se next rest matched isAll => exact absurd isReal isAll
  | case6 se next rest unmatched ih =>
      rw [List.eraseP_cons_of_neg (by simpa [isReal] using unmatched), ih]

theorem mwfree_subscriptions {state after : EventState} {adr : Option Int}
    (result : state.mwfree adr = .ok after) : after.subscriptions = state.subscriptions := by
  cases adr with
  | none =>
      cases result
      rfl
  | some adr =>
      grind [EventState.mwfree]

theorem foldlM_mwfree_subscriptions {freed : List (Option Int)} {state after : EventState}
    (result : freed.foldlM EventState.mwfree state = .ok after) :
    after.subscriptions = state.subscriptions := by
  induction freed generalizing state with
  | nil =>
      cases result
      rfl
  | cons adr freed ih =>
      rw [List.foldlM_cons] at result
      cases first : state.mwfree adr with
      | error failure =>
          rw [first] at result
          cases result
      | ok next =>
          rw [first] at result
          rw [ih result, mwfree_subscriptions first]

theorem eventClearId_subscriptions {state after : EventState} {id : Int}
    (result : state.eventClearId id = .ok after) :
    after.subscriptions = unsubscribe unassigned id state.subscriptions := by
  unfold EventState.eventClearId at result
  change (clearPendingackByid id state.ackqueue >>= _) = _ at result
  cases cleared : clearPendingackByid id state.ackqueue with
  | error failure =>
      rw [cleared] at result
      cases result
  | ok queues =>
      rw [cleared] at result
      change (queues.2.foldlM EventState.mwfree _ >>= _) = _ at result
      cases folded : queues.2.foldlM EventState.mwfree
          { state.clearBlockingqueueByid id with ackqueue := queues.1 } with
      | error failure =>
          simp [folded] at result
      | ok freed =>
          rw [folded] at result
          cases result
          change unsubscribe unassigned id freed.subscriptions = _
          rw [foldlM_mwfree_subscriptions folded]
          rfl

def subscribedBy (ids : List Int) : EventState :=
  ⟨ids.map fun id => ⟨[101], 1, id, 0⟩, [], 0, [], [], []⟩

end MidWay.Mwd

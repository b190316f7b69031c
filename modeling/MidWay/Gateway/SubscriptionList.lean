import MidWay.CLib.Errno
import MidWay.Gateway.Sessions
import MidWay.Lib.Runs
import MidWay.Lib.TailedList

/-!
Contract: the list of the subscriptions of SRB clients, pointer by pointer.

A new element is linked in before its pattern is compiled, and stays when the pattern is
refused. The result of a subscription is set for a regular expression and for a
duplicate only.

Owns: `srb_subscribe`, `srb_unsubscribe` and `srb_unsubscribe_all`, that the list stays a
list in every run, and when a subscription does what it returns.
-/

namespace MidWay.Gateway

open MidWay.CLib MidWay.Lib

/-- A `srbsubscription`; `regexp` is what `regcomp` said of the pattern, none if it was not
asked. -/
structure Srbsubscription where
  pattern : List Byte
  regexp : Option Int
  flags : UInt32
  subscriptionid : Int
  conn : Nat
deriving DecidableEq, Repr

/-- `allocated` counts the elements there have been. No list is longer, so that the loops end
within it; it has no counterpart in the program. -/
structure SubscriptionList where
  subs : TailedList Nat Srbsubscription
  allocated : Nat

def flagsMask : UInt32 := mwEvglob ||| mwEvregexp ||| mwEveregexp

def Srbsubscription.isOf (sub : Srbsubscription) (conn : Nat) (id : Int) : Bool :=
  conn == sub.conn && id == sub.subscriptionid

def SubscriptionList.findsub (list : SubscriptionList) (conn : Nat) (id : Int) :
    Except ListFault (Option Nat) :=
  walk list.subs.cells (fun p => p.value.isOf conn id) list.allocated list.subs.head

/-- `regcomp` is asked for extended regular expressions, or for basic ones. -/
def compile (regcomp : Bool → List Byte → Int) (pattern : List Byte) (flags : UInt32) :
    Option Int :=
  if flags &&& mwEveregexp ≠ 0 then some (regcomp true pattern)
  else if flags &&& mwEvregexp ≠ 0 then some (regcomp false pattern)
  else none

def newSubscription (regcomp : Bool → List Byte → Int) (conn : Nat) (pattern : List Byte) (id : Int)
    (flags : UInt32) : Srbsubscription :=
  ⟨cstr pattern, compile regcomp (cstr pattern) (flags &&& flagsMask), flags &&& flagsMask, id, conn⟩

/-- `sub` is the address of the new element, and `rc` what the variable for the result held
before. -/
def SubscriptionList.srbSubscribe (regcomp : Bool → List Byte → Int) (list : SubscriptionList)
    (sub : Nat) (rc : Int) (conn : Nat) (pattern : List Byte) (id : Int) (flags : UInt32) :
    Except ListFault (Int × SubscriptionList) :=
  match list.findsub conn id with
  | .error fault => .error fault
  | .ok (some _) => .ok (rcOf .EEXIST, list)
  | .ok none =>
      let new := newSubscription regcomp conn pattern id flags
      .ok (new.regexp.getD rc, ⟨list.subs.append sub new, list.allocated + 1⟩)

def SubscriptionList.srbUnsubscribe (list : SubscriptionList) (conn : Nat) (id : Int) :
    Except ListFault (Int × SubscriptionList) :=
  match list.findsub conn id with
  | .error fault => .error fault
  | .ok none => .ok (0, list)
  | .ok (some p) => (list.subs.remove list.allocated p).map fun subs => (0, { list with subs := subs })

def SubscriptionList.srbUnsubscribeAll (list : SubscriptionList) (conn : Nat) :
    Except ListFault SubscriptionList :=
  (list.subs.removeAll list.allocated (fun p => p.conn == conn) list.allocated list.subs.head).map
    fun subs => { list with subs := subs }

inductive SubscriptionAction where
  | subscribe (sub : Nat) (rc : Int) (conn : Nat) (pattern : List Byte) (id : Int) (flags : UInt32)
  | unsubscribe (conn : Nat) (id : Int)
  | unsubscribeAll (conn : Nat)

def SubscriptionList.call (regcomp : Bool → List Byte → Int) (list : SubscriptionList) :
    SubscriptionAction → Except ListFault (Int × SubscriptionList)
  | .subscribe sub rc conn pattern id flags =>
      list.srbSubscribe regcomp sub rc conn pattern id flags
  | .unsubscribe conn id => list.srbUnsubscribe conn id
  | .unsubscribeAll conn => (list.srbUnsubscribeAll conn).map fun after => (0, after)

/-- `malloc` gives an address that is not in use. -/
def SubscriptionList.enabled (list : SubscriptionList) : SubscriptionAction → Prop
  | .subscribe sub _ _ _ _ _ => list.subs.cells sub = none
  | .unsubscribe _ _ | .unsubscribeAll _ => True

def noSubscriptions : SubscriptionList := ⟨⟨none, none, fun _ => none⟩, 0⟩

def subscriptionCalls (regcomp : Bool → List Byte → Int) :
    Machine SubscriptionList SubscriptionAction ListFault where
  start list := list = noSubscriptions
  enabled list := list.enabled
  step list action := (list.call regcomp action).map Prod.snd

/-- The elements of the list from its head to its tail, each once. No two are for the same
connection and id. -/
structure SubscriptionList.Sound (list : SubscriptionList) (contents : List (Nat × Srbsubscription)) :
    Prop where
  holds : list.subs.Holds contents
  distinct : (contents.map fun entry => (entry.2.conn, entry.2.subscriptionid)).Nodup

/-- Nothing was to be compiled, or `regcomp` took it. -/
def Srbsubscription.Usable (sub : Srbsubscription) : Prop := ∀ code, sub.regexp = some code → code = 0

def Promised (regcomp : Bool → List Byte → Int) (contents : List (Nat × Srbsubscription))
    (result : Int) (after : SubscriptionList) : SubscriptionAction → Prop
  | .subscribe sub _ conn pattern id flags =>
      let new := newSubscription regcomp conn pattern id flags
      (result = 0 ↔ new.Usable ∧ after.Sound (contents ++ [(sub, new)])) ∧
        (¬new.Usable → after.Sound contents)
  | .unsubscribe conn id => after.Sound (contents.filter fun entry => !entry.2.isOf conn id)
  | .unsubscribeAll conn => after.Sound (contents.filter fun entry => !(entry.2.conn == conn))

/-- The call returns, and keeps its promise; the list is a list afterwards in any case. -/
def SubscriptionList.Keeps (regcomp : Bool → List Byte → Int) (list : SubscriptionList)
    (action : SubscriptionAction) : Prop :=
  ∃ contents result after, list.Sound contents ∧ list.call regcomp action = .ok (result, after) ∧
    (∃ remaining, after.Sound remaining) ∧ Promised regcomp contents result after action

/-- A subscription is a duplicate, or has a regular expression that `regcomp` takes, or no regular
expression and a variable for the result that holds 0. -/
def SubscriptionList.Regular (regcomp : Bool → List Byte → Int) (list : SubscriptionList) :
    SubscriptionAction → Prop
  | .subscribe _ rc conn pattern id flags =>
      (∃ contents, list.Sound contents ∧ ∃ entry ∈ contents, entry.2.isOf conn id = true) ∨
        (compile regcomp (cstr pattern) (flags &&& flagsMask)).getD rc = 0
  | .unsubscribe _ _ | .unsubscribeAll _ => True

section

variable {regcomp : Bool → List Byte → Int} {list : SubscriptionList}
  {contents : List (Nat × Srbsubscription)}

theorem SubscriptionList.Sound.unique {other : List (Nat × Srbsubscription)}
    (sound : list.Sound contents) (again : list.Sound other) : contents = other :=
  sound.holds.unique again.holds

theorem isOf_iff {sub : Srbsubscription} {conn : Nat} {id : Int} :
    sub.isOf conn id = true ↔ (sub.conn, sub.subscriptionid) = (conn, id) := by
  rw [Srbsubscription.isOf, Bool.and_eq_true, beq_iff_eq, beq_iff_eq, Prod.mk.injEq, eq_comm,
    @eq_comm _ id]

theorem SubscriptionList.Sound.filter (sound : list.Sound contents)
    (property : Nat × Srbsubscription → Bool) {after : SubscriptionList}
    (holds : after.subs.Holds (contents.filter property)) :
    after.Sound (contents.filter property) :=
  ⟨holds, sound.distinct.sublist (List.Sublist.map _ List.filter_sublist)⟩

theorem SubscriptionList.Sound.findsub (sound : list.Sound contents)
    (counted : contents.length ≤ list.allocated) (conn : Nat) (id : Int) :
    list.findsub conn id =
      .ok ((contents.find? fun entry => entry.2.isOf conn id).map Prod.fst) :=
  sound.holds.segment.walk_value (fun sub => sub.isOf conn id) counted

/-- Without the one element that is found there is none for the connection and id. -/
theorem SubscriptionList.Sound.filter_found {front back : List (Nat × Srbsubscription)}
    {entry : Nat × Srbsubscription} (sound : list.Sound (front ++ entry :: back)) {conn : Nat}
    {id : Int} (isEntry : entry.2.isOf conn id = true) :
    (front ++ entry :: back).filter (fun entry => !entry.2.isOf conn id) = front ++ back := by
  have distinct := sound.distinct
  rw [List.map_append, List.map_cons, List.nodup_middle, List.nodup_cons, ← List.map_append]
    at distinct
  have others : ∀ other ∈ front ++ back, (!other.2.isOf conn id) = true := by
    intro other member
    rw [Bool.not_eq_true', Bool.eq_false_iff]
    intro isOther
    have same := (isOf_iff.mp isOther).trans (isOf_iff.mp isEntry).symm
    exact distinct.1 (List.mem_map.mpr ⟨other, member, same⟩)
  rw [List.filter_append, List.filter_cons_of_neg (by rw [isEntry]; decide), ← List.filter_append]
  exact List.filter_eq_self.mpr others

theorem SubscriptionList.Sound.srbUnsubscribe (sound : list.Sound contents)
    (counted : contents.length ≤ list.allocated) (conn : Nat) (id : Int) :
    ∃ after, list.srbUnsubscribe conn id = .ok (0, after) ∧ after.allocated = list.allocated ∧
      after.Sound (contents.filter fun entry => !entry.2.isOf conn id) := by
  rw [SubscriptionList.srbUnsubscribe, sound.findsub counted]
  cases found : contents.find? fun entry => entry.2.isOf conn id with
  | none =>
      refine ⟨list, rfl, rfl, ?_⟩
      have all : contents.filter (fun entry => !entry.2.isOf conn id) = contents := by
        apply List.filter_eq_self.mpr
        grind
      rw [all]
      exact sound
  | some entry =>
      obtain ⟨isEntry, front, back, rfl, _⟩ := List.find?_eq_some_iff_append.mp found
      obtain ⟨subs, removed, holds⟩ := sound.holds.remove counted
      rw [Option.map_some]
      dsimp only
      rw [removed]
      refine ⟨_, rfl, rfl, ?_⟩
      apply sound.filter
      rw [sound.filter_found isEntry]
      exact holds

theorem SubscriptionList.Sound.srbUnsubscribeAll (sound : list.Sound contents)
    (counted : contents.length ≤ list.allocated) (conn : Nat) :
    ∃ after, list.srbUnsubscribeAll conn = .ok after ∧ after.allocated = list.allocated ∧
      after.Sound (contents.filter fun entry => !(entry.2.conn == conn)) := by
  have holds : list.subs.Holds ([] ++ contents) := sound.holds
  obtain ⟨subs, removed, remaining⟩ := holds.removeAll (fun p => p.conn == conn) counted counted
  rw [SubscriptionList.srbUnsubscribeAll, sound.holds.segment.start, removed]
  exact ⟨_, rfl, rfl, sound.filter _ remaining⟩

/-- A duplicate is refused; anything else is put at the end, whatever its pattern. -/
theorem SubscriptionList.Sound.srbSubscribe (sound : list.Sound contents)
    (counted : contents.length ≤ list.allocated) {sub : Nat} (fresh : list.subs.cells sub = none)
    (rc : Int) (conn : Nat) (pattern : List Byte) (id : Int) (flags : UInt32) :
    if ∃ entry ∈ contents, entry.2.isOf conn id = true then
      list.srbSubscribe regcomp sub rc conn pattern id flags = .ok (rcOf .EEXIST, list)
    else
      ∃ after, list.srbSubscribe regcomp sub rc conn pattern id flags =
          .ok ((newSubscription regcomp conn pattern id flags).regexp.getD rc, after) ∧
        after.allocated = list.allocated + 1 ∧
        after.Sound (contents ++ [(sub, newSubscription regcomp conn pattern id flags)]) := by
  rw [SubscriptionList.srbSubscribe, sound.findsub counted]
  split_ifs with duplicate
  · obtain ⟨entry, isFirst⟩ := Option.isSome_iff_exists.mp
      (List.find?_isSome.mpr duplicate : (contents.find? fun entry => entry.2.isOf conn id).isSome)
    rw [isFirst]
    rfl
  · have absent : ∀ entry ∈ contents, ¬entry.2.isOf conn id = true := fun entry member isEntry =>
      duplicate ⟨entry, member, isEntry⟩
    rw [List.find?_eq_none.mpr absent]
    refine ⟨_, rfl, rfl, sound.holds.append fresh _, ?_⟩
    rw [List.map_append, List.nodup_append]
    refine ⟨sound.distinct, List.nodup_singleton _, ?_⟩
    intro key inList other isNew same
    rw [List.mem_singleton.mp isNew] at same
    obtain ⟨entry, member, isKey⟩ := List.mem_map.mp inList
    exact absent entry member (isOf_iff.mpr (isKey.trans same))

end

def Srbsubscription.toSubscription (sub : Srbsubscription) : Subscription :=
  ⟨sub.conn, sub.subscriptionid, sub.pattern, sub.flags⟩

def SubscriptionList.Represents (list : SubscriptionList) (gateway : GatewayState) : Prop :=
  ∃ contents, list.Sound contents ∧ contents.length ≤ list.allocated ∧
    gateway.subscriptions = contents.map fun entry => entry.2.toSubscription

section

variable {regcomp : Bool → List Byte → Int} {list : SubscriptionList} {gateway : GatewayState}

end

def SubscriptionList.Counted (list : SubscriptionList) : Prop :=
  ∃ contents, list.Sound contents ∧ contents.length ≤ list.allocated

theorem counted_kept (regcomp : Bool → List Byte → Int) :
    (subscriptionCalls regcomp).Preserves (fun _ _ => True) SubscriptionList.Counted := by
  intro list action next ⟨contents, sound, counted⟩ isEnabled _ stepped
  change (list.call regcomp action).map Prod.snd = .ok next at stepped
  cases action with
  | subscribe sub rc conn pattern id flags =>
      have outcome := @SubscriptionList.Sound.srbSubscribe regcomp _ _ sound counted _ isEnabled rc conn
        pattern id flags
      change (list.srbSubscribe regcomp sub rc conn pattern id flags).map Prod.snd = .ok next at stepped
      split_ifs at outcome with duplicate
      · rw [outcome] at stepped
        cases stepped
        exact ⟨contents, sound, counted⟩
      · obtain ⟨after, result, allocated, soundAfter⟩ := outcome
        rw [result] at stepped
        cases stepped
        refine ⟨_, soundAfter, ?_⟩
        simp_all [allocated, List.length_append, Nat.succ_le_succ]
  | unsubscribe conn id =>
      obtain ⟨after, result, allocated, soundAfter⟩ := sound.srbUnsubscribe counted conn id
      change (list.srbUnsubscribe conn id).map Prod.snd = .ok next at stepped
      rw [result] at stepped
      cases stepped
      refine ⟨_, soundAfter, ?_⟩
      grind
  | unsubscribeAll conn =>
      obtain ⟨after, result, allocated, soundAfter⟩ := sound.srbUnsubscribeAll counted conn
      change ((list.srbUnsubscribeAll conn).map fun after => ((0 : Int), after)).map Prod.snd =
        .ok next at stepped
      rw [result] at stepped
      cases stepped
      refine ⟨_, soundAfter, ?_⟩
      grind

theorem noSubscriptions_sound : noSubscriptions.Sound [] := ⟨⟨rfl, rfl⟩, List.nodup_nil⟩

theorem getD_eq_zero_iff {regexp : Option Int} {rc : Int} :
    regexp.getD rc = 0 ↔ (∀ code, regexp = some code → code = 0) ∧ (regexp = none → rc = 0) := by
  cases regexp with
  | none => simp
  | some code => simp

/-- In every run the list stays a list, and a call keeps its promise in exactly these cases. -/
theorem subscription_calls_keep_iff (regcomp : Bool → List Byte → Int) {list : SubscriptionList}
    (reachable : (subscriptionCalls regcomp).Reachable (fun _ _ => True) list) :
    (∃ contents, list.Sound contents) ∧ ∀ action, list.enabled action →
      (list.Keeps regcomp action ↔ list.Regular regcomp action) := by
  have kept : list.Counted := by
    apply reachable.holds ?_ (counted_kept regcomp)
    intro start isStart
    rw [isStart]
    exact ⟨[], noSubscriptions_sound, Nat.le_refl 0⟩
  obtain ⟨contents, sound, counted⟩ := kept
  refine ⟨⟨contents, sound⟩, ?_⟩
  intro action isEnabled
  cases action with
  | subscribe sub rc conn pattern id flags =>
      have outcome := @SubscriptionList.Sound.srbSubscribe regcomp _ _ sound counted _ isEnabled rc conn
        pattern id flags
      split_ifs at outcome with duplicate
      · -- the list stays as it is, and does not hold the new element
        refine iff_of_true ?_ (.inl ⟨contents, sound, duplicate⟩)
        refine ⟨contents, rcOf .EEXIST, list, sound, outcome, ⟨_, sound⟩, ?_, fun _ => sound⟩
        refine iff_of_false (by decide) ?_
        intro ⟨_, longer⟩
        exact List.cons_ne_nil _ _ (List.self_eq_append_right.mp (sound.unique longer))
      · obtain ⟨after, result, _, soundAfter⟩ := outcome
        constructor
        · intro ⟨before, code, next, soundBefore, returned, _, isZero, refused⟩
          rw [sound.unique soundBefore] at soundAfter
          cases result.symm.trans returned
          have usable : (newSubscription regcomp conn pattern id flags).Usable := by
            by_contra unusable
            have shorter := (refused unusable).unique soundAfter
            exact List.cons_ne_nil _ _ (List.self_eq_append_right.mp shorter)
          exact .inr (isZero.mpr ⟨usable, soundAfter⟩)
        · intro regular
          obtain ⟨others, soundOthers, isDuplicate⟩ | isZero := regular
          · rw [← sound.unique soundOthers] at isDuplicate
            exact absurd isDuplicate duplicate
          · have usable := (getD_eq_zero_iff.mp isZero).1
            refine ⟨contents, _, after, sound, result, ⟨_, soundAfter⟩, ?_, fun refused =>
              absurd usable refused⟩
            exact iff_of_true isZero ⟨usable, soundAfter⟩
  | unsubscribe conn id =>
      obtain ⟨after, result, _, soundAfter⟩ := sound.srbUnsubscribe counted conn id
      exact iff_of_true ⟨contents, 0, after, sound, result, ⟨_, soundAfter⟩, soundAfter⟩ trivial
  | unsubscribeAll conn =>
      obtain ⟨after, result, _, soundAfter⟩ := sound.srbUnsubscribeAll counted conn
      have returns : list.call regcomp (.unsubscribeAll conn) = .ok (0, after) := by
        change (list.srbUnsubscribeAll conn).map (fun after => ((0 : Int), after)) = .ok (0, after)
        rw [result]
        rfl
      exact iff_of_true ⟨contents, 0, after, sound, returns, ⟨_, soundAfter⟩, soundAfter⟩ trivial

/-- The regular expressions of the example: none is taken. -/
theorem empty_list_subscribe_keeps_iff :
    (subscriptionCalls fun _ _ => 8).Reachable (fun _ _ => True) noSubscriptions ∧
      ((∃ contents, noSubscriptions.Sound contents) ∧ ∀ action, noSubscriptions.enabled action →
        (noSubscriptions.Keeps (fun _ _ => 8) action ↔
          noSubscriptions.Regular (fun _ _ => 8) action)) :=
  ⟨.start rfl, subscription_calls_keep_iff (fun _ _ => 8) (.start rfl)⟩

/-- A regular expression that `regcomp` refuses is in the list afterwards. -/
theorem refused_pattern_subscribed : ∃ after,
    noSubscriptions.enabled (.subscribe 1 0 5 (ascii "[".toList) 3 mwEvregexp) ∧
      noSubscriptions.call (fun _ _ => 8) (.subscribe 1 0 5 (ascii "[".toList) 3 mwEvregexp) =
        .ok (8, after) ∧
      ¬after.Sound [] ∧
      ¬noSubscriptions.Keeps (fun _ _ => 8)
        (.subscribe 1 0 5 (ascii "[".toList) 3 mwEvregexp) := by
  have unusable : ¬(newSubscription (fun _ _ => 8) 5 (ascii "[".toList) 3 mwEvregexp).Usable := by
    intro usable
    exact absurd (usable 8 (by decide)) (by decide)
  have notEmpty : ¬SubscriptionList.Sound
      ⟨noSubscriptions.subs.append 1
        (newSubscription (fun _ _ => 8) 5 (ascii "[".toList) 3 mwEvregexp), 1⟩ [] := by
    intro sound
    exact absurd sound.holds.tail (by decide)
  refine ⟨_, rfl, rfl, notEmpty, ?_⟩
  intro ⟨contents, result, after, sound, called, _, _, refused⟩
  cases called
  rw [sound.unique noSubscriptions_sound] at refused
  exact notEmpty (refused unusable)

end MidWay.Gateway

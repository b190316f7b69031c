import MidWay.CLib.Errno
import MidWay.CLib.Format
import MidWay.Mwd.EventQueue

/-!
Contract: the pattern of a subscription on its way from a member to `mwd`.

A pattern that fits the event field of the message is in it, and may fill it: the NUL is
then the padding behind the field. A longer one is put into a shared buffer. `mwd` reads
the event field only, so of a longer pattern it knows nothing, and nobody frees the
buffer.

Owns: `_mw_ipcsend_subscribe`, `do_subscribe`, and when a subscription has the pattern
it was asked for.
-/

namespace MidWay.Mwd

open MidWay.CLib

def mwMaxNameLen : Nat := 64 + 1

/-- An `EVENTSUBSCRIBEREQ`. `event` are the bytes of the field, and the three of padding that
follow it in the struct. -/
structure SubscribeRequest where
  event : List Byte
  subscriptionid : Int
  senderid : Int
  datasegmentid : Int
  data : Int
  datalen : Int
  flags : UInt32
deriving DecidableEq, Repr

/-- What the call finds: the id of the caller, the segment and the offset that `_mwalloc` gives or
its `errno`, and the error of the queue of `mwd`. -/
structure Sender where
  mwid : Int
  mwalloc : Except Errno (Int × Int)
  msgsnd : Option Errno

/-- The result, the buffer that was taken, and what arrives at `mwd`. -/
structure Subscribing where
  rc : Int
  buffer : Option (Int × Int)
  request : Option SubscribeRequest

/-- The result of `_mw_ipc_putmessage`, which takes an interrupt for a success. -/
def putmessageRc : Option Errno → Int
  | none => 0
  | some .EINTR => 0
  | some error => rcOf error

def eventField (text : List Byte) : List Byte :=
  text ++ List.replicate (mwMaxNameLen + 3 - text.length) 0

def Sender.put (sender : Sender) (buffer : Option (Int × Int)) (request : SubscribeRequest) :
    Subscribing :=
  ⟨putmessageRc sender.msgsnd, buffer, if sender.msgsnd = none then some request else none⟩

/-- `pattlen` is an `int`; a negative one is a size that no memory has, which is `none`. -/
def mwIpcsendSubscribe (sender : Sender) (pattern : Option (List Byte)) (subid : Int)
    (flags : UInt32) : Option Subscribing :=
  match pattern with
  | none => some ⟨rcOf .EINVAL, none, none⟩
  | some pattern =>
      if subid < 0 then some ⟨rcOf .EINVAL, none, none⟩
      else if sender.mwid = unassigned then some ⟨rcOf .ENOENT, none, none⟩
      else
        let pattlen := toInt32 (strlen pattern)
        if pattlen > mwMaxNameLen then
          match sender.mwalloc with
          | .error errno => some ⟨rcOf errno, none, none⟩
          | .ok (segment, offset) =>
              some (sender.put (some (segment, offset))
                ⟨eventField [], subid, sender.mwid, 0, offset, pattlen, flags⟩)
        else if pattlen < 0 then none
        else
          some (sender.put none
            ⟨eventField (pattern.take pattlen.toNat), subid, sender.mwid, 0, 0, 0, flags⟩)

/-- What `regcomp` says, where the pattern is a regular expression. -/
def Subscription.compiles (matching : Matching) (se : Subscription) : Bool :=
  if se.flags &&& mwEveregexp ≠ 0 then matching.regcomp true se.pattern
  else if se.flags &&& mwEvregexp ≠ 0 then matching.regcomp false se.pattern
  else true

/-- The pattern is copied with `strdup`. -/
def SubscribeRequest.subscription (evmsg : SubscribeRequest) : Subscription :=
  ⟨cstr evmsg.event, evmsg.subscriptionid, evmsg.senderid, evmsg.flags⟩

/-- The return code of the reply, and what `mwd` keeps. -/
def EventState.doSubscribe (matching : Matching) (state : EventState) (evmsg : SubscribeRequest) :
    Int × EventState :=
  (if evmsg.subscription.compiles matching then 0 else rcOf .EINVAL,
    state.eventSubscribe matching evmsg.subscription)

structure Subscribed where
  rc : Int
  reply : Option Int
  mwd : EventState
  buffers : List (Int × Int)

/-- `mwd` handles what arrives. -/
def Subscribing.handled (sent : Subscribing) (matching : Matching) (state : EventState)
    (buffers : List (Int × Int)) : Subscribed :=
  let outcome := sent.request.map (state.doSubscribe matching)
  ⟨sent.rc, outcome.map Prod.fst, (outcome.map Prod.snd).getD state, sent.buffer.toList ++ buffers⟩

def subscribe (sender : Sender) (matching : Matching) (state : EventState)
    (buffers : List (Int × Int)) (pattern : Option (List Byte)) (subid : Int) (flags : UInt32) :
    Option Subscribed :=
  (mwIpcsendSubscribe sender pattern subid flags).map fun sent =>
    sent.handled matching state buffers

/-- A subscription is for the pattern that was asked for, an error leaves none behind, and no
buffer stays in use. -/
structure MeansPattern (sender : Sender) (state : EventState) (buffers : List (Int × Int))
    (pattern : Option (List Byte)) (subid : Int) (flags : UInt32) (after : Subscribed) : Prop where
  stored : after.reply = some 0 → ∃ text, pattern = some text ∧
    after.mwd = { state with
      subscriptions := ⟨cstr text, subid, sender.mwid, flags⟩ :: state.subscriptions }
  refused : after.reply ≠ some 0 → after.mwd = state
  freed : after.buffers = buffers

/-- What is given to `mwd` is the pattern: it is no longer than the event field, or no request is
made. In the last case the length wraps round to one that fits, but the request is lost or `mwd`
refuses the part of the pattern that it gets. -/
def Carried (sender : Sender) (matching : Matching) (pattern : Option (List Byte)) (subid : Int)
    (flags : UInt32) : Prop :=
  ∀ text, pattern = some text → 0 ≤ subid → sender.mwid ≠ unassigned →
    strlen text ≤ mwMaxNameLen ∨
      ((mwMaxNameLen : Int) < toInt32 (strlen text) ∧ sender.mwalloc.isOk = false) ∨
      (0 ≤ toInt32 (strlen text) ∧ toInt32 (strlen text) ≤ mwMaxNameLen ∧
        (sender.msgsnd ≠ none ∨
          Subscription.compiles matching
            ⟨text.take (toInt32 (strlen text)).toNat, subid, sender.mwid, flags⟩ = false))

theorem cstr_eventField {text : List Byte} (nulFree : 0 ∉ text)
    (fits : text.length ≤ mwMaxNameLen) : cstr (eventField text) = text := by
  have room : mwMaxNameLen + 3 - text.length = mwMaxNameLen + 2 - text.length + 1 := by omega
  simp_all [eventField, room, List.replicate_succ, cstr_terminated]

theorem take_strlen (text : List Byte) : text.take (strlen text) = cstr text :=
  (List.prefix_iff_eq_take.mp (cstr_begins text)).symm

theorem nul_notMem_take {text : List Byte} {length : Nat} (inside : length ≤ strlen text) :
    0 ∉ text.take length := by
  intro isNul
  have isPart : text.take length = (cstr text).take length := by
    rw [← take_strlen, List.take_take, Nat.min_eq_left inside]
  grind [nul_notMem_cstr]

theorem toInt32_le (length : Nat) : toInt32 length ≤ length := by
  grind [toInt32]

section

variable {sender : Sender} {matching : Matching} {state : EventState} {buffers : List (Int × Int)}
  {subid : Int} {flags : UInt32}

theorem eventSubscribe_eq (se : Subscription) :
    state.eventSubscribe matching se =
      if se.compiles matching then { state with subscriptions := se :: state.subscriptions }
      else state := rfl

theorem means_silent {pattern : Option (List Byte)} (rc : Int) :
    MeansPattern sender state buffers pattern subid flags
      ((⟨rc, none, none⟩ : Subscribing).handled matching state buffers) := by
  refine ⟨?_, fun _ => rfl, rfl⟩
  intro accepted
  cases accepted

/-- A part of the pattern reaches `mwd` in the event field. -/
theorem means_part_iff {text part : List Byte} (nulFree : 0 ∉ part)
    (fits : part.length ≤ mwMaxNameLen) :
    MeansPattern sender state buffers (some text) subid flags
        ((sender.put none ⟨eventField part, subid, sender.mwid, 0, 0, 0, flags⟩).handled matching
          state buffers) ↔
      part = cstr text ∨ sender.msgsnd ≠ none ∨
        Subscription.compiles matching ⟨part, subid, sender.mwid, flags⟩ = false := by
  have field : (⟨eventField part, subid, sender.mwid, 0, 0, 0, flags⟩ :
      SubscribeRequest).subscription = ⟨part, subid, sender.mwid, flags⟩ := by
    rw [SubscribeRequest.subscription, cstr_eventField nulFree fits]
  by_cases isSent : sender.msgsnd = none
  · rw [Sender.put, if_pos isSent, Subscribing.handled, Option.map_some, EventState.doSubscribe,
      field, eventSubscribe_eq]
    cases compiled : Subscription.compiles matching ⟨part, subid, sender.mwid, flags⟩ with
    | false =>
        apply iff_of_true
        · refine ⟨?_, fun _ => rfl, rfl⟩
          intro accepted
          cases accepted
        · exact Or.inr (Or.inr rfl)
    | true =>
        constructor
        · intro means
          obtain ⟨other, isText, same⟩ := means.stored rfl
          simp_all [Or.inl]
        · intro why
          obtain isText | notSent | notCompiled := why
          · refine ⟨?_, fun refused => absurd rfl refused, rfl⟩
            simp [isText]
          · exact absurd isSent notSent
          · cases notCompiled
  · simp [Sender.put, isSent, means_silent, Or.inr, Or.inl]

end

theorem exists_map_some {Value Result : Type} {change : Value → Result} {value : Value}
    {property : Result → Prop} :
    (∃ result, (some value).map change = some result ∧ property result) ↔
      property (change value) := by
  simp

/-- A subscription means its pattern in exactly these cases. -/
theorem subscribe_means_pattern_iff (sender : Sender) (matching : Matching) (state : EventState)
    (buffers : List (Int × Int)) (pattern : Option (List Byte)) (subid : Int) (flags : UInt32) :
    (∃ after, subscribe sender matching state buffers pattern subid flags = some after ∧
        MeansPattern sender state buffers pattern subid flags after) ↔
      Carried sender matching pattern subid flags := by
  unfold subscribe mwIpcsendSubscribe Carried
  cases pattern with
  | none => exact iff_of_true (exists_map_some.mpr (means_silent _)) fun text isText =>
      nomatch isText
  | some text =>
      dsimp only
      split_ifs with negative noId long wraps
      · simp [negative, means_silent]
      · simp [noId, means_silent]
      · have longer : mwMaxNameLen < strlen text := by
          have wrapped := toInt32_le (strlen text)
          omega
        cases given : sender.mwalloc with
        | error errno =>
            apply iff_of_true (exists_map_some.mpr (means_silent _))
            intro other isText _ _
            cases isText
            exact Or.inr (Or.inl ⟨long, rfl⟩)
        | ok place =>
            apply iff_of_false
            · intro means
              have lengths := congrArg List.length (exists_map_some.mp means).freed
              change buffers.length + 1 = buffers.length at lengths
              omega
            · intro carried
              obtain short | ⟨_, noBuffer⟩ | ⟨_, small, _⟩ :=
                carried text rfl (Int.not_lt.mp negative) noId
              · omega
              · cases noBuffer
              · omega
      · apply iff_of_false
        · simp
        · grind [toInt32_self, toInt32, mwMaxNameLen]
      · have wrapped := toInt32_le (strlen text)
        have inside : (toInt32 (strlen text)).toNat ≤ strlen text := by omega
        have fits : (text.take (toInt32 (strlen text)).toNat).length ≤ mwMaxNameLen := by
          simp_all [List.length_take]
        rw [exists_map_some, means_part_iff (nul_notMem_take inside) fits]
        constructor
        · intro why other isText _ _
          cases isText
          obtain whole | lost := why
          · have lengths := congrArg List.length whole
            rw [← take_strlen, List.length_take, List.length_take] at lengths
            have within : strlen text ≤ text.length := (cstr_begins text).length_le
            exact Or.inl (by omega)
          · exact Or.inr (Or.inr ⟨by omega, by omega, lost⟩)
        · intro carried
          obtain short | ⟨large, _⟩ | ⟨_, _, lost⟩ :=
            carried text rfl (Int.not_lt.mp negative) noId
          · have same : toInt32 (strlen text) = strlen text := by
              apply toInt32_self
              · omega
              · grind [mwMaxNameLen]
            rw [same, Int.toNat_natCast, take_strlen]
            exact Or.inl rfl
          · omega
          · exact Or.inr lost

def willing : Sender := ⟨mwClientMask, .ok (0, 4112), none⟩

def anyPattern : Matching := ⟨fun _ _ => true, fun _ _ _ => true, fun _ _ => true, fun _ => none⟩

/-- A glob of 66 characters is stored as the empty one, and its buffer stays in use. -/
theorem subscribe_loses_pattern :
    ¬∃ after, subscribe willing anyPattern ⟨[], [], 0, [], [], []⟩ []
        (some (List.replicate 66 97)) 1 mwEvglob = some after ∧
      MeansPattern willing ⟨[], [], 0, [], [], []⟩ [] (some (List.replicate 66 97)) 1 mwEvglob
        after := by
  intro ⟨after, isAfter, means⟩
  cases isAfter
  exact absurd means.freed (by decide)

end MidWay.Mwd

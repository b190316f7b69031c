import MidWay.Mwd.Tables
import MidWay.Shm.CallBuffers

/-!
Contract: the events of `mwd` on their way to the members, as `events.c` handles them.

An event waits in a queue until it is sent to everybody with a matching subscription.
With data it then waits in another queue, with one entry for each copy that was sent,
until all of them are acked. The buffer with the data is the poster's, and `mwd` frees
it.

What the C library says about patterns and what the IPC queue of a member takes are
parameters. `event_unsubscribe` reads the link of an element it has just freed; it is
taken to be still there. `buffers` are the addresses of the event buffers in use: the
heap itself is modelled elsewhere.

Owns: `eventSubscribe`, `eventUnsubscribe`, `eventEnqueue`, `doEvent`, `eventAck`,
`eventClearId` and the blocking queue.
-/

namespace MidWay.Mwd

open MidWay.CLib MidWay.Shm

/-- The fields of an event message that `mwd` reads. -/
structure Event where
  event : List Byte
  eventid : Int
  data : Int
  datasegmentid : Int
  username : List Byte
  clientname : List Byte
deriving DecidableEq, Repr

structure Subscription where
  pattern : List Byte
  subscriptionid : Int
  id : Int
  flags : UInt32
deriving DecidableEq, Repr

/-- An event that was sent. An entry of `pendingAckIds` that was acked is `unassigned`. -/
structure QueuedEvent where
  evmsg : Event
  pendingAckIds : List Int
  pendingAcks : Int
deriving DecidableEq, Repr

/-- `blocking` are the messages a full queue did not take, by member and event. -/
structure EventState where
  subscriptions : List Subscription
  eventqueue : List Event
  lastEventid : Int
  ackqueue : List QueuedEvent
  blocking : List (Int × Int)
  buffers : List Int
deriving DecidableEq, Repr

/-- How a function ends `mwd`, or the heap. -/
inductive EventFailure where
  | nullPointer
  /-- An address is freed that is not a buffer of an event. -/
  | notInUse
deriving DecidableEq, Repr

inductive Delivery where
  | sent
  | full
  | failed
deriving DecidableEq, Repr

/-- The C library, and the names of the clients that are attached. -/
structure Matching where
  regcomp : Bool → List Byte → Bool
  regexec : Bool → List Byte → List Byte → Bool
  fnmatch : List Byte → List Byte → Bool
  client : Int → Option (List Byte × List Byte)

def mwEvglob : UInt32 := 0x00100000
def mwEvregexp : UInt32 := 0x00200000
def mwEveregexp : UInt32 := 0x00400000

/-- The address is still inside at the end of the segment. -/
def mwoffset2adr (offset : Int) : Option Mapping → Option Int
  | none => none
  | some si =>
      if offset < 0 then none
      else if si.start + offset > si.finish then none
      else some (si.start + offset)

def EventState.mwfree (state : EventState) : Option Int → Except EventFailure EventState
  | none => .ok state
  | some adr =>
      if adr ∈ state.buffers then .ok { state with buffers := state.buffers.erase adr }
      else .error .notInUse

def EventState.eventSubscribe (matching : Matching) (state : EventState) (se : Subscription) :
    EventState :=
  let compiled :=
    if se.flags &&& mwEveregexp ≠ 0 then matching.regcomp true se.pattern
    else if se.flags &&& mwEvregexp ≠ 0 then matching.regcomp false se.pattern
    else true
  if compiled then { state with subscriptions := se :: state.subscriptions } else state

/-- The element behind one that is taken out is not looked at. -/
def unsubscribe (subid mwid : Int) : List Subscription → List Subscription
  | [] => []
  | [se] =>
      if se.id = mwid ∧ (subid = unassigned ∨ se.subscriptionid = subid) then [] else [se]
  | se :: next :: rest =>
      if se.id = mwid ∧ (subid = unassigned ∨ se.subscriptionid = subid) then
        if subid ≠ unassigned then next :: rest else next :: unsubscribe subid mwid rest
      else se :: unsubscribe subid mwid (next :: rest)

def EventState.eventUnsubscribe (state : EventState) (subid mwid : Int) : EventState :=
  if subid < unassigned then state
  else { state with subscriptions := unsubscribe subid mwid state.subscriptions }

def nextEventid (lastEventid : Int) : Int :=
  (if lastEventid > 100000000 then 0 else lastEventid) + 1

def EventState.eventEnqueue (state : EventState) (evmsg : Event) : EventState :=
  if evmsg.eventid ≤ 0 then
    let eventid := nextEventid state.lastEventid
    { state with
      eventqueue := state.eventqueue ++ [{ evmsg with eventid := eventid }]
      lastEventid := eventid }
  else { state with eventqueue := state.eventqueue ++ [evmsg] }

/-- An event for one user or one client goes to no other; servers and gateways get it. -/
def Event.forClient (ev : Event) (matching : Matching) (se : Subscription) : Bool :=
  if filterId mwClientMask se.id = unassigned then true
  else
    match matching.client se.id with
    | none => false
    | some (username, clientname) =>
        (ev.username == [] || ev.username == username) &&
          (ev.clientname == [] || ev.clientname == clientname)

def Event.matchesPattern (ev : Event) (matching : Matching) (se : Subscription) : Bool :=
  if se.flags &&& mwEvglob ≠ 0 then matching.fnmatch se.pattern ev.event
  else if se.flags &&& (mwEvregexp ||| mwEveregexp) ≠ 0 then
    matching.regexec (se.flags &&& mwEveregexp ≠ 0) se.pattern ev.event
  else se.pattern == ev.event

/-- The members an event is sent to, once for each subscription; `put` is what their queues do. -/
def Event.recipients (ev : Event) (matching : Matching) :
    (Nat → Delivery) → List Subscription → List (Int × Delivery)
  | _, [] => []
  | put, se :: rest =>
      let later := ev.recipients matching (fun turn => put (turn + 1)) rest
      if (ev.forClient matching se && ev.matchesPattern matching se) = false then later
      else
        match put 0 with
        | .failed => later
        | delivery => (se.id, delivery) :: later

/-- Without recipients the buffer is looked for in the first segment, whatever the event says. -/
def EventState.doEvent (segment : Int → Option Mapping) (matching : Matching)
    (put : Nat → Delivery) (state : EventState) : Except EventFailure EventState :=
  match state.eventqueue with
  | [] => .ok state
  | ev :: rest =>
      let recipients := ev.recipients matching put state.subscriptions
      let ids := if ev.data ≠ 0 then recipients.map Prod.fst else []
      let state := { state with
        eventqueue := rest
        blocking := state.blocking ++
          (recipients.filter fun recipient => recipient.2 == .full).map
            fun recipient => (recipient.1, ev.eventid) }
      if ids ≠ [] then
        .ok { state with ackqueue := ⟨ev, ids, ids.length⟩ :: state.ackqueue }
      else if ev.data ≠ 0 then state.mwfree (mwoffset2adr ev.data (segment 0))
      else .ok state

/-- What goes out of a list of messages, and what stays; a message that is not taken stays. -/
def flushFrom {Message : Type} : (Nat → Delivery) → List Message → List Message × List Message
  | _, [] => ([], [])
  | put, msg :: rest =>
      let (sent, kept) := flushFrom (fun turn => put (turn + 1)) rest
      if put 0 = .sent then (msg :: sent, kept) else (sent, msg :: kept)

def EventState.flushBlockingqueue (state : EventState) (put : Nat → Delivery) : EventState :=
  { state with blocking := (flushFrom put state.blocking).2 }

def clearEntry (id : Int) : List Int → Option (List Int)
  | [] => none
  | entry :: rest =>
      if entry = id then some (unassigned :: rest) else (clearEntry id rest).map (entry :: ·)

/-- The queue after an ack, and the event whose buffer is to be freed. -/
def ackEntry (eventid senderid : Int) : List QueuedEvent → List QueuedEvent × Option Event
  | [] => ([], none)
  | ev :: rest =>
      if eventid ≠ ev.evmsg.eventid then
        let (rest, freed) := ackEntry eventid senderid rest
        (ev :: rest, freed)
      else
        match clearEntry senderid ev.pendingAckIds with
        | none => (ev :: rest, none)
        | some ids =>
            if ev.pendingAcks - 1 = 0 then (rest, some ev.evmsg)
            else ({ ev with pendingAckIds := ids, pendingAcks := ev.pendingAcks - 1 } :: rest, none)

def EventState.eventAck (segment : Int → Option Mapping) (state : EventState)
    (eventid senderid : Int) : Except EventFailure EventState :=
  let (ackqueue, freed) := ackEntry eventid senderid state.ackqueue
  let state := { state with ackqueue := ackqueue }
  match freed with
  | none => .ok state
  | some evmsg => state.mwfree (mwoffset2adr evmsg.data (segment evmsg.datasegmentid))

/-- The queue after the exit, and what was passed to `_mwfree`: the address is computed without a
segment. Behind an event that is taken out the loop goes on with the one after the next. -/
def clearPendingackByid (id : Int) :
    List QueuedEvent → Except EventFailure (List QueuedEvent × List (Option Int))
  | [] => .ok ([], [])
  | [ev] =>
      match clearEntry id ev.pendingAckIds with
      | none => .ok ([ev], [])
      | some ids =>
          if ev.pendingAcks - 1 = 0 then .error .nullPointer
          else .ok ([{ ev with pendingAckIds := ids, pendingAcks := ev.pendingAcks - 1 }], [])
  | ev :: next :: rest =>
      match clearEntry id ev.pendingAckIds with
      | none =>
          (clearPendingackByid id (next :: rest)).map fun (rest, freed) => (ev :: rest, freed)
      | some ids =>
          if ev.pendingAcks - 1 = 0 then
            (clearPendingackByid id rest).map fun (rest, freed) =>
              (next :: rest, mwoffset2adr ev.evmsg.data none :: freed)
          else
            (clearPendingackByid id (next :: rest)).map fun (rest, freed) =>
              ({ ev with pendingAckIds := ids, pendingAcks := ev.pendingAcks - 1 } :: rest, freed)

def EventState.clearBlockingqueueByid (state : EventState) (id : Int) : EventState :=
  { state with blocking := state.blocking.filter fun entry => entry.1 ≠ id }

def EventState.eventClearId (state : EventState) (id : Int) : Except EventFailure EventState := do
  let state := state.clearBlockingqueueByid id
  let (ackqueue, freed) ← clearPendingackByid id state.ackqueue
  let state ← freed.foldlM EventState.mwfree { state with ackqueue := ackqueue }
  return state.eventUnsubscribe unassigned id

end MidWay.Mwd

import MidWay.Lib.Runs
import MidWay.Srb.Framing

/-!
Contract: the receive buffer of one connection over whole runs, for any bytes a
peer sends, any cut into reads, and any order of calls, reads, interruptions and
ends of stream.

A `Receiver` is a connection between two calls or inside one, waiting for
`recvfrom`. Its actions are the calls and the results of `recvfrom`; both are
the functions of the receive path, taken apart at the point where the process
waits.

Owns: the machine of one receiver, the condition under which its steps keep the
buffer in order (`SearchSound`), and the invariant of its runs.
-/

namespace MidWay.Srb

open MidWay.CLib MidWay.Lib

inductive Phase where
  | idle
  | reading (blocking : Bool)
deriving DecidableEq, Repr

structure Receiver where
  phase : Phase
  conn : Connection
deriving DecidableEq, Repr

inductive Action where
  | call (blocking : Bool)
  | receive (received : Received)
deriving DecidableEq, Repr

def Receiver.ofTurn (blocking : Bool) : Turn → Receiver
  | .returned _ _ conn => ⟨.idle, conn⟩
  | .reading conn => ⟨.reading blocking, conn⟩

/-- A call starts when none is under way; `recvfrom` delivers no more than it
has space for. -/
def Receiver.enabled (receiver : Receiver) : Action → Prop
  | .call _ => receiver.phase = .idle
  | .receive (.bytes bytes) =>
      receiver.phase ≠ .idle ∧ bytes.length ≤ maxrecvlen receiver.conn
  | .receive (.failed _) => receiver.phase ≠ .idle

def Receiver.step (uninit : List Byte) (receiver : Receiver) : Action → Except Failure Receiver
  | .call blocking => (recvEnter uninit receiver.conn).map (Receiver.ofTurn blocking)
  | .receive received =>
      match receiver.phase with
      | .idle => .ok receiver
      | .reading blocking =>
          (recvTurn uninit blocking receiver.conn received).map (Receiver.ofTurn blocking)

def receiverMachine (uninit : List Byte) : Machine Receiver Action Failure where
  start receiver := ∃ fd memory, fd ≠ -1 ∧ bufferStart + bufferSize ≤ memory.length ∧
    receiver = ⟨.idle, Connection.fresh fd memory⟩
  enabled := Receiver.enabled
  step := Receiver.step uninit

/-- The pending bytes lie in the message buffer, and a remembered boundary is a
CR LF among them. -/
structure BufferOk (conn : Connection) : Prop where
  leftover : 0 ≤ conn.leftover
  within : conn.allocated = true → bufferStart ≤ conn.som ∧
    conn.som + conn.leftover ≤ bufferStart + srbMessageMaxLen
  unallocated : conn.allocated = false → conn.leftover = 0
  marker : ∀ marker, conn.nextMessageBoundryMarker = some marker →
    conn.som ≤ marker ∧ marker + 2 ≤ conn.som + conn.leftover ∧
      conn.memory[marker]? = some carriageReturn ∧ conn.memory[marker + 1]? = some lineFeed

/-- The buffer is in order, and a call that waits has offered `recvfrom` some
space. -/
def ReceiverOk (receiver : Receiver) : Prop :=
  BufferOk receiver.conn ∧ ∀ blocking, receiver.phase = .reading blocking →
    0 < maxrecvlen receiver.conn

/-- A search of this buffer goes well: the string at `som` shows no CR LF behind
the received bytes, the line it shows is accepted, and if it shows none there is
space left. -/
def SearchSound (uninit : List Byte) (conn : Connection) : Prop :=
  match strstr (conn.memory.drop conn.som) srbMessageBoundry with
  | some msglen => (msglen : Int) + 2 ≤ conn.leftover ∧
      (mwSrbdecodemessage uninit conn.memory conn.som msglen).errno = none
  | none => conn.leftover < srbMessageMaxLen

/-- The condition on a step: the buffer it searches can be searched. A call and
an interrupted read search only what is left over; at the end of the stream the
look ahead searches in any case. -/
def StepSound (uninit : List Byte) (receiver : Receiver) : Action → Prop
  | .call _ => receiver.conn.leftover ≠ 0 → SearchSound uninit receiver.conn
  | .receive (.failed errno) =>
      (errno = .EAGAIN ∧ receiver.phase = .reading false) ∨ receiver.conn.leftover = 0 ∨
        SearchSound uninit receiver.conn
  | .receive (.bytes bytes) =>
      ∀ conn, storeReceived receiver.conn bytes = .ok conn → SearchSound uninit conn

structure Searched (conn : Connection) (pending : List Byte) : Prop
    extends Reading conn pending where
  opened : conn.fd ≠ -1
  hidden : strstr pending srbMessageBoundry = none
  room : pending.length < srbMessageMaxLen

/-- Between calls the connection is fresh, or a message was just returned, or the
last search found nothing. -/
def ReceiverInv (receiver : Receiver) : Prop :=
  match receiver.phase with
  | .reading _ => ∃ pending, Searched receiver.conn pending
  | .idle =>
      (∃ fd memory, fd ≠ -1 ∧ bufferStart + bufferSize ≤ memory.length ∧
        receiver.conn = Connection.fresh fd memory) ∨
      (∃ pending, Idle receiver.conn pending) ∨ ∃ pending, Searched receiver.conn pending

theorem Holds.bufferOk {conn : Connection} {pending : List Byte} (holds : Holds conn pending)
    (marker : ∀ marker, conn.nextMessageBoundryMarker = some marker →
      ∃ msglen, strstr pending srbMessageBoundry = some msglen ∧ marker = conn.som + msglen) :
    BufferOk conn := by
  have leftover := holds.leftover
  have within := holds.within
  refine ⟨by omega, fun _ => ⟨holds.start, by omega⟩, ?_, ?_⟩
  · simp [holds.allocated]
  · intro place isMarker
    obtain ⟨msglen, found, rfl⟩ := marker place isMarker
    obtain ⟨before, behind, shape, beforeLength⟩ := strstr_some found
    obtain ⟨further, held⟩ := holds.held
    have pendingLength : pending.length = msglen + 2 + behind.length := by
      rw [shape, List.length_append, List.length_append, beforeLength]
      rfl
    have memory : conn.memory.drop conn.som =
        before ++ (carriageReturn :: lineFeed :: (behind ++ further)) := by
      rw [← held, shape]
      simp [srbMessageBoundry]
    refine ⟨by omega, by omega, ?_, ?_⟩
    · rw [← List.getElem?_drop, memory, ← beforeLength, List.getElem?_append_right (Nat.le_refl _),
        Nat.sub_self]
      rfl
    · rw [Nat.add_assoc, ← List.getElem?_drop, memory, ← beforeLength,
        List.getElem?_append_right (Nat.le_add_right _ _), Nat.add_sub_cancel_left]
      rfl

theorem ReceiverInv.ok {receiver : Receiver} (inv : ReceiverInv receiver) :
    ReceiverOk receiver := by
  have searchedOk : ∀ {conn : Connection} {pending : List Byte}, Searched conn pending →
      BufferOk conn := fun searched =>
    searched.toHolds.bufferOk fun marker isMarker => by
      rw [searched.marker] at isMarker
      cases isMarker
  obtain ⟨phase, conn⟩ := receiver
  cases phase with
  | reading blocking =>
      obtain ⟨pending, searched⟩ := inv
      refine ⟨searchedOk searched, fun _ _ => ?_⟩
      have room := searched.room
      rw [searched.maxrecvlen_eq, searched.som]
      omega
  | idle =>
      refine ⟨?_, fun _ isReading => by cases isReading⟩
      rcases inv with ⟨fd, memory, -, -, fresh⟩ | ⟨pending, idle⟩ | ⟨pending, searched⟩
      · simp only at fresh
        subst fresh
        exact ⟨Int.le_refl _, by simp [Connection.fresh], fun _ => rfl,
          by simp [Connection.fresh]⟩
      · refine idle.toHolds.bufferOk fun marker isMarker => ?_
        simp only at isMarker
        rw [idle.marker] at isMarker
        obtain ⟨msglen, found, rfl⟩ := Option.map_eq_some_iff.mp isMarker
        exact ⟨msglen, found, rfl⟩
      · exact searchedOk searched

/-- What a search must not show: a CR LF behind the received bytes, or a line that is refused. -/
def SearchClean (uninit : List Byte) (conn : Connection) : Prop :=
  ∀ msglen, strstr (conn.memory.drop conn.som) srbMessageBoundry = some msglen →
    (msglen : Int) + 2 ≤ conn.leftover ∧
      (mwSrbdecodemessage uninit conn.memory conn.som msglen).errno = none

theorem SearchSound.clean {uninit : List Byte} {conn : Connection}
    (sound : SearchSound uninit conn) : SearchClean uninit conn := by
  intro msglen shown
  unfold SearchSound at sound
  rw [shown] at sound
  exact sound

/-- A clean search of bytes that were searched before finds nothing again. -/
theorem Reading.searchBoundry_none {uninit : List Byte} {conn : Connection} {pending : List Byte}
    (reading : Reading conn pending) (hidden : strstr pending srbMessageBoundry = none)
    (clean : SearchClean uninit conn) : searchBoundry conn = none := by
  obtain ⟨behind, held⟩ := reading.held
  rw [searchBoundry]
  cases found : strstr (conn.memory.drop conn.som) srbMessageBoundry with
  | none => rfl
  | some msglen =>
      exfalso
      have within := (clean msglen found).1
      rw [← held] at found
      have inside : msglen + srbMessageBoundry.length ≤ pending.length := by
        have leftover := reading.leftover
        grind [srbMessageBoundry, List.length_cons, List.length_nil]
      exact strstr_ne_none_of_append found inside hidden

/-- Nothing changes then. -/
theorem Reading.read_again {conn : Connection} {pending : List Byte} (uninit : List Byte)
    (reading : Reading conn pending)
    (notFound : conn.leftover ≠ 0 → searchBoundry conn = none) :
    readMessageFromConnbuffer uninit conn = .ok (none, conn) := by
  have leftover := reading.leftover
  have som := reading.som
  have marker := reading.marker
  obtain ⟨behind, held⟩ := reading.held
  rw [readMessageFromConnbuffer, if_neg (by simp [reading.allocated])]
  by_cases empty : conn.leftover = 0
  · rw [if_pos empty, ← som]
  · have moved : memmove conn.memory bufferStart conn.som conn.leftover.toNat = conn.memory := by
      have place : conn.memory.take conn.som ++ (pending ++ behind) = conn.memory := by
        rw [held, List.take_append_drop]
      rw [memmove, ← som, leftover, Int.toNat_natCast, ← held, List.take_left, overwrite,
        ← List.drop_drop, ← held, List.drop_left, List.append_assoc, place]
    rw [if_neg empty, marker, notFound empty]
    simp only [Option.or_none]
    rw [if_neg (by omega), moved, ← som, ← marker]

section

variable (uninit : List Byte) {conn : Connection} {pending : List Byte}

/-- The line a clean search shows is taken from pending bytes that are
terminated. -/
theorem read_clean (holds : Holds conn pending) (opened : conn.fd ≠ -1)
    (stopped : pending ++ [0] <+: conn.memory.drop conn.som)
    (marker : conn.nextMessageBoundryMarker = none ∨
      conn.nextMessageBoundryMarker = searchBoundry conn)
    (clean : SearchClean uninit conn) (visible : strstr pending srbMessageBoundry ≠ none) :
    ∃ srbmsg taken rest, readMessageFromConnbuffer uninit conn = .ok (some srbmsg, taken) ∧
      Idle (lookAhead taken) rest := by
  obtain ⟨msglen, found⟩ := Option.ne_none_iff_exists'.mp visible
  have search : searchBoundry conn = some (conn.som + msglen) := by
    grind [searchBoundry_stopped]
  have shown : strstr (conn.memory.drop conn.som) srbMessageBoundry = some msglen := by
    obtain ⟨behind, shape⟩ := stopped
    rw [← shape, List.append_assoc, List.singleton_append, strstr_append_nul, found]
  obtain ⟨message, rest, shape, messageLength⟩ := strstr_some found
  have decoded : (mwSrbdecodemessage uninit conn.memory conn.som message.length).errno = none := by
    rw [messageLength]
    exact (clean msglen shown).2
  have boundry : conn.nextMessageBoundryMarker.or (searchBoundry conn) =
      some (conn.som + message.length) := by
    rw [messageLength]
    rcases marker with none | same
    · simp [none, search]
    · simp [same, search]
  grind [read_taken, mwSrbdecodemessage_accepted]

theorem SearchSound.room (holds : Holds conn pending)
    (stopped : pending ++ [0] <+: conn.memory.drop conn.som) (sound : SearchSound uninit conn)
    (hidden : strstr pending srbMessageBoundry = none) : pending.length < srbMessageMaxLen := by
  have shown : strstr (conn.memory.drop conn.som) srbMessageBoundry = none := by
    obtain ⟨behind, shape⟩ := stopped
    rw [← shape, List.append_assoc, List.singleton_append, strstr_append_nul, hidden]
  unfold SearchSound at sound
  rw [shown] at sound
  have leftover := holds.leftover
  have room : conn.leftover < srbMessageMaxLen := sound
  omega

end

section

variable (uninit : List Byte) {conn : Connection} {pending : List Byte}

/-- A call, from each of the states between calls. -/
theorem enter_keeps (blocking : Bool) (inv : ReceiverInv ⟨.idle, conn⟩)
    (sound : conn.leftover ≠ 0 → SearchSound uninit conn) :
    ∃ turn, recvEnter uninit conn = .ok turn ∧ ReceiverInv (Receiver.ofTurn blocking turn) := by
  have noLine : strstr [] srbMessageBoundry = none := rfl
  have someRoom : ([] : List Byte).length < srbMessageMaxLen := by decide
  rcases inv with ⟨fd, memory, opened, size, fresh⟩ | ⟨pending, idle⟩ | ⟨pending, searched⟩
  · simp only at fresh
    subst fresh
    obtain ⟨reader, entered, reading, readerOpened⟩ := enter_fresh uninit opened size
    exact ⟨_, entered, [], reading, readerOpened, noLine, someRoom⟩
  · simp only at idle
    by_cases hidden : strstr pending srbMessageBoundry = none
    · obtain ⟨reader, entered, reading, readerOpened⟩ := enter_incomplete uninit idle hidden
      refine ⟨_, entered, pending, reading, readerOpened, hidden, ?_⟩
      by_cases empty : pending = []
      · simp_all
      · have notEmpty : conn.leftover ≠ 0 := by
          rw [idle.leftover]
          simpa using empty
        exact SearchSound.room uninit idle.toHolds idle.stopped (sound notEmpty) hidden
    · have notEmpty : conn.leftover ≠ 0 := by
        rw [idle.leftover]
        intro none
        have empty : pending = [] := by simpa using none
        exact hidden (by rw [empty]; exact noLine)
      have marker : conn.nextMessageBoundryMarker = searchBoundry conn := by
        rw [idle.marker, searchBoundry_stopped idle.stopped]
      obtain ⟨srbmsg, taken, rest, result, after⟩ := read_clean uninit idle.toHolds idle.opened
        idle.stopped (Or.inr marker) (sound notEmpty).clean hidden
      refine ⟨.returned (some srbmsg) none (lookAhead taken), ?_, Or.inr (Or.inl ⟨rest, after⟩)⟩
      rw [recvEnter, result]
  · simp only at searched
    have again := searched.toReading.read_again uninit fun notEmpty =>
      searched.toReading.searchBoundry_none searched.hidden (sound notEmpty).clean
    refine ⟨.reading conn, ?_, pending, searched⟩
    simp [recvEnter, again, searched.opened]

/-- An interrupted read, or the end of the stream. -/
theorem search_again_keeps (blocking eof : Bool) (searched : Searched conn pending)
    (sound : conn.leftover ≠ 0 ∨ eof = true → SearchSound uninit conn) :
    ∃ turn, recvSearch uninit eof conn = .ok turn ∧
      ReceiverInv (Receiver.ofTurn blocking turn) := by
  have again := searched.toReading.read_again uninit fun notEmpty =>
    searched.toReading.searchBoundry_none searched.hidden (sound (Or.inl notEmpty)).clean
  cases eof with
  | false => exact ⟨.reading conn, by simp [recvSearch, again], pending, searched⟩
  | true =>
      have notFound := searched.toReading.searchBoundry_none searched.hidden
        (sound (Or.inr rfl)).clean
      have unchanged : lookAhead conn = conn := by
        rw [lookAhead, notFound, ← searched.marker]
      refine ⟨.returned none (some .EPIPE) conn, ?_, Or.inr (Or.inr ⟨pending, searched⟩)⟩
      simp [recvSearch, again, unchanged]

/-- Bytes that arrive. -/
theorem receive_bytes_keeps (blocking : Bool) (searched : Searched conn pending)
    {bytes : List Byte} (nonempty : bytes ≠ []) (fits : bytes.length ≤ maxrecvlen conn)
    (sound : ∀ arrived, storeReceived conn bytes = .ok arrived → SearchSound uninit arrived) :
    ∃ turn, recvTurn uninit blocking conn (.bytes bytes) = .ok turn ∧
      ReceiverInv (Receiver.ofTurn blocking turn) := by
  obtain ⟨memory, stored, holds, stopped⟩ :=
    storeReceived_holds searched.toHolds nonempty fits
  have soundNow := sound _ stored
  have arrived : Arrived _ (pending ++ bytes) :=
    ⟨⟨holds, searched.som, searched.marker⟩, searched.opened, stopped⟩
  have turn : recvTurn uninit blocking conn (.bytes bytes) = recvSearch uninit false
      { conn with memory := memory, leftover := conn.leftover + bytes.length } := by
    simp [recvTurn, mwConnRead, stored, nonempty]
  rw [turn]
  by_cases hidden : strstr (pending ++ bytes) srbMessageBoundry = none
  · obtain ⟨reader, result, reading, opened⟩ :=
      search_incomplete uninit arrived (by simp [nonempty]) hidden
    exact ⟨_, result, pending ++ bytes, reading, opened, hidden,
      SearchSound.room uninit holds stopped soundNow hidden⟩
  · obtain ⟨srbmsg, taken, rest, result, after⟩ := read_clean uninit holds searched.opened stopped
      (Or.inl searched.marker) soundNow.clean hidden
    refine ⟨.returned (some srbmsg) (some .EAGAIN) (lookAhead taken), ?_,
      Or.inr (Or.inl ⟨rest, after⟩)⟩
    simp [recvSearch, result]

/-- Any result of `recvfrom`. -/
theorem receive_keeps (blocking : Bool) (searched : Searched conn pending) {received : Received}
    (enabled : (Receiver.mk (.reading blocking) conn).enabled (.receive received))
    (sound : StepSound uninit ⟨.reading blocking, conn⟩ (.receive received)) :
    ∃ turn, recvTurn uninit blocking conn received = .ok turn ∧
      ReceiverInv (Receiver.ofTurn blocking turn) := by
  cases received with
  | failed errno =>
      by_cases gaveUp : errno = .EAGAIN ∧ blocking = false
      · refine ⟨.returned none (some .EAGAIN) conn, ?_, Or.inr (Or.inr ⟨pending, searched⟩)⟩
        simp [recvTurn, gaveUp]
      · have searchSound : conn.leftover ≠ 0 ∨ false = true → SearchSound uninit conn := by
          rintro (notEmpty | isEof)
          · rcases sound with ⟨isAgain, isNonblocking⟩ | empty | sound
            · exact absurd ⟨isAgain, by simpa using isNonblocking⟩ gaveUp
            · exact absurd empty notEmpty
            · exact sound
          · cases isEof
        have turn : recvTurn uninit blocking conn (.failed errno) =
            recvSearch uninit false conn := by
          simp [recvTurn, mwConnRead, gaveUp]
        rw [turn]
        exact search_again_keeps uninit blocking false searched searchSound
  | bytes bytes =>
      by_cases nonempty : bytes = []
      · subst nonempty
        have stored : storeReceived conn [] = .ok conn := by simp [storeReceived]
        have turn : recvTurn uninit blocking conn (.bytes []) = recvSearch uninit true conn := by
          simp [recvTurn, mwConnRead, stored]
        rw [turn]
        exact search_again_keeps uninit blocking true searched fun _ => sound conn stored
      · exact receive_bytes_keeps uninit blocking searched nonempty enabled.2 sound

end

theorem receiver_keeps (uninit : List Byte) :
    (receiverMachine uninit).Keeps (StepSound uninit) ReceiverInv := by
  rintro ⟨phase, conn⟩ action inv enabled sound
  cases action with
  | call blocking =>
      have isIdle : phase = .idle := enabled
      subst isIdle
      obtain ⟨turn, entered, after⟩ := enter_keeps uninit blocking inv sound
      exact ⟨_, by simp [receiverMachine, Receiver.step, entered, Except.map], after⟩
  | receive received =>
      cases phase with
      | idle =>
          cases received with
          | bytes bytes => exact absurd rfl enabled.1
          | failed errno => exact absurd rfl enabled
      | reading blocking =>
          obtain ⟨pending, searched⟩ := inv
          obtain ⟨turn, result, after⟩ := receive_keeps uninit blocking searched enabled sound
          exact ⟨_, by simp [receiverMachine, Receiver.step, result, Except.map], after⟩

end MidWay.Srb

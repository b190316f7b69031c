import MidWay.Srb.ReceiveInvariant

/-!
Contract: whether a call that receives a message ends when the connection does.

The loop of `_mw_srb_recvmessage` goes on after every error of `recvfrom`, because the
test for an interruption is an assignment. It ends when a line is complete, when
`recvfrom` answers zero, or when the buffer is full and more bytes wait.

Owns: what ends a call, the calls whose searches are clean, and the exact condition under
which such a call ends on a connection that has come to its end.
-/

namespace MidWay.Srb

open MidWay.CLib

variable {socket later : List Arrival} {turns : Nat} {arrival : Arrival}

/-- `recvfrom` answers zero. -/
def Arrival.closes : Arrival → Bool
  | .data bytes => bytes.isEmpty
  | .endOfStream => true
  | .error _ => false

def Arrival.bytes : Arrival → List Byte
  | .data bytes => bytes
  | .endOfStream | .error _ => []

def bytesOf (socket : List Arrival) : List Byte := socket.flatMap Arrival.bytes

/-- The stream ends, its bytes show a line, or there are more than the buffer holds. -/
def Ended (pending : List Byte) (socket : List Arrival) : Prop :=
  (∃ arrival ∈ socket, arrival.closes = true) ∨
    strstr (pending ++ bytesOf socket) srbMessageBoundry ≠ none ∨
    srbMessageMaxLen < (pending ++ bytesOf socket).length

def Arrival.Retried (blocking : Bool) (arrival : Arrival) : Prop :=
  ¬(arrival = .error .EAGAIN ∧ blocking = false)

/-- The call returns before the end of this socket, with a message or for the caller to close the
connection. -/
def EndsIn (uninit : List Byte) (blocking : Bool) (conn : Connection) (socket : List Arrival) :
    Prop :=
  ∃ srbmsg errno after rest,
    mwSrbRecvmessage uninit blocking conn socket = .returned srbmsg errno after rest ∧
      rest ≠ [] ∧ (srbmsg = none → errno = some .EPIPE)

/-- The call returns when `last` comes for ever after these arrivals. -/
def Ends (uninit : List Byte) (blocking : Bool) (conn : Connection) (before : List Arrival)
    (last : Arrival) : Prop :=
  ∃ times, EndsIn uninit blocking conn (before ++ List.replicate times last)

def CleanAfter (uninit : List Byte) (conn : Connection) (received : Received) : Prop :=
  ∀ arrived, mwConnRead conn received = .ok arrived →
    arrived.leftover = 0 ∨ SearchClean uninit arrived

def CleanReads (uninit : List Byte) (blocking : Bool) :
    Nat → Connection → List Arrival → Prop
  | 0, _, _ => True
  | turns + 1, conn, socket =>
      ∀ received later,
        recvfrom blocking conn.mcast (maxrecvlen conn) socket = some (received, later) →
          CleanAfter uninit conn received ∧
            ∀ next, recvTurn uninit blocking conn received = .ok (.reading next) →
              CleanReads uninit blocking turns next later

structure CleanCall (uninit : List Byte) (blocking : Bool) (conn : Connection)
    (socket : List Arrival) : Prop where
  first : conn.leftover = 0 ∨ SearchClean uninit conn
  reads : ∀ reader, recvEnter uninit conn = .ok (.reading reader) →
    CleanReads uninit blocking (socketSize socket + 1) reader socket

structure Waiting (conn : Connection) (pending : List Byte) : Prop
    extends Reading conn pending where
  opened : conn.fd ≠ -1
  hidden : strstr pending srbMessageBoundry = none

def Buffered (conn : Connection) (pending : List Byte) : Prop :=
  Idle conn pending ∨ Waiting conn pending ∨ pending = [] ∧ ∃ fd memory, fd ≠ -1 ∧
    bufferStart + bufferSize ≤ memory.length ∧ conn = Connection.fresh fd memory

theorem bytesOf_cons (arrival : Arrival) (later : List Arrival) :
    bytesOf (arrival :: later) = arrival.bytes ++ bytesOf later := List.flatMap_cons

theorem strstr_prefix_none {bytes more needle : List Byte} (none : strstr (bytes ++ more) needle = none) :
    strstr bytes needle = Option.none := by
  cases found : strstr bytes needle with
  | none => rfl
  | some place =>
      simp_all [strstr_append]

theorem Ended.append {pending : List Byte} (ended : Ended pending socket) (later : List Arrival) :
    Ended pending (socket ++ later) := by
  have bytes : pending ++ bytesOf (socket ++ later) =
      (pending ++ bytesOf socket) ++ bytesOf later := by
    rw [bytesOf, List.flatMap_append, List.append_assoc]
    rfl
  rcases ended with closed | visible | overflow
  · obtain ⟨arrival, member, closes⟩ := closed
    exact Or.inl ⟨arrival, List.mem_append_left _ member, closes⟩
  · refine Or.inr (Or.inl ?_)
    grind [strstr_prefix_none]
  · refine Or.inr (Or.inr ?_)
    rw [bytes, List.length_append]
    omega

theorem ended_cons (pending : List Byte) (notClosed : arrival.closes = false)
    (later : List Arrival) :
    Ended (pending ++ arrival.bytes) later ↔ Ended pending (arrival :: later) := by
  simp [Ended, bytesOf_cons, List.append_assoc, notClosed]

section

variable {uninit : List Byte} {blocking : Bool} {conn : Connection} {pending : List Byte}

theorem Waiting.read_again (waiting : Waiting conn pending)
    (clean : conn.leftover = 0 ∨ SearchClean uninit conn) :
    readMessageFromConnbuffer uninit conn = .ok (none, conn) := by
  apply waiting.toReading.read_again
  intro notEmpty
  rcases clean with empty | clean
  · exact absurd empty notEmpty
  · exact waiting.toReading.searchBoundry_none waiting.hidden clean

theorem Waiting.turn_closed (waiting : Waiting conn pending)
    (clean : CleanAfter uninit conn (.bytes [])) :
    recvTurn uninit blocking conn (.bytes []) =
      .ok (.returned none (some .EPIPE) (lookAhead conn)) := by
  have unchanged : mwConnRead conn (.bytes []) = .ok conn := rfl
  rw [recvTurn, if_neg (by simp), unchanged]
  simp only
  rw [recvSearch, waiting.read_again (clean conn unchanged)]
  rfl

theorem Waiting.turn_interrupted (waiting : Waiting conn pending) {errno : Errno}
    (retried : Arrival.Retried blocking (.error errno))
    (clean : CleanAfter uninit conn (.failed errno)) :
    recvTurn uninit blocking conn (.failed errno) = .ok (.reading conn) := by
  have unchanged : mwConnRead conn (.failed errno) = .ok conn := rfl
  have goesOn : ¬(Received.failed errno = .failed .EAGAIN ∧ blocking = false) := by
    intro gaveUp
    have isAgain : errno = .EAGAIN := Received.failed.inj gaveUp.1
    exact retried ⟨congrArg Arrival.error isAgain, gaveUp.2⟩
  rw [recvTurn, if_neg goesOn, unchanged]
  simp only
  rw [recvSearch, waiting.read_again (clean conn unchanged)]
  rfl

variable (blocking) in
/-- Bytes complete the line, or the call goes on with them. -/
theorem Waiting.turn_bytes (waiting : Waiting conn pending) {bytes : List Byte}
    (nonempty : bytes ≠ []) (fits : bytes.length ≤ maxrecvlen conn)
    (clean : CleanAfter uninit conn (.bytes bytes)) :
    (strstr (pending ++ bytes) srbMessageBoundry ≠ none ∧ ∃ srbmsg after,
      recvTurn uninit blocking conn (.bytes bytes) =
        .ok (.returned (some srbmsg) (some .EAGAIN) after)) ∨
    ∃ reader, recvTurn uninit blocking conn (.bytes bytes) = .ok (.reading reader) ∧
      Waiting reader (pending ++ bytes) := by
  obtain ⟨memory, stored, holds, stopped⟩ :=
    storeReceived_holds waiting.toHolds nonempty fits
  have searched := clean _ stored
  have turn : recvTurn uninit blocking conn (.bytes bytes) = recvSearch uninit false
      { conn with memory := memory, leftover := conn.leftover + bytes.length } := by
    simp [recvTurn, mwConnRead, stored, nonempty]
  rw [turn]
  by_cases hidden : strstr (pending ++ bytes) srbMessageBoundry = none
  · right
    have arrived : Arrived _ (pending ++ bytes) :=
      ⟨⟨holds, waiting.som, waiting.marker⟩, waiting.opened, stopped⟩
    obtain ⟨reader, result, reading, opened⟩ :=
      search_incomplete uninit arrived (by simp [nonempty]) hidden
    exact ⟨reader, result, reading, opened, hidden⟩
  · left
    have notEmpty : conn.leftover + bytes.length ≠ 0 := by
      have leftover := waiting.leftover
      have positive := List.length_pos_iff.mpr nonempty
      omega
    have searchClean := searched.resolve_left notEmpty
    obtain ⟨srbmsg, taken, rest, result, _⟩ := read_clean uninit holds waiting.opened stopped
      (Or.inl waiting.marker) searchClean hidden
    simp_all [recvSearch, result]

theorem recvLoop_step (stream : conn.mcast = false) {received : Received}
    (isNext : recvfrom blocking conn.mcast (maxrecvlen conn) socket = some (received, later)) :
    recvLoop uninit blocking (turns + 1) conn socket =
      afterTurn (fun reader => recvLoop uninit blocking turns reader later) later
        (recvTurn uninit blocking conn received) := by
  simp_all [recvLoop]

def ReturnsWith (uninit : List Byte) (blocking : Bool) (turns : Nat) (conn : Connection)
    (pending : List Byte) (arrival : Arrival) (later : List Arrival) : Prop :=
  Ended pending [arrival] ∧ ∃ srbmsg errno after rest,
    recvLoop uninit blocking (turns + 1) conn (arrival :: later) =
        .returned srbmsg errno after (rest ++ later) ∧
      (srbmsg = none → errno = some .EPIPE)

def GoesOn (uninit : List Byte) (blocking : Bool) (turns : Nat) (conn : Connection)
    (pending : List Byte) (arrival : Arrival) (later : List Arrival) : Prop :=
  ∃ reader front held,
    recvLoop uninit blocking (turns + 1) conn (arrival :: later) =
        recvLoop uninit blocking turns reader (front ++ later) ∧
      Waiting reader held ∧ CleanReads uninit blocking turns reader (front ++ later) ∧
      socketSize (front ++ later) < socketSize (arrival :: later) ∧
      (∀ other ∈ front, other.Retried blocking) ∧
      ∀ more, Ended held (front ++ more) ↔ Ended pending (arrival :: more)

theorem returnsWith_closed (waiting : Waiting conn pending) {turns : Nat} {arrival : Arrival}
    {later rest : List Arrival}
    (clean : CleanReads uninit blocking (turns + 1) conn (arrival :: later))
    (isNext : recvfrom blocking conn.mcast (maxrecvlen conn) (arrival :: later) =
      some (.bytes [], rest ++ later))
    (ended : Ended pending [arrival]) :
    ReturnsWith uninit blocking turns conn pending arrival later := by
  refine ⟨ended, none, some .EPIPE, lookAhead conn, rest, ?_, fun _ => rfl⟩
  rw [recvLoop_step waiting.stream isNext, waiting.turn_closed (clean _ _ isNext).1]
  rfl

/-- Bytes arrive, all of the piece or its first part. -/
theorem turn_delivered (waiting : Waiting conn pending) {turns : Nat} {arrival : Arrival}
    {later front : List Arrival} {bytes : List Byte}
    (clean : CleanReads uninit blocking (turns + 1) conn (arrival :: later))
    (isNext : recvfrom blocking conn.mcast (maxrecvlen conn) (arrival :: later) =
      some (.bytes bytes, front ++ later))
    (nonempty : bytes ≠ []) (fits : bytes.length ≤ maxrecvlen conn)
    (split : arrival.bytes = bytes ++ bytesOf front) (isOpen : arrival.closes = false)
    (stillOpen : ∀ other ∈ front, other.closes = false)
    (retried : ∀ other ∈ front, other.Retried blocking)
    (smaller : socketSize (front ++ later) < socketSize (arrival :: later)) :
    ReturnsWith uninit blocking turns conn pending arrival later ∨
      GoesOn uninit blocking turns conn pending arrival later := by
  obtain ⟨searched, goesOn⟩ := clean _ _ isNext
  rcases waiting.turn_bytes blocking nonempty fits searched with
    ⟨visible, srbmsg, after, result⟩ | ⟨reader, result, stillWaiting⟩
  · left
    refine ⟨Or.inr (Or.inl ?_), some srbmsg, some .EAGAIN, after, front, ?_, ?_⟩
    · rw [bytesOf, List.flatMap_cons, List.flatMap_nil, List.append_nil, split, ← List.append_assoc]
      intro none
      exact visible (strstr_prefix_none none)
    · rw [recvLoop_step waiting.stream isNext, result]
      rfl
    · simp
  · right
    refine ⟨reader, front, pending ++ bytes, ?_, stillWaiting, goesOn reader result, smaller,
      retried, ?_⟩
    · rw [recvLoop_step waiting.stream isNext, result]
      rfl
    · intro more
      have sameBytes : (pending ++ bytes) ++ bytesOf (front ++ more) =
          pending ++ bytesOf (arrival :: more) := by
        rw [bytesOf_cons, split, bytesOf, List.flatMap_append]
        simp only [bytesOf, List.append_assoc]
      have sameEnds : (∃ other ∈ front ++ more, other.closes = true) ↔
          ∃ other ∈ arrival :: more, other.closes = true := by
        constructor
        · grind
        · grind
      rw [Ended, Ended, sameBytes, sameEnds]

/-- What one arrival does. -/
theorem recvLoop_turn (waiting : Waiting conn pending) (retried : arrival.Retried blocking)
    (clean : CleanReads uninit blocking (turns + 1) conn (arrival :: later)) :
    ReturnsWith uninit blocking turns conn pending arrival later ∨
      GoesOn uninit blocking turns conn pending arrival later := by
  have stream := waiting.stream
  cases arrival with
  | endOfStream =>
      left
      have isNext : recvfrom blocking conn.mcast (maxrecvlen conn) (.endOfStream :: later) =
          some (.bytes [], [] ++ later) := rfl
      apply returnsWith_closed waiting clean isNext
      exact Or.inl ⟨.endOfStream, List.mem_singleton.mpr rfl, rfl⟩
  | error errno =>
      right
      have isNext : recvfrom blocking conn.mcast (maxrecvlen conn) (.error errno :: later) =
          some (.failed errno, later) := rfl
      obtain ⟨searched, goesOn⟩ := clean _ _ isNext
      have result := waiting.turn_interrupted retried searched
      refine ⟨conn, [], pending, ?_, waiting, goesOn conn result, ?_, ?_, ?_⟩
      · rw [recvLoop_step stream isNext, result]
        rfl
      · simp [List.nil_append, socketSize]
      · simp
      · intro more
        have notClosed : (Arrival.error errno).closes = false := rfl
        have same := ended_cons pending notClosed more
        simp_all [Arrival.bytes, List.append_nil, same]
  | data bytes =>
      by_cases empty : bytes = []
      · left
        have isNext : recvfrom blocking conn.mcast (maxrecvlen conn) (.data bytes :: later) =
            some (.bytes [], [] ++ later) := by
          rw [recvfrom, empty, List.length_nil, if_pos (Nat.zero_le _)]
          rfl
        apply returnsWith_closed waiting clean isNext
        exact Or.inl ⟨.data bytes, List.mem_singleton.mpr rfl, by rw [empty]; rfl⟩
      · have isOpen : (Arrival.data bytes).closes = false := by
          rw [Arrival.closes, List.isEmpty_eq_false_iff]
          exact empty
        have positive := List.length_pos_iff.mpr empty
        by_cases fits : bytes.length ≤ maxrecvlen conn
        · have isNext : recvfrom blocking conn.mcast (maxrecvlen conn) (.data bytes :: later) =
              some (.bytes bytes, [] ++ later) := by
            rw [recvfrom, if_pos fits]
            rfl
          apply turn_delivered waiting clean isNext empty fits (List.append_nil bytes).symm isOpen
          · simp
          · simp
          · simp [List.nil_append, socketSize]
        · have isNext : recvfrom blocking conn.mcast (maxrecvlen conn) (.data bytes :: later) =
              some (.bytes (bytes.take (maxrecvlen conn)),
                [.data (bytes.drop (maxrecvlen conn))] ++ later) := by
            rw [recvfrom, if_neg fits, stream]
            rfl
          by_cases full : maxrecvlen conn = 0
          · left
            rw [full, List.take_zero] at isNext
            apply returnsWith_closed waiting clean (full ▸ isNext)
            refine Or.inr (Or.inr ?_)
            have room := waiting.maxrecvlen_eq
            rw [full, waiting.som] at room
            rw [bytesOf, List.flatMap_cons, List.flatMap_nil, List.append_nil, Arrival.bytes,
              List.length_append]
            omega
          · have takenLength : (bytes.take (maxrecvlen conn)).length = maxrecvlen conn := by
              rw [List.length_take]
              omega
            have leftLength : 0 < (bytes.drop (maxrecvlen conn)).length := by
              grind
            apply turn_delivered waiting clean isNext
            · exact List.ne_nil_of_length_pos (by omega)
            · exact Nat.le_of_eq takenLength
            · rw [bytesOf, List.flatMap_cons, List.flatMap_nil, List.append_nil]
              exact (List.take_append_drop _ _).symm
            · exact isOpen
            · simp_all [Arrival.closes, List.isEmpty_eq_false_iff, List.ne_nil_of_length_pos]
            · intro other member
              rw [List.mem_singleton.mp member]
              exact fun gaveUp => Arrival.noConfusion gaveUp.1
            · grind [List.singleton_append, socketSize, List.length_drop]

theorem Waiting.not_ended_nil (waiting : Waiting conn pending) : ¬Ended pending [] := by
  have within := waiting.within
  have som := waiting.som
  intro ended
  rcases ended with ⟨arrival, member, _⟩ | visible | overflow
  · cases member
  · rw [bytesOf, List.flatMap_nil, List.append_nil] at visible
    exact visible waiting.hidden
  · grind [bytesOf]

/-- The call returns with these arrivals, and looks at none of the others. -/
theorem recvLoop_ended (later : List Arrival) (waiting : Waiting conn pending)
    (retried : ∀ arrival ∈ socket, arrival.Retried blocking)
    (clean : CleanReads uninit blocking turns conn (socket ++ later))
    (enough : socketSize (socket ++ later) < turns) (ended : Ended pending socket) :
    ∃ srbmsg errno after rest,
      recvLoop uninit blocking turns conn (socket ++ later) =
          .returned srbmsg errno after (rest ++ later) ∧
        (srbmsg = none → errno = some .EPIPE) := by
  induction turns generalizing conn pending socket with
  | zero => exact absurd enough (Nat.not_lt_zero _)
  | succ turns ih =>
      cases socket with
      | nil => exact absurd ended waiting.not_ended_nil
      | cons arrival socket =>
          rw [List.forall_mem_cons] at retried
          rw [List.cons_append] at clean enough ⊢
          rcases recvLoop_turn waiting retried.1 clean with returns | goesOn
          · obtain ⟨_, srbmsg, errno, after, rest, result, closes⟩ := returns
            grind
          · obtain ⟨reader, front, held, result, stillWaiting, stillClean, smaller, frontRetried,
              sameEnd⟩ := goesOn
            grind

/-- The call comes to the end of the socket. -/
theorem recvLoop_not_ended (waiting : Waiting conn pending)
    (retried : ∀ arrival ∈ socket, arrival.Retried blocking)
    (clean : CleanReads uninit blocking turns conn socket) (enough : socketSize socket < turns)
    (notEnded : ¬Ended pending socket) :
    ∃ after, recvLoop uninit blocking turns conn socket = .waiting after ∨
      recvLoop uninit blocking turns conn socket = .returned none (some .EAGAIN) after [] := by
  induction turns generalizing conn pending socket with
  | zero => exact absurd enough (Nat.not_lt_zero _)
  | succ turns ih =>
      cases socket with
      | nil =>
          refine ⟨conn, ?_⟩
          cases blocking with
          | true => exact Or.inl (by simp [recvLoop, waiting.stream, recvfrom])
          | false => exact Or.inr (by simp [recvLoop, waiting.stream, recvfrom, recvTurn, afterTurn])
      | cons arrival socket =>
          rw [List.forall_mem_cons] at retried
          rcases recvLoop_turn waiting retried.1 clean with returns | goesOn
          · exact absurd (returns.1.append socket) notEnded
          · obtain ⟨reader, front, held, result, stillWaiting, stillClean, smaller, frontRetried,
              sameEnd⟩ := goesOn
            grind

theorem recvEnter_buffered (buffered : Buffered conn pending)
    (clean : conn.leftover = 0 ∨ SearchClean uninit conn) :
    (strstr pending srbMessageBoundry ≠ none ∧ ∃ srbmsg after,
      recvEnter uninit conn = .ok (.returned (some srbmsg) none after)) ∨
    ∃ reader, recvEnter uninit conn = .ok (.reading reader) ∧ Waiting reader pending := by
  rcases buffered with idle | waiting | ⟨empty, fd, memory, opened, size, fresh⟩
  · by_cases hidden : strstr pending srbMessageBoundry = none
    · right
      obtain ⟨reader, entered, reading, opened⟩ := enter_incomplete uninit idle hidden
      exact ⟨reader, entered, reading, opened, hidden⟩
    · left
      have notEmpty : conn.leftover ≠ 0 := by
        rw [idle.leftover]
        intro zero
        have empty : pending = [] := List.eq_nil_of_length_eq_zero (Int.natCast_eq_zero.mp zero)
        rw [empty] at hidden
        exact hidden rfl
      have marker : conn.nextMessageBoundryMarker = searchBoundry conn := by
        rw [idle.marker, searchBoundry_stopped idle.stopped]
      obtain ⟨srbmsg, taken, rest, result, _⟩ := read_clean uninit idle.toHolds idle.opened
        idle.stopped (Or.inr marker) (clean.resolve_left notEmpty) hidden
      simp_all [recvEnter, result]
  · right
    refine ⟨conn, ?_, waiting⟩
    rw [recvEnter, waiting.read_again clean]
    simp only
    rw [if_neg waiting.opened]
  · right
    obtain ⟨reader, entered, reading, readerOpened⟩ := enter_fresh uninit opened size
    rw [fresh, empty]
    exact ⟨reader, entered, reading, readerOpened, rfl⟩

/-- A call that ends with these arrivals. -/
theorem endsIn_of_ended (buffered : Buffered conn pending)
    (retried : ∀ arrival ∈ socket, arrival.Retried blocking) (more : later ≠ [])
    (clean : CleanCall uninit blocking conn (socket ++ later)) (ended : Ended pending socket) :
    EndsIn uninit blocking conn (socket ++ later) := by
  rcases recvEnter_buffered buffered clean.first with
    ⟨_, srbmsg, after, entered⟩ | ⟨reader, entered, waiting⟩
  · refine ⟨some srbmsg, none, after, socket ++ later, ?_, ?_, ?_⟩
    · rw [mwSrbRecvmessage, entered]
      rfl
    · simp [more]
    · simp
  · obtain ⟨srbmsg, errno, after, rest, result, closes⟩ := recvLoop_ended later waiting retried
      (clean.reads reader entered) (Nat.lt_succ_self _) ended
    refine ⟨srbmsg, errno, after, rest ++ later, ?_, ?_, closes⟩
    · rw [mwSrbRecvmessage, entered]
      exact result
    · simp [more]

theorem not_endsIn (buffered : Buffered conn pending)
    (retried : ∀ arrival ∈ socket, arrival.Retried blocking)
    (clean : CleanCall uninit blocking conn socket) (notEnded : ¬Ended pending socket) :
    ¬EndsIn uninit blocking conn socket := by
  intro ends
  obtain ⟨srbmsg, errno, after, rest, returned, notAll, _⟩ := ends
  rcases recvEnter_buffered buffered clean.first with
    ⟨visible, _⟩ | ⟨reader, entered, waiting⟩
  · apply notEnded
    have ended : Ended pending [] := by
      refine Or.inr (Or.inl ?_)
      simp [bytesOf, List.flatMap_nil, List.append_nil, visible]
    exact ended.append socket
  · obtain ⟨last, result⟩ := recvLoop_not_ended waiting retried (clean.reads reader entered)
      (Nat.lt_succ_self _) notEnded
    rw [mwSrbRecvmessage, entered] at returned
    change recvLoop uninit blocking (socketSize socket + 1) reader socket = _ at returned
    simp_all [returned]

def Arrival.Final (last : Arrival) : Prop :=
  last = .endOfStream ∨ ∃ errno, last = .error errno ∧ errno ≠ .EAGAIN ∧ errno ≠ .EINTR

theorem ended_replicate_error {errno : Errno} {before : List Arrival} {times : Nat} :
    Ended pending (before ++ List.replicate times (.error errno)) ↔ Ended pending before := by
  have noBytes : bytesOf (before ++ List.replicate times (.error errno)) = bytesOf before := by
    have silent : (List.replicate times (Arrival.error errno)).flatMap Arrival.bytes = [] := by
      rw [List.flatMap_eq_nil_iff]
      intro arrival member
      rw [List.eq_of_mem_replicate member]
      rfl
    simp [bytesOf, List.flatMap_append, silent, List.append_nil]
  have sameEnds : (∃ arrival ∈ before ++ List.replicate times (.error errno),
      arrival.closes = true) ↔ ∃ arrival ∈ before, arrival.closes = true := by
    constructor
    · intro closed
      obtain ⟨arrival, member, closes⟩ := closed
      rcases List.mem_append.mp member with inBefore | isLast
      · exact ⟨arrival, inBefore, closes⟩
      · rw [List.eq_of_mem_replicate isLast] at closes
        cases closes
    · grind
  rw [Ended, Ended, noBytes, sameEnds]

end

/-- A call whose searches are clean ends with the connection exactly when the connection ends with
the end of the stream, or the arrivals in front of the error end the call. -/
theorem recvmessage_ends_iff (uninit : List Byte) (blocking : Bool) {conn : Connection}
    {pending : List Byte} (buffered : Buffered conn pending) {before : List Arrival}
    (retried : ∀ arrival ∈ before, arrival.Retried blocking) {last : Arrival}
    (isFinal : last.Final)
    (clean : ∀ times, CleanCall uninit blocking conn (before ++ List.replicate times last)) :
    Ends uninit blocking conn before last ↔ last = .endOfStream ∨ Ended pending before := by
  have lastRetried : last.Retried blocking := by
    intro gaveUp
    rcases isFinal with isEnd | ⟨errno, isError, notAgain, _⟩
    · simp [isEnd] at gaveUp
    · simp [isError, notAgain] at gaveUp
  constructor
  · intro ends
    by_contra neither
    rw [not_or] at neither
    obtain ⟨times, endsIn⟩ := ends
    obtain ⟨errno, isError, _⟩ := isFinal.resolve_left neither.1
    have allRetried : ∀ arrival ∈ before ++ List.replicate times last,
        arrival.Retried blocking := by
      intro arrival member
      rcases List.mem_append.mp member with inBefore | isLast
      · exact retried arrival inBefore
      · simp_all
    apply not_endsIn buffered allRetried (clean times) _ endsIn
    rw [isError, ended_replicate_error]
    exact neither.2
  · intro ended
    rcases ended with isEnd | ended
    · -- the end of the stream is answered once, and comes once more
      refine ⟨2, ?_⟩
      have split : before ++ List.replicate 2 last = (before ++ [last]) ++ [last] := by
        simp
      have cleanTwice := clean 2
      rw [split] at cleanTwice ⊢
      apply endsIn_of_ended buffered _ (List.cons_ne_nil _ _) cleanTwice
      · refine Or.inl ⟨last, List.mem_append_right _ (List.mem_singleton.mpr rfl), ?_⟩
        rw [isEnd]
        rfl
      · grind
    · exact ⟨1, endsIn_of_ended buffered retried (List.cons_ne_nil _ _) (clean 1) ended⟩

/-- While nothing is received there is nothing to search. -/
theorem cleanReads_silent {uninit : List Byte} {conn : Connection} (waiting : Waiting conn [])
    (silent : ∀ bytes, .data bytes ∉ socket) : CleanReads uninit true turns conn socket := by
  have nothing : conn.leftover = 0 := waiting.leftover
  induction turns generalizing socket with
  | zero => trivial
  | succ turns ih =>
      intro received later isNext
      cases socket with
      | nil => cases isNext
      | cons arrival socket =>
          have laterSilent : ∀ bytes, .data bytes ∉ socket :=
            fun bytes member => silent bytes (List.mem_cons_of_mem _ member)
          cases arrival with
          | data bytes => exact absurd List.mem_cons_self (silent bytes)
          | endOfStream =>
              cases isNext
              have clean : CleanAfter uninit conn (.bytes []) := by
                intro arrived same
                cases same
                exact Or.inl nothing
              simp_all [waiting.turn_closed]
          | error errno =>
              cases isNext
              have clean : CleanAfter uninit conn (.failed errno) := by
                intro arrived same
                cases same
                exact Or.inl nothing
              have retried : Arrival.Retried true (.error errno) :=
                fun gaveUp => Bool.false_ne_true gaveUp.2.symm
              simp_all [waiting.turn_interrupted, ih]

def newConnection : Connection := Connection.fresh 0 zeroPage

theorem newConnection_buffered : Buffered newConnection [] :=
  Or.inr (Or.inr ⟨rfl, 0, zeroPage, by decide, zeroPage_size, rfl⟩)

theorem cleanCall_silent (silent : ∀ bytes, .data bytes ∉ socket) :
    CleanCall [] true newConnection socket := by
  refine ⟨Or.inl rfl, ?_⟩
  intro reader entered
  rcases recvEnter_buffered newConnection_buffered (Or.inl rfl) with
    ⟨visible, _⟩ | ⟨other, otherEntered, waiting⟩
  · exact absurd rfl visible
  · rw [entered] at otherEntered
    cases otherEntered
    exact cleanReads_silent waiting silent

theorem recvmessage_ends_iff_interrupted : Ends [] true newConnection [.error .EINTR] .endOfStream := by
  apply (recvmessage_ends_iff [] true newConnection_buffered _ (Or.inl rfl) _).mpr (Or.inl rfl)
  · intro arrival member gaveUp
    exact Bool.false_ne_true gaveUp.2.symm
  · simp [cleanCall_silent]

/-- After `ECONNRESET` the call reads for ever. -/
theorem reset_never_ends :
    Arrival.Final (.error .ECONNRESET) ∧
      ¬Ends [] true newConnection [] (.error .ECONNRESET) := by
  refine ⟨Or.inr ⟨.ECONNRESET, rfl, by decide, by decide⟩, ?_⟩
  intro ends
  obtain ⟨times, endsIn⟩ := ends
  apply not_endsIn newConnection_buffered _ _ _ endsIn
  · intro arrival member gaveUp
    exact Bool.false_ne_true gaveUp.2.symm
  · simp [cleanCall_silent]
  · rw [ended_replicate_error]
    intro ended
    rcases ended with ⟨arrival, member, _⟩ | visible | overflow
    · cases member
    · exact visible rfl
    · exact Nat.not_lt_zero _ overflow

end MidWay.Srb

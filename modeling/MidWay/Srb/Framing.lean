import MidWay.Srb.ReceiveBuffer

/-!
Contract: which messages successive calls of `_mw_srb_recvmessage` return for a
stream of lines that arrives in pieces.

Between calls the pending bytes of the connection, followed by what the socket
still holds, are the part of the stream that was not returned yet; `Idle` adds
the terminator behind the pending bytes and the remembered boundary. The search
for the boundary finds the end of the first line exactly when that line is
pending as a whole, whatever is pending behind it.

Owns: the reader on a stream in which every line is accepted, and on one whose
last line is refused.
-/

namespace MidWay.Srb

open MidWay.CLib

theorem findSub_line {message : List Byte} (noBoundry : findSub srbMessageBoundry message = none)
    (rest : List Byte) :
    findSub srbMessageBoundry (message ++ srbMessageBoundry ++ rest) = some message.length := by
  induction message with
  | nil => simp [srbMessageBoundry, findSub]
  | cons head tail ih =>
      simp only [findSub] at noBoundry
      split_ifs at noBoundry with starts
      have later := ih (Option.map_eq_none_iff.mp noBoundry)
      -- A boundary at `head` would need its line feed from the tail.
      have notHere : ¬ srbMessageBoundry.isPrefixOf
          (head :: (tail ++ srbMessageBoundry ++ rest)) = true := by
        cases tail with
        | nil => simp [srbMessageBoundry, carriageReturn, lineFeed]
        | cons next tail => simpa [srbMessageBoundry] using starts
      simp_all [List.cons_append, findSub, if_neg, later]

theorem strstr_line {message : List Byte} (nulFree : 0 ∉ message)
    (noBoundry : findSub srbMessageBoundry message = none) (rest : List Byte) :
    strstr (message ++ srbMessageBoundry ++ rest) srbMessageBoundry = some message.length := by
  grind [srbMessageBoundry, carriageReturn, lineFeed, strstr, cstr_append, findSub_line]

theorem findSub_cut {message : List Byte} (noBoundry : findSub srbMessageBoundry message = none) :
    findSub srbMessageBoundry (message ++ [carriageReturn]) = none := by
  induction message with
  | nil => decide
  | cons head tail ih =>
      simp only [findSub] at noBoundry
      split_ifs at noBoundry with starts
      have later := ih (Option.map_eq_none_iff.mp noBoundry)
      have notHere : ¬ srbMessageBoundry.isPrefixOf (head :: (tail ++ [carriageReturn])) = true := by
        cases tail with
        | nil => simp [srbMessageBoundry, carriageReturn, lineFeed]
        | cons next tail => simpa [srbMessageBoundry] using starts
      simp_all [List.cons_append, findSub, if_neg, later]

theorem strstr_incomplete {message pending missing : List Byte}
    (noBoundry : findSub srbMessageBoundry message = none)
    (split : pending ++ missing = message ++ srbMessageBoundry) (incomplete : missing ≠ []) :
    strstr pending srbMessageBoundry = none := by
  have inside : pending <+: message ++ [carriageReturn] := by
    have ofLine : pending <+: (message ++ [carriageReturn]) ++ [lineFeed] :=
      ⟨missing, by rw [split]; simp [srbMessageBoundry]⟩
    rcases List.prefix_concat_iff.mp ofLine with whole | inside
    · simp_all [srbMessageBoundry]
    · exact inside
  obtain ⟨behind, shape⟩ := (cstr_begins pending).trans inside
  exact findSub_none_of_begins behind (by rw [shape, findSub_cut noBoundry])

/-- The connection between two calls: the pending bytes are terminated and the
first boundary the call saw in them is remembered. -/
structure Idle (conn : Connection) (pending : List Byte) : Prop extends Holds conn pending where
  opened : conn.fd ≠ -1
  stopped : pending ++ [0] <+: conn.memory.drop conn.som
  marker : conn.nextMessageBoundryMarker =
    (strstr pending srbMessageBoundry).map (conn.som + ·)

theorem searchBoundry_stopped {conn : Connection} {pending : List Byte}
    (stopped : pending ++ [0] <+: conn.memory.drop conn.som) :
    searchBoundry conn = (strstr pending srbMessageBoundry).map (conn.som + ·) := by
  obtain ⟨behind, shape⟩ := stopped
  rw [searchBoundry, ← shape, List.append_assoc, List.singleton_append, strstr_append_nul]

theorem lookAhead_idle {conn : Connection} {pending : List Byte} (holds : Holds conn pending)
    (opened : conn.fd ≠ -1) (stopped : pending ++ [0] <+: conn.memory.drop conn.som) :
    Idle (lookAhead conn) pending :=
  ⟨⟨holds.allocated, holds.stream, holds.start, holds.size, holds.leftover, holds.within,
    holds.held⟩, opened, stopped, searchBoundry_stopped stopped⟩

/-- The decoder on the first pending line. -/
theorem decode_line (uninit : List Byte) {conn : Connection} {message rest : List Byte}
    (holds : Holds conn (message ++ srbMessageBoundry ++ rest)) (nonempty : message ≠ []) :
    let decoded := mwSrbdecodemessage uninit conn.memory conn.som message.length
    decoded.srbmsg = (decodeAlone uninit message).srbmsg ∧
      decoded.errno = (decodeAlone uninit message).errno := by
  obtain ⟨before, behind, shape, place⟩ := drop_eq_append holds.held holds.som_le
  have memory : conn.memory =
      before ++ message ++ carriageReturn :: lineFeed :: (rest ++ behind) := by
    simp [shape, srbMessageBoundry]
  have margin : 2 ≤ before.length := by
    rw [place]
    exact holds.start
  grind [decode_in_buffer]

section

variable (uninit : List Byte) {conn : Connection} {message rest : List Byte}
  (holds : Holds conn (message ++ srbMessageBoundry ++ rest)) (opened : conn.fd ≠ -1)
  (stopped : message ++ srbMessageBoundry ++ rest ++ [0] <+: conn.memory.drop conn.som)
  (boundry : conn.nextMessageBoundryMarker.or (searchBoundry conn) =
    some (conn.som + message.length))
include holds opened stopped boundry

/-- Taking a line the decoder has no complaint about. -/
theorem read_taken
    (clean : (mwSrbdecodemessage uninit conn.memory conn.som message.length).errno = none) :
    ∃ taken, readMessageFromConnbuffer uninit conn =
        .ok ((mwSrbdecodemessage uninit conn.memory conn.som message.length).srbmsg, taken) ∧
      Idle (lookAhead taken) rest := by
  refine ⟨conn.taken uninit message rest, ?_, ?_⟩
  · rw [read_line uninit holds rfl boundry, if_pos clean]
  · obtain ⟨behind, shape, kept⟩ := drop_taken uninit holds rfl
    apply lookAhead_idle (holds_taken uninit holds rfl) opened
    simp_all [kept, shape, List.append_assoc, List.append_cancel_left_eq]

theorem read_accepted (nonempty : message ≠ [])
    (accepted : (decodeAlone uninit message).errno = none) :
    ∃ taken, readMessageFromConnbuffer uninit conn =
        .ok ((decodeAlone uninit message).srbmsg, taken) ∧ Idle (lookAhead taken) rest := by
  obtain ⟨sameMessage, sameErrno⟩ := decode_line uninit holds nonempty
  grind [read_taken]

end

/-- The decoder refuses this line wherever it stands in front of a part of
`remaining`. -/
def Refused (uninit message remaining : List Byte) : Prop :=
  ∀ (conn : Connection) (rest : List Byte),
    Holds conn (message ++ srbMessageBoundry ++ rest) →
    message ++ srbMessageBoundry ++ rest ++ [0] <+: conn.memory.drop conn.som →
    rest <+: remaining →
    (mwSrbdecodemessage uninit conn.memory conn.som message.length).errno ≠ none

theorem refused_of_decodeAlone {uninit message : List Byte} (nonempty : message ≠ [])
    (refused : (decodeAlone uninit message).errno ≠ none) (remaining : List Byte) :
    Refused uninit message remaining := by
  intro conn rest holds _ _
  rw [(decode_line uninit holds nonempty).2]
  exact refused

theorem refused_empty (uninit : List Byte) : Refused uninit [] [] := by
  intro conn rest holds stopped inside
  obtain rfl : rest = [] := List.prefix_nil.mp inside
  obtain ⟨before, behind, shape, place⟩ := drop_eq_append stopped holds.som_le
  have memory : conn.memory = before ++ [] ++ carriageReturn :: lineFeed :: 0 :: behind := by
    simp [shape, srbMessageBoundry]
  have margin : 2 ≤ before.length := by
    rw [place]
    exact holds.start
  grind [List.length_nil, decode_empty_in_buffer]

section

variable (uninit : List Byte) {conn : Connection} {pending : List Byte}

theorem enter_fresh {fd : Int} {memory : List Byte} (opened : fd ≠ -1)
    (size : bufferStart + bufferSize ≤ memory.length) :
    ∃ reader, recvEnter uninit (Connection.fresh fd memory) = .ok (.reading reader) ∧
      Reading reader [] ∧ reader.fd ≠ -1 := by
  refine ⟨{ Connection.fresh fd memory with allocated := true, som := bufferStart }, ?_,
    ⟨⟨rfl, rfl, Nat.le_refl _, size, rfl, by simp, List.nil_prefix⟩, rfl, rfl⟩,
    opened⟩
  simp [recvEnter, readMessageFromConnbuffer, Connection.fresh, opened]

/-- Without a boundary in the pending bytes the call goes to the socket. -/
theorem enter_incomplete (idle : Idle conn pending)
    (noBoundry : strstr pending srbMessageBoundry = none) :
    ∃ reader, recvEnter uninit conn = .ok (.reading reader) ∧ Reading reader pending ∧
      reader.fd ≠ -1 := by
  have noMarker : conn.nextMessageBoundryMarker = none := by rw [idle.marker, noBoundry]; rfl
  by_cases empty : pending = []
  · obtain ⟨result, holds⟩ := read_nothing uninit idle.toHolds empty
    refine ⟨{ conn with som := bufferStart }, ?_, ?_, idle.opened⟩
    · simp [recvEnter, result, idle.opened]
    · rw [empty]
      exact ⟨holds, rfl, noMarker⟩
  · have notFound : searchBoundry conn = none := by
      rw [searchBoundry_stopped idle.stopped, noBoundry]
      rfl
    obtain ⟨memory, result, reading⟩ :=
      read_no_boundry uninit idle.toHolds empty noMarker notFound
    simp_all [recvEnter, result, idle.opened]

variable {message rest : List Byte}

theorem Idle.boundry (idle : Idle conn (message ++ srbMessageBoundry ++ rest))
    (nulFree : 0 ∉ message) (noBoundry : findSub srbMessageBoundry message = none) :
    conn.nextMessageBoundryMarker.or (searchBoundry conn) = some (conn.som + message.length) := by
  rw [idle.marker, strstr_line nulFree noBoundry]
  rfl

theorem enter_accepted (idle : Idle conn (message ++ srbMessageBoundry ++ rest))
    (nulFree : 0 ∉ message) (noBoundry : findSub srbMessageBoundry message = none)
    (nonempty : message ≠ []) {srbmsg : SRBmessage}
    (accepted : (decodeAlone uninit message).srbmsg = some srbmsg)
    (clean : (decodeAlone uninit message).errno = none) :
    ∃ next, recvEnter uninit conn = .ok (.returned (some srbmsg) none next) ∧ Idle next rest := by
  obtain ⟨taken, result, after⟩ := read_accepted uninit idle.toHolds idle.opened idle.stopped
    (idle.boundry nulFree noBoundry) nonempty clean
  simp_all [recvEnter, result, accepted]

theorem enter_refused (idle : Idle conn (message ++ srbMessageBoundry ++ rest))
    (nulFree : 0 ∉ message) (noBoundry : findSub srbMessageBoundry message = none)
    {remaining : List Byte} (refused : Refused uninit message remaining)
    (inside : rest <+: remaining) :
    recvEnter uninit conn = .ok (.reading (conn.refused uninit message)) := by
  have result := read_line uninit idle.toHolds rfl (idle.boundry nulFree noBoundry)
  rw [if_neg (refused conn rest idle.toHolds idle.stopped inside)] at result
  have opened : (conn.refused uninit message).fd ≠ -1 := idle.opened
  simp [recvEnter, result, opened]

end

def pieces (chunks : List (List Byte)) : List Arrival := chunks.map Arrival.data

/-- A connection into which bytes were just received. -/
structure Arrived (conn : Connection) (pending : List Byte) : Prop
    extends Reading conn pending where
  opened : conn.fd ≠ -1
  stopped : pending ++ [0] <+: conn.memory.drop conn.som

/-- One `recvfrom` takes a piece, or as much of it as there is space for. -/
theorem recvfrom_pieces (blocking : Bool) {space : Nat} (room : 0 < space) {chunk : List Byte}
    {chunks : List (List Byte)} (nonempty : ∀ piece ∈ chunk :: chunks, piece ≠ []) {bound : Nat}
    (bounded : ∀ piece ∈ chunk :: chunks, piece.length ≤ bound) :
    ∃ delivered later,
      recvfrom blocking false space (pieces (chunk :: chunks)) =
        some (.bytes delivered, pieces later) ∧
      delivered ≠ [] ∧ delivered.length ≤ space ∧ delivered.length ≤ bound ∧
      delivered ++ later.flatten = (chunk :: chunks).flatten ∧
      (∀ piece ∈ later, piece ≠ []) ∧ (∀ piece ∈ later, piece.length ≤ bound) ∧
      socketSize (pieces later) < socketSize (pieces (chunk :: chunks)) := by
  have chunkNonempty := nonempty chunk (by simp)
  have chunkBounded := bounded chunk (by simp)
  have positive := List.length_pos_iff.mpr chunkNonempty
  by_cases fits : chunk.length ≤ space
  · refine ⟨chunk, chunks, ?_, chunkNonempty, fits, chunkBounded, by simp,
      fun piece member => nonempty piece (by simp [member]),
      fun piece member => bounded piece (by simp [member]), ?_⟩
    · simp only [pieces, List.map_cons, recvfrom, if_pos fits]
    · simp [pieces, List.map_cons, socketSize]
  · refine ⟨chunk.take space, chunk.drop space :: chunks, ?_, ?_, List.length_take_le _ _, ?_,
      by rw [List.flatten_cons, ← List.append_assoc, List.take_append_drop, List.flatten_cons],
      ?_, ?_, ?_⟩
    · simp [pieces, recvfrom, fits]
    · grind
    · grind
    · simp_all [List.length_pos_iff]
    · grind
    · grind [pieces, socketSize, List.length_drop]

theorem recvTurn_bytes (uninit : List Byte) (blocking : Bool) {conn : Connection}
    {pending bytes : List Byte} (reading : Reading conn pending) (opened : conn.fd ≠ -1)
    (nonempty : bytes ≠ []) (fits : bytes.length ≤ maxrecvlen conn) :
    ∃ arrived, recvTurn uninit blocking conn (.bytes bytes) = recvSearch uninit false arrived ∧
      Arrived arrived (pending ++ bytes) := by
  obtain ⟨memory, result, holds, stopped⟩ :=
    storeReceived_holds reading.toHolds nonempty fits
  refine ⟨_, ?_, ⟨holds, reading.som, reading.marker⟩, opened, stopped⟩
  simp [recvTurn, mwConnRead, result, nonempty]

theorem search_incomplete (uninit : List Byte) {conn : Connection} {pending : List Byte}
    (arrived : Arrived conn pending) (nonempty : pending ≠ [])
    (noBoundry : strstr pending srbMessageBoundry = none) :
    ∃ reader, recvSearch uninit false conn = .ok (.reading reader) ∧ Reading reader pending ∧
      reader.fd ≠ -1 := by
  have notFound : searchBoundry conn = none := by
    rw [searchBoundry_stopped arrived.stopped, noBoundry]
    rfl
  obtain ⟨memory, result, reading⟩ :=
    read_no_boundry uninit arrived.toHolds nonempty arrived.marker notFound
  refine ⟨_, ?_, reading, arrived.opened⟩
  simp [recvSearch, result]

/-- The loop reads on until the first line is complete. `bound` limits the length
of the pieces, and so what can arrive together with the end of the line. -/
theorem recvLoop_line (uninit : List Byte) (blocking : Bool) {message remaining : List Byte}
    (noBoundry : findSub srbMessageBoundry message = none)
    (short : message.length + 2 ≤ srbMessageMaxLen) {turns : Nat} {conn : Connection}
    {pending : List Byte} {chunks : List (List Byte)} {bound : Nat}
    (reading : Reading conn pending) (opened : conn.fd ≠ -1)
    (nonempty : ∀ piece ∈ chunks, piece ≠ [])
    (bounded : ∀ piece ∈ chunks, piece.length ≤ bound)
    (stream : pending ++ chunks.flatten = message ++ srbMessageBoundry ++ remaining)
    (incomplete : pending.length < message.length + 2)
    (enough : socketSize (pieces chunks) < turns) :
    ∃ fewer arrived rest later,
      recvLoop uninit blocking turns conn (pieces chunks) =
        afterTurn (fun reader => recvLoop uninit blocking fewer reader (pieces later))
          (pieces later) (recvSearch uninit false arrived) ∧
      Arrived arrived (message ++ srbMessageBoundry ++ rest) ∧
      rest ++ later.flatten = remaining ∧ rest.length < bound ∧
      (∀ piece ∈ later, piece ≠ []) ∧ (∀ piece ∈ later, piece.length ≤ bound) ∧
      socketSize (pieces later) < fewer := by
  have lineLength : (message ++ srbMessageBoundry).length = message.length + 2 := by
    simp [srbMessageBoundry]
  induction turns generalizing conn pending chunks with
  | zero => omega
  | succ turns ih =>
      cases chunks with
      | nil =>
          grind
      | cons chunk chunks =>
          have space : maxrecvlen conn = srbMessageMaxLen - pending.length := by
            rw [reading.maxrecvlen_eq, reading.som]
            omega
          have room : 0 < maxrecvlen conn := by omega
          obtain ⟨delivered, later, result, deliveredNonempty, fits, small, split, laterNonempty,
            laterBounded, smaller⟩ := recvfrom_pieces blocking room nonempty bounded
          obtain ⟨arrived, turn, arrivedHolds⟩ :=
            recvTurn_bytes uninit blocking reading opened deliveredNonempty fits
          have step : recvLoop uninit blocking (turns + 1) conn (pieces (chunk :: chunks)) =
              afterTurn (fun reader => recvLoop uninit blocking turns reader (pieces later))
                (pieces later) (recvSearch uninit false arrived) := by
            rw [recvLoop, if_neg (by simp [reading.stream]), reading.stream, result]
            simp only [turn]
          have streamNow : (pending ++ delivered) ++ later.flatten =
              message ++ srbMessageBoundry ++ remaining := by
            rw [List.append_assoc, split, stream]
          by_cases complete : (pending ++ delivered).length < message.length + 2
          · -- The line feed is still missing: the pending bytes show no boundary.
            obtain ⟨missing, missingSplit⟩ : pending ++ delivered <+: message ++ srbMessageBoundry :=
              List.prefix_of_prefix_length_le ⟨later.flatten, streamNow⟩ ⟨remaining, rfl⟩
                (by omega)
            have missingNonempty : missing ≠ [] := by
              grind
            obtain ⟨reader, searched, nextReading, nextOpened⟩ := search_incomplete uninit arrivedHolds
              (by simp [deliveredNonempty]) (strstr_incomplete noBoundry missingSplit missingNonempty)
            have read := ih nextReading nextOpened laterNonempty laterBounded
              streamNow complete (by omega)
            rw [step, searched]
            exact read
          · obtain ⟨rest, lineSplit⟩ : message ++ srbMessageBoundry <+: pending ++ delivered :=
              List.prefix_of_prefix_length_le ⟨remaining, rfl⟩ ⟨later.flatten, streamNow⟩
                (by omega)
            rw [← lineSplit] at arrivedHolds streamNow
            refine ⟨turns, arrived, rest, later, step, arrivedHolds, ?_, ?_, laterNonempty,
              laterBounded, by omega⟩
            · grind [List.append_assoc, List.append_cancel_left]
            · grind

/-- What the reader still has to return: the pending bytes, the pieces in the
socket, and how long these are at most. -/
structure Unread (conn : Connection) (pending : List Byte) (chunks : List (List Byte))
    (bound : Nat) (stream : List Byte) : Prop where
  state : Idle conn pending ∨ pending = [] ∧ ∃ fd memory, fd ≠ -1 ∧
    bufferStart + bufferSize ≤ memory.length ∧ conn = Connection.fresh fd memory
  nonempty : ∀ piece ∈ chunks, piece ≠ []
  bounded : ∀ piece ∈ chunks, piece.length ≤ bound
  pendingBounded : pending.length < bound
  stream : pending ++ chunks.flatten = stream

section

variable (uninit : List Byte) (blocking : Bool) {conn : Connection} {pending : List Byte}
  {chunks : List (List Byte)} {bound : Nat}

theorem Unread.enter_reading {stream : List Byte} (unread : Unread conn pending chunks bound stream)
    (noBoundry : strstr pending srbMessageBoundry = none) :
    ∃ reader, recvEnter uninit conn = .ok (.reading reader) ∧ Reading reader pending ∧
      reader.fd ≠ -1 := by
  rcases unread.state with idle | ⟨empty, fd, memory, opened, size, rfl⟩
  · exact enter_incomplete uninit idle noBoundry
  · simp_all [enter_fresh]

variable {message remaining : List Byte}
  (unread : Unread conn pending chunks bound (message ++ srbMessageBoundry ++ remaining))
  (noBoundry : findSub srbMessageBoundry message = none)
  (short : message.length + 2 ≤ srbMessageMaxLen)
include unread noBoundry short

/-- A call finds the first line among the pending bytes, or reads until it is
there. -/
theorem Unread.line :
    (∃ rest, Idle conn (message ++ srbMessageBoundry ++ rest) ∧
        rest ++ chunks.flatten = remaining ∧ rest.length < bound) ∨
      ∃ fewer arrived rest later,
        mwSrbRecvmessage uninit blocking conn (pieces chunks) =
          afterTurn (fun reader => recvLoop uninit blocking fewer reader (pieces later))
            (pieces later) (recvSearch uninit false arrived) ∧
        Arrived arrived (message ++ srbMessageBoundry ++ rest) ∧
        rest ++ later.flatten = remaining ∧ rest.length < bound ∧
        (∀ piece ∈ later, piece ≠ []) ∧ (∀ piece ∈ later, piece.length ≤ bound) ∧
        socketSize (pieces later) < fewer := by
  have lineLength : (message ++ srbMessageBoundry).length = message.length + 2 := by
    simp [srbMessageBoundry]
  by_cases incomplete : pending.length < message.length + 2
  · right
    obtain ⟨missing, missingSplit⟩ : pending <+: message ++ srbMessageBoundry :=
      List.prefix_of_prefix_length_le ⟨chunks.flatten, unread.stream⟩ ⟨remaining, rfl⟩ (by omega)
    have missingNonempty : missing ≠ [] := by
      grind
    obtain ⟨reader, entered, reading, opened⟩ :=
      unread.enter_reading uninit (strstr_incomplete noBoundry missingSplit missingNonempty)
    rw [mwSrbRecvmessage, entered]
    exact recvLoop_line uninit blocking noBoundry short reading opened unread.nonempty
      unread.bounded unread.stream incomplete (Nat.lt_succ_self _)
  · left
    obtain ⟨rest, lineSplit⟩ : message ++ srbMessageBoundry <+: pending :=
      List.prefix_of_prefix_length_le ⟨remaining, rfl⟩ ⟨chunks.flatten, unread.stream⟩ (by omega)
    subst lineSplit
    have pendingBounded := unread.pendingBounded
    have stream := unread.stream
    rw [List.length_append] at pendingBounded
    rw [List.append_assoc _ rest] at stream
    refine ⟨rest, ?_, List.append_cancel_left stream, by omega⟩
    rcases unread.state with idle | ⟨empty, -⟩
    · exact idle
    · simp [srbMessageBoundry] at empty

variable (nulFree : 0 ∉ message)
include nulFree

/-- An accepted line is returned, and nothing else is taken from the stream. -/
theorem recvmessage_accepted (nonempty : message ≠ []) {srbmsg : SRBmessage}
    (accepted : (decodeAlone uninit message).srbmsg = some srbmsg)
    (clean : (decodeAlone uninit message).errno = none) :
    ∃ errno next rest later,
      mwSrbRecvmessage uninit blocking conn (pieces chunks) =
        .returned (some srbmsg) errno next (pieces later) ∧
      Unread next rest later bound remaining := by
  rcases unread.line uninit blocking noBoundry short with
    ⟨rest, idle, stream, restBounded⟩ |
    ⟨fewer, arrived, rest, later, call, arrivedHolds, stream, restBounded, laterNonempty,
      laterBounded, -⟩
  · obtain ⟨next, entered, after⟩ :=
      enter_accepted uninit idle nulFree noBoundry nonempty accepted clean
    refine ⟨none, next, rest, chunks, ?_, Or.inl after, unread.nonempty, unread.bounded,
      restBounded, stream⟩
    rw [mwSrbRecvmessage, entered]
    rfl
  · have boundry : arrived.nextMessageBoundryMarker.or (searchBoundry arrived) =
        some (arrived.som + message.length) := by
      rw [arrivedHolds.marker, searchBoundry_stopped arrivedHolds.stopped,
        strstr_line nulFree noBoundry]
      rfl
    obtain ⟨taken, result, after⟩ := read_accepted uninit arrivedHolds.toHolds
      arrivedHolds.opened arrivedHolds.stopped boundry nonempty clean
    refine ⟨some .EAGAIN, lookAhead taken, rest, later, ?_, Or.inl after, laterNonempty,
      laterBounded, restBounded, stream⟩
    rw [call, recvSearch, result, accepted]
    rfl

/-- A refused line is dropped with everything that is pending behind it, and the
call reads on with its boundary remembered. -/
theorem recvmessage_refused (refused : Refused uninit message remaining) :
    ∃ fewer reader rest later marker,
      mwSrbRecvmessage uninit blocking conn (pieces chunks) =
        recvLoop uninit blocking fewer reader (pieces later) ∧
      Holds reader [] ∧ reader.fd ≠ -1 ∧ reader.som = bufferStart ∧
      reader.nextMessageBoundryMarker = some marker ∧ bufferStart + message.length ≤ marker ∧
      rest ++ later.flatten = remaining ∧ rest.length < bound ∧
      (∀ piece ∈ later, piece ≠ []) ∧ (∀ piece ∈ later, piece.length ≤ bound) ∧
      socketSize (pieces later) < fewer := by
  rcases unread.line uninit blocking noBoundry short with
    ⟨rest, idle, stream, restBounded⟩ |
    ⟨fewer, arrived, rest, later, call, arrivedHolds, stream, restBounded, laterNonempty,
      laterBounded, enough⟩
  · have entered := enter_refused uninit idle nulFree noBoundry refused ⟨chunks.flatten, stream⟩
    have start := idle.start
    refine ⟨socketSize (pieces chunks) + 1, conn.refused uninit message, rest, chunks,
      conn.som + message.length, ?_, holds_refused uninit idle.toHolds, idle.opened, rfl, rfl,
      by omega, stream, restBounded, unread.nonempty, unread.bounded, Nat.lt_succ_self _⟩
    rw [mwSrbRecvmessage, entered]
    rfl
  · have boundry : arrived.nextMessageBoundryMarker.or (searchBoundry arrived) =
        some (arrived.som + message.length) := by
      rw [arrivedHolds.marker, searchBoundry_stopped arrivedHolds.stopped,
        strstr_line nulFree noBoundry]
      rfl
    have result := read_line uninit arrivedHolds.toHolds rfl boundry
    rw [if_neg (refused arrived rest arrivedHolds.toHolds arrivedHolds.stopped
      ⟨later.flatten, stream⟩)] at result
    have start := arrivedHolds.start
    refine ⟨fewer, arrived.refused uninit message, rest, later, arrived.som + message.length, ?_,
      holds_refused uninit arrivedHolds.toHolds, arrivedHolds.opened, rfl, rfl, by omega, stream,
      restBounded, laterNonempty, laterBounded, enough⟩
    rw [call, recvSearch, result]
    rfl

end

end MidWay.Srb

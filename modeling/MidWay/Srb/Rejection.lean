import MidWay.Srb.Stream

/-!
Contract: a malformed line at the end of a stream disturbs nothing in front of
it.

The reader gets past a malformed line in no other place: refusing it drops what
is pending behind it and leaves its boundary remembered, and a NUL in it hides
its boundary for good. When it is the last line there is nothing to lose.

Owns: `recvMessages_malformed_last`, over all cuts of the stream and all
sequences of calls, blocking or not.
-/

namespace MidWay.Srb

open MidWay.CLib

structure Drained (conn : Connection) : Prop where
  opened : conn.fd ≠ -1
  stream : conn.mcast = false
  leftover : conn.leftover = 0

structure Stuck (conn : Connection) (pending : List Byte) : Prop extends Holds conn pending where
  opened : conn.fd ≠ -1
  marker : conn.nextMessageBoundryMarker = none
  hasNul : 0 ∈ pending
  hidden : strstr pending srbMessageBoundry = none

def Exhausted (conn : Connection) : Prop := Drained conn ∨ ∃ pending, Stuck conn pending

theorem Exhausted.stream {conn : Connection} (exhausted : Exhausted conn) :
    conn.mcast = false := by
  rcases exhausted with drained | ⟨pending, stuck⟩
  · exact drained.stream
  · exact stuck.stream

theorem enter_exhausted (uninit : List Byte) {conn : Connection} (exhausted : Exhausted conn) :
    ∃ reader, recvEnter uninit conn = .ok (.reading reader) ∧ Exhausted reader := by
  rcases exhausted with drained | ⟨pending, stuck⟩
  · by_cases allocated : conn.allocated = false
    · refine ⟨{ conn with allocated := true, leftover := 0, som := bufferStart }, ?_,
        Or.inl ⟨drained.opened, drained.stream, rfl⟩⟩
      simp [recvEnter, readMessageFromConnbuffer, allocated, drained.opened]
    · refine ⟨{ conn with som := bufferStart }, ?_,
        Or.inl ⟨drained.opened, drained.stream, drained.leftover⟩⟩
      simp [recvEnter, readMessageFromConnbuffer, allocated, drained.leftover, drained.opened]
  · obtain ⟨behind, shape⟩ := stuck.held
    have notFound : searchBoundry conn = none := by
      rw [searchBoundry, ← shape, strstr, cstr_append_of_mem stuck.hasNul, ← strstr, stuck.hidden]
      rfl
    obtain ⟨memory, result, reading⟩ := read_no_boundry uninit stuck.toHolds
      (List.ne_nil_of_mem stuck.hasNul) stuck.marker notFound
    refine ⟨_, ?_, Or.inr ⟨pending, reading.toHolds, stuck.opened, rfl, stuck.hasNul,
      stuck.hidden⟩⟩
    simp [recvEnter, result, stuck.opened]

theorem recvLoop_empty (uninit : List Byte) (blocking : Bool) {turns : Nat} (enough : 0 < turns)
    {conn : Connection} (stream : conn.mcast = false) :
    recvLoop uninit blocking turns conn [] = .waiting conn ∨
      recvLoop uninit blocking turns conn [] = .returned none (some .EAGAIN) conn [] := by
  obtain ⟨turns, rfl⟩ : ∃ fewer, turns = fewer + 1 := ⟨turns - 1, by omega⟩
  grind [recvLoop, recvfrom, recvTurn, afterTurn]

theorem recvMessages_loop (uninit : List Byte) {blocking : Bool} {turns : Nat}
    (enough : 0 < turns) {conn reader : Connection} {socket : List Arrival}
    (call : mwSrbRecvmessage uninit blocking conn socket =
      recvLoop uninit blocking turns reader [])
    (stream : reader.mcast = false) {calls : List Bool}
    (rest : recvMessages uninit calls reader [] = []) :
    recvMessages uninit (blocking :: calls) conn socket = [] := by
  grind [recvMessages, recvCalls, recvLoop_empty]

theorem recvMessages_exhausted (uninit : List Byte) (calls : List Bool) {conn : Connection}
    (exhausted : Exhausted conn) : recvMessages uninit calls conn [] = [] := by
  induction calls generalizing conn with
  | nil => rfl
  | cons blocking calls ih =>
      obtain ⟨reader, entered, after⟩ := enter_exhausted uninit exhausted
      have call : mwSrbRecvmessage uninit blocking conn [] =
          recvLoop uninit blocking 1 reader [] := by
        rw [mwSrbRecvmessage, entered]
        rfl
      exact recvMessages_loop uninit Nat.one_pos call after.stream (ih after)

theorem eq_nil_of_flatten {chunks : List (List Byte)} (nonempty : ∀ piece ∈ chunks, piece ≠ [])
    (empty : chunks.flatten = []) : chunks = [] := by
  cases chunks with
  | nil => rfl
  | cons chunk chunks =>
      simp_all [List.flatten_cons, List.append_eq_nil_iff]

theorem recvMessages_end (uninit : List Byte) (calls : List Bool) {conn : Connection}
    {pending : List Byte} {chunks : List (List Byte)} {bound : Nat}
    (unread : Unread conn pending chunks bound []) :
    recvMessages uninit calls conn (pieces chunks) = [] := by
  obtain ⟨noPending, noChunks⟩ := List.append_eq_nil_iff.mp unread.stream
  rw [eq_nil_of_flatten unread.nonempty noChunks]
  apply recvMessages_exhausted
  left
  rcases unread.state with idle | ⟨-, fd, memory, opened, -, rfl⟩
  · exact ⟨idle.opened, idle.stream, by rw [idle.leftover, noPending]; rfl⟩
  · exact ⟨opened, rfl, rfl⟩

section

variable (uninit : List Byte) {message : List Byte} (framed : Framed message)
  {conn : Connection} {pending : List Byte} {chunks : List (List Byte)} {bound : Nat}
  (unread : Unread conn pending chunks bound (message ++ srbMessageBoundry ++ []))
include framed unread

theorem recvMessages_refused (nulFree : 0 ∉ message) (refused : Refused uninit message [])
    (calls : List Bool) : recvMessages uninit calls conn (pieces chunks) = [] := by
  cases calls with
  | nil => rfl
  | cons blocking calls =>
      obtain ⟨fewer, reader, rest, later, marker, call, holds, opened, -, -, -, stream, -,
        laterNonempty, -, enough⟩ :=
          recvmessage_refused uninit blocking unread framed.1 framed.2 nulFree refused
      obtain rfl := eq_nil_of_flatten laterNonempty (List.append_eq_nil_iff.mp stream).2
      exact recvMessages_loop uninit (by omega) call holds.stream
        (recvMessages_exhausted uninit calls (Or.inl ⟨opened, holds.stream, holds.leftover⟩))

omit unread in
theorem strstr_hidden (hasNul : 0 ∈ message) :
    strstr (message ++ srbMessageBoundry ++ []) srbMessageBoundry = none := by
  rw [List.append_nil, strstr, cstr_append_of_mem hasNul]
  obtain ⟨behind, shape⟩ := cstr_begins message
  exact findSub_none_of_begins behind (by rw [shape, framed.1])

/-- A last line with a NUL stays pending for ever. -/
theorem recvMessages_hidden (hasNul : 0 ∈ message) (calls : List Bool) :
    recvMessages uninit calls conn (pieces chunks) = [] := by
  have inLine : 0 ∈ message ++ srbMessageBoundry ++ [] := by simp [hasNul]
  have hidden := strstr_hidden framed hasNul
  cases calls with
  | nil => rfl
  | cons blocking calls =>
      rcases unread.line uninit blocking framed.1 framed.2 with
        ⟨rest, idle, stream, -⟩ |
        ⟨fewer, arrived, rest, later, call, arrivedHolds, stream, -, laterNonempty, -, enough⟩
      · obtain ⟨rfl, noChunks⟩ := List.append_eq_nil_iff.mp stream
        rw [eq_nil_of_flatten unread.nonempty noChunks]
        refine recvMessages_exhausted uninit _ (Or.inr ⟨_, idle.toHolds, idle.opened, ?_, inLine,
          hidden⟩)
        rw [idle.marker, hidden]
        rfl
      · obtain ⟨rfl, noChunks⟩ := List.append_eq_nil_iff.mp stream
        obtain rfl := eq_nil_of_flatten laterNonempty noChunks
        obtain ⟨reader, searched, reading, opened⟩ := search_incomplete uninit arrivedHolds
          (List.ne_nil_of_mem inLine) hidden
        rw [searched] at call
        exact recvMessages_loop uninit (by omega) call reading.stream
          (recvMessages_exhausted uninit calls
            (Or.inr ⟨_, reading.toHolds, opened, reading.marker, inLine, hidden⟩))

theorem recvMessages_malformed (malformed : ¬ WellFormed uninit message) (calls : List Bool) :
    recvMessages uninit calls conn (pieces chunks) = [] := by
  by_cases hasNul : 0 ∈ message
  · exact recvMessages_hidden uninit framed unread hasNul calls
  · by_cases empty : message = []
    · grind [recvMessages_refused, refused_empty]
    · have refused : (decodeAlone uninit message).errno ≠ none := fun clean =>
        malformed ⟨hasNul, clean⟩
      grind [recvMessages_refused, refused_of_decodeAlone]

end

theorem filterMap_take {α β : Type} {f : α → Option β} {list : List α}
    (total : ∀ item ∈ list, f item ≠ none) (count : Nat) :
    (list.take count).filterMap f = (list.filterMap f).take count := by
  induction list generalizing count with
  | nil => simp
  | cons head tail ih =>
      cases count with
      | zero => simp
      | succ count =>
          grind

/-- Accepted lines in front of a rest that gives no message: each call returns
one of them while they last. -/
theorem recvMessages_take (uninit : List Byte) {messages : List (List Byte)}
    (framed : ∀ message ∈ messages, Framed message)
    (wellFormed : ∀ message ∈ messages, WellFormed uninit message) {remaining : List Byte}
    {bound : Nat}
    (silent : ∀ (calls : List Bool) (conn : Connection) (pending : List Byte)
      (chunks : List (List Byte)), Unread conn pending chunks bound remaining →
        recvMessages uninit calls conn (pieces chunks) = [])
    {conn : Connection} {pending : List Byte} {chunks : List (List Byte)}
    (unread : Unread conn pending chunks bound (streamOf messages ++ remaining))
    (calls : List Bool) :
    recvMessages uninit calls conn (pieces chunks) =
      (messages.filterMap fun message => (decodeAlone uninit message).srbmsg).take
        calls.length := by
  have total : ∀ message ∈ messages, (decodeAlone uninit message).srbmsg ≠ none :=
    fun message member => by
      obtain ⟨-, srbmsg, accepted⟩ := decodeAlone_accepted (wellFormed message member).2
      simp [accepted]
  by_cases few : calls.length ≤ messages.length
  · have split : streamOf messages ++ remaining = streamOf (messages.take calls.length) ++
        (streamOf (messages.drop calls.length) ++ remaining) := by
      rw [← List.append_assoc, streamOf, streamOf, streamOf, ← List.flatMap_append,
        List.take_append_drop]
    rw [split] at unread
    have count : calls.length = (messages.take calls.length).length := by simp [few]
    obtain ⟨next, rest, later, result, -⟩ := recvCalls_wellFormed uninit
      (fun message member => framed message (List.mem_of_mem_take member))
      (fun message member => wellFormed message (List.mem_of_mem_take member)) unread count []
    rw [List.append_nil] at result
    rw [recvMessages, result, recvCalls, List.append_nil, List.filterMap_map,
      ← filterMap_take total]
    rfl
  · have count : (calls.take messages.length).length = messages.length := by
      rw [List.length_take]
      omega
    obtain ⟨next, rest, later, result, nextUnread⟩ := recvCalls_wellFormed uninit framed wellFormed
      unread count (calls.drop messages.length)
    have rest := silent (calls.drop messages.length) next rest later nextUnread
    rw [List.take_append_drop] at result
    rw [recvMessages] at rest
    have short : (messages.filterMap fun message => (decodeAlone uninit message).srbmsg).length ≤
        calls.length := Nat.le_trans (List.length_filterMap_le _ _) (by omega)
    rw [recvMessages, result, List.filterMap_append, rest, List.append_nil, List.filterMap_map,
      List.take_of_length_le short]
    rfl

/-- When only the last line of a stream may be malformed, the messages returned
are those of the well-formed lines, for every cut and all calls. -/
theorem recvMessages_malformed_last (uninit : List Byte) (fd : Int) (memory : List Byte)
    (messages chunks : List (List Byte)) (calls : List Bool) (opened : fd ≠ -1)
    (size : bufferStart + bufferSize ≤ memory.length)
    (framed : ∀ message ∈ messages, Framed message)
    (wellFormedBefore : ∀ message ∈ messages.dropLast, WellFormed uninit message)
    (nonempty : ∀ piece ∈ chunks, piece ≠ []) (cut : chunks.flatten = streamOf messages) :
    recvMessages uninit calls (Connection.fresh fd memory) (pieces chunks) =
      ((messages.filter fun message => decide (WellFormed uninit message)).filterMap
        fun message => (decodeAlone uninit message).srbmsg).take calls.length := by
  have unread := unread_fresh opened size nonempty (Nat.succ_pos chunks.flatten.length)
    (fun piece member => Nat.le_succ_of_le (length_le_flatten member))
  rw [cut] at unread
  by_cases allWellFormed : ∀ message ∈ messages, WellFormed uninit message
  · rw [List.filter_eq_self.mpr (by simpa using allWellFormed)]
    rw [← List.append_nil (streamOf messages)] at unread
    exact recvMessages_take uninit framed allWellFormed
      (fun calls conn pending chunks => recvMessages_end uninit calls) unread calls
  · have someLine : messages ≠ [] := by
      rintro rfl
      simp at allWellFormed
    obtain ⟨before, last, rfl⟩ := (List.eq_nil_or_concat messages).resolve_left someLine
    rw [List.concat_eq_append, List.dropLast_concat] at wellFormedBefore
    rw [List.concat_eq_append] at *
    have malformed : ¬ WellFormed uninit last := fun wellFormed => allWellFormed
      (by simpa [or_imp, forall_and] using ⟨wellFormedBefore, wellFormed⟩)
    have kept : (before ++ [last]).filter (fun message => decide (WellFormed uninit message)) =
        before := by
      rw [List.filter_append, List.filter_eq_self.mpr (by simpa using wellFormedBefore)]
      simp [malformed]
    have split : streamOf (before ++ [last]) =
        streamOf before ++ (last ++ srbMessageBoundry ++ []) := by
      simp [streamOf]
    rw [split] at unread
    rw [kept]
    exact recvMessages_take uninit (fun message member => framed message (by simp [member]))
      wellFormedBefore (fun calls conn pending chunks lastUnread =>
        recvMessages_malformed uninit (framed last (by simp)) lastUnread malformed calls)
      unread calls

/-- The lines `x` and `A?b=c` in one piece: the second is lost with the first. -/
theorem recvMessages_malformed_first :
    Framed [120] ∧ ¬ WellFormed [] [120] ∧
      Framed [65, 63, 98, 61, 99] ∧ WellFormed [] [65, 63, 98, 61, 99] ∧
      (decodeAlone [] [65, 63, 98, 61, 99]).srbmsg = some ⟨[65], 63, [⟨[98], some [99]⟩]⟩ ∧
      recvMessages [] [true, true, true] (Connection.fresh 0 zeroPage)
        (pieces [[120, 13, 10, 65, 63, 98, 61, 99, 13, 10]]) = [] := by
  decide +kernel

/-- The lines `A?b=c` and `x`, with a piece that holds parts of both. -/
theorem recvMessages_malformed_last_two :
    recvMessages [] [true, false, false] (Connection.fresh 0 zeroPage)
        (pieces [[65, 63, 98], [61, 99, 13, 10, 120], [13, 10]]) =
      [⟨[65], 63, [⟨[98], some [99]⟩]⟩] := by
  have last := recvMessages_malformed_last [] 0 zeroPage [[65, 63, 98, 61, 99], [120]]
    [[65, 63, 98], [61, 99, 13, 10, 120], [13, 10]] [true, false, false] (by decide) zeroPage_size
    (by decide) (by decide +kernel) (by decide) (by decide)
  rw [last]
  decide +kernel

end MidWay.Srb

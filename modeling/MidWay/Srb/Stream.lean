import MidWay.Srb.Framing

/-!
Contract: whole runs of the reader over a stream of lines.

Owns: when every cut of a stream of accepted messages is read as those messages
(`recvCalls_framing`). It depends on one exit of the reader: a line for which
`errno` is set takes the whole buffer with it and leaves its boundary
remembered. The decoder sets `errno` for a malformed key also when it returns a
message.
-/

namespace MidWay.Srb

open MidWay.CLib MidWay.Url

variable {message : List Byte} {chunks : List (List Byte)} {conn : Connection}

/-- The messages on the wire, each with its boundary. -/
def streamOf (messages : List (List Byte)) : List Byte :=
  messages.flatMap fun message => message ++ srbMessageBoundry

/-- Where `urlmapdecode` looks for a key. -/
def pairStarts : Nat → List Byte → List (List Byte)
  | 0, _ => []
  | turns + 1, next =>
      next :: match strchr next ampersand with
        | none => []
        | some amp => pairStarts turns (skipExcess (next.drop (amp + 1)))

/-- The fields of a message: everything behind its first marker. -/
def fieldText (message : List Byte) : List Byte :=
  let text := terminated (patched message) [0]
  match findMarker text with
  | none => []
  | some commandlen => text.drop (commandlen + 1)

/-- Every key of the message has well-formed escapes. -/
def KeysEscaped (message : List Byte) : Prop :=
  ∀ start ∈ pairStarts ((fieldText message).length + 1) (fieldText message),
    (urldecode start).complete = true

instance (message : List Byte) : Decidable (KeysEscaped message) :=
  inferInstanceAs (Decidable (∀ start ∈ _, _))

theorem urlmapdecodeFrom_errno (uninit : List Byte) {turns : Nat} {next : List Byte}
    (accepted : (urlmapdecodeFrom uninit turns next).map ≠ none) :
    (urlmapdecodeFrom uninit turns next).errno = none ↔
      ∀ start ∈ pairStarts turns next, (urldecode start).complete = true := by
  induction turns generalizing next with
  | zero => simp [urlmapdecodeFrom, pairStarts]
  | succ turns ih =>
      rw [urlmapdecodeFrom] at accepted ⊢
      split at accepted
      · exact absurd rfl accepted
      · rename_i wholeValue
        simp only [pairStarts, List.forall_mem_cons]
        cases found : strchr next ampersand with
        | none =>
            simp [MapDecoded.push]
        | some amp =>
            grind [MapDecoded.push]

theorem decodeAlone_eq_decodeText (uninit message : List Byte) :
    ((decodeAlone uninit message).srbmsg, (decodeAlone uninit message).errno) =
      decodeText uninit (terminated (patched message) [0]) := by
  have alone := mwSrbdecodemessage_eq_decodeText uninit
    ([0, 0] ++ message ++ carriageReturn :: lineFeed :: [0]) 2 message.length
  have twoBytes : 2 ≤ ([0, 0] : List Byte).length := Nat.le_refl 2
  have text := terminateMessage_drop twoBytes message [0]
  rw [show ([0, 0] : List Byte).length = 2 from rfl] at text
  rw [text] at alone
  exact alone

/-- An accepted message leaves `errno` alone when its keys are well formed, and
only then. -/
theorem decodeAlone_errno {uninit : List Byte}
    (accepted : (decodeAlone uninit message).srbmsg ≠ none) :
    (decodeAlone uninit message).errno = none ↔ KeysEscaped message := by
  have same := decodeAlone_eq_decodeText uninit message
  rw [Prod.ext_iff] at same
  obtain ⟨sameMessage, sameErrno⟩ := same
  simp only at sameMessage sameErrno
  rw [sameMessage] at accepted
  rw [sameErrno, KeysEscaped, fieldText]
  unfold decodeText at accepted ⊢
  cases found : findMarker (terminated (patched message) [0]) with
  | none => simp [found] at accepted
  | some commandlen =>
      simp only [found] at accepted ⊢
      split_ifs at accepted ⊢ with isReject tooLong
      · exact absurd rfl accepted
      · exact absurd rfl accepted
      · cases decoded : (urlmapdecode uninit
            ((terminated (patched message) [0]).drop (commandlen + 1))).map with
        | none => simp [decoded] at accepted
        | some map =>
            simp_all [urlmapdecode, urlmapdecodeFrom_errno, Option.some_ne_none]

theorem decodeAlone_nil (uninit : List Byte) :
    (decodeAlone uninit []).errno = some .EBADMSG := rfl

theorem decodeAlone_accepted {uninit : List Byte}
    (clean : (decodeAlone uninit message).errno = none) :
    message ≠ [] ∧ ∃ srbmsg, (decodeAlone uninit message).srbmsg = some srbmsg := by
  constructor
  · grind [decodeAlone_nil]
  · exact mwSrbdecodemessage_accepted clean

def WellFormed (uninit message : List Byte) : Prop :=
  0 ∉ message ∧ (decodeAlone uninit message).errno = none

instance (uninit message : List Byte) : Decidable (WellFormed uninit message) :=
  inferInstanceAs (Decidable (_ ∧ _))

/-- Lines that fit the buffer and have their boundary at their end only. -/
def Framed (message : List Byte) : Prop :=
  findSub srbMessageBoundry message = none ∧ message.length + 2 ≤ srbMessageMaxLen

instance (message : List Byte) : Decidable (Framed message) :=
  inferInstanceAs (Decidable (_ ∧ _))

/-- One call for each line; the induction is on the lines. -/
theorem recvCalls_wellFormed (uninit : List Byte) {messages : List (List Byte)}
    (framed : ∀ message ∈ messages, Framed message)
    (wellFormed : ∀ message ∈ messages, WellFormed uninit message) {pending remaining : List Byte}
    {bound : Nat} (unread : Unread conn pending chunks bound (streamOf messages ++ remaining))
    {flags : List Bool} (count : flags.length = messages.length) (calls : List Bool) :
    ∃ next rest later,
      recvCalls uninit (flags ++ calls) conn (pieces chunks) =
        (messages.map fun message => (decodeAlone uninit message).srbmsg) ++
          recvCalls uninit calls next (pieces later) ∧
      Unread next rest later bound remaining := by
  induction messages generalizing conn pending chunks flags with
  | nil =>
      obtain rfl : flags = [] := by simpa using count
      exact ⟨conn, pending, chunks, rfl, unread⟩
  | cons message messages ih =>
      obtain ⟨blocking, flags, rfl⟩ : ∃ blocking others, flags = blocking :: others := by
        cases flags with
        | nil => simp at count
        | cons blocking others => exact ⟨blocking, others, rfl⟩
      obtain ⟨noBoundry, short⟩ := framed message (by simp)
      obtain ⟨nulFree, clean⟩ := wellFormed message (by simp)
      obtain ⟨nonempty, srbmsg, accepted⟩ := decodeAlone_accepted clean
      have shape : streamOf (message :: messages) ++ remaining =
          message ++ srbMessageBoundry ++ (streamOf messages ++ remaining) := by
        simp [streamOf]
      rw [shape] at unread
      obtain ⟨errno, next, rest, later, call, nextUnread⟩ :=
        recvmessage_accepted uninit blocking unread noBoundry short nulFree nonempty accepted clean
      grind [List.cons_append, recvCalls, List.map_cons]

theorem unread_fresh {fd : Int} {memory : List Byte} (opened : fd ≠ -1)
    (size : bufferStart + bufferSize ≤ memory.length) (nonempty : ∀ piece ∈ chunks, piece ≠ [])
    {bound : Nat} (positive : 0 < bound) (bounded : ∀ piece ∈ chunks, piece.length ≤ bound) :
    Unread (Connection.fresh fd memory) [] chunks bound chunks.flatten :=
  ⟨Or.inr ⟨rfl, fd, memory, opened, size, rfl⟩, nonempty, bounded, positive, rfl⟩

theorem length_le_flatten {piece : List Byte} (member : piece ∈ chunks) :
    piece.length ≤ chunks.flatten.length := by
  obtain ⟨before, behind, rfl⟩ := List.append_of_mem member
  grind

theorem two_le_of_not_keysEscaped (malformed : ¬ KeysEscaped message) :
    2 ≤ message.length := by
  match message, malformed with
  | [], malformed => exact absurd (by decide) malformed
  | [c], malformed =>
      exfalso
      apply malformed
      have complete : ∀ fields, fields = [] ∨ fields = [0, 10, 0] →
          ∀ start ∈ pairStarts (fields.length + 1) fields, (urldecode start).complete = true := by
        rintro fields (rfl | rfl) <;> decide
      apply complete
      grind [fieldText, patched, terminated, findMarker]
  | _ :: _ :: _, _ => simp

/-- With a remembered boundary that lies further away than one byte, the next
byte that arrives alone fails the assertion; without it the call waits. -/
theorem recvLoop_stale (uninit : List Byte) {turns : Nat} {marker : Nat} (holds : Holds conn [])
    (som : conn.som = bufferStart) (stale : conn.nextMessageBoundryMarker = some marker)
    (far : bufferStart + 2 ≤ marker) (nonempty : ∀ piece ∈ chunks, piece ≠ [])
    (single : ∀ piece ∈ chunks, piece.length ≤ 1) (enough : socketSize (pieces chunks) < turns) :
    recvLoop uninit true turns conn (pieces chunks) = .waiting conn ∨
      recvLoop uninit true turns conn (pieces chunks) = .failed .assertion := by
  obtain ⟨turns, rfl⟩ : ∃ fewer, turns = fewer + 1 := ⟨turns - 1, by omega⟩
  cases chunks with
  | nil =>
      left
      rw [recvLoop, if_neg (by simp [holds.stream])]
      rfl
  | cons chunk chunks =>
      right
      have space : maxrecvlen conn = srbMessageMaxLen := by
        simp [holds.maxrecvlen_eq, som, List.length_nil]
      have room : 0 < maxrecvlen conn := by
        rw [space]
        decide
      obtain ⟨delivered, later, result, deliveredNonempty, fits, small, -⟩ :=
        recvfrom_pieces true room nonempty single
      obtain ⟨memory, stored, arrivedHolds, -⟩ := storeReceived_holds holds deliveredNonempty fits
      have positive := List.length_pos_iff.mpr deliveredNonempty
      have oneByte : conn.leftover + delivered.length = 1 := by
        have := holds.leftover
        rw [List.length_nil] at this
        omega
      rw [oneByte] at stored
      have failed : recvSearch uninit false { conn with memory := memory, leftover := 1 } =
          .error .assertion := by
        have far' : (1 : Int) < ↑(marker - conn.som) := by
          omega
        simp [recvSearch, readMessageFromConnbuffer, holds.allocated, stale, far']
      rw [recvLoop, if_neg (by simp [holds.stream]), holds.stream, result]
      simp [recvTurn, mwConnRead, stored, deliveredNonempty, failed, afterTurn]

/-- Delivered byte by byte, a refused line is the end of the messages. -/
theorem recvCalls_refused (uninit : List Byte) {remaining : List Byte} (framed : Framed message)
    (nulFree : 0 ∉ message) (accepted : (decodeAlone uninit message).srbmsg ≠ none)
    (malformed : ¬ KeysEscaped message) {pending : List Byte}
    (unread : Unread conn pending chunks 1 (message ++ srbMessageBoundry ++ remaining))
    (calls : List Bool) : recvCalls uninit (true :: calls) conn (pieces chunks) = [] := by
  have long := two_le_of_not_keysEscaped malformed
  have nonempty : message ≠ [] := by
    grind
  have refused : (decodeAlone uninit message).errno ≠ none :=
    fun clean => malformed ((decodeAlone_errno accepted).mp clean)
  obtain ⟨fewer, reader, rest, later, marker, call, holds, -, som, stale, far, -, -, laterNonempty,
    laterSingle, enough⟩ := recvmessage_refused uninit true unread framed.1 framed.2 nulFree
      (refused_of_decodeAlone nonempty refused remaining)
  rw [recvCalls, call]
  rcases recvLoop_stale uninit holds som stale (by omega) laterNonempty laterSingle enough with
    waits | fails
  · rw [waits]
  · rw [fails]

def bytewise (stream : List Byte) : List (List Byte) := stream.map fun byte => [byte]

theorem unread_bytewise (stream : List Byte) :
    Unread (Connection.fresh 0 zeroPage) [] (bytewise stream) 1 stream := by
  have whole : (bytewise stream).flatten = stream := by
    rw [bytewise, ← List.flatMap_def, List.flatMap_singleton']
  have nonempty : ∀ piece ∈ bytewise stream, piece ≠ [] := by simp [bytewise]
  have single : ∀ piece ∈ bytewise stream, piece.length ≤ 1 := by simp [bytewise]
  have opened : (0 : Int) ≠ -1 := by decide
  have unread := unread_fresh opened zeroPage_size nonempty Nat.one_pos single
  rwa [whole] at unread

/-- Read byte by byte, the messages in front of a malformed one are all there
is. -/
theorem recvCalls_bytewise (uninit : List Byte) {before after : List (List Byte)}
    (framed : ∀ other ∈ before, Framed other)
    (wellFormed : ∀ other ∈ before, WellFormed uninit other) (messageFramed : Framed message)
    (nulFree : 0 ∉ message) (accepted : (decodeAlone uninit message).srbmsg ≠ none)
    (malformed : ¬ KeysEscaped message) :
    recvCalls uninit (List.replicate (before ++ message :: after).length true)
        (Connection.fresh 0 zeroPage) (pieces (bytewise (streamOf (before ++ message :: after)))) =
      before.map fun message => (decodeAlone uninit message).srbmsg := by
  have split : streamOf (before ++ message :: after) = streamOf before ++
      (message ++ srbMessageBoundry ++ streamOf after) := by
    simp [streamOf]
  have calls : List.replicate (before ++ message :: after).length true =
      List.replicate before.length true ++ true :: List.replicate after.length true := by
    rw [List.length_append, List.length_cons, List.replicate_add, List.replicate_succ]
  have unread := unread_bytewise (streamOf (before ++ message :: after))
  rw [split] at unread ⊢
  obtain ⟨next, rest, later, result, nextUnread⟩ := recvCalls_wellFormed uninit framed wellFormed
    unread (List.length_replicate (a := true)) (true :: List.replicate after.length true)
  grind [recvCalls_refused, List.append_nil]

theorem exists_first_malformed {messages : List (List Byte)}
    (someMalformed : ¬ ∀ message ∈ messages, KeysEscaped message) :
    ∃ before message after, messages = before ++ message :: after ∧ ¬ KeysEscaped message ∧
      ∀ other ∈ before, KeysEscaped other := by
  have found : (messages.find? fun message => !decide (KeysEscaped message)).isSome := by
    simp_all
  obtain ⟨message, found⟩ := Option.isSome_iff_exists.mp found
  obtain ⟨malformed, before, after, shape, escaped⟩ := List.find?_eq_some_iff_append.mp found
  grind

/-- Every cut of the stream is read as the messages it was made of, if and only
if the keys of all of them have well-formed escapes. -/
theorem recvCalls_framing (uninit : List Byte) (messages : List (List Byte))
    (framed : ∀ message ∈ messages, Framed message) (nulFree : ∀ message ∈ messages, 0 ∉ message)
    (accepted : ∀ message ∈ messages, (decodeAlone uninit message).srbmsg ≠ none) :
    (∀ (fd : Int) (memory : List Byte) (chunks : List (List Byte)), fd ≠ -1 →
        bufferStart + bufferSize ≤ memory.length → (∀ piece ∈ chunks, piece ≠ []) →
        chunks.flatten = streamOf messages →
        recvCalls uninit (List.replicate messages.length true) (Connection.fresh fd memory)
            (pieces chunks) =
          messages.map fun message => (decodeAlone uninit message).srbmsg) ↔
      ∀ message ∈ messages, KeysEscaped message := by
  have wellFormed : ∀ message ∈ messages, KeysEscaped message → WellFormed uninit message :=
    fun message member escaped =>
      ⟨nulFree message member, (decodeAlone_errno (accepted message member)).mpr escaped⟩
  constructor
  · intro always
    by_contra someMalformed
    obtain ⟨before, message, after, rfl, malformed, escaped⟩ :=
      exists_first_malformed someMalformed
    have cut := (unread_bytewise (streamOf (before ++ message :: after))).stream
    have read := always 0 zeroPage _ (by decide) zeroPage_size
      (by simp [bytewise]) cut
    rw [recvCalls_bytewise uninit (fun other member => framed other (by simp [member]))
      (fun other member => wellFormed other (by simp [member]) (escaped other member))
      (framed message (by simp)) (nulFree message (by simp)) (accepted message (by simp))
      malformed] at read
    have lengths := congrArg List.length read
    simp at lengths
  · intro escaped fd memory chunks opened size nonempty cut
    have unread := unread_fresh opened size nonempty (Nat.succ_pos chunks.flatten.length)
      (fun piece member => Nat.le_succ_of_le (length_le_flatten member))
    rw [cut, ← List.append_nil (streamOf messages)] at unread
    obtain ⟨next, rest, later, result, -⟩ := recvCalls_wellFormed uninit framed
      (fun message member => wellFormed message member (escaped message member)) unread
      (List.length_replicate (a := true)) []
    simpa [recvCalls] using result

/-- The message `A?%=b`: the decoder returns it, the reader does not. -/
theorem recvCalls_framing_malformed_key :
    Framed [65, 63, 37, 61, 98] ∧ 0 ∉ ([65, 63, 37, 61, 98] : List Byte) ∧
      (decodeAlone [0] [65, 63, 37, 61, 98]).srbmsg = some ⟨[65], 63, [⟨[], some [98]⟩]⟩ ∧
      recvCalls [0] [true] (Connection.fresh 0 zeroPage)
        (pieces [[65, 63, 37, 61, 98, 13, 10]]) = [] := by
  decide +kernel

/-- Two requests cut inside the boundary of the first. -/
theorem recvCalls_framing_two :
    recvCalls [] [true, true] (Connection.fresh 0 zeroPage)
        (pieces [[65, 63, 97, 61, 98, 13], [10, 66, 63, 99], [61, 100, 13, 10]]) =
      [some ⟨[65], 63, [⟨[97], some [98]⟩]⟩, some ⟨[66], 63, [⟨[99], some [100]⟩]⟩] := by
  have framing := recvCalls_framing [] [[65, 63, 97, 61, 98], [66, 63, 99, 61, 100]]
    (by decide) (by decide) (by decide +kernel)
  exact (framing.mpr (by decide)) 0 zeroPage _ (by decide)
    zeroPage_size (by decide) (by decide)

end MidWay.Srb

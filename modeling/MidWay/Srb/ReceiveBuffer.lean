import MidWay.Srb.Connection
import MidWay.Srb.Locality

/-!
Contract: the receive buffer as a queue of pending bytes.

`Holds conn pending` says that the `leftover` bytes at `som` are `pending` and
lie in the message buffer. Every operation of the receive path is described by
what it does to the pending bytes: a read appends to them, the compaction keeps
them, and taking a message removes its line from their front or, when the decoder
refuses it, drops all of them.

Owns: `Holds` and one lemma for each exit of `readMessageFromConnbuffer` and
for `storeReceived`.
-/

namespace MidWay.Srb

open MidWay.CLib

structure Holds (conn : Connection) (pending : List Byte) : Prop where
  allocated : conn.allocated = true
  stream : conn.mcast = false
  start : bufferStart ≤ conn.som
  size : bufferStart + bufferSize ≤ conn.memory.length
  leftover : conn.leftover = pending.length
  within : conn.som + pending.length ≤ bufferStart + srbMessageMaxLen
  held : pending <+: conn.memory.drop conn.som

/-- A call that waits in `recvfrom`: the pending bytes are at the start of the
buffer and no boundary is remembered. -/
structure Reading (conn : Connection) (pending : List Byte) : Prop extends Holds conn pending where
  som : conn.som = bufferStart
  marker : conn.nextMessageBoundryMarker = none

def zeroPage : List Byte := List.replicate (bufferStart + bufferSize) 0

theorem zeroPage_size : bufferStart + bufferSize ≤ zeroPage.length :=
  Nat.le_of_eq List.length_replicate.symm

theorem drop_eq_append {memory pending : List Byte} {place : Nat}
    (held : pending <+: memory.drop place) (inside : place ≤ memory.length) :
    ∃ before behind, memory = before ++ pending ++ behind ∧ before.length = place := by
  obtain ⟨behind, shape⟩ := held
  refine ⟨memory.take place, behind, ?_, by simp [inside]⟩
  rw [List.append_assoc, shape, List.take_append_drop]

theorem length_overwrite {memory bytes : List Byte} {start : Nat}
    (fits : start + bytes.length ≤ memory.length) :
    (overwrite memory start bytes).length = memory.length := by
  grind [overwrite, List.length_append, List.length_take, List.length_drop]

theorem overwrite_append (before old bytes behind : List Byte)
    (same : old.length = bytes.length) :
    overwrite (before ++ old ++ behind) before.length bytes = before ++ bytes ++ behind := by
  simp [same, overwrite, List.append_assoc]

theorem overwrite_begins {memory bytes : List Byte} {start : Nat} (inside : start ≤ memory.length) :
    bytes <+: (overwrite memory start bytes).drop start := by
  simp_all [overwrite, List.append_assoc, List.drop_left', List.prefix_append]

section

variable {conn : Connection} {pending : List Byte} (holds : Holds conn pending)
include holds

theorem Holds.som_le : conn.som ≤ conn.memory.length := by
  have := holds.size
  have := holds.within
  simp only [bufferStart, bufferSize, srbMessageMaxLen] at *
  omega

theorem Holds.maxrecvlen_eq :
    maxrecvlen conn = bufferStart + srbMessageMaxLen - (conn.som + pending.length) := by
  have := holds.within
  have := holds.leftover
  grind [maxrecvlen, unsignedLongRange, bufferStart, srbMessageMaxLen]

end

section

variable {conn : Connection} {pending bytes : List Byte} (holds : Holds conn pending)
  (nonempty : bytes ≠ []) (fits : bytes.length ≤ maxrecvlen conn)
include holds nonempty fits

/-- What was received stands behind the pending bytes, with a NUL behind it. -/
theorem storeReceived_holds :
    ∃ memory,
      storeReceived conn bytes =
        .ok { conn with memory := memory, leftover := conn.leftover + bytes.length } ∧
      Holds { conn with memory := memory, leftover := conn.leftover + bytes.length }
        (pending ++ bytes) ∧
      pending ++ bytes ++ [0] <+: memory.drop conn.som := by
  have room := holds.maxrecvlen_eq
  have size := holds.size
  have within := holds.within
  have leftover := holds.leftover
  have positive := List.length_pos_iff.mpr nonempty
  simp only [bufferStart, bufferSize, srbMessageMaxLen] at room size within
  obtain ⟨before, behind, shape, place⟩ := drop_eq_append holds.held holds.som_le
  have behindLength : bytes.length + 1 ≤ behind.length := by
    grind
  have insertAt : (conn.som + conn.leftover).toNat = (before ++ pending).length := by
    grind
  have inBounds : ¬ (conn.som + conn.leftover < 0 ∨
      conn.som + conn.leftover + bytes.length ≥ conn.memory.length) := by
    omega
  have stored : overwrite conn.memory (conn.som + conn.leftover).toNat (bytes ++ [0]) =
      before ++ (pending ++ bytes ++ [0]) ++ behind.drop (bytes.length + 1) := by
    have split : conn.memory = before ++ pending ++ behind.take (bytes.length + 1) ++
        behind.drop (bytes.length + 1) := by
      rw [List.append_assoc _ (behind.take _), List.take_append_drop, ← shape]
    rw [insertAt, split, overwrite_append _ _ _ _ (by simp [behindLength])]
    simp
  refine ⟨_, by rw [storeReceived, if_neg nonempty, if_neg inBounds], ?_, ?_⟩
  · have inside : pending ++ bytes <+:
        (overwrite conn.memory (conn.som + conn.leftover).toNat (bytes ++ [0])).drop conn.som := by
      rw [stored, ← place, List.append_assoc before, List.drop_left]
      simp only [List.append_assoc]
      exact List.prefix_append_right_inj pending |>.mpr (List.prefix_append _ _)
    refine ⟨holds.allocated, holds.stream, holds.start, ?_, ?_, ?_, inside⟩
    · rw [length_overwrite (by rw [List.length_append, List.length_singleton]; omega)]
      exact holds.size
    · simp_all [List.length_append]
    · grind [List.length_append, bufferStart, srbMessageMaxLen]
  · simp [stored, place, List.append_assoc]

end

section

variable {conn : Connection} {pending : List Byte} (uninit : List Byte)
  (holds : Holds conn pending)
include holds

theorem read_nothing (empty : pending = []) :
    readMessageFromConnbuffer uninit conn = .ok (none, { conn with som := bufferStart }) ∧
      Holds { conn with som := bufferStart } [] := by
  subst empty
  have size := holds.size
  refine ⟨?_, holds.allocated, holds.stream, Nat.le_refl _, size, holds.leftover, by simp,
    List.nil_prefix⟩
  simp [readMessageFromConnbuffer, if_neg, holds.allocated, if_pos, holds.leftover]

/-- Without a boundary the pending bytes move to the start of the buffer. -/
theorem read_no_boundry (nonempty : pending ≠ [])
    (noMarker : conn.nextMessageBoundryMarker = none) (notFound : searchBoundry conn = none) :
    ∃ memory,
      readMessageFromConnbuffer uninit conn =
        .ok (none, { conn with
          memory := memory
          som := bufferStart
          nextMessageBoundryMarker := none }) ∧
      Reading { conn with
        memory := memory
        som := bufferStart
        nextMessageBoundryMarker := none } pending := by
  have size := holds.size
  have within := holds.within
  have start := holds.start
  have leftover := holds.leftover
  have positive := List.length_pos_iff.mpr nonempty
  obtain ⟨behind, shape⟩ := holds.held
  have moved : memmove conn.memory bufferStart conn.som conn.leftover.toNat =
      overwrite conn.memory bufferStart pending := by
    rw [memmove, leftover, Int.toNat_natCast, ← shape, List.take_left]
  simp only [bufferStart, bufferSize, srbMessageMaxLen] at size within start
  refine ⟨overwrite conn.memory bufferStart pending, ?_,
    ⟨⟨holds.allocated, holds.stream, Nat.le_refl _, ?_, leftover, ?_, ?_⟩, rfl, rfl⟩⟩
  · rw [readMessageFromConnbuffer, if_neg (by simp [holds.allocated]), if_neg (by omega),
      noMarker, notFound]
    simp only [Option.or_none]
    rw [if_neg (by omega), moved]
  · rw [length_overwrite (by simp only [bufferStart]; omega)]
    exact holds.size
  · grind [bufferStart, srbMessageMaxLen]
  · exact overwrite_begins (by simp only [bufferStart]; omega)

end

/-- The connection after the first line was decoded and taken. -/
def Connection.taken (uninit : List Byte) (conn : Connection) (message rest : List Byte) :
    Connection :=
  { conn with
    memory := (mwSrbdecodemessage uninit conn.memory conn.som message.length).memory
    leftover := rest.length
    som := conn.som + message.length + 2
    nextMessageBoundryMarker := none }

/-- The connection after the first line was refused. The marker still points to
its boundary. -/
def Connection.refused (uninit : List Byte) (conn : Connection) (message : List Byte) :
    Connection :=
  { conn with
    memory := (mwSrbdecodemessage uninit conn.memory conn.som message.length).memory
    leftover := 0
    som := bufferStart
    nextMessageBoundryMarker := some (conn.som + message.length) }

private theorem line_length {pending message rest : List Byte}
    (line : pending = message ++ srbMessageBoundry ++ rest) :
    pending.length = message.length + 2 + rest.length := by
  simp only [line, srbMessageBoundry, List.length_append, List.length_cons, List.length_nil]

theorem decode_first_frame (uninit : List Byte) {conn : Connection} {pending : List Byte}
    (holds : Holds conn pending) (msglen : Nat) :
    (mwSrbdecodemessage uninit conn.memory conn.som msglen).memory.length = conn.memory.length ∧
      (mwSrbdecodemessage uninit conn.memory conn.som msglen).memory.drop
          (conn.som + msglen + 2) =
        conn.memory.drop (conn.som + msglen + 2) := by
  apply mwSrbdecodemessage_frame uninit conn.memory holds.start
  omega

section

variable (uninit : List Byte) {conn : Connection} {pending message rest : List Byte}
  (holds : Holds conn pending) (line : pending = message ++ srbMessageBoundry ++ rest)
include holds line

/-- The two exits of the decoder on the first line. -/
theorem read_line
    (boundry : conn.nextMessageBoundryMarker.or (searchBoundry conn) =
      some (conn.som + message.length)) :
    readMessageFromConnbuffer uninit conn =
      if (mwSrbdecodemessage uninit conn.memory conn.som message.length).errno = none then
        .ok ((mwSrbdecodemessage uninit conn.memory conn.som message.length).srbmsg,
          conn.taken uninit message rest)
      else .ok (none, conn.refused uninit message) := by
  have within := holds.within
  have start := holds.start
  have leftover := holds.leftover
  have lineLength := line_length line
  simp only [bufferStart, srbMessageMaxLen] at within start
  have remaining : conn.leftover - (↑message.length + 2) = rest.length := by omega
  rw [readMessageFromConnbuffer, if_neg (by simp [holds.allocated]), if_neg (by omega), boundry]
  simp only [Nat.add_sub_cancel_left]
  rw [if_neg (by omega), if_neg (by simp only [srbMessageMaxLen]; omega), remaining]
  cases (mwSrbdecodemessage uninit conn.memory conn.som message.length).errno with
  | none => rfl
  | some errno => rfl

theorem drop_taken :
    ∃ behind, conn.memory.drop conn.som = pending ++ behind ∧
      (conn.taken uninit message rest).memory.drop (conn.taken uninit message rest).som =
        rest ++ behind := by
  obtain ⟨behind, shape⟩ := holds.held
  have kept := (decode_first_frame uninit holds message.length).2
  refine ⟨behind, shape.symm, ?_⟩
  rw [Connection.taken, kept, Nat.add_assoc, ← List.drop_drop, ← shape, line,
    List.append_assoc, List.append_assoc, ← List.append_assoc message,
    List.drop_left' (by simp [srbMessageBoundry])]

theorem holds_taken : Holds (conn.taken uninit message rest) rest := by
  have within := holds.within
  have start := holds.start
  have lineLength := line_length line
  have size := (decode_first_frame uninit holds message.length).1
  obtain ⟨behind, -, kept⟩ := drop_taken uninit holds line
  refine ⟨holds.allocated, holds.stream, ?_, ?_, rfl, ?_, ⟨behind, kept.symm⟩⟩
  · grind [Connection.taken]
  · simp [Connection.taken, size, holds.size]
  · grind [Connection.taken]

omit line in
theorem holds_refused : Holds (conn.refused uninit message) [] := by
  have size := (decode_first_frame uninit holds message.length).1
  refine ⟨holds.allocated, holds.stream, Nat.le_refl _, ?_, rfl, by simp [Connection.refused],
    List.nil_prefix⟩
  rw [Connection.refused, size]
  exact holds.size

end

end MidWay.Srb

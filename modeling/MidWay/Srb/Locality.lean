import MidWay.Srb.Message
import MidWay.Url.Locality

/-!
Contract: what `_mw_srbdecodemessage` makes of a message depends on the message
alone, not on its place in the receive buffer.

`decodeAlone` is the decoder on a buffer with one message. Inside a longer buffer
a message that is not empty decodes to the same result, and the bytes behind its
boundary stay as they are.

Owns: `decodeAlone` and the frame of the decoder in its memory.
-/

namespace MidWay.Srb

open MidWay.CLib MidWay.Url

/-- The decoder on a message in a buffer of its own, behind the two bytes it may
look back to. -/
def decodeAlone (uninit message : List Byte) : DecodeResult :=
  mwSrbdecodemessage uninit ([0, 0] ++ message ++ [carriageReturn, lineFeed, 0]) 2
    message.length

/-- The message with the carriage return before its last byte overwritten. -/
def patched (message : List Byte) : List Byte :=
  if 2 ≤ message.length ∧ message[message.length - 2]? = some carriageReturn then
    message.set (message.length - 2) 0
  else message

@[simp] theorem length_patched (message : List Byte) :
    (patched message).length = message.length := by
  grind [patched]

theorem patched_ne_nil {message : List Byte} (nonempty : message ≠ []) :
    patched message ≠ [] := by
  rw [← List.length_pos_iff] at nonempty ⊢
  simpa using nonempty

section Buffer

variable {before message : List Byte} (following : Byte) (behind : List Byte)

theorem set_terminator (before message : List Byte) (following : Byte) (behind : List Byte) :
    (before ++ message ++ following :: behind).set (before.length + message.length) 0 =
      before ++ (message ++ 0 :: behind) := by
  simp

/-- With two bytes or more only the message and its terminator are written. -/
theorem terminateMessage_long (long : 2 ≤ message.length) :
    (terminateMessage (before ++ message ++ following :: behind) before.length
        message.length).1 = before ++ (patched message ++ 0 :: behind) ∧
      ∀ place, (terminateMessage (before ++ message ++ following :: behind) before.length
        message.length).2 = some place → before.length ≤ place := by
  have place : before.length + message.length - 2 = before.length + (message.length - 2) := by
    omega
  have looked : (before ++ (message ++ 0 :: behind))[before.length + message.length - 2]? =
      message[message.length - 2]? := by
    rw [place, List.getElem?_append_right (by omega), Nat.add_sub_cancel_left,
      List.getElem?_append_left (by omega)]
  unfold terminateMessage
  dsimp only
  rw [set_terminator, looked]
  by_cases isReturn : message[message.length - 2]? = some carriageReturn
  · rw [if_pos isReturn, patched, if_pos ⟨long, isReturn⟩, place,
      List.set_append_right _ _ (by omega), Nat.add_sub_cancel_left,
      List.set_append_left _ _ (by omega)]
    simp
  · simp_all [patched]

theorem terminateMessage_short (margin : 2 ≤ before.length) (short : message.length < 2) :
    terminateMessage (before ++ message ++ following :: behind) before.length message.length =
      if before[before.length + message.length - 2]? = some carriageReturn then
        (before.set (before.length + message.length - 2) 0 ++ (message ++ 0 :: behind),
          some (before.length + message.length - 2))
      else (before ++ (message ++ 0 :: behind), none) := by
  have inFront : before.length + message.length - 2 < before.length := by omega
  unfold terminateMessage
  dsimp only
  rw [set_terminator, List.getElem?_append_left inFront, List.set_append_left _ _ inFront]

theorem terminateMessage_short_text (margin : 2 ≤ before.length) (short : message.length < 2) :
    (terminateMessage (before ++ message ++ following :: behind) before.length
        message.length).1.drop before.length = message ++ 0 :: behind := by
  rw [terminateMessage_short following behind margin short]
  grind

end Buffer

theorem terminateMessage_drop {before : List Byte} (margin : 2 ≤ before.length)
    (message rest : List Byte) :
    (terminateMessage (before ++ message ++ carriageReturn :: lineFeed :: rest) before.length
        message.length).1.drop before.length = terminated (patched message) rest := by
  by_cases long : 2 ≤ message.length
  · rw [(terminateMessage_long carriageReturn (lineFeed :: rest) long).1, List.drop_left]
    rfl
  · have unpatched : patched message = message := if_neg fun both => long both.1
    rw [terminateMessage_short_text carriageReturn (lineFeed :: rest) margin
      (Nat.lt_of_not_le long), unpatched]
    rfl

/-- The result and the `errno` of the decoder, from the text it reads. -/
def decodeText (uninit text : List Byte) : Option SRBmessage × Option Errno :=
  match findMarker text with
  | none => (none, some .EBADMSG)
  | some commandlen =>
      let marker := text.getD commandlen 0
      if marker = srbRejectMarker then (none, some .EBADMSG)
      else if commandlen > 32 then (none, some .EBADMSG)
      else
        let decoded := urlmapdecode uninit (text.drop (commandlen + 1))
        match decoded.map with
        | none => (none, some .EBADMSG)
        | some map => (some ⟨cstr (text.take commandlen), marker, map⟩, decoded.errno)

theorem mwSrbdecodemessage_eq_decodeText (uninit memory : List Byte) (message msglen : Nat) :
    let decoded := mwSrbdecodemessage uninit memory message msglen
    (decoded.srbmsg, decoded.errno) =
      decodeText uninit ((terminateMessage memory message msglen).1.drop message) := by
  simp only [mwSrbdecodemessage, decodeText]
  grind

theorem decodeText_accepted {uninit text : List Byte} (clean : (decodeText uninit text).2 = none) :
    ∃ srbmsg, (decodeText uninit text).1 = some srbmsg := by
  unfold decodeText at clean ⊢
  grind

theorem mwSrbdecodemessage_accepted {uninit memory : List Byte} {message msglen : Nat}
    (clean : (mwSrbdecodemessage uninit memory message msglen).errno = none) :
    ∃ srbmsg, (mwSrbdecodemessage uninit memory message msglen).srbmsg = some srbmsg := by
  grind [Prod.ext_iff, decodeText_accepted, mwSrbdecodemessage_eq_decodeText]

theorem findMarker_single (c : Byte) :
    findMarker [c] = if isMarker c then some 0 else none := rfl

theorem findMarker_cons_cons (c next : Byte) (rest : List Byte) :
    findMarker (c :: next :: rest) =
      if isMarker c then some 0
      else if next = 0 then none else (findMarker (next :: rest)).map (· + 1) := rfl

theorem findMarker_lt {text : List Byte} {found : Nat} (isFound : findMarker text = some found) :
    found < text.length := by
  induction text generalizing found with
  | nil => cases isFound
  | cons c rest ih =>
      cases rest with
      | nil =>
          simp_all [findMarker_single]
      | cons next rest =>
          rw [findMarker_cons_cons] at isFound
          split_ifs at isFound
          · grind
          · rcases Option.map_eq_some_iff.mp isFound with ⟨earlier, atEarlier, rfl⟩
            exact Nat.succ_lt_succ (ih atEarlier)

theorem findMarker_ended {text : List Byte} (nonempty : text ≠ []) (behind : List Byte) :
    findMarker (text ++ 0 :: behind) = findMarker text := by
  induction text with
  | nil => exact absurd rfl nonempty
  | cons c rest ih =>
      cases rest with
      | nil =>
          rw [List.singleton_append, findMarker_cons_cons, findMarker_single, if_pos rfl]
      | cons next rest =>
          simp_all [List.cons_append, findMarker_cons_cons]

theorem decodeText_terminated {text : List Byte} (nonempty : text ≠ [])
    (uninit first second : List Byte) :
    decodeText uninit (terminated text first) = decodeText uninit (terminated text second) := by
  have marker : ∀ behind, findMarker (terminated text behind) = findMarker text := fun behind =>
    findMarker_ended nonempty (10 :: behind)
  rw [decodeText, decodeText, marker, marker]
  cases found : findMarker text with
  | none => rfl
  | some commandlen =>
      have within := findMarker_lt found
      grind [terminated, List.take_append_of_le_length, drop_terminated, urlmapdecode_terminated]

section InBuffer

variable (uninit : List Byte) {before : List Byte} (margin : 2 ≤ before.length)
include margin

/-- A message decodes in a buffer as it does on its own. -/
theorem decode_in_buffer {message : List Byte} (nonempty : message ≠ []) (rest : List Byte) :
    let decoded := mwSrbdecodemessage uninit
      (before ++ message ++ carriageReturn :: lineFeed :: rest) before.length message.length
    decoded.srbmsg = (decodeAlone uninit message).srbmsg ∧
      decoded.errno = (decodeAlone uninit message).errno := by
  have here := mwSrbdecodemessage_eq_decodeText uninit
    (before ++ message ++ carriageReturn :: lineFeed :: rest) before.length message.length
  have alone := mwSrbdecodemessage_eq_decodeText uninit
    ([0, 0] ++ message ++ carriageReturn :: lineFeed :: [0]) 2 message.length
  have twoBytes : 2 ≤ ([0, 0] : List Byte).length := Nat.le_refl 2
  have aloneText := terminateMessage_drop twoBytes message [0]
  rw [terminateMessage_drop margin] at here
  rw [show ([0, 0] : List Byte).length = 2 from rfl] at aloneText
  rw [aloneText, decodeText_terminated (patched_ne_nil nonempty) uninit [0] rest, ← here] at alone
  simp only [Prod.mk.injEq] at alone
  exact ⟨alone.1.symm, alone.2.symm⟩

theorem decode_empty_in_buffer (behind : List Byte) :
    let decoded := mwSrbdecodemessage uninit
      (before ++ [] ++ carriageReturn :: lineFeed :: 0 :: behind) before.length 0
    decoded.srbmsg = none ∧ decoded.errno = some .EBADMSG := by
  have here := mwSrbdecodemessage_eq_decodeText uninit
    (before ++ [] ++ carriageReturn :: lineFeed :: 0 :: behind) before.length 0
  have text := terminateMessage_drop margin [] (0 :: behind)
  rw [List.length_nil] at text
  rw [text] at here
  have noMarker : findMarker (terminated (patched []) (0 :: behind)) = none := by
    rfl
  rw [decodeText, noMarker] at here
  simpa using here

end InBuffer

theorem terminateMessage_frame (memory : List Byte) {message msglen position : Nat}
    (margin : 2 ≤ message) (behind : message + msglen < position) :
    (terminateMessage memory message msglen).1.length = memory.length ∧
      (terminateMessage memory message msglen).1.drop position = memory.drop position ∧
      ∀ szTmp, (terminateMessage memory message msglen).2 = some szTmp →
        szTmp + 1 < position := by
  have cut : (memory.set (message + msglen) 0).drop position = memory.drop position :=
    List.drop_set_of_lt (by omega)
  grind [terminateMessage, List.drop_set_of_lt]

theorem replaceEndMarker_frame (memory : List Byte) (szTmp : Option Nat) {position : Nat}
    (inFront : ∀ place, szTmp = some place → place + 1 < position) :
    (replaceEndMarker memory szTmp).length = memory.length ∧
      (replaceEndMarker memory szTmp).drop position = memory.drop position := by
  cases szTmp with
  | none => exact ⟨rfl, rfl⟩
  | some place =>
      have := inFront place rfl
      simp only [replaceEndMarker, List.length_set, true_and]
      rw [List.drop_set_of_lt (by omega), List.drop_set_of_lt (by omega)]

theorem mwSrbdecodemessage_frame (uninit memory : List Byte) {message msglen position : Nat}
    (margin : 2 ≤ message) (behind : message + msglen < position) :
    (mwSrbdecodemessage uninit memory message msglen).memory.length = memory.length ∧
      (mwSrbdecodemessage uninit memory message msglen).memory.drop position =
        memory.drop position := by
  obtain ⟨size, kept, inFront⟩ := terminateMessage_frame memory margin behind
  grind [mwSrbdecodemessage, replaceEndMarker_frame, terminateMessage, findMarker]

end MidWay.Srb

import MidWay.Srb.Locality
import MidWay.Url.FieldScan

/-!
Contract: for which messages `_mw_srbdecodemessage` depends on the message alone and
writes nowhere else.

The decoder looks at the byte two in front of the end also when the message has only
one byte or none, and then looks, and writes, in front of it. Without a byte there is
no end to the search for a marker but behind the message. What follows the marker is
scanned by `urlmapdecode`, which looks behind the end itself.

Owns: `DecodesAlone`, and the messages it holds of.
-/

namespace MidWay.Srb

open MidWay.CLib MidWay.Url

/-- What the caller and the peer get of a decoded message: the message, `errno` and the reject. -/
abbrev Outcome := Option SRBmessage × Option Errno × Option (List Byte × Int)

def DecodeResult.outcome (decoded : DecodeResult) : Outcome :=
  (decoded.srbmsg, decoded.errno, decoded.reject)

def decodeIn (uninit before message behind : List Byte) : DecodeResult :=
  mwSrbdecodemessage uninit (before ++ message ++ behind) before.length message.length

/-- Two bytes in front of the message, and one behind it for the terminator, are there. -/
structure Surrounded (before behind : List Byte) : Prop where
  before : 2 ≤ before.length
  behind : 1 ≤ behind.length

/-- The result is the same in any two buffers, whatever fresh blocks hold, and the bytes in front
of the message and behind its terminator are left as they are. -/
structure DecodesAlone (message : List Byte) : Prop where
  same : ∀ uninit other before behind front back : List Byte, Surrounded before behind →
    Surrounded front back → (decodeIn uninit before message behind).outcome =
      (decodeIn other front message back).outcome
  inFront : ∀ uninit before behind : List Byte, Surrounded before behind →
    (decodeIn uninit before message behind).memory.take before.length = before
  beyond : ∀ uninit before behind : List Byte, Surrounded before behind →
    (decodeIn uninit before message behind).memory.drop (before.length + message.length + 1) =
      behind.drop 1

/-- If the decoder gets as far as the fields, their text is determined. -/
def TextDetermined (text : List Byte) : Prop :=
  ∀ commandlen, findMarker text = some commandlen → text.getD commandlen 0 ≠ srbRejectMarker →
    commandlen ≤ 32 → Determined (text.drop (commandlen + 1))

/-- Two bytes or more, whose text is determined, or a marker alone that is no reject's. -/
def SelfContained (message : List Byte) : Prop :=
  (2 ≤ message.length ∧ TextDetermined (patched message)) ∨
    ∃ marker, message = [marker] ∧ isMarker marker = true ∧ marker ≠ srbRejectMarker

/-- The outcome of a text with a marker, from the fields behind it. -/
def fieldsOutcome (text : List Byte) (commandlen : Nat) (decoded : MapDecoded) : Outcome :=
  match decoded.map with
  | none => (none, some .EBADMSG, some (cstr text, -1))
  | some map =>
      (some ⟨cstr (text.take commandlen), text.getD commandlen 0, map⟩, decoded.errno, none)

/-- The outcome, from the text the decoder reads. -/
def outcomeOf (uninit text : List Byte) : Outcome :=
  match findMarker text with
  | none => (none, some .EBADMSG, some (cstr text, -1))
  | some commandlen =>
      if text.getD commandlen 0 = srbRejectMarker then (none, some .EBADMSG, none)
      else if commandlen > 32 then (none, some .EBADMSG, some (cstr text, commandlen))
      else fieldsOutcome text commandlen (urlmapdecode uninit (text.drop (commandlen + 1)))

theorem decodeIn_outcome (uninit before message behind : List Byte) :
    (decodeIn uninit before message behind).outcome =
      outcomeOf uninit ((terminateMessage (before ++ message ++ behind) before.length
        message.length).1.drop before.length) := by
  unfold decodeIn mwSrbdecodemessage outcomeOf
  dsimp only
  generalize (terminateMessage (before ++ message ++ behind) before.length
    message.length).1.drop before.length = text
  cases findMarker text with
  | none => rfl
  | some commandlen =>
      dsimp only
      split_ifs
      · rfl
      · rfl
      · unfold fieldsOutcome
        cases (urlmapdecode uninit (text.drop (commandlen + 1))).map with
        | none => rfl
        | some map => rfl

section Text

variable {text : List Byte} {commandlen : Nat}

/-- In front of the terminator the outcome is that of the text, but for the fields. -/
theorem outcomeOf_ended (nonempty : text ≠ []) (uninit behind : List Byte) :
    outcomeOf uninit (text ++ 0 :: behind) =
      match findMarker text with
      | none => (none, some .EBADMSG, some (cstr text, -1))
      | some commandlen =>
          if text.getD commandlen 0 = srbRejectMarker then (none, some .EBADMSG, none)
          else if commandlen > 32 then (none, some .EBADMSG, some (cstr text, commandlen))
          else fieldsOutcome text commandlen
            (urlmapdecode uninit (text.drop (commandlen + 1) ++ 0 :: behind)) := by
  unfold outcomeOf
  rw [findMarker_ended nonempty, cstr_append_nul]
  cases found : findMarker text with
  | none => rfl
  | some commandlen =>
      have within := findMarker_lt found
      have marker : (text ++ 0 :: behind).getD commandlen 0 = text.getD commandlen 0 := by
        rw [List.getD_eq_getElem?_getD, List.getElem?_append_left within,
          ← List.getD_eq_getElem?_getD]
      have fields : (text ++ 0 :: behind).drop (commandlen + 1) =
          text.drop (commandlen + 1) ++ 0 :: behind := List.drop_append_of_le_length within
      dsimp only
      rw [marker, fields]
      unfold fieldsOutcome
      rw [marker, List.take_append_of_le_length (Nat.le_of_lt within), cstr_append_nul]

theorem TextDetermined.same (determined : TextDetermined text) (nonempty : text ≠ [])
    (uninit other behind back : List Byte) :
    outcomeOf uninit (text ++ 0 :: behind) = outcomeOf other (text ++ 0 :: back) := by
  rw [outcomeOf_ended nonempty, outcomeOf_ended nonempty]
  cases found : findMarker text with
  | none => rfl
  | some commandlen =>
      dsimp only
      split_ifs with isReject isLong
      · rfl
      · rfl
      · rw [(determined commandlen found isReject (Nat.not_lt.mp isLong)).same uninit other behind
          back]

theorem fieldsOutcome_map {first second : MapDecoded}
    (same : fieldsOutcome text commandlen first = fieldsOutcome text commandlen second) :
    first.map = second.map := by
  unfold fieldsOutcome at same
  grind

theorem TextDetermined.of_same (nonempty : text ≠ [])
    (same : ∀ uninit other behind back : List Byte,
      outcomeOf uninit (text ++ 0 :: behind) = outcomeOf other (text ++ 0 :: back)) :
    TextDetermined text := by
  intro commandlen found notReject short
  apply Determined.of_same
  intro uninit other behind back
  have equal := same uninit other behind back
  rw [outcomeOf_ended nonempty, outcomeOf_ended nonempty, found] at equal
  dsimp only at equal
  rw [if_neg notReject, if_neg (Nat.not_lt.mpr short), if_neg notReject,
    if_neg (Nat.not_lt.mpr short)] at equal
  exact fieldsOutcome_map equal

end Text

theorem decodeIn_memory (uninit before message behind : List Byte) :
    let ended := terminateMessage (before ++ message ++ behind) before.length message.length
    (decodeIn uninit before message behind).memory = ended.1 ∨
      (decodeIn uninit before message behind).memory = replaceEndMarker ended.1 ended.2 := by
  unfold decodeIn mwSrbdecodemessage
  grind

theorem replaceEndMarker_take (memory : List Byte) {szTmp : Option Nat} {front : Nat}
    (within : ∀ place, szTmp = some place → front ≤ place) :
    (replaceEndMarker memory szTmp).take front = memory.take front := by
  cases szTmp with
  | none => rfl
  | some place =>
      grind [replaceEndMarker, List.take_set_of_le]

theorem set_of_getElem? {memory : List Byte} {place : Nat} {value : Byte}
    (already : memory[place]? = some value) : memory.set place value = memory := by
  grind [List.set_getElem_self]

theorem mwSrbdecodemessage_memory {uninit memory : List Byte} {message msglen : Nat}
    {srbmsg : SRBmessage}
    (decodes : (mwSrbdecodemessage uninit memory message msglen).srbmsg = some srbmsg) :
    (mwSrbdecodemessage uninit memory message msglen).memory =
      replaceEndMarker (terminateMessage memory message msglen).1
        (terminateMessage memory message msglen).2 := by
  unfold mwSrbdecodemessage at decodes ⊢
  grind

section Line

variable (before text behind : List Byte) (following : Byte)

theorem drop_line : (before ++ ((text ++ srbMessageBoundry) ++ 0 :: behind)).drop
    (before.length + text.length) = carriageReturn :: lineFeed :: 0 :: behind := by
  rw [List.append_assoc, ← List.append_assoc before text, List.drop_left' List.length_append]
  rfl

/-- A message that is given with its boundary is terminated over the carriage return. -/
theorem terminateMessage_line :
    terminateMessage (before ++ (text ++ srbMessageBoundry) ++ following :: behind) before.length
        (text ++ srbMessageBoundry).length =
      ((before ++ ((text ++ srbMessageBoundry) ++ 0 :: behind)).set (before.length + text.length) 0,
        some (before.length + text.length)) := by
  have returnAt : before.length + (text ++ srbMessageBoundry).length - 2 =
      before.length + text.length := by
    rw [List.length_append]
    rfl
  have isReturn : (before ++ ((text ++ srbMessageBoundry) ++ 0 :: behind))[
      before.length + text.length]? = some carriageReturn := by
    rw [← Nat.add_zero (before.length + text.length), ← List.getElem?_drop, drop_line]
    rfl
  simp_all [set_terminator, returnAt, isReturn, if_pos, terminateMessage]

/-- The decoder reads the text in front of the boundary. -/
theorem mwSrbdecodemessage_line (uninit : List Byte) :
    (mwSrbdecodemessage uninit (before ++ (text ++ srbMessageBoundry) ++ following :: behind)
        before.length (text ++ srbMessageBoundry).length).srbmsg =
      (decodeText uninit (terminated text (0 :: behind))).1 := by
  have same := mwSrbdecodemessage_eq_decodeText uninit
    (before ++ (text ++ srbMessageBoundry) ++ following :: behind) before.length
    (text ++ srbMessageBoundry).length
  have read : ((before ++ ((text ++ srbMessageBoundry) ++ 0 :: behind)).set
      (before.length + text.length) 0).drop before.length = terminated text (0 :: behind) := by
    rw [List.set_append_right _ _ (Nat.le_add_right _ _), List.drop_left, Nat.add_sub_cancel_left,
      List.append_assoc, List.set_append_right _ _ (Nat.le_refl _), Nat.sub_self]
    rfl
  rw [terminateMessage_line, read] at same
  exact congrArg Prod.fst same

/-- The decoder puts the boundary of a message back. -/
theorem mwSrbdecodemessage_restores {uninit : List Byte} {srbmsg : SRBmessage}
    (decodes : (mwSrbdecodemessage uninit (before ++ (text ++ srbMessageBoundry) ++
      following :: behind) before.length (text ++ srbMessageBoundry).length).srbmsg = some srbmsg) :
    (mwSrbdecodemessage uninit (before ++ (text ++ srbMessageBoundry) ++ following :: behind)
        before.length (text ++ srbMessageBoundry).length).memory =
      before ++ ((text ++ srbMessageBoundry) ++ 0 :: behind) := by
  have isReturn : (before ++ ((text ++ srbMessageBoundry) ++ 0 :: behind))[
      before.length + text.length]? = some carriageReturn := by
    rw [← Nat.add_zero (before.length + text.length), ← List.getElem?_drop, drop_line]
    rfl
  have isLineFeed : (before ++ ((text ++ srbMessageBoundry) ++ 0 :: behind))[
      before.length + text.length + 1]? = some lineFeed := by
    rw [← List.getElem?_drop, drop_line]
    rfl
  rw [mwSrbdecodemessage_memory decodes, terminateMessage_line, replaceEndMarker, List.set_set,
    set_of_getElem? isReturn, set_of_getElem? isLineFeed]

end Line

theorem determined_nil : Determined [] := by
  refine Or.inr ⟨rfl, ?_⟩
  intro field member
  rcases List.mem_singleton.mp member with rfl
  exact Or.inl rfl

theorem urlmapdecode_nul (uninit behind : List Byte) :
    ∃ map, (urlmapdecode uninit (0 :: behind)).map = some map := by
  have alone : urlmapdecode uninit ([] ++ 0 :: behind) = urlmapdecode [] ([] ++ 0 :: []) :=
    determined_nil.same uninit [] behind []
  rw [List.nil_append] at alone
  exact ⟨_, congrArg MapDecoded.map alone⟩

section Marker

variable {before : List Byte} {marker : Byte}

theorem textDetermined_marker (isMarker : isMarker marker = true) : TextDetermined [marker] := by
  intro commandlen found _ _
  simp [findMarker_single, if_pos, determined_nil]

/-- The empty map decodes, and the carriage return is put back. -/
theorem decodeIn_marker (margin : 2 ≤ before.length) (isMarker : isMarker marker = true)
    (notReject : marker ≠ srbRejectMarker) (uninit : List Byte) (following : Byte)
    (behind : List Byte) :
    (decodeIn uninit before [marker] (following :: behind)).memory.take before.length = before := by
  have short : [marker].length < 2 := Nat.one_lt_two
  have text := terminateMessage_short_text following behind margin short
  have ended := terminateMessage_short following behind margin short
  rcases urlmapdecode_nul uninit behind with ⟨map, isMap⟩
  have found : findMarker ([marker] ++ 0 :: behind) = some 0 := by
    rw [List.singleton_append, findMarker_cons_cons, if_pos isMarker]
  have memory : (decodeIn uninit before [marker] (following :: behind)).memory =
      replaceEndMarker (terminateMessage (before ++ [marker] ++ following :: behind) before.length
        [marker].length).1 (terminateMessage (before ++ [marker] ++ following :: behind)
          before.length [marker].length).2 := by
    unfold decodeIn mwSrbdecodemessage
    dsimp only
    rw [text, found]
    dsimp only
    rw [if_neg (show ([marker] ++ 0 :: behind).getD 0 0 ≠ srbRejectMarker from notReject),
      if_neg (Nat.not_lt.mpr (Nat.zero_le 32)),
      show ([marker] ++ 0 :: behind).drop (0 + 1) = 0 :: behind from rfl, isMap]
  rw [memory, ended]
  have last : before.length + [marker].length - 2 = before.length - 1 := rfl
  rw [last]
  by_cases isReturn : before[before.length - 1]? = some carriageReturn
  · rw [if_pos isReturn, replaceEndMarker, List.take_set_of_le (by omega), List.set_append_left _ _
      (by rw [List.length_set]; omega), List.set_set, List.take_left' (List.length_set ..)]
    grind [List.set_getElem_self]
  · rw [if_neg isReturn, replaceEndMarker, List.take_left]

theorem decodeIn_single_front (refused : isMarker marker = false ∨ marker = srbRejectMarker) :
    (decodeIn [] [0, carriageReturn] [marker] [0]).memory.take 2 ≠ [0, carriageReturn] := by
  rcases refused with notMarker | rfl
  · have memory : (decodeIn [] [0, carriageReturn] [marker] [0]).memory = [0, 0, marker, 0] := by
      unfold decodeIn mwSrbdecodemessage
      dsimp only
      rw [show (terminateMessage ([0, carriageReturn] ++ [marker] ++ [0]) [0, carriageReturn].length
        [marker].length).1 = [0, 0, marker, 0] from rfl, show [0, 0, marker, 0].drop
          [0, carriageReturn].length = [marker, 0] from rfl, findMarker_cons_cons, notMarker]
      rfl
    rw [memory, show [0, 0, marker, 0].take 2 = [0, 0] from rfl]
    decide
  · decide

end Marker

theorem decodesAlone_nil : ¬DecodesAlone [] := by
  intro alone
  have equal := alone.same [] [] [0, 0] [0] [0, 0] [0, srbRequestMarker] ⟨by decide, by decide⟩
    ⟨by decide, by decide⟩
  revert equal
  decide

section Alone

variable {message : List Byte}

theorem Surrounded.terminator {before behind : List Byte} (surrounded : Surrounded before behind) :
    ∃ following rest, behind = following :: rest := by
  cases behind with
  | nil => cases surrounded.behind
  | cons following rest => exact ⟨following, rest, rfl⟩

theorem DecodesAlone.of_text (text : List Byte) (nonempty : text ≠ [])
    (determined : TextDetermined text)
    (isText : ∀ (before : List Byte) (following : Byte) (behind : List Byte), 2 ≤ before.length →
      (terminateMessage (before ++ message ++ following :: behind) before.length
        message.length).1.drop before.length = text ++ 0 :: behind)
    (inFront : ∀ (uninit before : List Byte) (following : Byte) (behind : List Byte),
      2 ≤ before.length →
        (decodeIn uninit before message (following :: behind)).memory.take before.length = before) :
    DecodesAlone message where
  same := by
    intro uninit other before behind front back surrounded otherSurrounded
    rcases surrounded.terminator with ⟨following, rest, rfl⟩
    rcases otherSurrounded.terminator with ⟨next, later, rfl⟩
    rw [decodeIn_outcome, decodeIn_outcome, isText before following rest surrounded.before,
      isText front next later otherSurrounded.before]
    exact determined.same nonempty uninit other rest later
  inFront := by
    intro uninit before behind surrounded
    rcases surrounded.terminator with ⟨following, rest, rfl⟩
    exact inFront uninit before following rest surrounded.before
  beyond := by
    intro uninit before behind surrounded
    rcases surrounded.terminator with ⟨following, rest, rfl⟩
    have frame := mwSrbdecodemessage_frame uninit (before ++ message ++ following :: rest)
      surrounded.before (Nat.lt_succ_self (before.length + message.length))
    have place : before.length + message.length + 1 = (before ++ message).length + 1 := by
      rw [List.length_append]
    rw [decodeIn, frame.2, Nat.succ_eq_add_one, place, List.drop_append]
    simp

theorem decodesAlone_marker {marker : Byte} (isMarker : isMarker marker = true)
    (notReject : marker ≠ srbRejectMarker) : DecodesAlone [marker] :=
  DecodesAlone.of_text [marker] (List.cons_ne_nil _ _) (textDetermined_marker isMarker)
    (fun _ following behind margin =>
      terminateMessage_short_text following behind margin Nat.one_lt_two)
    (fun uninit _ following behind margin =>
      decodeIn_marker margin isMarker notReject uninit following behind)

theorem decodeIn_long_front (long : 2 ≤ message.length) (uninit before : List Byte)
    (following : Byte) (behind : List Byte) :
    (decodeIn uninit before message (following :: behind)).memory.take before.length = before := by
  rcases @terminateMessage_long before message following behind long with ⟨memory, within⟩
  have front : (terminateMessage (before ++ message ++ following :: behind) before.length
      message.length).1.take before.length = before := by
    rw [memory, List.take_left]
  grind [replaceEndMarker_take, decodeIn_memory]

theorem terminateMessage_long_text (long : 2 ≤ message.length) (before : List Byte)
    (following : Byte) (behind : List Byte) :
    (terminateMessage (before ++ message ++ following :: behind) before.length
        message.length).1.drop before.length = patched message ++ 0 :: behind := by
  rw [(terminateMessage_long following behind long).1, List.drop_left]

theorem patched_long (long : 2 ≤ message.length) : patched message ≠ [] :=
  patched_ne_nil (List.ne_nil_of_length_pos (Nat.zero_lt_of_lt long))

theorem decodesAlone_long (long : 2 ≤ message.length)
    (determined : TextDetermined (patched message)) : DecodesAlone message :=
  DecodesAlone.of_text (patched message) (patched_long long) determined
    (fun before following behind _ => terminateMessage_long_text long before following behind)
    (fun uninit before following behind _ =>
      decodeIn_long_front long uninit before following behind)

theorem DecodesAlone.textDetermined (long : 2 ≤ message.length)
    (alone : DecodesAlone message) : TextDetermined (patched message) := by
  refine TextDetermined.of_same (patched_long long) ?_
  intro uninit other behind back
  have equal := alone.same uninit other [0, 0] (0 :: behind) [0, 0] (0 :: back)
    ⟨Nat.le_refl 2, Nat.succ_pos _⟩ ⟨Nat.le_refl 2, Nat.succ_pos _⟩
  grind [decodeIn_outcome, terminateMessage_long_text]

/-- A message is decoded alone exactly when it is self-contained. -/
theorem decodesAlone_iff (message : List Byte) : DecodesAlone message ↔ SelfContained message := by
  constructor
  · intro alone
    cases message with
    | nil => exact absurd alone decodesAlone_nil
    | cons marker rest =>
        cases rest with
        | nil =>
            have front := alone.inFront [] [0, carriageReturn] [0] ⟨Nat.le_refl 2, Nat.le_refl 1⟩
            by_cases refused : isMarker marker = false ∨ marker = srbRejectMarker
            · exact absurd front (decodeIn_single_front refused)
            · rcases not_or.mp refused with ⟨isMarker, notReject⟩
              exact Or.inr ⟨marker, rfl, eq_true_of_ne_false isMarker, notReject⟩
        | cons second rest =>
            have long : 2 ≤ (marker :: second :: rest).length := Nat.le_add_left 2 rest.length
            exact Or.inl ⟨long, alone.textDetermined long⟩
  · rintro (⟨long, determined⟩ | ⟨marker, rfl, isMarker, notReject⟩)
    · exact decodesAlone_long long determined
    · exact decodesAlone_marker isMarker notReject

/-- On an empty line the search goes on behind the terminator, into the next message. -/
theorem emptyLine_readsNext : ¬∀ message : List Byte, DecodesAlone message := by
  intro all
  have equal := (all []).same [] [] [carriageReturn, lineFeed] [carriageReturn, lineFeed, 65, 0]
    [carriageReturn, lineFeed] [carriageReturn, lineFeed, 65, srbRequestMarker, 0]
    ⟨by decide, by decide⟩ ⟨by decide, by decide⟩
  revert equal
  decide

/-- The ampersand at the end of `X?a=b&` has a field behind the terminator read as well. -/
example : ¬DecodesAlone [88, 63, 97, 61, 98, 38] := by
  intro alone
  have equal := alone.same [] [] [0, 0] [0, 0] [0, 0] [0, 38, 99, 61, 100, 0]
    ⟨by decide, by decide⟩ ⟨by decide, by decide⟩
  revert equal
  decide

end Alone

end MidWay.Srb

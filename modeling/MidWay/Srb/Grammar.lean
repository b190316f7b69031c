import MidWay.Srb.Locality
import MidWay.Srb.MessageRoundTrip
import MidWay.Url.MapArray

/-!
Contract: SRB messages as the protocol writes them.

A message is a command, a marker and parameters with ampersands between them, each of them a
name, an equal sign and a value. An octet of a value is written as itself, as an escape, or, if
it is a blank, as a plus. The messages end with CR LF, or with a NUL.

Owns: that grammar, and that the decoder reads each message of it as what is written, whatever is
in memory around it, and without a fault.
-/

namespace MidWay.Srb

open MidWay.CLib MidWay.Url

def Ordinary (c : Byte) : Prop :=
  c ≠ 0 ∧ c ≠ percent ∧ c ≠ plus ∧ c ≠ equals ∧ c ≠ ampersand ∧ c ≠ carriageReturn

inductive Spelled : List Byte → List Byte → Prop
  | empty : Spelled [] []
  | ordinary {c : Byte} {text octets : List Byte} :
      Ordinary c → Spelled text octets → Spelled (c :: text) (c :: octets)
  | blank {text octets : List Byte} : Spelled text octets → Spelled (plus :: text) (32 :: octets)
  | escape {high low c : Byte} {text octets : List Byte} :
      unhex high low = some c → Spelled text octets →
        Spelled (percent :: high :: low :: text) (c :: octets)

structure Parameter where
  name : List Byte
  /-- The value as it is written. -/
  text : List Byte
  octets : List Byte
deriving DecidableEq, Repr

structure Parameter.WellFormed (parameter : Parameter) : Prop where
  named : parameter.name ≠ []
  letters : ∀ c ∈ parameter.name, isalnum c = true
  spelled : Spelled parameter.text parameter.octets

def Parameter.written (parameter : Parameter) : List Byte :=
  parameter.name ++ equals :: parameter.text

def parametersText (first : Parameter) (rest : List Parameter) : List Byte :=
  first.written ++ rest.flatMap fun parameter => ampersand :: parameter.written

inductive Ending : List Byte → Prop
  | boundry : Ending srbMessageBoundry
  | packet : Ending []
  | nul (rest : List Byte) : Ending (0 :: rest)

def parameterValue (parameters : List Parameter) (name : List Byte) : Option (List Byte) :=
  (parameters.find? fun parameter => strcaseeq name parameter.name).map Parameter.octets

def Parameter.entry (parameter : Parameter) : UrlmapEntry := ⟨parameter.name, some parameter.octets⟩

theorem unhex_digits {high low c : Byte} (isEscape : unhex high low = some c) :
    isxdigit high = true ∧ isxdigit low = true := by
  by_contra notDigits
  have isNone := unhex_eq_none_iff.mpr notDigits
  rw [isNone] at isEscape
  cases isEscape

section Value

variable {text octets : List Byte}

structure Unseparated (text : List Byte) : Prop where
  nul : 0 ∉ text
  amp : ampersand ∉ text
  equal : equals ∉ text
  boundry : carriageReturn ∉ text

theorem Unseparated.cons {c : Byte} (plain : c ≠ 0 ∧ c ≠ equals ∧ c ≠ ampersand ∧
    c ≠ carriageReturn) (unseparated : Unseparated text) : Unseparated (c :: text) := by
  obtain ⟨notNul, notEqual, notAmp, notReturn⟩ := plain
  constructor
  · exact List.not_mem_cons_of_ne_of_not_mem notNul.symm unseparated.nul
  · exact List.not_mem_cons_of_ne_of_not_mem notAmp.symm unseparated.amp
  · exact List.not_mem_cons_of_ne_of_not_mem notEqual.symm unseparated.equal
  · exact List.not_mem_cons_of_ne_of_not_mem notReturn.symm unseparated.boundry

theorem digit_plain {c : Byte} (isDigit : isxdigit c = true) :
    c ≠ 0 ∧ c ≠ equals ∧ c ≠ ampersand ∧ c ≠ carriageReturn := by
  refine ⟨?_, ?_, ?_, ?_⟩ <;> rintro rfl <;> revert isDigit <;> decide

theorem letter_plain {c : Byte} (isLetter : isalnum c = true) :
    (c ≠ 0 ∧ c ≠ equals ∧ c ≠ ampersand ∧ c ≠ carriageReturn) ∧ c ≠ percent ∧ c ≠ plus := by
  refine ⟨⟨?_, ?_, ?_, ?_⟩, ?_, ?_⟩ <;> rintro rfl <;> revert isLetter <;> decide

theorem unseparated_letters (letters : ∀ c ∈ text, isalnum c = true) : Unseparated text := by
  induction text with
  | nil => exact ⟨List.not_mem_nil, List.not_mem_nil, List.not_mem_nil, List.not_mem_nil⟩
  | cons c rest ih =>
      exact (ih fun other member => letters other (List.mem_cons_of_mem _ member)).cons
        (letter_plain (letters c List.mem_cons_self)).1

theorem spelled_letters (letters : ∀ c ∈ text, isalnum c = true) : Spelled text text := by
  induction text with
  | nil => exact .empty
  | cons c rest ih =>
      have plain := letter_plain (letters c List.mem_cons_self)
      exact .ordinary ⟨plain.1.1, plain.2.1, plain.2.2, plain.1.2.1, plain.1.2.2.1, plain.1.2.2.2⟩
        (ih fun other member => letters other (List.mem_cons_of_mem _ member))

theorem Spelled.unseparated (spelled : Spelled text octets) : Unseparated text := by
  induction spelled with
  | empty => exact ⟨List.not_mem_nil, List.not_mem_nil, List.not_mem_nil, List.not_mem_nil⟩
  | ordinary isOrdinary _ ih =>
      obtain ⟨notNul, _, _, notEqual, notAmp, notReturn⟩ := isOrdinary
      exact ih.cons ⟨notNul, notEqual, notAmp, notReturn⟩
  | blank _ ih => exact ih.cons (by decide)
  | escape isEscape _ ih =>
      have digits := unhex_digits isEscape
      exact ((ih.cons (digit_plain digits.2)).cons
        (digit_plain digits.1)).cons (by decide)

theorem urldecodeFrom_plus (remaining : Nat) (rest : List Byte) :
    urldecodeFrom (remaining + 1) (plus :: rest) = (urldecodeFrom remaining rest).store 32 := by
  have notPercent : plus ≠ percent := by decide
  rcases rest with _ | ⟨high, _ | ⟨low, rest⟩⟩ <;> simp [urldecodeFrom, notPercent]

theorem Spelled.decodedFrom (spelled : Spelled text octets) (rest : List Byte) :
    urldecodeFrom text.length (text ++ rest) = ⟨octets, true⟩ := by
  induction spelled with
  | empty => simp [urldecodeFrom]
  | ordinary isOrdinary _ ih =>
      rw [List.length_cons, List.cons_append,
        urldecodeFrom_plain isOrdinary.2.1 isOrdinary.2.2.1, ih, Decoded.store]
  | blank _ ih =>
      simp [List.length_cons, List.cons_append, urldecodeFrom_plus, ih, Decoded.store]
  | escape isEscape _ ih =>
      simp [List.length_cons, List.cons_append, urldecodeFrom_escape, isEscape, ih, Decoded.store]

theorem Spelled.decoded (spelled : Spelled text octets) {stop : Byte}
    (ends : stop = 0 ∨ stop = ampersand ∨ stop = equals) (behind : List Byte) :
    urldecode (text ++ stop :: behind) = ⟨octets, true⟩ := by
  have free := spelled.unseparated
  rw [urldecode, fieldLength_free free.nul free.amp free.equal ends, spelled.decodedFrom]

theorem Spelled.not_badEscape (spelled : Spelled text octets) : ¬BadEscape text := by
  induction spelled with
  | empty => exact not_badEscape_nil
  | ordinary isOrdinary _ ih =>
      rw [badEscape_cons isOrdinary.2.1]
      exact ih
  | blank _ ih =>
      rw [badEscape_cons (by decide)]
      exact ih
  | escape isEscape _ ih =>
      grind [badEscape_escape, unhex_digits]

end Value

namespace Parameter.WellFormed

variable {parameter : Parameter} (wellFormed : parameter.WellFormed)
include wellFormed

theorem unseparated_name : Unseparated parameter.name := unseparated_letters wellFormed.letters

theorem written_free :
    0 ∉ parameter.written ∧ ampersand ∉ parameter.written ∧ carriageReturn ∉ parameter.written := by
  have name := wellFormed.unseparated_name
  have value := wellFormed.spelled.unseparated
  have plain : (0 : Byte) ≠ equals ∧ ampersand ≠ equals ∧ carriageReturn ≠ equals := by decide
  simp [written, name.nul, name.amp, name.boundry, value.nul, value.amp, value.boundry, plain]

theorem written_long : ∃ first second behind, parameter.written = first :: second :: behind := by
  obtain ⟨first, others, isName⟩ := List.exists_cons_of_ne_nil wellFormed.named
  rw [written, isName]
  cases others with
  | nil => exact ⟨first, equals, parameter.text, rfl⟩
  | cons second more => exact ⟨first, second, _, rfl⟩

theorem fieldAt_written {stop : Byte} (ends : stop = 0 ∨ stop = ampersand) (behind : List Byte) :
    fieldAt (parameter.written ++ stop :: behind) =
      ⟨⟨parameter.name, true⟩, some ⟨parameter.octets, true⟩⟩ := by
  have name := wellFormed.unseparated_name
  have shape : parameter.written ++ stop :: behind =
      parameter.name ++ equals :: (parameter.text ++ stop :: behind) := by
    rw [written, List.append_assoc, List.cons_append]
  have key := (spelled_letters wellFormed.letters).decoded (.inr (.inr rfl))
    (parameter.text ++ stop :: behind)
  have value := wellFormed.spelled.decoded (ends.imp_right Or.inl) behind
  rw [fieldAt, shape, key, keyEnd_equals name.nul name.amp name.equal, Option.map_some, drop_behind,
    value]

theorem not_badPair : ¬BadPair parameter.written := by
  have name := wellFormed.unseparated_name
  have value := wellFormed.spelled.unseparated
  have key : keyPart parameter.written = parameter.name := takeWhile_ne_append name.equal _
  have text : valuePart parameter.written = parameter.text := by
    rw [valuePart, written, dropWhile_ne_append name.equal _, List.drop_one, List.tail_cons,
      takeWhile_ne_self value.equal]
  rw [BadPair, key, text, not_or]
  exact ⟨(spelled_letters wellFormed.letters).not_badEscape, wellFormed.spelled.not_badEscape⟩

/-- One turn of the scanner. -/
theorem urlmapdecodeFrom_written (uninit : List Byte) (turns : Nat) {stop : Byte}
    (ends : stop = 0 ∨ stop = ampersand) (behind : List Byte) :
    urlmapdecodeFrom uninit (turns + 1) (parameter.written ++ stop :: behind) =
      MapDecoded.push parameter.entry true
        (if stop = ampersand then urlmapdecodeFrom uninit turns (skipExcess behind)
          else ⟨some [], none⟩) := by
  have field := wellFormed.fieldAt_written ends behind
  have free := wellFormed.written_free
  have isEntry : (⟨⟨parameter.name, true⟩, some ⟨parameter.octets, true⟩⟩ : Field).entry uninit =
      parameter.entry := by
    rw [Field.entry, keyString, if_pos rfl, cstr_eq_self wellFormed.unseparated_name.nul]
    rfl
  have fieldOk : ¬(fieldAt (parameter.written ++ stop :: behind)).Malformed := by
    rw [field]
    exact Bool.false_ne_true
  rw [urlmapdecodeFrom_wellFormed fieldOk, field, isEntry]
  obtain rfl | rfl := ends
  · rw [strchr_append free.1 free.2.1, strchr_nul, if_neg (by decide)]
    rfl
  · rw [strchr_ampersand free.1 free.2.1, if_pos rfl, Option.elim_some, drop_behind]

end Parameter.WellFormed

section Parameters

variable {first : Parameter} {rest : List Parameter}

theorem parametersText_cons (first next : Parameter) (rest : List Parameter) :
    parametersText first (next :: rest) = first.written ++ ampersand :: parametersText next rest := by
  rw [parametersText, parametersText, List.flatMap_cons, List.cons_append]

/-- Every parameter is read; the scanner never stands in front of two ampersands. -/
theorem urlmapdecodeFrom_parameters (uninit behind : List Byte) :
    ∀ {first : Parameter} {turns : Nat}, rest.length < turns →
      (∀ parameter ∈ first :: rest, parameter.WellFormed) →
        urlmapdecodeFrom uninit turns (parametersText first rest ++ 0 :: behind) =
          ⟨some ((first :: rest).map Parameter.entry), none⟩ := by
  induction rest with
  | nil =>
      intro first turns enough wellFormed
      obtain ⟨fewer, rfl⟩ := Nat.exists_eq_succ_of_ne_zero (Nat.ne_zero_of_lt enough)
      rw [parametersText, List.flatMap_nil, List.append_nil,
        (wellFormed first List.mem_cons_self).urlmapdecodeFrom_written uninit fewer (.inl rfl),
        if_neg (by decide)]
      rfl
  | cons next rest ih =>
      intro first turns enough wellFormed
      obtain ⟨fewer, rfl⟩ := Nat.exists_eq_succ_of_ne_zero (Nat.ne_zero_of_lt enough)
      have later : ∀ parameter ∈ next :: rest, parameter.WellFormed := fun parameter member =>
        wellFormed parameter (List.mem_cons_of_mem _ member)
      have nextOk := later next List.mem_cons_self
      obtain ⟨one, two, more, isLong⟩ := nextOk.written_long
      have notAmp : two ≠ ampersand := by
        intro isAmp
        apply nextOk.written_free.2.1
        simp [isLong, isAmp, List.mem_cons_of_mem]
      have stays : skipExcess (parametersText next rest ++ 0 :: behind) =
          parametersText next rest ++ 0 :: behind := by
        rw [parametersText, isLong, List.cons_append, List.cons_append, List.cons_append,
          List.cons_append]
        exact skipExcess_stay notAmp _
      rw [List.length_cons] at enough
      rw [parametersText_cons, List.append_assoc, List.cons_append,
        (wellFormed first List.mem_cons_self).urlmapdecodeFrom_written uninit fewer (.inr rfl),
        if_pos rfl, stays, ih (by omega) later]
      rfl

section WellFormed

variable (wellFormed : ∀ parameter ∈ first :: rest, parameter.WellFormed)
include wellFormed

theorem parametersText_free : 0 ∉ parametersText first rest ∧
    carriageReturn ∉ parametersText first rest := by
  induction rest generalizing first with
  | nil =>
      have free := (wellFormed first List.mem_cons_self).written_free
      simp_all [parametersText, List.flatMap_nil, List.append_nil]
  | cons next rest ih =>
      have free := (wellFormed first List.mem_cons_self).written_free
      have later := ih fun parameter member =>
        wellFormed parameter (List.mem_cons_of_mem _ member)
      have plain : (0 : Byte) ≠ ampersand ∧ carriageReturn ≠ ampersand := by decide
      simp [parametersText_cons, free, later, plain]

theorem parametersText_clean : ¬HasBadEscape (parametersText first rest) := by
  induction rest generalizing first with
  | nil =>
      have firstOk := wellFormed first List.mem_cons_self
      rw [parametersText, List.flatMap_nil, List.append_nil,
        hasBadEscape_single firstOk.written_free.2.1]
      exact firstOk.not_badPair
  | cons next rest ih =>
      have firstOk := wellFormed first List.mem_cons_self
      rw [parametersText_cons, hasBadEscape_append firstOk.written_free.2.1, not_or]
      exact ⟨firstOk.not_badPair, ih fun parameter member =>
        wellFormed parameter (List.mem_cons_of_mem _ member)⟩

theorem getLast?_parametersText : (parametersText first rest).getLast? ≠ some ampersand := by
  induction rest generalizing first with
  | nil =>
      intro isLast
      apply (wellFormed first List.mem_cons_self).written_free.2.1
      grind [parametersText, List.flatMap_nil, List.append_nil]
  | cons next rest ih =>
      have later : ∀ parameter ∈ next :: rest, parameter.WellFormed := fun parameter member =>
        wellFormed parameter (List.mem_cons_of_mem _ member)
      obtain ⟨one, two, more, isLong⟩ := (later next List.mem_cons_self).written_long
      have shape : parametersText next rest ≠ [] := by
        simp [parametersText, isLong, List.cons_ne_nil]
      grind [parametersText_cons, List.getLast, List.singleton_append]

theorem urlmapdecodeArray_parameters (left : Nat → MapCell) (next : Byte) (behind : List Byte) :
    ∃ returned, urlmapdecodeArray left (parametersText first rest ++ 0 :: next :: behind) =
      .ok returned := by
  have clean : ¬HasBadEscape (parametersText first rest) ∧
      ¬((parametersText first rest).getLast? = some ampersand ∧ next = ampersand) :=
    ⟨parametersText_clean wellFormed, fun both => getLast?_parametersText wellFormed both.1⟩
  obtain ⟨isMap, memory, result, _⟩ :=
    (urlmapdecode_refuses_iff (parametersText_free wellFormed).1 next).mpr clean left behind
  exact ⟨(isMap, memory), result⟩

end WellFormed

end Parameters

def messageFront (command : List Byte) (marker : Byte) (first : Parameter)
    (rest : List Parameter) : List Byte :=
  command ++ marker :: parametersText first rest

/-- Whatever ends the message, the decoder reads up to there. -/
theorem patched_ending {text ending behind : List Byte} (noReturn : carriageReturn ∉ text)
    (long : 2 ≤ text.length) (ends : Ending ending) (more : behind ≠ []) :
    ∃ next rest, patched (text ++ ending) ++ 0 :: behind = text ++ 0 :: next :: rest := by
  obtain ⟨next, rest, rfl⟩ := List.exists_cons_of_ne_nil more
  cases ends with
  | boundry =>
      have place : (text ++ srbMessageBoundry).length - 2 = text.length := by
        rw [List.length_append]
        exact Nat.add_sub_cancel ..
      have isReturn : (text ++ srbMessageBoundry)[text.length]? = some carriageReturn := by
        rw [List.getElem?_append_right (Nat.le_refl _), Nat.sub_self]
        rfl
      refine ⟨lineFeed, 0 :: next :: rest, ?_⟩
      rw [patched, place, if_pos ⟨by rw [List.length_append]; omega, isReturn⟩, srbMessageBoundry,
        set_behind, List.append_assoc]
      rfl
  | packet =>
      have notReturn : ¬(2 ≤ text.length ∧ text[text.length - 2]? = some carriageReturn) := by
        grind
      simp_all [List.append_nil, patched, if_neg]
  | nul other =>
      rw [patched]
      split_ifs with isReturn
      · -- the carriage return lies behind the NUL
        have length : (text ++ 0 :: other).length = text.length + other.length + 1 := by
          grind
        have beyond : text.length < (text ++ 0 :: other).length - 2 := by
          by_contra notBeyond
          rcases Nat.lt_or_eq_of_le (Nat.not_lt.mp notBeyond) with inText | atNul
          · grind
          · rw [atNul, List.getElem?_append_right (Nat.le_refl _), Nat.sub_self] at isReturn
            cases isReturn.2
        obtain ⟨offset, isOffset⟩ := Nat.exists_eq_add_of_lt beyond
        rw [isOffset, List.set_append_right _ _ (by omega),
          show text.length + offset + 1 - text.length = offset + 1 by omega, List.set_cons_succ,
          List.append_assoc, List.cons_append]
        cases other.set offset 0 with
        | nil => exact ⟨0, next :: rest, rfl⟩
        | cons one others => exact ⟨one, others ++ 0 :: next :: rest, rfl⟩
      · rw [List.append_assoc, List.cons_append]
        cases other with
        | nil => exact ⟨0, next :: rest, rfl⟩
        | cons one others => exact ⟨one, others ++ 0 :: next :: rest, rfl⟩

section Message

variable {command : List Byte} {marker : Byte}
  (plain : ∀ c ∈ command, c ≠ 0 ∧ isMarker c = false) (isMark : isMarker marker = true)
include plain isMark

theorem findMarker_message (fields : List Byte) :
    findMarker (command ++ marker :: fields) = some command.length ∧
      (command ++ marker :: fields).getD command.length 0 = marker ∧
      (command ++ marker :: fields).drop (command.length + 1) = fields := by
  refine ⟨findMarker_append fields plain isMark, ?_, drop_behind command marker fields⟩
  simp

theorem decodeText_message {first : Parameter} {rest : List Parameter}
    (short : command.length ≤ 32) (notReject : marker ≠ srbRejectMarker)
    (wellFormed : ∀ parameter ∈ first :: rest, parameter.WellFormed) (uninit behind : List Byte) :
    decodeText uninit (messageFront command marker first rest ++ 0 :: behind) =
      (some ⟨command, marker, (first :: rest).map Parameter.entry⟩, none) := by
  have nulFree : 0 ∉ command := fun member => (plain 0 member).1 rfl
  have found := findMarker_message plain isMark (parametersText first rest ++ 0 :: behind)
  have turns : rest.length < (parametersText first rest ++ 0 :: behind).length + 1 := by
    have each : rest.length ≤ (parametersText first rest).length := by
      clear found wellFormed
      induction rest generalizing first with
      | nil => exact Nat.zero_le _
      | cons next rest ih =>
          grind [parametersText_cons, List.length_append, List.length_cons]
    rw [List.length_append]
    omega
  rw [messageFront, List.append_assoc, List.cons_append, decodeText, found.1]
  simp_all [found, if_neg, urlmapdecode, urlmapdecodeFrom_parameters, List.take_left, cstr_eq_self]

end Message

/-- The map has the value of each name. -/
theorem urlmapgetvalue_parameters (parameters : List Parameter) (name : List Byte) :
    urlmapgetvalue (parameters.map Parameter.entry) name = parameterValue parameters name := by
  induction parameters with
  | nil => rfl
  | cons parameter rest ih =>
      rw [urlmapgetvalue, urlmapget] at ih ⊢
      rw [parameterValue] at ih ⊢
      rw [List.map_cons, List.findIdx?_cons, List.find?_cons]
      have same : strcaseeq name parameter.entry.key = strcaseeq name parameter.name := rfl
      rw [same]
      cases strcaseeq name parameter.name with
      | true => rfl
      | false =>
          rw [← ih]
          cases (rest.map Parameter.entry).findIdx? fun entry => strcaseeq name entry.key with
          | none => rfl
          | some index => rfl

end MidWay.Srb

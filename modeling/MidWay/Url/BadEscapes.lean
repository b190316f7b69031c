import Mathlib.Data.List.TakeWhile
import MidWay.Url.FieldScan

/-!
Contract: bad escapes in a text, and what the scan of `urlmapdecode` makes of them.

The pairs of a text stand between its ampersands. A key ends at the first equal sign of
its pair, and the value at the next one, where `urldecode` stops as well.

Owns: `BadEscape`, the keys and values of a text, that a field is decoded to its end
unless it has a bad escape, and that the scan of a text meets every bad escape in it, or
a value with one before.
-/

namespace MidWay.Url

open MidWay.CLib

variable {stop : Byte}

/-- A percent sign is not followed by two hexadecimal digits. -/
def BadEscape (text : List Byte) : Prop :=
  ∃ front back, text = front ++ percent :: back ∧
    ¬∃ high low rest, back = high :: low :: rest ∧ isxdigit high = true ∧ isxdigit low = true

def keyPart (pair : List Byte) : List Byte := pair.takeWhile (· != equals)

def valuePart (pair : List Byte) : List Byte :=
  ((pair.dropWhile (· != equals)).drop 1).takeWhile (· != equals)

def BadPair (pair : List Byte) : Prop := BadEscape (keyPart pair) ∨ BadEscape (valuePart pair)

/-- Some key or some value of the text has a bad escape. -/
def HasBadEscape (text : List Byte) : Prop := ∃ pair ∈ text.splitOn ampersand, BadPair pair

section

variable {c high low : Byte} {rest : List Byte}

theorem not_badEscape_nil : ¬BadEscape [] := by
  intro given
  obtain ⟨front, back, same, _⟩ := given
  cases front <;> cases same

theorem badEscape_cons (notPercent : c ≠ percent) : BadEscape (c :: rest) ↔ BadEscape rest := by
  constructor
  · intro given
    obtain ⟨front, back, same, bad⟩ := given
    cases front with
    | nil =>
        simp_all
    | cons first others =>
        cases same
        exact ⟨others, back, rfl, bad⟩
  · intro given
    obtain ⟨front, back, same, bad⟩ := given
    exact ⟨c :: front, back, congrArg (c :: ·) same, bad⟩

theorem isxdigit_ne_percent (isDigit : isxdigit c = true) : c ≠ percent := by
  intro isPercent
  rw [isPercent] at isDigit
  exact absurd isDigit (by decide)

theorem badEscape_escape (isHigh : isxdigit high = true) (isLow : isxdigit low = true) :
    BadEscape (percent :: high :: low :: rest) ↔ BadEscape rest := by
  have digits : BadEscape (high :: low :: rest) ↔ BadEscape rest :=
    (badEscape_cons (isxdigit_ne_percent isHigh)).trans (badEscape_cons (isxdigit_ne_percent isLow))
  rw [← digits]
  constructor
  · intro given
    obtain ⟨front, back, same, bad⟩ := given
    cases front with
    | nil =>
        grind
    | cons first others => exact ⟨others, back, (List.cons.inj same).2, bad⟩
  · intro given
    obtain ⟨front, back, same, bad⟩ := given
    exact ⟨percent :: front, back, congrArg (percent :: ·) same, bad⟩

theorem takeWhile_ne_self {text : List Byte} (absent : stop ∉ text) :
    text.takeWhile (· != stop) = text := by
  grind [List.takeWhile_eq_self_iff]

theorem takeWhile_ne_append {text : List Byte} (absent : stop ∉ text) (behind : List Byte) :
    (text ++ stop :: behind).takeWhile (· != stop) = text := by
  grind [List.takeWhile_append_of_pos, List.takeWhile_cons_of_neg]

theorem dropWhile_ne_append {text : List Byte} (absent : stop ∉ text) (behind : List Byte) :
    (text ++ stop :: behind).dropWhile (· != stop) = stop :: behind := by
  grind [List.dropWhile_append_of_pos, List.dropWhile_cons_of_neg]

theorem dropWhile_ne_nil {text : List Byte} (absent : stop ∉ text) :
    text.dropWhile (· != stop) = [] := by
  grind [List.dropWhile_eq_nil_iff]

theorem hexValue_isSome (digit : Byte) : (hexValue digit).isSome = isxdigit digit := by
  grind [hexValue, isxdigit]

theorem unhex_eq_none_iff :
    unhex high low = none ↔ ¬(isxdigit high = true ∧ isxdigit low = true) := by
  grind [hexValue_isSome, unhex, hexValue]

theorem complete_urldecodeFrom_cons (notPercent : c ≠ percent) (remaining : Nat) :
    (urldecodeFrom (remaining + 1) (c :: rest)).complete = (urldecodeFrom remaining rest).complete := by
  by_cases isPlus : c = plus
  · have plain : plus ≠ percent := by decide
    obtain _ | ⟨high, _ | ⟨low, rest⟩⟩ := rest
    · simp [urldecodeFrom, isPlus, plain, Decoded.store]
    · simp [urldecodeFrom, isPlus, plain, Decoded.store]
    · simp [urldecodeFrom, isPlus, plain, Decoded.store]
  · rw [urldecodeFrom_plain notPercent isPlus]
    rfl

theorem urldecodeFrom_percent_stop (notDigit : isxdigit stop = false) (behind : List Byte) :
    ¬(urldecodeFrom 1 (percent :: stop :: behind)).complete = true := by
  cases behind with
  | nil => simp [urldecodeFrom]
  | cons next behind =>
      have none : unhex stop next = none := unhex_eq_none_iff.mpr (by simp [notDigit])
      simp [urldecodeFrom, none]

theorem urldecodeFrom_digit_stop (notDigit : isxdigit stop = false) (behind : List Byte) :
    ¬(urldecodeFrom 2 (percent :: high :: stop :: behind)).complete = true := by
  have none : unhex high stop = none := unhex_eq_none_iff.mpr (by simp [notDigit])
  simp [urldecodeFrom, none]

/-- A field is decoded to its end unless it has a bad escape; what is behind it is no digit. -/
theorem urldecodeFrom_complete_iff (notDigit : isxdigit stop = false) (behind word : List Byte) :
    (urldecodeFrom word.length (word ++ stop :: behind)).complete = true ↔ ¬BadEscape word := by
  induction length : word.length using Nat.strongRecOn generalizing word with
  | ind size ih =>
      have shorter : ∀ rest : List Byte, rest.length < size →
          ((urldecodeFrom rest.length (rest ++ stop :: behind)).complete = true ↔
            ¬BadEscape rest) := fun rest less => ih _ less rest rfl
      rw [← length] at shorter ⊢
      obtain _ | ⟨c, rest⟩ := word
      · exact iff_of_true (by rw [List.length_nil, urldecodeFrom]) not_badEscape_nil
      · by_cases isPercent : c = percent
        · rw [isPercent]
          obtain _ | ⟨high, _ | ⟨low, rest⟩⟩ := rest
          · exact iff_of_false (urldecodeFrom_percent_stop notDigit behind) (not_not_intro
              ⟨[], [], rfl, by simp⟩)
          · exact iff_of_false (urldecodeFrom_digit_stop notDigit behind) (not_not_intro
              ⟨[], [high], rfl, by simp⟩)
          · dsimp only [List.length_cons, List.cons_append]
            rw [urldecodeFrom_escape]
            by_cases digits : isxdigit high = true ∧ isxdigit low = true
            · obtain ⟨value, isValue⟩ := Option.ne_none_iff_exists'.mp
                (mt unhex_eq_none_iff.mp (not_not_intro digits))
              rw [isValue, badEscape_escape digits.1 digits.2]
              exact shorter rest (by dsimp only [List.length_cons]; omega)
            · rw [unhex_eq_none_iff.mpr digits]
              refine iff_of_false Bool.false_ne_true (not_not_intro ⟨[], _, rfl, ?_⟩)
              simp [digits]
        · rw [badEscape_cons isPercent, ← shorter rest (Nat.lt_succ_self _), List.length_cons,
            List.cons_append, complete_urldecodeFrom_cons isPercent]

end

theorem drop_behind (front : List Byte) (stop : Byte) (behind : List Byte) :
    (front ++ stop :: behind).drop (front.length + 1) = behind := by
  simp

section Pair

variable {text : List Byte} (nulFree : 0 ∉ text) (ampFree : ampersand ∉ text)
include nulFree ampFree

theorem strchr_ampersand (behind : List Byte) :
    strchr (text ++ ampersand :: behind) ampersand = some text.length := by
  rw [strchr_append nulFree ampFree, strchr_self (by decide), Option.map_some, Nat.zero_add]

theorem urldecode_complete_iff (ends : stop = 0 ∨ stop = ampersand) (behind : List Byte) :
    (urldecode (text ++ stop :: behind)).complete = true ↔ ¬BadEscape (keyPart text) := by
  rw [urldecode, keyPart]
  by_cases more : equals ∈ text
  · obtain ⟨key, rest, rfl, equalsFree⟩ := List.eq_append_cons_of_mem more
    rw [List.mem_append, not_or] at nulFree ampFree
    rw [List.append_assoc, List.cons_append,
      fieldLength_free nulFree.1 ampFree.1 equalsFree (.inr (.inr rfl)),
      takeWhile_ne_append equalsFree]
    exact urldecodeFrom_complete_iff (by decide) _ key
  · rw [fieldLength_free nulFree ampFree more (ends.imp_right Or.inl), takeWhile_ne_self more]
    refine urldecodeFrom_complete_iff ?_ behind text
    obtain rfl | rfl := ends
    · decide
    · decide

/-- A pair is read to its end unless it has a bad escape. -/
theorem fieldAt_pair (ends : stop = 0 ∨ stop = ampersand) (behind : List Byte) :
    ((fieldAt (text ++ stop :: behind)).key.complete = true ↔ ¬BadEscape (keyPart text)) ∧
      ((fieldAt (text ++ stop :: behind)).Malformed ↔ BadEscape (valuePart text)) := by
  refine ⟨urldecode_complete_iff nulFree ampFree ends behind, ?_⟩
  unfold Field.Malformed fieldAt valuePart
  by_cases more : equals ∈ text
  · obtain ⟨key, rest, rfl, equalsFree⟩ := List.eq_append_cons_of_mem more
    rw [List.mem_append, not_or, List.mem_cons, not_or] at nulFree ampFree
    have decoded := urldecode_complete_iff nulFree.2.2 ampFree.2.2 ends behind
    rw [List.append_assoc, List.cons_append, keyEnd_equals nulFree.1 ampFree.1 equalsFree,
      Option.map_some, drop_behind, dropWhile_ne_append equalsFree, List.drop_one, List.tail_cons,
      Option.any_some, Bool.not_eq_true', ← Bool.not_eq_true, decoded, keyPart, not_not]
  · rw [keyEnd_none nulFree ampFree more ends, dropWhile_ne_nil more]
    exact iff_of_false Bool.false_ne_true not_badEscape_nil

end Pair

section Text

variable {pair rest text : List Byte}

theorem not_badPair_nil : ¬BadPair [] := not_or_intro not_badEscape_nil not_badEscape_nil

theorem hasBadEscape_single (ampFree : ampersand ∉ text) : HasBadEscape text ↔ BadPair text := by
  simp_all [HasBadEscape, List.splitOn_eq_singleton, exists_eq_left]

theorem hasBadEscape_append (ampFree : ampersand ∉ pair) :
    HasBadEscape (pair ++ ampersand :: rest) ↔ BadPair pair ∨ HasBadEscape rest := by
  rw [HasBadEscape, List.splitOn_append_cons_self, List.splitOn_eq_singleton ampFree,
    List.singleton_append, List.exists_mem_cons_iff]
  rfl

theorem hasBadEscape_behind (front : List Byte) (bad : HasBadEscape rest) :
    HasBadEscape (front ++ ampersand :: rest) := by
  obtain ⟨pair, member, isBad⟩ := bad
  refine ⟨pair, ?_, isBad⟩
  simp_all [List.splitOn_append_cons_self, List.mem_append_right]

theorem skipExcess_suffix (text : List Byte) : skipExcess text <:+ text := by
  induction text with
  | nil => exact List.suffix_refl _
  | cons current rest ih =>
      cases rest with
      | nil => exact List.suffix_refl _
      | cons next rest =>
          grind [skipExcess, List.suffix_refl]

theorem skipExcess_ne_nil (nonempty : text ≠ []) : skipExcess text ≠ [] := by
  induction text with
  | nil => exact absurd rfl nonempty
  | cons current rest ih =>
      cases rest with
      | nil => exact nonempty
      | cons next rest =>
          grind [skipExcess]

/-- The skip can step over a key of one byte, but does not make a bad escape. -/
theorem hasBadEscape_of_skipExcess (bad : HasBadEscape (skipExcess text)) : HasBadEscape text := by
  induction text with
  | nil => exact bad
  | cons current rest ih =>
      cases rest with
      | nil => exact bad
      | cons next rest =>
          rw [skipExcess] at bad
          split_ifs at bad with isAmp
          · have later := ih bad
            rw [isAmp] at later ⊢
            have behind := ((hasBadEscape_append (List.not_mem_nil (a := ampersand))).mp
              later).resolve_left not_badPair_nil
            exact hasBadEscape_behind [current] behind
          · exact bad

theorem getLast?_skipExcess (nonempty : text ≠ []) : (skipExcess text).getLast? = text.getLast? := by
  obtain ⟨front, isSuffix⟩ := skipExcess_suffix text
  conv => rhs; rw [← isSuffix, List.getLast?_append_of_ne_nil _ (skipExcess_ne_nil nonempty)]

/-- The scan of a text without bad escapes comes to its end, and looks behind it after a last
ampersand. -/
theorem scanFields_clean {turns : Nat} (enough : text.length < turns) (nulFree : 0 ∉ text)
    (clean : ¬HasBadEscape text) :
    (∀ field ∈ (scanFields turns text).1, ¬field.Malformed) ∧
      ((scanFields turns text).2 = true ↔ text.getLast? = some ampersand) := by
  induction turns generalizing text with
  | zero => exact absurd enough (Nat.not_lt_zero _)
  | succ turns ih =>
      rw [scanFields]
      by_cases more : ampersand ∈ text
      · obtain ⟨pair, rest, rfl, ampFree⟩ := List.eq_append_cons_of_mem more
        rw [hasBadEscape_append ampFree, not_or, BadPair, not_or] at clean
        rw [List.mem_append, not_or, List.mem_cons, not_or] at nulFree
        have wellFormed : ¬(fieldAt (pair ++ ampersand :: rest)).Malformed :=
          mt (fieldAt_pair nulFree.1 ampFree (.inr rfl) rest).2.mp clean.1.2
        rw [if_neg wellFormed, strchr_ampersand nulFree.1 ampFree]
        dsimp only
        rw [drop_behind, List.getLast?_append_of_ne_nil _ (List.cons_ne_nil _ _)]
        split_ifs with atEnd
        · simp_all
        · have within := (skipExcess_suffix rest)
          have shorter := within.length_le
          rw [List.length_append, List.length_cons] at enough
          have later := ih (by omega)
            (fun member => nulFree.2.2 (within.subset member))
            (mt hasBadEscape_of_skipExcess clean.2)
          rw [getLast?_skipExcess atEnd] at later
          grind
      · have wellFormed : ¬(fieldAt text).Malformed := by
          rw [← fieldAt_ended text []]
          rw [hasBadEscape_single more, BadPair, not_or] at clean
          exact mt (fieldAt_pair nulFree more (.inl rfl) []).2.mp clean.2
        have absent : strchr text ampersand = none := by
          rw [← strchr_ended text [], strchr_append nulFree more, strchr_nul, Option.map_none]
        grind

end Text

end MidWay.Url

import MidWay.Url.Map

/-!
Contract: `urlmapdecode` reads at most one byte behind the terminator.

The scanner looks at `value_end[1]`, one byte behind a NUL it may stand on. With
a line feed there, as in a receive buffer, that look changes nothing, and the
result depends on nothing behind it. The text in front may contain NULs.

Owns: what the readers make of a text and its terminator, and the independence of the result
from the bytes behind `NUL LF`.
-/

namespace MidWay.Url

open MidWay.CLib

variable {text : List Byte} {position : Nat}

theorem cstr_length_le (text : List Byte) : (cstr text).length ≤ text.length :=
  (List.takeWhile_prefix _).length_le

theorem clip_le (len : Nat) (found : Option Nat) : clip len found ≤ len := by
  cases found with
  | none => exact Nat.le_refl _
  | some position =>
      grind [clip]

theorem fieldLength_le (text : List Byte) : fieldLength text ≤ text.length :=
  calc fieldLength text ≤ clip (strlen text) (strchr text ampersand) := clip_le _ _
    _ ≤ strlen text := clip_le _ _
    _ ≤ text.length := cstr_length_le text

theorem unhex_nul_left (low : Byte) : unhex 0 low = none := by
  simp [unhex, hexValue, isdigit, isxdigit]

theorem unhex_nul_right (high : Byte) : unhex high 0 = none := by
  unfold unhex
  have noValue : hexValue 0 = none := by decide
  rw [noValue]
  cases hexValue high <;> rfl

theorem strchr_lt {c : Byte} (found : strchr text c = some position) : position < text.length := by
  have inString : position < (cstr text).length :=
    (List.findIdx?_eq_some_iff_findIdx_eq.mp found).1
  exact Nat.lt_of_lt_of_le inString (cstr_length_le text)

theorem keyEnd_lt (found : keyEnd text = some position) :
    position < text.length := by
  unfold keyEnd at found
  split at found
  · rename_i equal amp equalAt ampAt
    split_ifs at found
    cases found
    exact strchr_lt equalAt
  · exact strchr_lt found

theorem strchr_ended (text behind : List Byte) (c : Byte) :
    strchr (text ++ 0 :: behind) c = strchr text c := by
  rw [strchr, cstr_append_nul, strchr]

theorem fieldLength_ended (text behind : List Byte) :
    fieldLength (text ++ 0 :: behind) = fieldLength text := by
  rw [fieldLength, strlen, cstr_append_nul, strchr_ended, strchr_ended, fieldLength, strlen]

theorem keyEnd_ended (text behind : List Byte) : keyEnd (text ++ 0 :: behind) = keyEnd text := by
  rw [keyEnd, strchr_ended, strchr_ended, keyEnd]

/-- An escape that is cut off is malformed, with or without the terminator. -/
theorem urldecodeFrom_ended (behind : List Byte) {remaining : Nat}
    (within : remaining ≤ text.length) :
    urldecodeFrom remaining (text ++ 0 :: behind) = urldecodeFrom remaining text := by
  induction remaining using Nat.strongRecOn generalizing text with
  | ind remaining ih =>
      cases remaining with
      | zero => simp [urldecodeFrom]
      | succ remaining =>
          cases text with
          | nil => simp at within
          | cons c rest =>
              have shorter : remaining ≤ rest.length := by simpa using within
              have later := ih remaining (by omega) shorter
              by_cases isPercent : c = percent
              · cases rest with
                | nil => cases behind <;> simp [urldecodeFrom, isPercent, unhex_nul_left]
                | cons high rest =>
                    cases rest with
                    | nil => simp [urldecodeFrom, isPercent, unhex_nul_right]
                    | cons low rest =>
                        have restLonger : remaining - 2 ≤ rest.length := by
                          simp_all [List.length_cons]
                        have behindEscape := ih (remaining - 2) (by omega) restLonger
                        simp only [List.cons_append, urldecodeFrom, isPercent, if_true, behindEscape]
              · simp only [List.cons_append]
                unfold urldecodeFrom
                simp only [if_neg isPercent, later]

theorem urldecode_ended (text behind : List Byte) :
    urldecode (text ++ 0 :: behind) = urldecode text := by
  rw [urldecode, fieldLength_ended, urldecodeFrom_ended behind (fieldLength_le text), urldecode]

/-- The skip stays in front of the terminator, unless it starts there. -/
theorem skipExcess_ended (nonempty : text ≠ []) :
    (∀ behind, skipExcess (text ++ 0 :: behind) = skipExcess text ++ 0 :: behind) ∧
      (skipExcess text).length ≤ text.length := by
  induction text with
  | nil => exact absurd rfl nonempty
  | cons current text ih =>
      cases text with
      | nil => exact ⟨fun behind => by simp [skipExcess, ampersand], Nat.le_refl _⟩
      | cons next text =>
          by_cases isAmp : next = ampersand
          · rcases ih (List.cons_ne_nil _ _) with ⟨skipped, shorter⟩
            refine ⟨?_, ?_⟩
            · simp_all [List.cons_append, skipExcess]
            · rw [skipExcess, if_pos isAmp]
              exact Nat.le_trans shorter (Nat.le_succ _)
          · simp [skipExcess, isAmp, List.length]

/-- A text, its terminator, the line feed left of its boundary, and what is
behind it. -/
def terminated (text behind : List Byte) : List Byte := text ++ 0 :: 10 :: behind

theorem strchr_terminated (text behind : List Byte) (c : Byte) :
    strchr (terminated text behind) c = strchr text c :=
  strchr_ended text (10 :: behind) c

theorem urldecode_terminated (first second text : List Byte) :
    urldecode (terminated text first) = urldecode (terminated text second) :=
  (urldecode_ended text (10 :: first)).trans (urldecode_ended text (10 :: second)).symm

theorem keyEnd_terminated (text behind : List Byte) :
    keyEnd (terminated text behind) = keyEnd text :=
  keyEnd_ended text (10 :: behind)

theorem drop_terminated (within : position ≤ text.length) (behind : List Byte) :
    (terminated text behind).drop position = terminated (text.drop position) behind := by
  rw [terminated, List.drop_append_of_le_length within, terminated]

theorem skipExcess_terminated (text : List Byte) :
    ∃ rest, rest.length ≤ text.length ∧
      ∀ behind, skipExcess (terminated text behind) = terminated rest behind := by
  cases text with
  | nil => exact ⟨[], Nat.le_refl _, fun behind => by simp [terminated, skipExcess, ampersand]⟩
  | cons current rest =>
      rcases skipExcess_ended (List.cons_ne_nil current rest) with ⟨skipped, shorter⟩
      exact ⟨skipExcess (current :: rest), shorter, fun behind => skipped (10 :: behind)⟩

/-- One turn for one field; the induction is on the length of the text, which
every turn shortens. -/
theorem urlmapdecodeFrom_terminated (uninit first second : List Byte) {turns others : Nat}
    (enough : text.length < turns) (enoughOthers : text.length < others) :
    urlmapdecodeFrom uninit turns (terminated text first) =
      urlmapdecodeFrom uninit others (terminated text second) := by
  induction turns generalizing text others with
  | zero => omega
  | succ turns ih =>
      obtain ⟨others, rfl⟩ : ∃ fewer, others = fewer + 1 := ⟨others - 1, by omega⟩
      have sameValue :
          ((keyEnd text).map fun equal =>
              urldecode ((terminated text first).drop (equal + 1))) =
            (keyEnd text).map fun equal =>
              urldecode ((terminated text second).drop (equal + 1)) := by
        cases found : keyEnd text with
        | none => rfl
        | some equal =>
            grind [drop_terminated, urldecode_terminated, keyEnd_lt]
      have sameRest : ∀ amp, strchr text ampersand = some amp →
          urlmapdecodeFrom uninit turns (skipExcess ((terminated text first).drop (amp + 1))) =
            urlmapdecodeFrom uninit others
              (skipExcess ((terminated text second).drop (amp + 1))) := by
        intro amp found
        have within : amp + 1 ≤ text.length := strchr_lt found
        obtain ⟨rest, shorter, skipped⟩ := skipExcess_terminated (text.drop (amp + 1))
        rw [List.length_drop] at shorter
        rw [drop_terminated within, drop_terminated within, skipped, skipped]
        exact ih (by omega) (by omega)
      rw [urlmapdecodeFrom, urlmapdecodeFrom]
      simp only [keyEnd_terminated, strchr_terminated, urldecode_terminated first second,
        sameValue]
      cases found : strchr text ampersand with
      | none => rfl
      | some amp => simp only [sameRest amp found]

theorem urlmapdecode_terminated (uninit first second text : List Byte) :
    urlmapdecode uninit (terminated text first) =
      urlmapdecode uninit (terminated text second) := by
  apply urlmapdecodeFrom_terminated
  · grind [terminated, List.length_append]
  · grind [terminated, List.length_append]

end MidWay.Url

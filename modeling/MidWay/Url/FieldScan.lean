import MidWay.Url.Locality

/-!
Contract: for which texts `urlmapdecode` depends on the text alone.

The scan of a text is the list of its fields, up to the end or to a value with a
malformed escape, and whether it looks behind the terminator on the way: it does when
the text ends with the ampersand of a field. What is behind may then be read as more
fields. A key with a malformed escape is not terminated, and goes on with what its
block held before.

Owns: `mapScan`, the result of `urlmapdecode` by the scan, and `Determined`.
-/

namespace MidWay.Url

open MidWay.CLib

/-- A field, as its key and its value are decoded. -/
structure Field where
  key : Decoded
  value : Option Decoded
deriving DecidableEq

def fieldAt (next : List Byte) : Field :=
  ⟨urldecode next, (keyEnd next).map fun equal => urldecode (next.drop (equal + 1))⟩

def Field.Malformed (field : Field) : Prop := field.value.any fun value => !value.complete

instance (field : Field) : Decidable field.Malformed :=
  inferInstanceAs (Decidable ((field.value.any fun value => !value.complete) = true))

def Field.entry (uninit : List Byte) (field : Field) : UrlmapEntry :=
  ⟨keyString uninit field.key, field.value.map Decoded.plain⟩

/-- The fields, and whether the byte behind the terminator is looked at. -/
def scanFields : Nat → List Byte → List Field × Bool
  | 0, _ => ([], false)
  | turns + 1, next =>
      if (fieldAt next).Malformed then ([fieldAt next], false)
      else
        match strchr next ampersand with
        | none => ([fieldAt next], false)
        | some amp =>
            if next.drop (amp + 1) = [] then ([fieldAt next], true)
            else
              let later := scanFields turns (skipExcess (next.drop (amp + 1)))
              (fieldAt next :: later.1, later.2)

def mapScan (text : List Byte) : List Field × Bool := scanFields (text.length + 1) text

/-- The map of some fields, with that of what comes behind them. -/
def assemble (uninit : List Byte) (tail : MapDecoded) : List Field → MapDecoded
  | [] => tail
  | field :: rest =>
      if field.Malformed then ⟨none, some .EINVAL⟩
      else (assemble uninit tail rest).push (field.entry uninit) field.key.complete

section Turn

variable {uninit next : List Byte} {turns : Nat}

theorem urlmapdecodeFrom_malformed (malformed : (fieldAt next).Malformed) :
    urlmapdecodeFrom uninit (turns + 1) next = ⟨none, some .EINVAL⟩ := by
  unfold Field.Malformed fieldAt at malformed
  rw [urlmapdecodeFrom]
  cases found : (keyEnd next).map fun equal => urldecode (next.drop (equal + 1)) with
  | none => simp [found] at malformed
  | some value =>
      rcases value with ⟨plain, complete⟩
      simp_all [found]

theorem urlmapdecodeFrom_wellFormed (wellFormed : ¬(fieldAt next).Malformed) :
    urlmapdecodeFrom uninit (turns + 1) next =
      ((strchr next ampersand).elim ⟨some [], none⟩ fun amp =>
        urlmapdecodeFrom uninit turns (skipExcess (next.drop (amp + 1)))).push
          ((fieldAt next).entry uninit) (fieldAt next).key.complete := by
  unfold Field.Malformed fieldAt at wellFormed
  rw [urlmapdecodeFrom]
  cases found : (keyEnd next).map fun equal => urldecode (next.drop (equal + 1)) with
  | none =>
      simp only [Field.entry, fieldAt, found]
      cases strchr next ampersand with
      | none => rfl
      | some amp => rfl
  | some value =>
      rcases value with ⟨plain, complete⟩
      cases complete with
      | false => simp [found] at wellFormed
      | true =>
          simp only [Field.entry, fieldAt, found]
          cases strchr next ampersand with
          | none => rfl
          | some amp => rfl

end Turn

theorem fieldAt_ended (text behind : List Byte) :
    fieldAt (text ++ 0 :: behind) = fieldAt text := by
  rw [fieldAt, fieldAt, urldecode_ended, keyEnd_ended]
  cases found : keyEnd text with
  | none => rfl
  | some equal =>
      have within : equal + 1 ≤ text.length := keyEnd_lt found
      simp_all [Option.map_some, List.drop_append_of_le_length, urldecode_ended]

variable {text : List Byte}

theorem drop_field {amp : Nat} (found : strchr text ampersand = some amp) (behind : List Byte) :
    (text ++ 0 :: behind).drop (amp + 1) = text.drop (amp + 1) ++ 0 :: behind :=
  List.drop_append_of_le_length (strchr_lt found)

theorem skipExcess_shorter {amp : Nat} (found : strchr text ampersand = some amp)
    (more : text.drop (amp + 1) ≠ []) :
    (skipExcess (text.drop (amp + 1))).length < text.length := by
  have within := strchr_lt found
  have shorter := (skipExcess_ended more).2
  rw [List.length_drop] at shorter
  omega

/-- The number of turns does not matter when there are enough. -/
theorem scanFields_enough {turns : Nat} (enough : text.length < turns) :
    scanFields turns text = mapScan text := by
  unfold mapScan
  have either : ∀ (turns others : Nat) (text : List Byte), text.length < turns →
      text.length < others → scanFields turns text = scanFields others text := by
    intro turns
    induction turns with
    | zero =>
        omega
    | succ turns ih =>
        intro others text enough enoughOthers
        rcases Nat.exists_eq_succ_of_ne_zero (Nat.ne_zero_of_lt enoughOthers) with ⟨fewer, rfl⟩
        rw [scanFields, scanFields]
        split_ifs with malformed
        · rfl
        · cases found : strchr text ampersand with
          | none => rfl
          | some amp =>
              dsimp only
              by_cases atEnd : text.drop (amp + 1) = []
              · rw [if_pos atEnd, if_pos atEnd]
              · have shorter := skipExcess_shorter found atEnd
                rw [if_neg atEnd, if_neg atEnd,
                  ih fewer (skipExcess (text.drop (amp + 1))) (by omega) (by omega)]
  exact either turns (text.length + 1) text enough (Nat.lt_succ_self _)

/-- What comes behind the fields: nothing, or what is read behind the terminator. -/
def beyond (uninit : List Byte) (left : Nat) (behind : List Byte) (peeks : Bool) : MapDecoded :=
  if peeks then urlmapdecodeFrom uninit left (skipExcess (0 :: behind)) else ⟨some [], none⟩

theorem urlmapdecodeFrom_scan (uninit behind : List Byte) (turns : Nat) :
    ∀ text : List Byte, text.length < turns → ∃ left, turns ≤ left + text.length ∧
      urlmapdecodeFrom uninit turns (text ++ 0 :: behind) =
        assemble uninit (beyond uninit left behind (scanFields turns text).2)
          (scanFields turns text).1 := by
  induction turns with
  | zero =>
      omega
  | succ turns ih =>
      intro text enough
      have field := fieldAt_ended text behind
      by_cases malformed : (fieldAt text).Malformed
      · refine ⟨turns + 1, Nat.le_add_right _ _, ?_⟩
        rw [urlmapdecodeFrom_malformed (by rw [field]; exact malformed), scanFields,
          if_pos malformed, assemble, if_pos malformed]
      · have wellFormed : ¬(fieldAt (text ++ 0 :: behind)).Malformed := by
          rw [field]
          exact malformed
        rw [urlmapdecodeFrom_wellFormed wellFormed, field, strchr_ended, scanFields,
          if_neg malformed]
        cases found : strchr text ampersand with
        | none =>
            refine ⟨turns + 1, Nat.le_add_right _ _, ?_⟩
            rw [assemble, if_neg malformed]
            rfl
        | some amp =>
            have within := strchr_lt found
            dsimp only [Option.elim]
            rw [drop_field found]
            by_cases atEnd : text.drop (amp + 1) = []
            · refine ⟨turns, by omega, ?_⟩
              rw [if_pos atEnd, atEnd, assemble, if_neg malformed]
              rfl
            · have shorter := skipExcess_shorter found atEnd
              rcases ih (skipExcess (text.drop (amp + 1))) (by omega) with
                ⟨left, enoughLeft, decoded⟩
              refine ⟨left, by omega, ?_⟩
              simp_all [if_neg, skipExcess_ended, decoded, assemble]

theorem urlmapdecode_scan (uninit text behind : List Byte) :
    ∃ left, behind.length + 2 ≤ left ∧ urlmapdecode uninit (text ++ 0 :: behind) =
      assemble uninit (beyond uninit left behind (mapScan text).2) (mapScan text).1 := by
  have length : (text ++ 0 :: behind).length = text.length + behind.length + 1 := by
    rw [List.length_append, List.length_cons]
    omega
  rcases urlmapdecodeFrom_scan uninit behind ((text ++ 0 :: behind).length + 1) text (by omega) with
    ⟨left, enough, decoded⟩
  refine ⟨left, by omega, ?_⟩
  rw [urlmapdecode, decoded, scanFields_enough (by omega)]

def Field.KeyEnds (field : Field) : Prop := field.key.complete = true ∨ 0 ∈ field.key.plain

/-- A value with a malformed escape ends the scan, or the scan stays in front of the terminator
and every key in its block. -/
def Determined (text : List Byte) : Prop :=
  (∃ field ∈ (mapScan text).1, field.Malformed) ∨
    ((mapScan text).2 = false ∧ ∀ field ∈ (mapScan text).1, field.KeyEnds)

variable {fields : List Field}

theorem assemble_malformed {uninit : List Byte} {tail : MapDecoded}
    (malformed : ∃ field ∈ fields, field.Malformed) :
    assemble uninit tail fields = ⟨none, some .EINVAL⟩ := by
  induction fields with
  | nil =>
      simp_all
  | cons field rest ih =>
      rw [assemble]
      by_cases isMalformed : field.Malformed
      · rw [if_pos isMalformed]
      · have later : ∃ other ∈ rest, other.Malformed := by
          rcases malformed with ⟨other, member, otherMalformed⟩
          rcases List.mem_cons.mp member with rfl | inRest
          · exact absurd otherMalformed isMalformed
          · exact ⟨other, inRest, otherMalformed⟩
        rw [if_neg isMalformed, ih later]
        cases field.key.complete <;> rfl

theorem assemble_map (uninit : List Byte) (tail : MapDecoded)
    (wellFormed : ∀ field ∈ fields, ¬field.Malformed) :
    (assemble uninit tail fields).map =
      tail.map.map fun entries => fields.map (Field.entry uninit) ++ entries := by
  induction fields with
  | nil => exact (Option.map_id' ..).symm
  | cons field rest ih =>
      rw [assemble, if_neg (wellFormed field List.mem_cons_self)]
      unfold MapDecoded.push
      rw [ih fun other member => wellFormed other (List.mem_cons_of_mem _ member),
        Option.map_map]
      rfl

theorem Field.KeyEnds.entry {field : Field} (ends : field.KeyEnds) (uninit other : List Byte) :
    field.entry uninit = field.entry other := by
  have string : keyString uninit field.key = keyString other field.key := by
    unfold keyString
    rcases ends with complete | hasNul
    · simp [complete]
    · rcases List.append_of_mem hasNul with ⟨front, back, split⟩
      simp [split, List.append_assoc, List.cons_append, cstr_append_nul]
  rw [Field.entry, Field.entry, string]

theorem assemble_same (ends : ∀ field ∈ fields, field.KeyEnds) (tail : MapDecoded)
    (uninit other : List Byte) :
    assemble uninit tail fields = assemble other tail fields := by
  induction fields with
  | nil => rfl
  | cons field rest ih =>
      rw [assemble, assemble, (ends field List.mem_cons_self).entry uninit other,
        ih fun field member => ends field (List.mem_cons_of_mem _ member)]

theorem Determined.same (determined : Determined text) (uninit other behind back : List Byte) :
    urlmapdecode uninit (text ++ 0 :: behind) = urlmapdecode other (text ++ 0 :: back) := by
  rcases urlmapdecode_scan uninit text behind with ⟨left, _, first⟩
  rcases urlmapdecode_scan other text back with ⟨right, _, second⟩
  rw [first, second]
  rcases determined with malformed | ⟨inside, ends⟩
  · rw [assemble_malformed malformed, assemble_malformed malformed]
  · rw [inside]
    exact assemble_same ends _ uninit other

theorem beyond_ends {left : Nat} (enough : 1 ≤ left) (uninit : List Byte) :
    ∃ entries, (beyond uninit left [] true).map = some entries := by
  rcases Nat.exists_eq_add_of_le' enough with ⟨turns, rfl⟩
  exact ⟨_, rfl⟩

theorem beyond_malformed {left : Nat} (enough : 2 ≤ left) (uninit : List Byte) :
    (beyond uninit left [ampersand, equals, percent] true).map = none := by
  rcases Nat.exists_eq_add_of_le' enough with ⟨turns, rfl⟩
  rfl

theorem Field.keyString_ne {field : Field} (goesOn : ¬field.KeyEnds) :
    keyString [] field.key ≠ keyString [65] field.key := by
  unfold Field.KeyEnds at goesOn
  rw [not_or] at goesOn
  have plain : 0 ∉ field.key.plain ++ [65] := by
    simp [goesOn]
  rw [keyString, if_neg goesOn.1, keyString, if_neg goesOn.1, List.append_nil,
    cstr_eq_self goesOn.2, cstr_eq_self plain]
  intro same
  have lengths := congrArg List.length same
  rw [List.length_append, List.length_singleton] at lengths
  omega

/-- A text that is not determined has two results. -/
theorem Determined.of_same {text : List Byte}
    (same : ∀ uninit other behind back, (urlmapdecode uninit (text ++ 0 :: behind)).map =
      (urlmapdecode other (text ++ 0 :: back)).map) : Determined text := by
  by_cases malformed : ∃ field ∈ (mapScan text).1, field.Malformed
  · exact Or.inl malformed
  · have wellFormed : ∀ field ∈ (mapScan text).1, ¬field.Malformed := by
      intro field member isMalformed
      exact malformed ⟨field, member, isMalformed⟩
    have inside : (mapScan text).2 = false := by
      by_contra peeks
      have looks := eq_true_of_ne_false peeks
      rcases urlmapdecode_scan [] text [] with ⟨left, enough, first⟩
      rcases urlmapdecode_scan [] text [ampersand, equals, percent] with ⟨right, enoughRight, second⟩
      have equal := same [] [] [] [ampersand, equals, percent]
      rcases beyond_ends (show 1 ≤ left by omega) [] with ⟨entries, isMap⟩
      rw [first, second, assemble_map _ _ wellFormed, assemble_map _ _ wellFormed, looks,
        isMap, beyond_malformed (by omega)] at equal
      cases equal
    refine Or.inr ⟨inside, ?_⟩
    intro field member
    by_contra goesOn
    rcases urlmapdecode_scan [] text [] with ⟨left, _, first⟩
    rcases urlmapdecode_scan [65] text [] with ⟨right, _, second⟩
    have equal := same [] [65] [] []
    rw [first, second, assemble_map _ _ wellFormed, assemble_map _ _ wellFormed, inside] at equal
    have entries := List.map_inj_left.mp (List.append_cancel_right (Option.some.inj equal)) field
      member
    exact Field.keyString_ne goesOn (congrArg UrlmapEntry.key entries)

end MidWay.Url

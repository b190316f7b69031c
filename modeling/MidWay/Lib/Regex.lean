import Mathlib.Data.List.TakeWhile
import Mathlib.Tactic.Common

/-!
Contract: expressions with numbered groups, matched against whole texts.

What a group captures is the part of the text that it matches. A repetition is one of a class
of letters, which is the only one these expressions need.

Owns: `Regex`, the matches as a relation, the search for a match by trying all of them, and that
the search finds one exactly when there is one.
-/

namespace MidWay.Lib

variable {α : Type}

inductive Regex (α : Type) where
  | empty
  | one (letter : α → Bool)
  /-- Any number of letters of a class, none too. -/
  | many (letter : α → Bool)
  | seq (first second : Regex α)
  | alt (left right : Regex α)
  | group (number : Nat) (inner : Regex α)

abbrev Captures (α : Type) := List (Nat × List α)

namespace Regex

def many1 (letter : α → Bool) : Regex α := .seq (.one letter) (.many letter)

def opt (inner : Regex α) : Regex α := .alt inner .empty

def word (same : α → α → Bool) : List α → Regex α
  | [] => .empty
  | c :: rest => .seq (.one (same c)) (word same rest)

inductive Matches : Regex α → List α → Captures α → Prop
  | empty : Matches .empty [] []
  | one {letter : α → Bool} {c : α} : letter c = true → Matches (.one letter) [c] []
  | many {letter : α → Bool} {text : List α} :
      (∀ c ∈ text, letter c = true) → Matches (.many letter) text []
  | seq {first second : Regex α} {front back : List α} {captures others : Captures α} :
      Matches first front captures → Matches second back others →
        Matches (.seq first second) (front ++ back) (captures ++ others)
  | left {left right : Regex α} {text : List α} {captures : Captures α} :
      Matches left text captures → Matches (.alt left right) text captures
  | right {left right : Regex α} {text : List α} {captures : Captures α} :
      Matches right text captures → Matches (.alt left right) text captures
  | group {number : Nat} {inner : Regex α} {text : List α} {captures : Captures α} :
      Matches inner text captures → Matches (.group number inner) text ((number, text) :: captures)

section Inversion

variable {letter : α → Bool} {inner first second : Regex α} {number : Nat} {text : List α}
  {captures : Captures α}

theorem matches_empty_iff : Matches .empty text captures ↔ text = [] ∧ captures = [] := by
  constructor
  · intro given
    cases given
    exact ⟨rfl, rfl⟩
  · intro given
    obtain ⟨rfl, rfl⟩ := given
    exact .empty

theorem matches_many1_iff : Matches (many1 letter) text captures ↔
    captures = [] ∧ text ≠ [] ∧ ∀ c ∈ text, letter c = true := by
  constructor
  · intro given
    cases given with
    | seq isFirst isRest =>
        cases isFirst with
        | one isLetter =>
            cases isRest with
            | many letters =>
                exact ⟨rfl, List.cons_ne_nil _ _, List.forall_mem_cons.mpr ⟨isLetter, letters⟩⟩
  · intro given
    obtain ⟨rfl, nonempty, letters⟩ := given
    obtain ⟨c, rest, rfl⟩ := List.exists_cons_of_ne_nil nonempty
    obtain ⟨isLetter, others⟩ := List.forall_mem_cons.mp letters
    exact @Matches.seq _ _ _ [c] rest [] [] (.one isLetter) (.many others)

theorem matches_opt_iff : Matches (opt inner) text captures ↔
    Matches inner text captures ∨ text = [] ∧ captures = [] := by
  constructor
  · intro given
    cases given with
    | left isInner => exact .inl isInner
    | right isEmpty =>
        cases isEmpty
        exact .inr ⟨rfl, rfl⟩
  · intro given
    rcases given with isInner | ⟨rfl, rfl⟩
    · exact .left isInner
    · exact .right .empty

theorem matches_group_iff : Matches (.group number inner) text captures ↔
    ∃ captured, captures = (number, text) :: captured ∧ Matches inner text captured := by
  constructor
  · intro given
    cases given with
    | group isInner => exact ⟨_, rfl, isInner⟩
  · intro given
    obtain ⟨captured, rfl, isInner⟩ := given
    exact .group isInner

theorem matches_seq_iff : Matches (.seq first second) text captures ↔
    ∃ front back captured others, text = front ++ back ∧ captures = captured ++ others ∧
      Matches first front captured ∧ Matches second back others := by
  constructor
  · intro given
    cases given with
    | seq isFirst isSecond => exact ⟨_, _, _, _, rfl, rfl, isFirst, isSecond⟩
  · intro given
    obtain ⟨front, back, captured, others, rfl, rfl, isFirst, isSecond⟩ := given
    exact .seq isFirst isSecond

theorem matches_alt_iff : Matches (.alt first second) text captures ↔
    Matches first text captures ∨ Matches second text captures := by
  constructor
  · intro given
    cases given with
    | left isFirst => exact .inl isFirst
    | right isSecond => exact .inr isSecond
  · intro given
    rcases given with isFirst | isSecond
    · exact .left isFirst
    · exact .right isSecond

theorem matches_one_iff : Matches (.one letter) text captures ↔
    captures = [] ∧ ∃ c, text = [c] ∧ letter c = true := by
  constructor
  · intro given
    cases given with
    | one isLetter => exact ⟨rfl, _, rfl, isLetter⟩
  · intro given
    obtain ⟨rfl, c, rfl, isLetter⟩ := given
    exact .one isLetter

theorem matches_many_iff : Matches (.many letter) text captures ↔
    captures = [] ∧ ∀ c ∈ text, letter c = true := by
  constructor
  · intro given
    cases given with
    | many letters => exact ⟨rfl, letters⟩
  · intro given
    obtain ⟨rfl, letters⟩ := given
    exact .many letters

theorem matches_word_iff {same : α → α → Bool} {letters : List α} :
    Matches (word same letters) text captures ↔
      captures = [] ∧ List.Forall₂ (fun letter c => same letter c = true) letters text := by
  induction letters generalizing text captures with
  | nil =>
      constructor
      · intro given
        cases given
        exact ⟨rfl, .nil⟩
      · intro given
        obtain ⟨rfl, isWord⟩ := given
        cases isWord
        exact .empty
  | cons letter rest ih =>
      rw [word, matches_seq_iff]
      constructor
      · intro given
        obtain ⟨front, back, captured, others, rfl, rfl, isFirst, isRest⟩ := given
        obtain ⟨rfl, c, rfl, isSame⟩ := matches_one_iff.mp isFirst
        obtain ⟨rfl, isWord⟩ := ih.mp isRest
        exact ⟨rfl, .cons isSame isWord⟩
      · intro given
        obtain ⟨rfl, isWord⟩ := given
        cases isWord with
        | @cons _ c _ others isSame isRest =>
            exact ⟨[c], others, [], [], rfl, rfl, matches_one_iff.mpr ⟨rfl, c, rfl, isSame⟩,
              ih.mpr ⟨rfl, isRest⟩⟩

end Inversion

structure Parse (α : Type) where
  taken : List α
  rest : List α
  captures : Captures α

/-- All matches of the fronts, the longest runs first. -/
def parses : Regex α → List α → List (Parse α)
  | .empty, text => [⟨[], text, []⟩]
  | .one _, [] => []
  | .one letter, c :: rest => if letter c then [⟨[c], rest, []⟩] else []
  | .many letter, text =>
      (List.range ((text.takeWhile letter).length + 1)).reverse.map fun length =>
        ⟨text.take length, text.drop length, []⟩
  | .seq first second, text =>
      (first.parses text).flatMap fun front =>
        (second.parses front.rest).map fun back =>
          ⟨front.taken ++ back.taken, back.rest, front.captures ++ back.captures⟩
  | .alt left right, text => left.parses text ++ right.parses text
  | .group number inner, text =>
      (inner.parses text).map fun parse =>
        { parse with captures := (number, parse.taken) :: parse.captures }

def exec (expression : Regex α) (text : List α) : Option (Captures α) :=
  ((expression.parses text).find? fun parse => parse.rest.isEmpty).map Parse.captures

theorem mem_parses_iff (expression : Regex α) (text taken rest : List α) (captures : Captures α) :
    ⟨taken, rest, captures⟩ ∈ expression.parses text ↔
      taken ++ rest = text ∧ Matches expression taken captures := by
  induction expression generalizing text taken rest captures with
  | empty =>
      grind [parses, List.mem_singleton, Parse.mk.injEq, matches_empty_iff]
  | one letter =>
      rw [matches_one_iff]
      constructor
      · intro member
        cases text with
        | nil => cases member
        | cons c others =>
            simp_all [parses]
      · intro given
        obtain ⟨rfl, rfl, c, rfl, isLetter⟩ := given
        rw [List.singleton_append, parses, if_pos isLetter]
        exact List.mem_singleton_self _
  | many letter =>
      rw [parses, List.mem_map, matches_many_iff]
      constructor
      · intro given
        obtain ⟨length, isLength, same⟩ := given
        cases same
        rw [List.mem_reverse, List.mem_range] at isLength
        have within : text.take length <+: text.takeWhile letter :=
          List.prefix_of_prefix_length_le (List.take_prefix _ _) (List.takeWhile_prefix _)
            (by rw [List.length_take]; omega)
        exact ⟨List.take_append_drop _ _, rfl,
          fun c member => List.mem_takeWhile_imp (within.subset member)⟩
      · intro given
        obtain ⟨rfl, rfl, letters⟩ := given
        refine ⟨taken.length, ?_, ?_⟩
        · rw [List.mem_reverse, List.mem_range, List.takeWhile_append_of_pos letters,
            List.length_append]
          omega
        · rw [List.take_left, List.drop_left]
  | seq first second firstHypothesis secondHypothesis =>
      rw [parses, List.mem_flatMap, matches_seq_iff]
      constructor
      · intro given
        obtain ⟨front, isFront, member⟩ := given
        obtain ⟨back, isBack, same⟩ := List.mem_map.mp member
        obtain ⟨frontText, frontMatch⟩ := (firstHypothesis _ _ _ _).mp isFront
        obtain ⟨backText, backMatch⟩ := (secondHypothesis _ _ _ _).mp isBack
        cases same
        refine ⟨?_, _, _, _, _, rfl, rfl, frontMatch, backMatch⟩
        rw [List.append_assoc, backText, frontText]
      · intro given
        obtain ⟨rfl, front, back, captured, others, rfl, rfl, frontMatch, backMatch⟩ := given
        refine ⟨⟨front, back ++ rest, captured⟩, ?_,
          List.mem_map.mpr ⟨⟨back, rest, others⟩, ?_, rfl⟩⟩
        · exact (firstHypothesis _ _ _ _).mpr ⟨(List.append_assoc ..).symm, frontMatch⟩
        · exact (secondHypothesis _ _ _ _).mpr ⟨rfl, backMatch⟩
  | alt left right leftHypothesis rightHypothesis =>
      rw [parses, List.mem_append, leftHypothesis, rightHypothesis, matches_alt_iff, and_or_left]
  | group number inner ih =>
      rw [parses, List.mem_map, matches_group_iff]
      constructor
      · intro given
        obtain ⟨found, isFound, same⟩ := given
        obtain ⟨isText, isMatch⟩ := (ih _ _ _ _).mp isFound
        cases same
        exact ⟨isText, found.captures, rfl, isMatch⟩
      · intro given
        obtain ⟨isText, captured, rfl, isInner⟩ := given
        exact ⟨⟨taken, rest, captured⟩, (ih _ _ _ _).mpr ⟨isText, isInner⟩, rfl⟩

section Exec

variable {expression : Regex α} {text : List α} {captures : Captures α}

theorem matches_of_exec (found : expression.exec text = some captures) :
    Matches expression text captures := by
  obtain ⟨⟨taken, rest, captured⟩, isParse, rfl⟩ := Option.map_eq_some_iff.mp found
  obtain ⟨isText, isMatch⟩ :=
    (mem_parses_iff expression text taken rest captured).mp (List.mem_of_find?_eq_some isParse)
  have isEnd : rest = [] := List.isEmpty_iff.mp
    (@List.find?_some _ (fun other : Parse α => other.rest.isEmpty) _ _ isParse)
  rw [isEnd, List.append_nil] at isText
  rw [← isText]
  exact isMatch

theorem exec_of_matches (isMatch : Matches expression text captures) :
    ∃ found, expression.exec text = some found := by
  have member : ⟨text, [], captures⟩ ∈ expression.parses text :=
    (mem_parses_iff expression text _ _ _).mpr ⟨List.append_nil _, isMatch⟩
  cases found : (expression.parses text).find? fun parse => parse.rest.isEmpty with
  | none =>
      grind
  | some parse => exact ⟨parse.captures, by rw [exec, found]; rfl⟩

theorem exec_none_iff :
    expression.exec text = none ↔ ∀ captures, ¬Matches expression text captures := by
  constructor
  · intro isNone captures isMatch
    obtain ⟨found, isFound⟩ := exec_of_matches isMatch
    rw [isNone] at isFound
    cases isFound
  · intro noMatch
    cases found : expression.exec text with
    | none => rfl
    | some captures => exact absurd (matches_of_exec found) (noMatch captures)

end Exec

end Regex

end MidWay.Lib

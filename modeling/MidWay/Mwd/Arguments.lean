import Mathlib.Algebra.Group.Nat.Even
import Mathlib.Data.List.Basic
import MidWay.CLib.Bytes

/-!
Contract: how the argument line of a server is split.

`parseargs` goes through the line once, with a buffer for the word that it is in; the buffer
is doubled when it is almost full. A word that has ended is known by a blank behind it, and
the last one by what is in the buffer. A backslash is handled with the character behind it.

Owns: `parseargs`, the words of a line as a shell has them, and the exact condition under
which the first gives the second.
-/

namespace MidWay.Mwd.Arguments

open MidWay.CLib

/-- A byte is stored outside the buffer, a byte behind the terminator of the line is read, or an
`int` passes its largest value. -/
inductive Fault where
  | outside
  | behind
  | overflow
deriving DecidableEq

def intMaximum : Nat := 2147483647

def backslash : Byte := 92

def isQuote (c : Byte) : Bool := c == 39 || c == 34

def escaped (c : Byte) : Byte :=
  if c = 92 then 92
  else if c = 110 then 10
  else if c = 116 then 9
  else if c = 114 then 13
  else if c = 101 then 27
  else if c = 102 then 12
  else c

/-- The arguments behind the first, the buffer of length `l` with `di` bytes in it, the quote that is
open, and whether the word has not begun (`start == here`). -/
structure Parsing where
  args : List (List Byte)
  buffer : List Byte
  l : Nat
  quotechar : Option Byte
  atStart : Bool

def Parsing.start : Parsing := ⟨[], [], 8, none, true⟩

def Parsing.grow (parsing : Parsing) : Except Fault Parsing :=
  if parsing.l - 4 < parsing.buffer.length then
    if intMaximum < parsing.l * 2 then .error .overflow
    else .ok { parsing with l := parsing.l * 2 }
  else .ok parsing

def Parsing.store (parsing : Parsing) (c : Byte) : Except Fault Parsing :=
  if parsing.l ≤ parsing.buffer.length then .error .outside
  else .ok { parsing with buffer := parsing.buffer ++ [c], atStart := false }

/-- The buffer is terminated and becomes an argument; `argcount` is one more than the length of
`args`. -/
def Parsing.addArgument (parsing : Parsing) : Except Fault Parsing :=
  if parsing.l ≤ parsing.buffer.length then .error .outside
  else if intMaximum < parsing.args.length + 1 + 2 then .error .overflow
  else .ok { Parsing.start with args := parsing.args ++ [parsing.buffer] }

def Parsing.finish (parsing : Parsing) : Except Fault (List (List Byte)) :=
  if parsing.buffer = [] then .ok parsing.args
  else parsing.addArgument.map Parsing.args

/-- The byte behind a backslash; when that is the terminator, the loop goes on behind it. -/
def Parsing.takeEscaped (parsing : Parsing) : List Byte → Except Fault (Parsing × List Byte)
  | [] => .error .behind
  | e :: rest => (parsing.store (escaped e)).map fun stored => (stored, rest)

/-- What is done about the byte `c`, and what is left of the line. -/
def Parsing.take (parsing : Parsing) (c : Byte) (rest : List Byte) :
    Except Fault (Parsing × List Byte) :=
  if parsing.atStart && isspace c then .ok (parsing, rest)
  else if parsing.quotechar.isSome then
    if parsing.quotechar = some c then .ok ({ parsing with quotechar := none }, rest)
    else (parsing.store c).map fun stored => (stored, rest)
  else if c = backslash then parsing.takeEscaped rest
  else if isQuote c then .ok ({ parsing with quotechar := some c, atStart := false }, rest)
  else if isspace c then parsing.addArgument.map fun added => (added, rest)
  else (parsing.store c).map fun stored => (stored, rest)

def Parsing.turn (parsing : Parsing) (c : Byte) (rest : List Byte) :
    Except Fault (Parsing × List Byte) :=
  parsing.grow.bind fun grown => grown.take c rest

/-- Every turn takes a byte at least, so `turns` is never used up when it is not less than the number
of bytes. -/
def Parsing.run : Nat → Parsing → List Byte → Except Fault (List (List Byte))
  | turns + 1, parsing, c :: rest =>
      (parsing.turn c rest).bind fun after => Parsing.run turns after.1 after.2
  | _, parsing, _ => parsing.finish

def parseargs (line : List Byte) (arg0 : Option (List Byte)) : Except Fault (List (List Byte)) :=
  (Parsing.run line.length Parsing.start line).map fun args => arg0.getD [] :: args

/-- What is known of a line: the words that have ended, the one that has begun, the quote that is
open, and whether a backslash stands for the next character. -/
structure Reading where
  words : List (List Byte)
  current : Option (List Byte)
  quote : Option Byte
  escape : Bool
deriving DecidableEq

def Reading.start : Reading := ⟨[], none, none, false⟩

def Reading.add (reading : Reading) (c : Byte) : Reading :=
  { reading with current := some (reading.current.getD [] ++ [c]) }

def Reading.read (reading : Reading) (c : Byte) : Reading :=
  if reading.escape then { reading.add (escaped c) with escape := false }
  else if reading.quote.isSome then
    if reading.quote = some c then { reading with quote := none } else reading.add c
  else if c = backslash then { reading with escape := true }
  else if isQuote c then
    { reading with quote := some c, current := some (reading.current.getD []) }
  else if isspace c then
    { reading with words := reading.words ++ reading.current.toList, current := none }
  else reading.add c

def Reading.readAll (reading : Reading) (line : List Byte) : Reading :=
  line.foldl Reading.read reading

def Reading.all (reading : Reading) : List (List Byte) := reading.words ++ reading.current.toList

def words (line : List Byte) : List (List Byte) := (Reading.start.readAll line).all

theorem Reading.readAll_cons (reading : Reading) (c : Byte) (rest : List Byte) :
    reading.readAll (c :: rest) = (reading.read c).readAll rest := rfl

theorem Reading.readAll_append (reading : Reading) (front back : List Byte) :
    reading.readAll (front ++ back) = (reading.readAll front).readAll back :=
  List.foldl_append

/-- At every byte the word has at most so many bytes before it that the buffer need not be more than
2 ^ 30 bytes long. -/
def Reading.Short : Reading → List Byte → Prop
  | _, [] => True
  | reading, c :: rest =>
      (reading.current.getD []).length ≤ 1073741820 ∧ (reading.read c).Short rest

/-- The line does not end in a backslash that stands for the next character, nor with an empty word;
no word is too long, and there are not too many. -/
structure Reading.Fits (reading : Reading) (line : List Byte) : Prop where
  escape : (reading.readAll line).escape = false
  current : (reading.readAll line).current ≠ some []
  short : reading.Short line
  count : (reading.readAll line).all.length ≤ 2147483645

section

variable {reading : Reading}

theorem Reading.words_read (reading : Reading) (c : Byte) :
    reading.words <+: (reading.read c).words := by
  unfold Reading.read
  split_ifs
  · exact List.prefix_rfl
  · exact List.prefix_rfl
  · exact List.prefix_rfl
  · exact List.prefix_rfl
  · exact List.prefix_rfl
  · exact List.prefix_append _ _
  · exact List.prefix_rfl

theorem Reading.words_readAll (reading : Reading) (line : List Byte) :
    reading.words.length ≤ (reading.readAll line).all.length := by
  induction line generalizing reading with
  | nil =>
      rw [Reading.all, List.length_append]
      exact Nat.le_add_right _ _
  | cons c rest ih =>
      exact (reading.words_read c).length_le.trans (ih (reading.read c))

theorem Reading.fits_cons {c : Byte} {rest : List Byte} :
    reading.Fits (c :: rest) ↔
      (reading.current.getD []).length ≤ 1073741820 ∧ (reading.read c).Fits rest := by
  constructor
  · intro fits
    exact ⟨fits.short.1, fits.escape, fits.current, fits.short.2, fits.count⟩
  · rintro ⟨short, fits⟩
    exact ⟨fits.escape, fits.current, ⟨short, fits.short⟩, fits.count⟩

end

structure Sim (parsing : Parsing) (reading : Reading) : Prop where
  args : parsing.args = reading.words
  buffer : parsing.buffer = reading.current.getD []
  quote : parsing.quotechar = reading.quote
  atStart : parsing.atStart = reading.current.isNone
  escape : reading.escape = false
  closed : reading.current = none → reading.quote = none
  room : parsing.buffer.length + 3 ≤ parsing.l
  power : ∃ k, 3 ≤ k ∧ k ≤ 30 ∧ parsing.l = 2 ^ k
  count : parsing.args.length ≤ 2147483645

theorem start_sim : Sim Parsing.start Reading.start where
  args := rfl
  buffer := rfl
  quote := rfl
  atStart := rfl
  escape := rfl
  closed := fun _ => rfl
  room := by decide
  power := ⟨3, by decide, by decide, rfl⟩
  count := Nat.zero_le _

section

variable {parsing : Parsing} {reading : Reading}

/-- The buffer is doubled as long as its length stays an `int`. -/
theorem Sim.grow (sim : Sim parsing reading)
    (short : (reading.current.getD []).length ≤ 1073741820) :
    ∃ grown, parsing.grow = .ok grown ∧ Sim grown reading ∧ grown.buffer.length + 4 ≤ grown.l := by
  obtain ⟨k, atLeast, atMost, isPower⟩ := sim.power
  have room := sim.room
  rw [← sim.buffer] at short
  have eight : 2 ^ 3 ≤ 2 ^ k := Nat.pow_le_pow_right (by decide) atLeast
  rw [Parsing.grow]
  by_cases full : parsing.l - 4 < parsing.buffer.length
  · have small : k ≠ 30 := by
      rintro rfl
      have largest : 2 ^ 30 = 1073741824 := rfl
      omega
    have doubled : 2 ^ (k + 1) ≤ 2 ^ 30 := Nat.pow_le_pow_right (by decide) (by omega)
    have isDouble : parsing.l * 2 = 2 ^ (k + 1) := by rw [isPower, Nat.pow_succ]
    rw [if_pos full, if_neg (by rw [isDouble, intMaximum]; omega)]
    exact ⟨_, rfl, ⟨sim.args, sim.buffer, sim.quote, sim.atStart, sim.escape, sim.closed,
      by dsimp only; omega, ⟨k + 1, by omega, by omega, isDouble⟩, sim.count⟩,
      by dsimp only; omega⟩
  · grind

theorem Sim.grow_long (sim : Sim parsing reading)
    (long : ¬(reading.current.getD []).length ≤ 1073741820) : parsing.grow = .error .overflow := by
  obtain ⟨k, atLeast, atMost, isPower⟩ := sim.power
  have room := sim.room
  rw [← sim.buffer] at long
  have atMostLargest : 2 ^ k ≤ 2 ^ 30 := Nat.pow_le_pow_right (by decide) atMost
  rw [Parsing.grow, if_pos (by omega), if_pos]
  rw [intMaximum]
  omega

theorem Sim.store (sim : Sim parsing reading) (room : parsing.buffer.length + 4 ≤ parsing.l)
    (c : Byte) : ∃ stored, parsing.store c = .ok stored ∧ Sim stored (reading.add c) := by
  refine ⟨_, if_neg (by omega), sim.args, ?_, sim.quote, rfl, sim.escape, ?_, ?_, sim.power,
    sim.count⟩
  · rw [Reading.add, Option.getD_some, ← sim.buffer]
  · intro impossible
    cases impossible
  · simp_all [List.length_append]

theorem Sim.addArgument (sim : Sim parsing reading) {word : List Byte}
    (isWord : reading.current = some word) :
    parsing.addArgument =
      if reading.words.length ≤ 2147483644 then
        .ok { Parsing.start with args := reading.words ++ [word] }
      else .error .overflow := by
  have room := sim.room
  have isBuffer : parsing.buffer = word := by rw [sim.buffer, isWord, Option.getD_some]
  rw [Parsing.addArgument, if_neg (by omega), sim.args, isBuffer, intMaximum]
  grind

theorem Sim.finish_iff (sim : Sim parsing reading) :
    parsing.finish = .ok reading.all ↔ reading.Fits [] := by
  have fits : reading.Fits [] ↔ reading.current ≠ some [] ∧ reading.all.length ≤ 2147483645 :=
    ⟨fun fits => ⟨fits.current, fits.count⟩, fun both => ⟨sim.escape, both.1, trivial, both.2⟩⟩
  have count := sim.count
  rw [fits, Parsing.finish]
  cases isCurrent : reading.current with
  | none =>
      simp_all [sim.buffer, Reading.all, sim.args, List.append_nil]
  | some word =>
      have isBuffer : parsing.buffer = word := by rw [sim.buffer, isCurrent, Option.getD_some]
      have all : reading.all = reading.words ++ [word] := by rw [Reading.all, isCurrent]; rfl
      rw [all, isBuffer, sim.addArgument isCurrent, sim.args]
      by_cases empty : word = []
      · simp [empty, List.length_append]
      · rw [if_neg empty, List.length_append, List.length_singleton]
        have isSome : some word ≠ some [] := fun same => empty (Option.some.inj same)
        by_cases few : reading.words.length ≤ 2147483644
        · rw [if_pos few]
          exact iff_of_true rfl ⟨isSome, by omega⟩
        · rw [if_neg few]
          refine iff_of_false (fun impossible => by cases impossible) fun both => ?_
          have atMost := both.2
          omega

theorem isspace_plain {c : Byte} (blank : isspace c = true) : c ≠ backslash ∧ isQuote c = false := by
  constructor
  · rintro rfl
    exact absurd blank (by decide)
  · rw [isQuote, Bool.or_eq_false_iff, beq_eq_false_iff_ne, beq_eq_false_iff_ne]
    constructor
    · rintro rfl
      exact absurd blank (by decide)
    · rintro rfl
      exact absurd blank (by decide)

inductive Turned (turn : Except Fault (Parsing × List Byte)) (reading : Reading)
    (line : List Byte) : Prop where
  | goesOn (after : Parsing) (front left : List Byte) (turned : turn = .ok (after, left))
      (split : line = front ++ left) (some : front ≠ []) (sim : Sim after (reading.readAll front))
      (fits : reading.Fits line ↔ (reading.readAll front).Fits left)
  | fails (fault : Fault) (turned : turn = .error fault) (unfit : ¬reading.Fits line)

section

variable {c : Byte} {rest : List Byte}

theorem Sim.take_store (sim : Sim parsing reading) (room : parsing.buffer.length + 4 ≤ parsing.l)
    (short : (reading.current.getD []).length ≤ 1073741820) (isRead : reading.read c = reading.add c) :
    Turned ((parsing.store c).map fun stored => (stored, rest)) reading (c :: rest) := by
  obtain ⟨stored, isStored, simStored⟩ := sim.store room c
  refine .goesOn stored [c] rest ?_ rfl (List.cons_ne_nil _ _) ?_
    (Reading.fits_cons.trans (and_iff_right short))
  · rw [isStored]
    rfl
  · rw [Reading.readAll_cons, isRead]
    exact simStored

/-- The byte behind a backslash, unless the line ends there. -/
theorem Sim.take_escape (sim : Sim parsing reading) (room : parsing.buffer.length + 4 ≤ parsing.l)
    (short : (reading.current.getD []).length ≤ 1073741820)
    (isRead : reading.read c = { reading with escape := true }) :
    Turned (parsing.takeEscaped rest) reading (c :: rest) := by
  cases rest with
  | nil =>
      refine .fails .behind rfl fun fits => ?_
      have noEscape := fits.escape
      rw [Reading.readAll_cons, isRead] at noEscape
      cases noEscape
  | cons e rest =>
      obtain ⟨stored, isStored, simStored⟩ := sim.store room (escaped e)
      have both : reading.readAll [c, e] = reading.add (escaped e) := by
        rw [Reading.readAll_cons, isRead, Reading.readAll_cons, Reading.read, if_pos rfl]
        have noEscape := sim.escape
        cases reading
        cases noEscape
        rfl
      refine .goesOn stored [c, e] rest ?_ rfl (List.cons_ne_nil _ _) (both ▸ simStored) ?_
      · rw [Parsing.takeEscaped, isStored]
        rfl
      · rw [Reading.fits_cons, and_iff_right short, Reading.fits_cons, isRead, and_iff_right short,
          ← isRead]
        exact Iff.rfl

/-- A blank behind a word. -/
theorem Sim.take_blank (sim : Sim parsing reading) (short : (reading.current.getD []).length ≤ 1073741820)
    {word : List Byte} (isWord : reading.current = some word) (notQuoted : reading.quote = none)
    (isRead : reading.read c =
      { reading with words := reading.words ++ reading.current.toList, current := none }) :
    Turned (parsing.addArgument.map fun added => (added, rest)) reading (c :: rest) := by
  rw [sim.addArgument isWord]
  by_cases few : reading.words.length ≤ 2147483644
  · rw [if_pos few]
    refine .goesOn _ [c] rest rfl rfl (List.cons_ne_nil _ _) ?_
      (Reading.fits_cons.trans (and_iff_right short))
    rw [Reading.readAll_cons, isRead, isWord]
    exact ⟨rfl, rfl, notQuoted.symm, rfl, sim.escape, fun _ => notQuoted, start_sim.room,
      start_sim.power, by
        dsimp only
        rw [List.length_append, List.length_singleton]
        omega⟩
  · rw [if_neg few]
    refine .fails .overflow rfl fun fits => ?_
    have grown := (reading.read c).words_readAll rest
    rw [isRead, isWord] at grown
    dsimp only at grown
    rw [List.length_append, Option.toList_some, List.length_singleton] at grown
    have count := fits.count
    grind [Reading.readAll_cons, Option.toList_some]

theorem Sim.take (sim : Sim parsing reading) (room : parsing.buffer.length + 4 ≤ parsing.l)
    (short : (reading.current.getD []).length ≤ 1073741820) :
    Turned (parsing.take c rest) reading (c :: rest) := by
  have oneByte : reading.Fits (c :: rest) ↔ (reading.readAll [c]).Fits rest :=
    Reading.fits_cons.trans (and_iff_right short)
  have goesOn {after : Parsing} {turn : Except Fault (Parsing × List Byte)}
      (turned : turn = .ok (after, rest)) (simAfter : Sim after (reading.read c)) :
      Turned turn reading (c :: rest) :=
    .goesOn after [c] rest turned rfl (List.cons_ne_nil _ _) simAfter oneByte
  have noEscape : ¬reading.escape = true := Bool.eq_false_iff.mp sim.escape
  unfold Parsing.take
  by_cases skip : (parsing.atStart && isspace c) = true
  · -- a blank in front of a word
    rw [if_pos skip]
    rw [Bool.and_eq_true, sim.atStart, Option.isNone_iff_eq_none] at skip
    obtain ⟨noWord, isBlank⟩ := skip
    obtain ⟨notBackslash, notQuote⟩ := isspace_plain isBlank
    have notQuoted := sim.closed noWord
    have same : reading.read c = reading := by
      rw [Reading.read, if_neg noEscape, notQuoted, if_neg (by decide), if_neg notBackslash,
        if_neg (by rw [notQuote]; decide), if_pos isBlank, noWord, Option.toList_none,
        List.append_nil]
      cases reading
      cases noWord
      cases notQuoted
      rfl
    exact goesOn rfl (by rw [same]; exact sim)
  rw [if_neg skip]
  by_cases quoted : parsing.quotechar.isSome = true
  · rw [if_pos quoted]
    rw [sim.quote] at quoted
    by_cases closes : parsing.quotechar = some c
    · rw [if_pos closes]
      rw [sim.quote] at closes
      have isRead : reading.read c = { reading with quote := none } := by
        rw [Reading.read, if_neg noEscape, if_pos quoted, if_pos closes]
      refine goesOn rfl (isRead ▸ ?_)
      exact ⟨sim.args, sim.buffer, rfl, sim.atStart, sim.escape, fun _ => rfl, sim.room, sim.power,
        sim.count⟩
    · simp_all [sim.quote, Reading.read, sim.take_store]
  rw [if_neg quoted]
  rw [sim.quote] at quoted
  have notQuoted : reading.quote = none := Option.not_isSome_iff_eq_none.mp quoted
  by_cases isBackslash : c = backslash
  · simp_all [Reading.read, sim.take_escape]
  rw [if_neg isBackslash]
  by_cases opens : isQuote c = true
  · rw [if_pos opens]
    have isRead : reading.read c =
        { reading with quote := some c, current := some (reading.current.getD []) } := by
      rw [Reading.read, if_neg noEscape, if_neg quoted, if_neg isBackslash, if_pos opens]
    refine goesOn rfl (isRead ▸ ?_)
    exact ⟨sim.args, sim.buffer, rfl, rfl, sim.escape, fun impossible => (by cases impossible),
      sim.room, sim.power, sim.count⟩
  rw [if_neg opens]
  by_cases isBlank : isspace c = true
  · rw [if_pos isBlank]
    rw [isBlank, Bool.and_true, sim.atStart, Option.isNone_iff_eq_none] at skip
    obtain ⟨word, isWord⟩ := Option.ne_none_iff_exists'.mp skip
    simp_all [Reading.read, if_neg, if_pos, sim.take_blank]
  · simp_all [Reading.read, sim.take_store]

end

theorem Sim.turn (sim : Sim parsing reading) (c : Byte) (rest : List Byte) :
    Turned (parsing.turn c rest) reading (c :: rest) := by
  by_cases short : (reading.current.getD []).length ≤ 1073741820
  · obtain ⟨grown, isGrown, simGrown, room⟩ := sim.grow short
    rw [Parsing.turn, isGrown]
    exact simGrown.take room short
  · refine .fails .overflow ?_ fun fits => short fits.short.1
    rw [Parsing.turn, sim.grow_long short]
    rfl

/-- The loop gives the words just if the line fits. -/
theorem Sim.run_iff {turns : Nat} (sim : Sim parsing reading) {line : List Byte}
    (enough : line.length ≤ turns) :
    parsing.run turns line = .ok (reading.readAll line).all ↔ reading.Fits line := by
  induction turns generalizing parsing reading line with
  | zero =>
      rw [List.eq_nil_of_length_eq_zero (Nat.le_zero.mp enough)]
      exact sim.finish_iff
  | succ turns ih =>
      cases line with
      | nil => exact sim.finish_iff
      | cons c rest =>
          rw [Parsing.run]
          cases sim.turn c rest with
          | goesOn after front left turned split some simAfter fits =>
              have shorter := congrArg List.length split
              have positive := List.length_pos_of_ne_nil some
              rw [List.length_append, List.length_cons] at shorter
              rw [List.length_cons] at enough
              have later := ih simAfter (show left.length ≤ turns by omega)
              have behind : reading.readAll (c :: rest) = (reading.readAll front).readAll left := by
                simp [split, reading.readAll_append]
              rw [turned, behind, fits]
              exact later
          | fails fault turned unfit =>
              rw [turned]
              exact iff_of_false (fun impossible => by cases impossible) unfit

end

/-- A line is split into its words, and nothing outside is read or written, just if the line fits. -/
theorem parseargs_words_iff (line : List Byte) (arg0 : Option (List Byte)) :
    parseargs line arg0 = .ok (arg0.getD [] :: words line) ↔ Reading.start.Fits line := by
  rw [← start_sim.run_iff (Nat.le_refl line.length), parseargs]
  cases Parsing.start.run line.length line with
  | error fault =>
      refine iff_of_false (fun impossible => ?_) fun impossible => ?_
      · cases impossible
      · cases impossible
  | ok args =>
      constructor
      · intro same
        exact congrArg Except.ok (List.cons.inj (Except.ok.inj same)).2
      · intro same
        rw [Except.ok.inj same]
        rfl

/-- An empty word at the end is lost, and behind a backslash at the end the line is read on. -/
theorem parseargs_line_ends :
    parseargs [97, 32, 34, 34] none = .ok [[], [97]] ∧
      parseargs [97, 32, 34, 34] none ≠ .ok ([] :: words [97, 32, 34, 34]) ∧
      parseargs [97, 92] none = .error .behind := by
  refine ⟨rfl, ?_, rfl⟩
  intro same
  cases same

end MidWay.Mwd.Arguments

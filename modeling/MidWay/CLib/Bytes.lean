import Mathlib.Data.List.Basic
import Mathlib.Data.List.TakeWhile
import Mathlib.Tactic.Common

/-!
Contract: bytes and C strings.

A C pointer into a block is the list of the bytes from the pointer to the end
of the block, so pointer arithmetic is `List.drop` and the bytes behind a
terminator stay visible to code that looks past it. `cstr` is the string a
pointer denotes: the bytes in front of the first NUL.

Owns: the character classes of the C locale, `strlen`, `strchr`, `strstr` and
`strcasecmp`, and how each of them reads a string that is followed by its NUL.
-/

namespace MidWay.CLib

/-- One `char`, as the octet it occupies. -/
abbrev Byte := UInt8

def ascii (text : List Char) : List Byte :=
  text.map fun letter => UInt8.ofNat letter.toNat

def isdigit (c : Byte) : Bool := 48 ≤ c && c ≤ 57

def isupper (c : Byte) : Bool := 65 ≤ c && c ≤ 90

def islower (c : Byte) : Bool := 97 ≤ c && c ≤ 122

def isalnum (c : Byte) : Bool := isdigit c || isupper c || islower c

def isxdigit (c : Byte) : Bool :=
  isdigit c || (65 ≤ c && c ≤ 70) || (97 ≤ c && c ≤ 102)

def isspace (c : Byte) : Bool := c == 32 || (9 ≤ c && c ≤ 13)

def tolower (c : Byte) : Byte := if isupper c then c + 32 else c

/-- The string at a pointer: the bytes before the first NUL. -/
def cstr (memory : List Byte) : List Byte := memory.takeWhile (· != 0)

def strlen (memory : List Byte) : Nat := (cstr memory).length

/-- Offset of the first `c` in the string, for `c` other than NUL. -/
def strchr (memory : List Byte) (c : Byte) : Option Nat :=
  (cstr memory).findIdx? (· == c)

/-- Offset of the first occurrence of `needle` in a byte list. -/
def findSub (needle : List Byte) : List Byte → Option Nat
  | [] => if needle.isEmpty then some 0 else none
  | head :: tail =>
      if needle.isPrefixOf (head :: tail) then some 0
      else (findSub needle tail).map (· + 1)

def strstr (memory needle : List Byte) : Option Nat :=
  findSub needle (cstr memory)

/-- `strcasecmp(left, right) == 0`. -/
def strcaseeq (left right : List Byte) : Bool :=
  left.map tolower == right.map tolower

theorem strcaseeq_self (key : List Byte) : strcaseeq key key = true := beq_self_eq_true _

theorem byte_forall {property : Byte → Prop}
    (each : ∀ value : Fin 256, property (UInt8.ofFin value)) : ∀ c, property c :=
  fun c => by simpa using each c.toFin

theorem nul_notMem_cstr (memory : List Byte) : 0 ∉ cstr memory := by
  intro member
  have notNul := List.mem_takeWhile_imp member
  exact absurd notNul (by decide)

@[simp] theorem cstr_nul (behind : List Byte) : cstr (0 :: behind) = [] := by
  simp [cstr]

theorem cstr_cons {c : Byte} (notNul : c ≠ 0) (rest : List Byte) :
    cstr (c :: rest) = c :: cstr rest := by
  simp [cstr, notNul]

theorem cstr_append_nul (text behind : List Byte) :
    cstr (text ++ 0 :: behind) = cstr text := by
  induction text with
  | nil => simp [cstr]
  | cons head tail ih =>
      by_cases isNul : head = 0
      · simp [isNul]
      · rw [List.cons_append, cstr_cons isNul, cstr_cons isNul, ih]

theorem cstr_append_of_mem {text : List Byte} (hasNul : 0 ∈ text) (rest : List Byte) :
    cstr (text ++ rest) = cstr text := by
  obtain ⟨before, behind, rfl⟩ := List.append_of_mem hasNul
  rw [List.append_assoc, List.cons_append, cstr_append_nul, cstr_append_nul]

theorem strchr_nul (c : Byte) (behind : List Byte) : strchr (0 :: behind) c = none := by
  simp [strchr]

theorem strchr_self {c : Byte} (notNul : c ≠ 0) (behind : List Byte) :
    strchr (c :: behind) c = some 0 := by
  simp [strchr, cstr_cons notNul, List.findIdx?_cons]

section NulFree

variable {text : List Byte} (nulFree : 0 ∉ text)
include nulFree

theorem cstr_append (rest : List Byte) : cstr (text ++ rest) = text ++ cstr rest := by
  induction text with
  | nil => rfl
  | cons head tail ih =>
      grind [cstr_cons]

theorem cstr_terminated (behind : List Byte) : cstr (text ++ 0 :: behind) = text := by
  rw [cstr_append nulFree, cstr_nul, List.append_nil]

theorem cstr_eq_self : cstr text = text := by
  simpa [cstr] using cstr_append nulFree []

theorem strlen_append (rest : List Byte) :
    strlen (text ++ rest) = text.length + strlen rest := by
  rw [strlen, cstr_append nulFree, List.length_append, strlen]

theorem strchr_append {c : Byte} (absent : c ∉ text) (rest : List Byte) :
    strchr (text ++ rest) c = (strchr rest c).map (· + text.length) := by
  grind [List.findIdx, strchr, cstr_append]

end NulFree

theorem strstr_append_nul (text behind needle : List Byte) :
    strstr (text ++ 0 :: behind) needle = strstr text needle := by
  rw [strstr, cstr_append_nul, strstr]

theorem findSub_some {needle text : List Byte} {position : Nat}
    (found : findSub needle text = some position) :
    ∃ before behind, text = before ++ needle ++ behind ∧ before.length = position := by
  induction text generalizing position with
  | nil =>
      simp_all [findSub]
  | cons head tail ih =>
      simp only [findSub] at found
      split_ifs at found with starts
      · cases found
        obtain ⟨behind, same⟩ := List.isPrefixOf_iff_prefix.mp starts
        exact ⟨[], behind, by simpa using same.symm, rfl⟩
      · obtain ⟨earlier, foundEarlier, rfl⟩ := Option.map_eq_some_iff.mp found
        obtain ⟨before, behind, shape, place⟩ := ih foundEarlier
        exact ⟨head :: before, behind, by simp [shape], by simp [place]⟩

/-- What a text does not contain, no beginning of it contains. -/
theorem findSub_none_of_begins {needle text : List Byte} (rest : List Byte)
    (absent : findSub needle (text ++ rest) = none) : findSub needle text = none := by
  induction text with
  | nil =>
      cases needle with
      | nil =>
          cases rest <;> simp [findSub] at absent
      | cons first others => simp [findSub]
  | cons head tail ih =>
      simp only [List.cons_append, findSub] at absent ⊢
      split_ifs at absent with startsLong
      have notStarts : ¬ needle.isPrefixOf (head :: tail) = true := fun starts =>
        startsLong (List.isPrefixOf_iff_prefix.mpr
          ((List.isPrefixOf_iff_prefix.mp starts).trans ⟨rest, by simp⟩))
      rw [if_neg notStarts, ih (Option.map_eq_none_iff.mp absent)]
      rfl

theorem findSub_ne_none (needle before behind : List Byte) :
    findSub needle (before ++ needle ++ behind) ≠ none := by
  induction before with
  | nil =>
      intro absent
      rw [List.nil_append] at absent
      have notHere := findSub_none_of_begins behind absent
      cases needle with
      | nil => simp [findSub] at notHere
      | cons first others => simp [findSub] at notHere
  | cons head before ih =>
      rw [List.cons_append, List.cons_append, findSub]
      split_ifs
      · exact Option.some_ne_none 0
      · simpa using ih

/-- A text that is found stays found when more follows. -/
theorem findSub_append {needle text : List Byte} {place : Nat}
    (found : findSub needle text = some place) (rest : List Byte) :
    findSub needle (text ++ rest) = some place := by
  induction text generalizing place with
  | nil =>
      rw [findSub] at found
      split_ifs at found with empty
      rw [List.isEmpty_iff.mp empty]
      cases found
      cases rest with
      | nil => rfl
      | cons head tail => rfl
  | cons head tail ih =>
      rw [findSub] at found
      rw [List.cons_append, findSub]
      split_ifs at found with starts
      · grind
      · rcases Option.map_eq_some_iff.mp found with ⟨later, foundLater, same⟩
        -- A text that starts at `head` is no longer than one that lies in the tail.
        have notHere : ¬ needle.isPrefixOf (head :: (tail ++ rest)) = true := by
          intro startsLong
          rcases findSub_some foundLater with ⟨before, behind, shape, -⟩
          have fits : needle.length ≤ (head :: tail).length := by
            rw [shape]
            simp only [List.length_cons, List.length_append]
            omega
          have front : needle <+: (head :: tail) ++ rest :=
            List.isPrefixOf_iff_prefix.mp startsLong
          apply starts
          exact List.isPrefixOf_iff_prefix.mpr
            (List.prefix_of_prefix_length_le front (List.prefix_append _ _) fits)
        rw [if_neg notHere, ih foundLater]
        exact congrArg some same

theorem cstr_begins (text : List Byte) : cstr text <+: text := List.takeWhile_prefix _

theorem strstr_append {text needle : List Byte} {place : Nat}
    (found : strstr text needle = some place) (rest : List Byte) :
    strstr (text ++ rest) needle = some place := by
  by_cases hasNul : 0 ∈ text
  · simp_all [strstr, cstr_append_of_mem]
  · simp_all [strstr, cstr_eq_self, cstr_append, findSub_append]

theorem strstr_some {needle text : List Byte} {position : Nat}
    (found : strstr text needle = some position) :
    ∃ before behind, text = before ++ needle ++ behind ∧ before.length = position := by
  obtain ⟨before, behind, shape, place⟩ := findSub_some found
  obtain ⟨hidden, whole⟩ := cstr_begins text
  exact ⟨before, behind ++ hidden, by rw [← whole, shape]; simp, place⟩

theorem strstr_ne_none_of_append {needle text behind : List Byte} {position : Nat}
    (found : strstr (text ++ behind) needle = some position)
    (inside : position + needle.length ≤ text.length) : strstr text needle ≠ none := by
  by_cases hasNul : 0 ∈ text
  · simp_all [strstr, cstr_append_of_mem, Option.some_ne_none]
  · rw [strstr, cstr_append hasNul] at found
    obtain ⟨before, further, shape, place⟩ := findSub_some found
    obtain ⟨rest, split⟩ : before ++ needle <+: text :=
      List.prefix_of_prefix_length_le ⟨further, shape.symm⟩ ⟨cstr behind, rfl⟩
        (by rw [List.length_append]; omega)
    rw [strstr, cstr_eq_self hasNul, ← split]
    exact findSub_ne_none needle before rest

end MidWay.CLib

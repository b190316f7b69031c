import MidWay.CLib.Bytes

/-!
Contract: `urlencoded.c`, the percent-encoding of one field.

Owns: `nibble`, `hex`, `unhex`, `urlnencode` and `urldecode` as the source
computes them, and the round trip of one field that is followed by a NUL, an
ampersand or an equal sign.

Pointers are never NULL and lengths never negative here, so the `EINVAL` exits
that test for them are left out. `urldecode` keeps its error exit: it returns
`-1` and leaves the output unterminated at the first malformed escape.
-/

namespace MidWay.Url

open MidWay.CLib

def percent : Byte := 37
def plus : Byte := 43
def equals : Byte := 61
def ampersand : Byte := 38

def nibble (c : Byte) : Byte :=
  let c := c &&& 0xf
  if c < 10 then c + 48 else c + 0x37

/-- The high and the low digit of a byte. The source shifts a signed `char`;
`nibble` masks the sign bits away again. -/
def hex (c : Byte) : Byte × Byte := (nibble (c >>> 4), nibble c)

/-- The value of one hexadecimal digit of either case. -/
def hexValue (digit : Byte) : Option Byte :=
  if isdigit digit then some (0xf &&& digit)
  else if isxdigit digit then some ((0xf &&& digit) + 9)
  else none

/-- `none` stands for the result `-1`. -/
def unhex (high low : Byte) : Option Byte :=
  match hexValue high, hexValue low with
  | some high, some low => some (((high &&& 0xf) <<< 4) + (low &&& 0xf))
  | _, _ => none

/-- What `urlnencode` stores for one byte. -/
def encodeByte (c : Byte) : List Byte :=
  if isalnum c then [c] else [percent, (hex c).1, (hex c).2]

/-- The text stored in front of the terminator; its length is the result. A
length of zero means that `uncoded` is NUL-terminated. -/
def urlnencode (uncoded : List Byte) (len : Nat) : List Byte :=
  let len := if len = 0 then strlen uncoded else len
  (uncoded.take len).flatMap encodeByte

def urlencode (uncoded : List Byte) : List Byte := urlnencode uncoded 0

/-- The bytes stored in `plain`, and whether the end of the field was reached.
When it was not, the result is `-1` and no terminator is written. -/
structure Decoded where
  plain : List Byte
  complete : Bool
deriving DecidableEq, Repr

def Decoded.store (c : Byte) (rest : Decoded) : Decoded := ⟨c :: rest.plain, rest.complete⟩

/-- Cut a length at the separator found by `strchr`, if it lies before the end. -/
def clip (len : Nat) : Option Nat → Nat
  | some position => if position < len then position else len
  | none => len

/-- Length of the field at `encoded`: up to the NUL, the first ampersand or the
first equal sign, whichever comes first. -/
def fieldLength (encoded : List Byte) : Nat :=
  clip (clip (strlen encoded) (strchr encoded ampersand)) (strchr encoded equals)

/-- The scan over the `remaining` bytes of the field. -/
def urldecodeFrom : Nat → List Byte → Decoded
  | 0, _ => ⟨[], true⟩
  | _, [] => ⟨[], true⟩
  | remaining + 1, c :: rest =>
      if c = percent then
        match rest with
        | high :: low :: rest =>
            match unhex high low with
            | some value => (urldecodeFrom (remaining - 2) rest).store value
            | none => ⟨[], false⟩
        | _ => ⟨[], false⟩
      else if c = plus then (urldecodeFrom remaining rest).store 32
      else (urldecodeFrom remaining rest).store c

def urldecode (encoded : List Byte) : Decoded :=
  urldecodeFrom (fieldLength encoded) encoded

theorem unhex_hex (c : Byte) : unhex (hex c).1 (hex c).2 = some c := by
  revert c
  apply byte_forall
  decide +kernel

theorem isalnum_nibble (c : Byte) : isalnum (nibble c) = true := by
  revert c
  apply byte_forall
  decide +kernel

/-- The characters `urlnencode` can store. -/
def Encoded (c : Byte) : Prop := isalnum c = true ∨ c = percent

theorem Encoded.ne_special {c : Byte} (encoded : Encoded c) :
    c ≠ 0 ∧ c ≠ ampersand ∧ c ≠ equals ∧ c ≠ plus := by
  rcases encoded with alnum | rfl
  · refine ⟨?_, ?_, ?_, ?_⟩ <;> (rintro rfl; revert alnum; decide)
  · decide

theorem encodeByte_encoded (c : Byte) : ∀ stored ∈ encodeByte c, Encoded stored := by
  intro stored member
  unfold encodeByte at member
  by_cases alnum : isalnum c = true
  · rw [if_pos alnum, List.mem_singleton] at member
    exact Or.inl (member ▸ alnum)
  · rw [if_neg alnum] at member
    simp only [List.mem_cons, List.not_mem_nil, or_false] at member
    rcases member with rfl | rfl | rfl
    · exact Or.inr rfl
    · exact Or.inl (isalnum_nibble _)
    · exact Or.inl (isalnum_nibble _)

theorem encodeBytes_encoded (bytes : List Byte) :
    ∀ stored ∈ bytes.flatMap encodeByte, Encoded stored := by
  grind [encodeByte_encoded]

theorem clip_some_of_le {position len : Nat} (within : position ≤ len) :
    clip len (some position) = position := by
  grind [clip]

theorem clip_map_add_of_le {len shift : Nat} (within : len ≤ shift) (found : Option Nat) :
    clip len (found.map (· + shift)) = len := by
  cases found with
  | none => rfl
  | some position =>
      simp only [Option.map_some, clip]
      rw [if_neg (by omega)]

theorem le_clip_map_add {len shift : Nat} (within : shift ≤ len) (found : Option Nat) :
    shift ≤ clip len (found.map (· + shift)) := by
  cases found with
  | none => exact within
  | some position =>
      simp only [Option.map_some, clip]
      grind

theorem fieldLength_free {text : List Byte} (nulFree : 0 ∉ text) (ampFree : ampersand ∉ text)
    (equalsFree : equals ∉ text) {stop : Byte}
    (separator : stop = 0 ∨ stop = ampersand ∨ stop = equals) (behind : List Byte) :
    fieldLength (text ++ stop :: behind) = text.length := by
  rw [fieldLength, strlen_append nulFree, strchr_append nulFree ampFree,
    strchr_append nulFree equalsFree]
  rcases separator with rfl | rfl | rfl
  · simp [strchr_nul, strlen, clip]
  · rw [strchr_self (by decide), Option.map_some, Nat.zero_add,
      clip_some_of_le (Nat.le_add_right _ _), clip_map_add_of_le (Nat.le_refl _)]
  · rw [strchr_self (by decide), Option.map_some, Nat.zero_add]
    exact clip_some_of_le (le_clip_map_add (Nat.le_add_right _ _) _)

section EncodedText

variable {text : List Byte} (encoded : ∀ c ∈ text, Encoded c)
include encoded

theorem nul_not_mem : 0 ∉ text := fun member => (encoded 0 member).ne_special.1 rfl

theorem ampersand_not_mem : ampersand ∉ text :=
  fun member => (encoded ampersand member).ne_special.2.1 rfl

theorem equals_not_mem : equals ∉ text :=
  fun member => (encoded equals member).ne_special.2.2.1 rfl

theorem fieldLength_append {stop : Byte}
    (separator : stop = 0 ∨ stop = ampersand ∨ stop = equals) (behind : List Byte) :
    fieldLength (text ++ stop :: behind) = text.length :=
  fieldLength_free (nul_not_mem encoded) (ampersand_not_mem encoded) (equals_not_mem encoded)
    separator behind

end EncodedText

theorem urldecodeFrom_plain {c : Byte} (notPercent : c ≠ percent) (notPlus : c ≠ plus)
    (remaining : Nat) (rest : List Byte) :
    urldecodeFrom (remaining + 1) (c :: rest) = (urldecodeFrom remaining rest).store c := by
  rcases rest with _ | ⟨high, _ | ⟨low, rest⟩⟩ <;> simp [urldecodeFrom, notPercent, notPlus]

theorem urldecodeFrom_escape (high low : Byte) (remaining : Nat) (rest : List Byte) :
    urldecodeFrom (remaining + 3) (percent :: high :: low :: rest) =
      match unhex high low with
      | some value => (urldecodeFrom remaining rest).store value
      | none => ⟨[], false⟩ := by
  simp [urldecodeFrom]

private theorem urldecodeFrom_encodeByte (c : Byte) (remaining : Nat) (rest : List Byte) :
    urldecodeFrom ((encodeByte c).length + remaining) (encodeByte c ++ rest) =
      (urldecodeFrom remaining rest).store c := by
  unfold encodeByte
  by_cases alnum : isalnum c = true
  · have notPercent : c ≠ percent := by
      rintro rfl
      revert alnum
      decide
    have notPlus : c ≠ plus := (Encoded.ne_special (Or.inl alnum)).2.2.2
    rw [if_pos alnum, List.length_singleton, Nat.add_comm 1 remaining, List.singleton_append,
      urldecodeFrom_plain notPercent notPlus]
  · have count : [percent, (hex c).1, (hex c).2].length + remaining = remaining + 3 := by
      simp only [List.length_cons, List.length_nil]
      omega
    simp_all [if_neg, count, List.cons_append, List.nil_append, urldecodeFrom_escape, unhex_hex]

theorem urldecodeFrom_encodeBytes (bytes rest : List Byte) :
    urldecodeFrom (bytes.flatMap encodeByte).length (bytes.flatMap encodeByte ++ rest) =
      ⟨bytes, true⟩ := by
  induction bytes with
  | nil => simp [urldecodeFrom]
  | cons head tail ih =>
      rw [List.flatMap_cons, List.length_append, List.append_assoc, urldecodeFrom_encodeByte,
        ih, Decoded.store]

theorem urldecode_encodeBytes (bytes behind : List Byte) {stop : Byte}
    (separator : stop = 0 ∨ stop = ampersand ∨ stop = equals) :
    urldecode (bytes.flatMap encodeByte ++ stop :: behind) = ⟨bytes, true⟩ := by
  grind [urldecode, fieldLength_append, urldecodeFrom_encodeBytes, encodeBytes_encoded]

end MidWay.Url

import Mathlib.Data.List.TakeWhile
import MidWay.CLib.Bytes

/-!
Contract: the numbers in the fields of a message, as `sprintf` writes and `sscanf`
reads them.

`%d` is used for counts and return codes, `%8.8X` and `%8.8x` for handles. The
readers skip leading blanks and stop at the first byte that is no digit; a number
without digits is not read. A number beyond `long` is clipped to it, and what does
not fit the variable is cut off.

Owns: the writers, the readers, and that a reader gets back what a writer wrote.
-/

namespace MidWay.CLib

def decimalDigit (value : Nat) : Byte := UInt8.ofNat (48 + value)

def upperHexDigit (value : Nat) : Byte := UInt8.ofNat (if value < 10 then 48 + value else 55 + value)

def lowerHexDigit (value : Nat) : Byte := UInt8.ofNat (if value < 10 then 48 + value else 87 + value)

/-- The value of a hexadecimal digit of either case. -/
def xdigitValue (c : Byte) : Nat :=
  if isdigit c then c.toNat - 48 else if isupper c then c.toNat - 55 else c.toNat - 87

/-- At most this many decimal digits, without leading zeros. -/
def printDecimal : Nat → Nat → List Byte
  | 0, _ => []
  | places + 1, value =>
      if value < 10 then [decimalDigit value]
      else printDecimal places (value / 10) ++ [decimalDigit (value % 10)]

def printHex (digit : Nat → Byte) : Nat → Nat → List Byte
  | 0, _ => []
  | places + 1, value => printHex digit places (value / 16) ++ [digit (value % 16)]

/-- `%d` of an `int`. -/
def sprintfD (value : Int) : List Byte :=
  if value < 0 then 45 :: printDecimal 10 value.natAbs else printDecimal 10 value.natAbs

/-- `%8.8X`. -/
def sprintfUpperX (value : UInt32) : List Byte := printHex upperHexDigit 8 value.toNat

/-- `%8.8x`. -/
def sprintfLowerX (value : UInt32) : List Byte := printHex lowerHexDigit 8 value.toNat

/-- The value of a `long` in an `int`. -/
def toInt32 (value : Int) : Int :=
  let low := value % 4294967296
  if low < 2147483648 then low else low - 4294967296

def clipLong (value : Int) : Int :=
  if value < -9223372036854775808 then -9223372036854775808
  else if value > 9223372036854775807 then 9223372036854775807 else value

def scanSign : List Byte → Bool × List Byte
  | [] => (false, [])
  | c :: rest => if c = 45 then (true, rest) else if c = 43 then (false, rest) else (false, c :: rest)

def decimalNumber (digits : List Byte) : Nat :=
  digits.foldl (fun value c => 10 * value + (c.toNat - 48)) 0

def hexNumber (digits : List Byte) : Nat :=
  digits.foldl (fun value c => 16 * value + xdigitValue c) 0

/-- `%d`. -/
def sscanfD (text : List Byte) : Option Int :=
  let (negative, text) := scanSign ((cstr text).dropWhile isspace)
  let digits := text.takeWhile isdigit
  if digits.isEmpty then none
  else
    let value : Int := decimalNumber digits
    some (toInt32 (clipLong (if negative then -value else value)))

def skipHexMark : List Byte → List Byte
  | zero :: x :: rest =>
      if zero = 48 ∧ (x = 88 ∨ x = 120) ∧ (rest.takeWhile isxdigit).isEmpty = false then rest
      else zero :: x :: rest
  | short => short

/-- `%x`. -/
def sscanfX (text : List Byte) : Option UInt32 :=
  let (negative, text) := scanSign ((cstr text).dropWhile isspace)
  let digits := (skipHexMark text).takeWhile isxdigit
  if digits.isEmpty then none
  else
    let value := min (hexNumber digits) 18446744073709551615
    some (UInt32.ofNat (if negative then 18446744073709551616 - value else value))

/-- `10 ^ places` and `16 ^ places`. -/
def tenTo : Nat → Nat
  | 0 => 1
  | places + 1 => 10 * tenTo places

def sixteenTo : Nat → Nat
  | 0 => 1
  | places + 1 => 16 * sixteenTo places

theorem decimalDigit_value : ∀ value < 10,
    (decimalDigit value).toNat - 48 = value ∧ isdigit (decimalDigit value) = true := by
  decide

theorem upperHexDigit_value : ∀ value < 16,
    xdigitValue (upperHexDigit value) = value ∧ isxdigit (upperHexDigit value) = true := by
  decide

theorem printDecimal_digits (places value : Nat) :
    ∀ c ∈ printDecimal places value, isdigit c = true := by
  induction places generalizing value with
  | zero =>
      intro c member
      exact absurd member List.not_mem_nil
  | succ places ih =>
      grind [printDecimal, decimalDigit_value]

theorem printDecimal_ne_nil (places value : Nat) : printDecimal (places + 1) value ≠ [] := by
  rw [printDecimal]
  split_ifs
  · exact List.cons_ne_nil _ _
  · simp

theorem length_printDecimal_le (places value : Nat) :
    (printDecimal places value).length ≤ places := by
  induction places generalizing value with
  | zero => exact Nat.le_refl 0
  | succ places ih =>
      grind [printDecimal, List.length_append, List.length_singleton]

theorem length_sprintfD_le (value : Int) : (sprintfD value).length ≤ 11 := by
  grind [sprintfD, List.length_cons, length_printDecimal_le]

theorem sprintfD_ne_nil (value : Int) : sprintfD value ≠ [] := by
  rw [sprintfD]
  split_ifs
  · exact List.cons_ne_nil _ _
  · exact printDecimal_ne_nil 9 _

theorem decimalNumber_append (digits : List Byte) (last : Byte) :
    decimalNumber (digits ++ [last]) = 10 * decimalNumber digits + (last.toNat - 48) := by
  simp [decimalNumber]

theorem decimalNumber_printDecimal {places value : Nat} (fits : value < tenTo places) :
    decimalNumber (printDecimal places value) = value := by
  induction places generalizing value with
  | zero =>
      rw [tenTo] at fits
      have isZero : value = 0 := by omega
      rw [isZero]
      rfl
  | succ places ih =>
      rw [tenTo] at fits
      rw [printDecimal]
      split_ifs with small
      · change 10 * 0 + ((decimalDigit value).toNat - 48) = value
        rw [(decimalDigit_value value small).1]
        omega
      · grind [decimalNumber_append, decimalDigit_value]

theorem hexNumber_append (digits : List Byte) (last : Byte) :
    hexNumber (digits ++ [last]) = 16 * hexNumber digits + xdigitValue last := by
  simp [hexNumber]

section Hex

variable {digit : Nat → Byte} (digits : ∀ value < 16,
  xdigitValue (digit value) = value ∧ isxdigit (digit value) = true)
include digits

theorem hexNumber_printHex {places value : Nat} (fits : value < sixteenTo places) :
    hexNumber (printHex digit places value) = value := by
  induction places generalizing value with
  | zero =>
      rw [sixteenTo] at fits
      have isZero : value = 0 := by omega
      rw [isZero]
      rfl
  | succ places ih =>
      grind [sixteenTo, printHex, hexNumber_append]

theorem printHex_digits (places value : Nat) :
    ∀ c ∈ printHex digit places value, isxdigit c = true := by
  induction places generalizing value with
  | zero =>
      intro c member
      exact absurd member List.not_mem_nil
  | succ places ih =>
      grind [printHex]

end Hex

theorem length_printHex (digit : Nat → Byte) (places value : Nat) :
    (printHex digit places value).length = places := by
  induction places generalizing value with
  | zero => rfl
  | succ places ih =>
      simp [printHex, List.length_append, ih]

theorem xdigit_plain : ∀ c : Byte, isxdigit c = true →
    c ≠ 0 ∧ isspace c = false ∧ c ≠ 45 ∧ c ≠ 43 ∧ c ≠ 88 ∧ c ≠ 120 := by
  apply byte_forall
  decide +kernel

theorem digit_xdigit : ∀ c : Byte, isdigit c = true → isxdigit c = true := by
  apply byte_forall
  decide +kernel

theorem scanSign_digits {text : List Byte} (digits : ∀ c ∈ text, isxdigit c = true) :
    scanSign ((cstr text).dropWhile isspace) = (false, text) := by
  have noNul : cstr text = text := by
    apply cstr_eq_self
    intro member
    exact (xdigit_plain 0 (digits 0 member)).1 rfl
  rw [noNul]
  cases text with
  | nil => rfl
  | cons first rest =>
      have plain := xdigit_plain first (digits first List.mem_cons_self)
      rw [List.dropWhile_cons_of_neg (by simp [plain.2.1]), scanSign, if_neg plain.2.2.1,
        if_neg plain.2.2.2.1]

theorem skipHexMark_digits {text : List Byte} (digits : ∀ c ∈ text, isxdigit c = true) :
    skipHexMark text = text := by
  cases text with
  | nil => rfl
  | cons zero rest =>
      cases rest with
      | nil => rfl
      | cons x rest =>
          have plain := xdigit_plain x (digits x (by simp))
          rw [skipHexMark, if_neg]
          rintro ⟨-, isMark | isMark, -⟩
          · exact plain.2.2.2.2.1 isMark
          · exact plain.2.2.2.2.2 isMark

/-- A hexadecimal number of eight digits is read back. -/
theorem sscanfX_printHex {digit : Nat → Byte} (digits : ∀ value < 16,
    xdigitValue (digit value) = value ∧ isxdigit (digit value) = true) (value : UInt32) :
    sscanfX (printHex digit 8 value.toNat) = some value := by
  have allDigits := printHex_digits digits 8 value.toNat
  have small : value.toNat < 4294967296 := value.toNat_lt
  have number : hexNumber (printHex digit 8 value.toNat) = value.toNat :=
    hexNumber_printHex digits (by change value.toNat < 4294967296; exact small)
  have nonempty : (printHex digit 8 value.toNat).isEmpty = false := by
    rfl
  have taken : (printHex digit 8 value.toNat).takeWhile isxdigit =
      printHex digit 8 value.toNat := List.takeWhile_eq_self_iff.mpr allDigits
  rw [sscanfX, scanSign_digits allDigits]
  simp only [skipHexMark_digits allDigits, taken, nonempty, number]
  rw [Nat.min_eq_left (by omega)]
  simp

theorem sscanfX_sprintfUpperX (value : UInt32) : sscanfX (sprintfUpperX value) = some value :=
  sscanfX_printHex upperHexDigit_value value

theorem toInt32_self {value : Int} (lower : -2147483648 ≤ value) (upper : value < 2147483648) :
    toInt32 value = value := by
  grind [toInt32]

theorem clipLong_self {value : Int} (lower : -2147483648 ≤ value) (upper : value < 2147483648) :
    clipLong value = value := by
  rw [clipLong, if_neg (by omega), if_neg (by omega)]

/-- An `int` is read back. -/
theorem sscanfD_sprintfD {value : Int} (lower : -2147483648 ≤ value)
    (upper : value < 2147483648) : sscanfD (sprintfD value) = some value := by
  have digits := printDecimal_digits 10 value.natAbs
  have xdigits : ∀ c ∈ printDecimal 10 value.natAbs, isxdigit c = true :=
    fun c member => digit_xdigit c (digits c member)
  have number : decimalNumber (printDecimal 10 value.natAbs) = value.natAbs :=
    decimalNumber_printDecimal (by change value.natAbs < 10000000000; omega)
  have nonempty : (printDecimal 10 value.natAbs).isEmpty = false :=
    List.isEmpty_eq_false_iff.mpr (printDecimal_ne_nil 9 _)
  have taken : (printDecimal 10 value.natAbs).takeWhile isdigit = printDecimal 10 value.natAbs :=
    List.takeWhile_eq_self_iff.mpr digits
  rw [sprintfD]
  split_ifs with negative
  · have signed : scanSign ((cstr (45 :: printDecimal 10 value.natAbs)).dropWhile isspace) =
        (true, printDecimal 10 value.natAbs) := by
      have noNul : cstr (45 :: printDecimal 10 value.natAbs) =
          45 :: printDecimal 10 value.natAbs := by
        apply cstr_eq_self
        intro member
        rcases List.mem_cons.mp member with isSign | inDigits
        · exact absurd isSign (by decide)
        · exact (xdigit_plain 0 (xdigits 0 inDigits)).1 rfl
      rw [noNul, List.dropWhile_cons_of_neg (by decide), scanSign, if_pos rfl]
    rw [sscanfD, signed]
    simp only [taken, nonempty, number]
    have negated : -((value.natAbs : Nat) : Int) = value := by omega
    simp only [if_true, negated, clipLong_self lower upper, toInt32_self lower upper,
      Bool.false_eq_true, if_false]
  · rw [sscanfD, scanSign_digits xdigits]
    simp only [taken, nonempty, number]
    have same : ((value.natAbs : Nat) : Int) = value := by omega
    simp only [Bool.false_eq_true, if_false, same, clipLong_self lower upper,
      toInt32_self lower upper]

end MidWay.CLib

import Mathlib.Algebra.Order.Field.Power
import Mathlib.Algebra.Order.Floor.Ring
import Mathlib.Data.Rat.Floor
import Mathlib.Tactic.Linarith
import Mathlib.Tactic.NormNum
import Mathlib.Tactic.Positivity
import MidWay.Shm.HeapAlloc

/-!
Contract: `find_bin` in the arithmetic of `float`.

The size and the base chunk are rounded to 24 bits, and their quotient again. Any
rounding that is monotone and keeps the numbers of 24 bits will do. `mwd` takes no
base chunk of 100000 bytes or more; for those that it takes, no rounding moves a
quotient down to a whole number of chunks.

Owns: `SingleRounding`, `floatBin`, and that the bins from it on hold the request.
-/

namespace MidWay.Shm

/-- How numbers are rounded to `float`: monotone, and the numbers of 24 bits are kept. -/
structure SingleRounding where
  round : ℚ → ℚ
  mono : Monotone round
  exact : ∀ (significand : Nat) (exponent : Int), significand ≤ 16777216 → -100 ≤ exponent →
    exponent ≤ 100 → round (significand * 2 ^ exponent) = significand * 2 ^ exponent

def SingleRounding.ideal : SingleRounding where
  round := id
  mono := monotone_id
  exact := fun _ _ _ _ _ => rfl

/-- A number of chunks as an `int`; what is too large for an `int` becomes the smallest. -/
def toChunks (chunks : ℚ) : Int :=
  if ⌈chunks⌉ ≤ intMax then ⌈chunks⌉ else -intMax - 1

section

variable (rounding : SingleRounding) (base size : Nat)

def chunksNeeded : Int :=
  toChunks (rounding.round (rounding.round size / rounding.round base))

/-- `find_bin`. The logarithm is exact, and none for a number that is not positive. -/
def floatBin : Int :=
  if chunksNeeded rounding base size ≤ 0 then -intMax - 1
  else Nat.clog 2 (chunksNeeded rounding base size).toNat

end

variable {rounding : SingleRounding} {base size : Nat}

theorem SingleRounding.round_nat (rounding : SingleRounding) {number : Nat}
    (small : number ≤ 16777216) : rounding.round number = number := by
  have kept := rounding.exact number 0 small (by decide) (by decide)
  rwa [zpow_zero, mul_one] at kept

/-- More than `count` chunks are not rounded down to `count`. -/
theorem lt_round_quotient (someBytes : 0 < base) (smallBase : base < 100000) {count : Nat}
    (few : count ≤ 16) (exceeds : count * base < size) :
    (count : ℚ) < rounding.round (rounding.round size / rounding.round base) := by
  have numerator : ((count * base + 1 : Nat) : ℚ) ≤ rounding.round size := by
    have bounded : count * base + 1 ≤ 16777216 := by
      have product : count * base ≤ 16 * 100000 := Nat.mul_le_mul few (Nat.le_of_lt smallBase)
      omega
    rw [← rounding.round_nat bounded]
    exact rounding.mono (by exact_mod_cast exceeds)
  have positive : (0 : ℚ) < base := by exact_mod_cast someBytes
  rw [rounding.round_nat (show base ≤ 16777216 by omega)]
  -- The quotient is at least 2⁻¹⁷ above `count`, and that sum has 24 bits.
  have gap : ((count * 131072 + 1 : Nat) : ℚ) * 2 ^ (-17 : Int) ≤ rounding.round size / base := by
    rw [le_div_iff₀ positive]
    have smallRat : (base : ℚ) ≤ 131072 := by exact_mod_cast (by omega : base ≤ 131072)
    grind
  have kept := rounding.exact (count * 131072 + 1) (-17) (by omega) (by decide) (by decide)
  have power : (2 : ℚ) ^ (-17 : Int) = 1 / 131072 := by norm_num
  calc (count : ℚ) < ((count * 131072 + 1 : Nat) : ℚ) * 2 ^ (-17 : Int) := by
        rw [power]
        push_cast
        linarith
    _ = rounding.round (((count * 131072 + 1 : Nat) : ℚ) * 2 ^ (-17 : Int)) := kept.symm
    _ ≤ rounding.round (rounding.round size / base) := rounding.mono gap

/-- A bin comes from the logarithm of the number of chunks. -/
theorem floatBin_proper (proper : 0 ≤ floatBin rounding base size) :
    0 < ⌈rounding.round (rounding.round size / rounding.round base)⌉ ∧
      floatBin rounding base size =
        Nat.clog 2 ⌈rounding.round (rounding.round size / rounding.round base)⌉.toNat := by
  have positive : ¬ chunksNeeded rounding base size ≤ 0 := by
    intro isZero
    rw [floatBin, if_pos isZero] at proper
    exact absurd proper (by decide)
  have asInt : chunksNeeded rounding base size =
      ⌈rounding.round (rounding.round size / rounding.round base)⌉ := by
    rw [chunksNeeded, toChunks] at positive ⊢
    split_ifs at positive ⊢
    · rfl
    · exact absurd (by decide) positive
  rw [floatBin, if_neg positive, asInt]
  exact ⟨by omega, rfl⟩

/-- The bins from `floatBin` on that have chunks hold the request. -/
theorem floatBin_capacity (someBytes : 0 < base) (smallBase : base < 100000)
    (proper : 0 ≤ floatBin rounding base size) {bin : Nat} (early : bin < bins - 1)
    (reached : floatBin rounding base size ≤ bin) : (size : Int) ≤ oneShl bin * base := by
  rcases floatBin_proper proper with ⟨positive, isLog⟩
  rw [isLog] at reached
  have fits := (Nat.clog_le_iff_le_pow (by decide)).mp (Int.ofNat_le.mp reached)
  have few : ∀ other < bins - 1, 2 ^ other ≤ 16 := by decide
  rw [oneShl_eq]
  by_contra exceeds
  have larger : 2 ^ bin * base < size := by exact_mod_cast not_le.mp exceeds
  have more : ((2 ^ bin : Nat) : ℚ) < rounding.round (rounding.round size / rounding.round base) :=
    lt_round_quotient someBytes smallBase (few bin early) larger
  have rounded : ⌈rounding.round (rounding.round size / rounding.round base)⌉ ≤
      ((2 ^ bin : Nat) : Int) := by
    omega
  exact absurd (Int.ceil_le.mp rounded) (not_le.mpr (by exact_mod_cast more))

end MidWay.Shm

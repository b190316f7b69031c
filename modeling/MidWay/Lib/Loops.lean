import Mathlib.Data.List.Basic

/-!
Contract: loops over the indexes of a table.

Owns: the rule that derives what a whole loop has done from what one turn does at
its index.
-/

namespace MidWay.Lib

variable {State : Type} {turn : State → Nat → State} {count : Nat} {start : State}

/-- What holds before the first turn, and is carried by each turn from its index to the next
one, holds at the end. -/
theorem foldl_range_rule (motive : Nat → State → Prop) (initially : motive 0 start)
    (carries : ∀ idx, idx < count → ∀ state, motive idx state → motive (idx + 1) (turn state idx)) :
    motive count ((List.range count).foldl turn start) := by
  induction count with
  | zero => exact initially
  | succ count ih =>
      grind [List.range_succ]

end MidWay.Lib

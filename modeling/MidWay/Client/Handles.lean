import Mathlib.Tactic.Common

/-!
Contract: the handles of calls.

A counter that starts at a random number is counted up. Behind the greatest `int` it is
negative, and goes on at 1. The wait for the lock around it is left out.

Owns: `_mw_nexthandle`, and that its results are positive and come back as late as they can.
-/

namespace MidWay.Client.Handles

def intMax : Int := 2147483647

/-- An `int` after an addition. -/
def wrapInt (value : Int) : Int := (value + 2147483648) % 4294967296 - 2147483648

/-- `random` is what `_mw_irand` returns. -/
def mwNexthandle (random handle : Int) : Int :=
  let handle := if handle = -1 then random else handle
  let handle := wrapInt (handle + 1)
  if handle < 0 then 1 else handle

/-- The counter after this many calls, which is what the last of them returned. -/
def handleAfter (random : Nat → Int) (handle : Int) : Nat → Int
  | 0 => handle
  | calls + 1 => mwNexthandle (random calls) (handleAfter random handle calls)

/-- A number from 0 to below the bound that `_mw_irand` gets. -/
def Drawn (random : Int) : Prop := 0 ≤ random ∧ random < intMax / 2

def IsHandle (handle : Int) : Prop := 1 ≤ handle ∧ handle ≤ intMax

theorem mwNexthandle_isHandle {random handle : Int} (drawn : Drawn random)
    (isInt : -intMax - 1 ≤ handle ∧ handle ≤ intMax) : IsHandle (mwNexthandle random handle) := by
  unfold Drawn at drawn
  unfold mwNexthandle wrapInt IsHandle
  unfold intMax at *
  dsimp only
  by_cases isFirst : handle = -1
  · rw [if_pos isFirst]
    omega
  · rw [if_neg isFirst]
    omega

/-- A handle is followed by the next one around the range. -/
theorem mwNexthandle_next {random handle : Int} (isHandle : IsHandle handle) :
    mwNexthandle random handle = handle % intMax + 1 := by
  unfold IsHandle intMax at isHandle
  have notFirst : handle ≠ -1 := by omega
  unfold mwNexthandle wrapInt intMax
  rw [if_neg notFirst]
  dsimp only
  omega

variable {random : Nat → Int} {handle : Int}

theorem handleAfter_isHandle (drawn : ∀ call, Drawn (random call))
    (isInt : -intMax - 1 ≤ handle ∧ handle ≤ intMax) (calls : Nat) :
    IsHandle (handleAfter random handle (calls + 1)) := by
  induction calls with
  | zero => exact mwNexthandle_isHandle (drawn 0) isInt
  | succ calls ih =>
      refine mwNexthandle_isHandle (drawn (calls + 1)) ⟨?_, ih.2⟩
      have positive := ih.1
      unfold intMax
      omega

/-- From one call on, the handles go around the range. -/
theorem handleAfter_add (drawn : ∀ call, Drawn (random call))
    (isInt : -intMax - 1 ≤ handle ∧ handle ≤ intMax) (calls more : Nat) :
    handleAfter random handle (calls + 1 + more) =
      (handleAfter random handle (calls + 1) - 1 + more) % intMax + 1 := by
  have start := handleAfter_isHandle drawn isInt calls
  induction more with
  | zero =>
      unfold IsHandle intMax at start
      unfold intMax
      rw [Nat.add_zero]
      omega
  | succ more ih =>
      have before := handleAfter_isHandle drawn isInt (calls + more)
      rw [Nat.add_right_comm] at before
      rw [← Nat.add_assoc, handleAfter, mwNexthandle_next before, ih]
      unfold intMax
      omega

/-- Every call returns a number from 1 to the greatest `int`, and a number that was returned comes
back only behind all of the others. -/
theorem handleAfter_valid_and_apart (drawn : ∀ call, Drawn (random call))
    (isInt : -intMax - 1 ≤ handle ∧ handle ≤ intMax) :
    (∀ call, IsHandle (handleAfter random handle (call + 1))) ∧
      ∀ earlier later : Nat, earlier < later → (later : Int) < earlier + intMax →
        handleAfter random handle (earlier + 1) ≠ handleAfter random handle (later + 1) := by
  refine ⟨handleAfter_isHandle drawn isInt, ?_⟩
  intro earlier later isLater within same
  obtain ⟨more, rfl⟩ := Nat.exists_eq_add_of_lt isLater
  have start := handleAfter_isHandle drawn isInt earlier
  have turned := handleAfter_add drawn isInt earlier (more + 1)
  rw [show earlier + more + 1 + 1 = earlier + 1 + (more + 1) by omega, turned] at same
  unfold IsHandle at start
  unfold intMax at *
  omega

/-- As the program starts, with the greatest number that can be drawn. -/
theorem handleAfter_valid_and_apart_start :
    (∀ call, IsHandle (handleAfter (fun _ => 1073741822) (-1) (call + 1))) ∧
      ∀ earlier later : Nat, earlier < later → (later : Int) < earlier + intMax →
        handleAfter (fun _ => 1073741822) (-1) (earlier + 1) ≠
          handleAfter (fun _ => 1073741822) (-1) (later + 1) :=
  handleAfter_valid_and_apart (fun _ => ⟨by decide, by decide⟩) ⟨by decide, by decide⟩

example : handleAfter (fun _ => 5) (intMax - 2) 2 = intMax ∧
    handleAfter (fun _ => 5) (intMax - 2) 3 = 1 := by decide

end MidWay.Client.Handles

import Mathlib.Data.List.Range
import Mathlib.Data.Nat.ModEq
import Mathlib.Tactic.Common

/-!
Contract: places in a circle, and a turn that goes round it.

Owns: `ahead`, how far a place is in front of the turn, what is left of it when
the turn goes on, and the first place from the turn on that passes a test.
-/

namespace MidWay.Lib

variable {count turn target : Nat}

/-- The places that the turn has to go on to come to `target`. -/
def ahead (count turn target : Nat) : Nat := (target + (count - turn % count)) % count

theorem ahead_lt (inside : target < count) : ahead count turn target < count :=
  Nat.mod_lt _ (Nat.zero_lt_of_lt inside)

/-- Around a circle once. -/
theorem add_mod_of_le {place : Nat} (inside : place ≤ count) (base : Nat) :
    (base + (place + (count - place))) % count = base % count := by
  rw [Nat.add_sub_cancel' inside, Nat.add_mod_right]

theorem turn_add_ahead (inside : target < count) :
    (turn + ahead count turn target) % count = target := by
  have turnInside : turn % count < count := Nat.mod_lt _ (Nat.zero_lt_of_lt inside)
  rw [ahead, Nat.add_mod_mod, ← Nat.mod_add_mod turn count,
    show turn % count + (target + (count - turn % count)) =
      target + (turn % count + (count - turn % count)) by omega,
    add_mod_of_le (Nat.le_of_lt turnInside), Nat.mod_eq_of_lt inside]

/-- The number of places determines the place, within one round. -/
theorem ahead_unique (inside : target < count) {places : Nat} (within : places < count)
    (arrives : (turn + places) % count = target) : ahead count turn target = places := by
  have same : (turn + ahead count turn target) % count = (turn + places) % count := by
    rw [turn_add_ahead inside, arrives]
  have congruent : ahead count turn target % count = places % count :=
    Nat.ModEq.add_left_cancel' turn same
  rw [Nat.mod_eq_of_lt (ahead_lt inside), Nat.mod_eq_of_lt within] at congruent
  exact congruent

/-- A turn that does not go past the target comes nearer by the places it goes. -/
theorem ahead_add (inside : target < count) {places : Nat}
    (near : places ≤ ahead count turn target) :
    ahead count ((turn + places) % count) target = ahead count turn target - places := by
  have within : ahead count turn target < count := ahead_lt inside
  apply ahead_unique inside (by omega)
  rw [Nat.mod_add_mod, Nat.add_assoc, Nat.add_sub_cancel' near]
  exact turn_add_ahead inside

/-- The target is not among the places that are passed over. -/
theorem le_ahead (inside : target < count) {places : Nat}
    (passed : ∀ place, place < places → (turn + place) % count ≠ target) :
    places ≤ ahead count turn target := by
  apply Nat.le_of_not_lt
  intro near
  exact passed _ near (turn_add_ahead inside)

/-- The first place from the turn on that passes the test. -/
def firstFrom (test : Nat → Bool) (count turn : Nat) : Option Nat :=
  ((List.range count).map fun place => (turn + place) % count).find? test

variable {test : Nat → Bool}

theorem firstFrom_some {found : Nat} (isFirst : firstFrom test count turn = some found) :
    test found = true ∧ ∃ places, places < count ∧ found = (turn + places) % count ∧
      ∀ place, place < places → test ((turn + place) % count) = false := by
  rw [firstFrom, List.find?_map, Option.map_eq_some_iff] at isFirst
  obtain ⟨places, isFound, rfl⟩ := isFirst
  rw [List.find?_range_eq_some] at isFound
  obtain ⟨passes, inside, before⟩ := isFound
  refine ⟨passes, places, List.mem_range.mp inside, rfl, ?_⟩
  intro place isBefore
  simpa using before place isBefore

variable (turn) in
theorem firstFrom_isSome (inside : target < count) (passes : test target = true) :
    (firstFrom test count turn).isSome = true := by
  rw [firstFrom, List.find?_isSome]
  refine ⟨target, List.mem_map.mpr ⟨ahead count turn target, ?_, turn_add_ahead inside⟩, passes⟩
  exact List.mem_range.mpr (ahead_lt inside)

/-- Behind the first place that passes, a later one is nearer than before. -/
theorem ahead_firstFrom (inside : target < count) (passes : test target = true) {found : Nat}
    (isFirst : firstFrom test count turn = some found) (other : found ≠ target) :
    ahead count ((found + 1) % count) target < ahead count turn target := by
  obtain ⟨_, places, _, rfl, before⟩ := firstFrom_some isFirst
  have near : places + 1 ≤ ahead count turn target := by
    apply le_ahead inside
    intro place isBefore arrives
    rcases Nat.lt_succ_iff_lt_or_eq.mp isBefore with earlier | same
    · grind
    · simp [same, other] at arrives
  rw [Nat.mod_add_mod, Nat.add_assoc, ahead_add inside near]
  omega

end MidWay.Lib

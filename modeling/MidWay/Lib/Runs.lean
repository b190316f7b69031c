import Mathlib.Tactic.Common

/-!
Contract: runs of a machine whose steps can fail, and the rule that derives a
fact about every state of every run from a fact about one step.

Owns: `Machine`, the states it reaches while every step meets a side condition,
and the invariant rules.
-/

namespace MidWay.Lib

/-- A transition system with a guard; an enabled step gives the next state or
ends the run. -/
structure Machine (State Action Failure : Type) where
  start : State → Prop
  enabled : State → Action → Prop
  step : State → Action → Except Failure State

variable {State Action Failure : Type}

/-- The states of the runs in which every step meets `condition`. -/
inductive Machine.Reachable (machine : Machine State Action Failure)
    (condition : State → Action → Prop) : State → Prop
  | start {state : State} : machine.start state → Reachable machine condition state
  | step {state next : State} {action : Action} : Reachable machine condition state →
      machine.enabled state action → condition state action →
      machine.step state action = .ok next → Reachable machine condition next

variable {machine : Machine State Action Failure} {condition : State → Action → Prop}
  {invariant : State → Prop}

/-- A step that meets the condition and gives a next state keeps the invariant. -/
def Machine.Preserves (machine : Machine State Action Failure)
    (condition : State → Action → Prop) (invariant : State → Prop) : Prop :=
  ∀ state action next, invariant state → machine.enabled state action →
    condition state action → machine.step state action = .ok next → invariant next

/-- The invariant rule. -/
theorem Machine.Reachable.holds (initially : ∀ state, machine.start state → invariant state)
    (preserves : machine.Preserves condition invariant) {state : State}
    (reachable : machine.Reachable condition state) : invariant state := by
  induction reachable with
  | start isStart => exact initially _ isStart
  | step _ isEnabled meets stepped ih =>
      exact preserves _ _ _ ih isEnabled meets stepped

/-- A step that meets the condition does not fail and keeps the invariant. -/
def Machine.Keeps (machine : Machine State Action Failure) (condition : State → Action → Prop)
    (invariant : State → Prop) : Prop :=
  ∀ state action, invariant state → machine.enabled state action → condition state action →
    ∃ next, machine.step state action = .ok next ∧ invariant next

/-- The invariant rule, when no step fails. -/
theorem Machine.Reachable.safe (initially : ∀ state, machine.start state → invariant state)
    (keeps : machine.Keeps condition invariant) {state : State}
    (reachable : machine.Reachable condition state) : invariant state := by
  apply reachable.holds initially
  intro before action next held isEnabled meets stepped
  rcases keeps before action held isEnabled meets with ⟨other, result, after⟩
  rw [stepped] at result
  cases result
  exact after

/-- The state after an action; it stays the same when the action ends the run. -/
def Machine.next (machine : Machine State Action Failure) (state : State) (action : Action) :
    State :=
  match machine.step state action with
  | .error _ => state
  | .ok after => after

/-- One more step of a concrete run. -/
theorem Machine.Reachable.next {state : State} (reachable : machine.Reachable condition state)
    {action : Action} (isEnabled : machine.enabled state action) (meets : condition state action)
    (goesOn : (machine.step state action).isOk = true) :
    machine.Reachable condition (machine.next state action) := by
  cases stepped : machine.step state action with
  | error failure =>
      rw [stepped] at goesOn
      cases goesOn
  | ok after =>
      have same : machine.next state action = after := by rw [Machine.next, stepped]
      rw [same]
      exact reachable.step isEnabled meets stepped

/-- The actions can be taken one after the other. -/
def Machine.Runs (machine : Machine State Action Failure) (condition : State → Action → Prop) :
    State → List Action → Prop
  | _, [] => True
  | state, action :: rest =>
      machine.enabled state action ∧ condition state action ∧
        (machine.step state action).isOk = true ∧
        machine.Runs condition (machine.next state action) rest

/-- A concrete run. -/
theorem Machine.Reachable.runs {state : State} (reachable : machine.Reachable condition state)
    {actions : List Action} (runs : machine.Runs condition state actions) :
    machine.Reachable condition (actions.foldl machine.next state) := by
  induction actions generalizing state with
  | nil => exact reachable
  | cons action rest ih =>
      rcases runs with ⟨isEnabled, meets, goesOn, later⟩
      exact ih (reachable.next isEnabled meets goesOn) later

end MidWay.Lib

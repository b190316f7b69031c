import Mathlib.Logic.Function.Basic

/-!
Contract: a thread that locks and unlocks mutexes which are not recursive.

To lock a mutex that the thread holds already is to wait for itself. What other threads
hold does not matter here: they let go of it some time, or they are stuck themselves.

Owns: `Thread`, `lock` and `unlock`, `Disciplined`, which says that a computation
never waits for itself and ends with the mutexes it began with, and its rules.
-/

namespace MidWay.Lib.Mutexes

inductive Stop (Mutex Failure : Type) where
  /-- It waits for a mutex of its own. -/
  | deadlock (mutex : Mutex)
  | failed (failure : Failure)
deriving DecidableEq

/-- A thread: the mutexes it holds, and the state it works on. -/
structure Thread (Mutex State : Type) where
  held : Mutex → Bool
  state : State

abbrev Outcome (Mutex State Failure : Type) := Except (Stop Mutex Failure) (Thread Mutex State)

variable {Mutex State Failure : Type} [DecidableEq Mutex]

namespace Thread

def lock (thread : Thread Mutex State) (mutex : Mutex) :
    Outcome Mutex State Failure :=
  if thread.held mutex then .error (.deadlock mutex)
  else .ok ⟨Function.update thread.held mutex true, thread.state⟩

def unlock (thread : Thread Mutex State) (mutex : Mutex) : Thread Mutex State :=
  ⟨Function.update thread.held mutex false, thread.state⟩

omit [DecidableEq Mutex] in
def modify (thread : Thread Mutex State) (change : State → State) : Thread Mutex State :=
  ⟨thread.held, change thread.state⟩

/-- A part of a computation that is guarded by a mutex. -/
def guarded (thread : Thread Mutex State) (mutex : Mutex) (change : State → State) :
    Outcome Mutex State Failure :=
  (thread.lock mutex).map fun inside => (inside.modify change).unlock mutex

theorem lock_held {thread : Thread Mutex State} {mutex : Mutex}
    (held : thread.held mutex = true) :
    (thread.lock mutex : Outcome Mutex State Failure) = .error (.deadlock mutex) := by
  rw [lock, if_pos held]

theorem lock_free {thread : Thread Mutex State} {mutex : Mutex}
    (free : thread.held mutex = false) :
    (thread.lock mutex : Outcome Mutex State Failure) =
      .ok ⟨Function.update thread.held mutex true, thread.state⟩ := by
  rw [lock, if_neg (by rw [free]; exact Bool.false_ne_true)]

/-- What was free is free again. -/
theorem unlock_locked {held : Mutex → Bool} {mutex : Mutex} (free : held mutex = false)
    (state : State) :
    unlock ⟨Function.update held mutex true, state⟩ mutex = ⟨held, state⟩ := by
  rw [unlock, Function.update_idem, ← free, Function.update_eq_self]

theorem unlock_held {held : Mutex → Bool} {mutex : Mutex} (free : held mutex = false)
    {thread : Thread Mutex State} (same : thread.held = Function.update held mutex true) :
    (thread.unlock mutex).held = held := by
  have unlocked := unlock_locked free thread.state
  rw [← same] at unlocked
  exact congrArg Thread.held unlocked

theorem guarded_free {thread : Thread Mutex State} {mutex : Mutex}
    (free : thread.held mutex = false) (change : State → State) :
    (thread.guarded mutex change : Outcome Mutex State Failure) = .ok (thread.modify change) := by
  rw [guarded, lock_free free]
  exact congrArg Except.ok (unlock_locked free _)

end Thread

/-- The thread does not wait for itself, and when it comes to an end it holds what it held. -/
structure Disciplined (held : Mutex → Bool)
    (result : Outcome Mutex State Failure) : Prop where
  returns : ∀ after, result = .ok after → after.held = held
  goesOn : ∀ mutex, result ≠ .error (.deadlock mutex)

section Rules

variable {held : Mutex → Bool} {result : Outcome Mutex State Failure}

omit [DecidableEq Mutex] in
theorem Disciplined.ok {thread : Thread Mutex State} (same : thread.held = held) :
    Disciplined held (.ok thread : Outcome Mutex State Failure) := by
  refine ⟨?_, ?_⟩
  · simp [same]
  · simp

omit [DecidableEq Mutex] in
theorem Disciplined.failed (failure : Failure) :
    Disciplined held (.error (.failed failure) : Outcome Mutex State Failure) := by
  refine ⟨?_, ?_⟩
  · simp
  · simp

omit [DecidableEq Mutex] in
theorem not_disciplined_deadlock (mutex : Mutex) :
    ¬Disciplined held (.error (.deadlock mutex) : Outcome Mutex State Failure) :=
  fun disciplined => disciplined.goesOn mutex rfl

omit [DecidableEq Mutex] in
/-- One computation after the other. -/
theorem Disciplined.bind (first : Disciplined held result)
    {next : Thread Mutex State → Outcome Mutex State Failure}
    (second : ∀ between, result = .ok between → between.held = held →
      Disciplined held (next between)) :
    Disciplined held (result.bind next) := by
  cases outcome : result with
  | ok between => exact second between outcome (first.returns between outcome)
  | error stop =>
      cases stop with
      | deadlock mutex => exact absurd outcome (first.goesOn mutex)
      | failed failure => exact Disciplined.failed failure

theorem Disciplined.guarded {thread : Thread Mutex State} {mutex : Mutex}
    (free : thread.held mutex = false) (change : State → State) :
    Disciplined thread.held (thread.guarded mutex change : Outcome Mutex State Failure) := by
  rw [Thread.guarded_free free]
  exact Disciplined.ok rfl

end Rules

end MidWay.Lib.Mutexes

import MidWay.CLib.Errno
import MidWay.Lib.Rotation

/-!
Contract: the tasks of a process, as `tasks.c` keeps and calls them.

An interval is a floating-point number; what is asked of it is a parameter. A task is
named by its place in `tasklist`, which is its handle less `PTASKMAGIC`. Each call of the
clock gives any value. What is only kept for statistics, and the timer that wakes the
process, are left out: nothing below reads them.

Owns: `schedule`, `mwdotasks`, `mwwaketask`, `mwsuspendtask`, `mwresumetask` and
`mwsettaskinterval`, and what each of them does to the place of the next turn.
-/

namespace MidWay.Tasks

open MidWay.CLib MidWay.Lib

inductive TaskState where
  | susp
  | wait
  | run
  | illegal (value : Int)
deriving DecidableEq, Repr

structure Task (Interval : Type) where
  interval : Interval
  state : TaskState
  nextsched : Int

/-- Whether an interval is below or above zero, the sum `tt + interval * 1e6`, and the difference
`(interval - oldinterval) * 1e6` added to a time. -/
structure IntervalOps (Interval : Type) where
  negative : Interval → Bool
  positive : Interval → Bool
  after : Int → Interval → Int
  moved : Int → Interval → Interval → Int

/-- `tasks` is the length of `tasklist` once `inittasks` has been called, and -1 before. -/
structure Scheduler (Interval : Type) where
  inited : Bool
  tasklist : List (Task Interval)
  nexttask : Nat
  nexttasktime : Int
  runnable : Int

def int64Max : Int := 9223372036854775807

section

variable {Interval : Type}

def Task.notDue (now : Int) (t : Task Interval) : Bool :=
  t.state == .wait && now < t.nextsched + 100

def Task.schedule (now : Int) (t : Task Interval) : Task Interval :=
  match t.state with
  | .run => t
  | .wait => if t.nextsched + 100 ≤ now then { t with state := .run } else t
  | .susp => t
  | .illegal _ => { t with state := .susp }

/-- The variables of the loop in `schedule`. -/
structure Pass where
  newrunnable : Int
  nexttasktime : Int
  first : Nat

def Pass.visit (now : Int) (tasks nexttask : Nat) (pass : Pass) (entry : Task Interval × Nat) :
    Pass :=
  match entry.1.state with
  | .run => { pass with newrunnable := pass.newrunnable + 1 }
  | .wait =>
      if entry.1.nextsched + 100 ≤ now then { pass with newrunnable := pass.newrunnable + 1 }
      else if entry.1.nextsched < pass.nexttasktime then
        { pass with
          nexttasktime := entry.1.nextsched
          first := (nexttask + entry.2) % tasks }
      else pass
  | .susp | .illegal _ => pass

def Scheduler.schedule (now : Int) (scheduler : Scheduler Interval) : Scheduler Interval :=
  let pass := scheduler.tasklist.zipIdx.foldl
    (Pass.visit now scheduler.tasklist.length scheduler.nexttask) ⟨0, int64Max, 0⟩
  { scheduler with
    tasklist := scheduler.tasklist.map (Task.schedule now)
    nexttask := pass.first
    nexttasktime := pass.nexttasktime
    runnable := pass.newrunnable }

def Scheduler.refuses (scheduler : Scheduler Interval) (idx : Nat) : Option Errno :=
  if scheduler.inited = false then some .EILSEQ
  else if scheduler.tasklist.length ≤ idx then some .ENOENT
  else none

def Scheduler.setTask (scheduler : Scheduler Interval) (idx : Nat)
    (set : Task Interval → Task Interval) : Scheduler Interval :=
  { scheduler with tasklist := scheduler.tasklist.modify idx set }

def Scheduler.mwwaketask (scheduler : Scheduler Interval) (idx : Nat) (now : Int) :
    Int × Scheduler Interval :=
  match scheduler.refuses idx with
  | some errno => (rcOf errno, scheduler)
  | none =>
      (0, { scheduler.setTask idx fun t => { t with state := .run, nextsched := now } with
        runnable := scheduler.runnable + 1
        nexttask := idx })

def Scheduler.mwsuspendtask (scheduler : Scheduler Interval) (idx : Nat) (now : Int) :
    Int × Scheduler Interval :=
  match scheduler.refuses idx with
  | some errno => (rcOf errno, scheduler)
  | none => (0, (scheduler.setTask idx fun t => { t with state := .susp }).schedule now)

variable (ops : IntervalOps Interval)

def Scheduler.mwresumetask (scheduler : Scheduler Interval) (idx : Nat) (now : Int) :
    Int × Scheduler Interval :=
  match scheduler.refuses idx with
  | some errno => (rcOf errno, scheduler)
  | none =>
      if (scheduler.tasklist[idx]?.map fun t => ops.positive t.interval) = some true then
        (0, (scheduler.setTask idx fun t => { t with state := .wait }).schedule now)
      else (0, scheduler)

def Task.setInterval (interval : Interval) (t : Task Interval) : Task Interval :=
  if ops.negative interval then { t with state := .susp }
  else { t with interval := interval, nextsched := ops.moved t.nextsched interval t.interval }

/-- The result is the old interval, as an `int`, when there is the task. -/
def Scheduler.mwsettaskinterval (scheduler : Scheduler Interval) (idx : Nat) (interval : Interval)
    (now : Int) : Option Errno × Scheduler Interval :=
  match scheduler.refuses idx with
  | some errno => (some errno, scheduler)
  | none => (none, (scheduler.setTask idx (Task.setInterval ops interval)).schedule now)

inductive Op (Interval : Type) where
  | wake (idx : Nat) (now : Int)
  | suspend (idx : Nat) (now : Int)
  | resume (idx : Nat) (now : Int)
  | setInterval (idx : Nat) (interval : Interval) (now : Int)

def Op.run (scheduler : Scheduler Interval) : Op Interval → Scheduler Interval
  | .wake idx now => (scheduler.mwwaketask idx now).2
  | .suspend idx now => (scheduler.mwsuspendtask idx now).2
  | .resume idx now => (scheduler.mwresumetask ops idx now).2
  | .setInterval idx interval now => (scheduler.mwsettaskinterval ops idx interval now).2

def Scheduler.isRunnable (scheduler : Scheduler Interval) (idx : Nat) : Bool :=
  (scheduler.tasklist[idx]?.map fun t => t.state == .run).getD false

/-- `_runnable`. -/
def Scheduler.countRunnable (scheduler : Scheduler Interval) : Nat :=
  scheduler.tasklist.countP fun t => t.state == .run

/-- What a call of `mwdotasks` finds: the time of the pass it may begin with, what the task function
does to tasks and returns, and the times its completion and the last pass find. -/
structure Doing (Interval : Type) where
  began : Int
  ops : List (Op Interval)
  rc : Int
  completed : Int
  ended : Int

def Task.complete (completed : Int) (t : Task Interval) : Task Interval :=
  if ops.negative t.interval then { t with state := .susp, nextsched := 0 }
  else
    { t with
      state := if t.state = .run then .wait else t.state
      nextsched := ops.after completed t.interval }

def Scheduler.callTask (scheduler : Scheduler Interval) (idx : Nat) (doing : Doing Interval) :
    Scheduler Interval :=
  let ran := doing.ops.foldl (Op.run ops) scheduler
  let done := if doing.rc = 0 then
      { ran.setTask idx (Task.complete ops doing.completed) with runnable := ran.runnable - 1 }
    else ran
  { done with nexttask := (idx + 1) % scheduler.tasklist.length }

/-- The schedule `mwdotasks` begins with, when nothing is runnable. -/
def Scheduler.ready (scheduler : Scheduler Interval) (began : Int) : Scheduler Interval :=
  if scheduler.countRunnable = 0 then scheduler.schedule began
  else { scheduler with runnable := scheduler.countRunnable }

def Scheduler.turn (scheduler : Scheduler Interval) : Option Nat :=
  firstFrom scheduler.isRunnable scheduler.tasklist.length scheduler.nexttask

structure Done (Interval : Type) where
  called : Option Nat
  runnable : Int
  scheduler : Scheduler Interval

/-- Where no task is found the last place that was looked at is as good as called. -/
def Scheduler.mwdotasks (scheduler : Scheduler Interval) (doing : Doing Interval) :
    Done Interval :=
  if scheduler.tasklist.length = 0 then ⟨none, 0, scheduler⟩
  else
    let ready := scheduler.ready doing.began
    if ready.runnable = 0 then ⟨none, ready.runnable, ready⟩
    else
      match ready.turn with
      | none =>
          let passed := { ready with nexttask := ready.nexttask % ready.tasklist.length }
          ⟨none, (passed.schedule doing.ended).runnable, passed.schedule doing.ended⟩
      | some idx =>
          let after := (ready.callTask ops idx doing).schedule doing.ended
          ⟨some idx, after.runnable, after⟩

end

end MidWay.Tasks

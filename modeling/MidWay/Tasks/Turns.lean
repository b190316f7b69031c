import Mathlib.Data.List.Perm.Basic
import MidWay.Tasks.Scheduler

/-!
Contract: when a task that can run is called.

`mwdotasks` hands the turn to the place behind the task it called, and then calls
`schedule`, which sends it on to the task that waits the shortest, or back to the first
place when no task waits. The tasks in between lose their turn.

Owns: where a pass sends the turn, the runs in which no turn is lost, and how long a
runnable task waits in them and in a run in which all tasks stay runnable.
-/

namespace MidWay.Tasks

open MidWay.CLib MidWay.Lib

variable {now : Int} {tasks nexttask : Nat} {pass : Pass}

section

variable {Interval : Type}

structure Earliest (now : Int) (tasklist : List (Task Interval)) (place : Nat)
    (t : Task Interval) : Prop where
  here : tasklist[place]? = some t
  waits : t.notDue now = true
  timed : t.nextsched < int64Max
  least : ∀ (other : Nat) (t' : Task Interval), tasklist[other]? = some t' → t'.notDue now = true →
    t.nextsched ≤ t'.nextsched
  first : ∀ (other : Nat) (t' : Task Interval), other < place → tasklist[other]? = some t' →
    t'.notDue now = true → t.nextsched < t'.nextsched

def NoneWaits (now : Int) (tasklist : List (Task Interval)) : Prop :=
  ∀ t ∈ tasklist, t.notDue now = true → int64Max ≤ t.nextsched

def Pass.Chose (now : Int) (tasks nexttask : Nat) (visited : List (Task Interval)) (pass : Pass) :
    Prop :=
  (NoneWaits now visited ∧ pass.nexttasktime = int64Max ∧ pass.first = 0) ∨
    ∃ place t, Earliest now visited place t ∧ pass.nexttasktime = t.nextsched ∧
      pass.first = (nexttask + place) % tasks

theorem getElem?_concat {α : Type} {visited : List α} {element found : α} {place : Nat}
    (here : (visited ++ [element])[place]? = some found) :
    visited[place]? = some found ∨ place = visited.length ∧ found = element := by
  grind

/-- A task that does not wait, or not shorter, is passed. -/
theorem Pass.Chose.keep {visited : List (Task Interval)} {after : Pass}
    (chose : pass.Chose now tasks nexttask visited) {t : Task Interval}
    (later : t.notDue now = true → pass.nexttasktime ≤ t.nextsched)
    (sameTime : after.nexttasktime = pass.nexttasktime) (sameFirst : after.first = pass.first) :
    after.Chose now tasks nexttask (visited ++ [t]) := by
  rcases chose with none | some
  · obtain ⟨noneWaits, time, first⟩ := none
    refine Or.inl ⟨?_, sameTime.trans time, sameFirst.trans first⟩
    intro other member waits
    rcases List.mem_append.mp member with old | new
    · exact noneWaits other old waits
    · simp_all
  · obtain ⟨place, chosen, earliest, time, first⟩ := some
    refine Or.inr ⟨place, chosen, ⟨?_, earliest.waits, earliest.timed, ?_, ?_⟩,
      sameTime.trans time, sameFirst.trans first⟩
    · exact List.getElem?_append_left (List.getElem?_eq_some_iff.mp earliest.here).1 ▸ earliest.here
    · intro other found here waits
      rcases getElem?_concat here with old | new
      · exact earliest.least other found old waits
      · simp_all
    · intro other found before here waits
      rcases getElem?_concat here with old | new
      · exact earliest.first other found before old waits
      · have inside := (List.getElem?_eq_some_iff.mp earliest.here).1
        omega

/-- A task that waits shorter than all before is chosen. -/
theorem Pass.Chose.choose {visited : List (Task Interval)}
    (chose : pass.Chose now tasks nexttask visited) {t : Task Interval}
    (waits : t.notDue now = true) (sooner : t.nextsched < pass.nexttasktime) :
    Pass.Chose now tasks nexttask (visited ++ [t])
      { pass with
        nexttasktime := t.nextsched
        first := (nexttask + visited.length) % tasks } := by
  have all : t.nextsched < int64Max ∧ ∀ (other : Nat) (t' : Task Interval), visited[other]? = some t' →
      t'.notDue now = true → t.nextsched < t'.nextsched := by
    rcases chose with none | some
    · obtain ⟨noneWaits, time, _⟩ := none
      rw [time] at sooner
      refine ⟨sooner, ?_⟩
      intro other found here otherWaits
      exact Int.lt_of_lt_of_le sooner (noneWaits found (List.mem_of_getElem? here) otherWaits)
    · obtain ⟨place, chosen, earliest, time, _⟩ := some
      rw [time] at sooner
      refine ⟨Int.lt_trans sooner earliest.timed, ?_⟩
      intro other found here otherWaits
      exact Int.lt_of_lt_of_le sooner (earliest.least other found here otherWaits)
  refine Or.inr ⟨visited.length, t, ⟨List.getElem?_concat_length, waits, all.1, ?_, ?_⟩, rfl, rfl⟩
  · grind
  · grind

theorem Pass.Chose.visit {visited : List (Task Interval)}
    (chose : pass.Chose now tasks nexttask visited) (t : Task Interval) :
    (pass.visit now tasks nexttask (t, visited.length)).Chose now tasks nexttask (visited ++ [t]) := by
  have other : t.state ≠ .wait → t.notDue now = true → pass.nexttasktime ≤ t.nextsched := by
    simp_all [Task.notDue, beq_false_of_ne]
  rw [Pass.visit]
  cases isState : t.state with
  | run => exact chose.keep (other (by rw [isState]; decide)) rfl rfl
  | susp => exact chose.keep (other (by rw [isState]; decide)) rfl rfl
  | illegal value => exact chose.keep (other (by rw [isState]; intro same; cases same)) rfl rfl
  | wait =>
      dsimp only
      split_ifs with due sooner
      · simp_all [Task.notDue, decide_eq_true_eq, chose.keep]
      · simp_all [Task.notDue, decide_eq_true_eq, chose.choose]
      · exact chose.keep (fun _ => Int.not_lt.mp sooner) rfl rfl

theorem schedule_chose (now : Int) (tasks nexttask : Nat) (tasklist : List (Task Interval)) :
    (tasklist.zipIdx.foldl (Pass.visit now tasks nexttask) ⟨0, int64Max, 0⟩).Chose now tasks
      nexttask tasklist := by
  induction tasklist using List.reverseRecOn with
  | nil =>
      refine Or.inl ⟨?_, rfl, rfl⟩
      intro t member
      cases member
  | append_singleton visited t ih =>
      simp [List.zipIdx_append, List.foldl_append, ih.visit]

def Passed (now : Int) (tasklist : List (Task Interval)) (turn place : Nat) : Prop :=
  (∃ chosen t, Earliest now tasklist chosen t ∧ place < chosen) ∨
    NoneWaits now tasklist ∧ place < ahead tasklist.length turn 0

theorem schedule_nexttask (now : Int) (scheduler : Scheduler Interval)
    (nonempty : 0 < scheduler.tasklist.length) :
    ∃ places, (scheduler.schedule now).nexttask =
        (scheduler.nexttask + places) % scheduler.tasklist.length ∧
      ∀ place, place < places → Passed now scheduler.tasklist scheduler.nexttask place := by
  rcases schedule_chose now scheduler.tasklist.length scheduler.nexttask scheduler.tasklist with
    none | some
  · refine ⟨ahead scheduler.tasklist.length scheduler.nexttask 0, ?_, ?_⟩
    · rw [turn_add_ahead nonempty]
      exact none.2.2
    · intro place inside
      exact Or.inr ⟨none.1, inside⟩
  · obtain ⟨chosen, t, earliest, _, first⟩ := some
    refine ⟨chosen, first, ?_⟩
    intro place inside
    exact Or.inl ⟨chosen, t, earliest, inside⟩

def Scheduler.PassesNone (scheduler : Scheduler Interval) (now : Int) : Prop :=
  ∀ place, Passed now scheduler.tasklist scheduler.nexttask place →
    scheduler.isRunnable ((scheduler.nexttask + place) % scheduler.tasklist.length) = false

variable {scheduler : Scheduler Interval} {target : Nat}

theorem isRunnable_iff :
    scheduler.isRunnable target = true ↔
      ∃ t, scheduler.tasklist[target]? = some t ∧ t.state = .run := by
  grind [Scheduler.isRunnable]

theorem isRunnable_inside (runs : scheduler.isRunnable target = true) :
    target < scheduler.tasklist.length := by
  obtain ⟨t, here, _⟩ := isRunnable_iff.mp runs
  exact (List.getElem?_eq_some_iff.mp here).1

theorem ahead_schedule_le (passes : scheduler.PassesNone now)
    (runs : scheduler.isRunnable target = true) :
    ahead scheduler.tasklist.length (scheduler.schedule now).nexttask target ≤
      ahead scheduler.tasklist.length scheduler.nexttask target := by
  have inside := isRunnable_inside runs
  obtain ⟨places, goes, passed⟩ :=
    schedule_nexttask now scheduler (Nat.zero_lt_of_lt inside)
  have near : places ≤ ahead scheduler.tasklist.length scheduler.nexttask target := by
    apply le_ahead inside
    intro place isBefore same
    have idle := passes place (passed place isBefore)
    rw [same, runs] at idle
    cases idle
  rw [goes, ahead_add inside near]
  exact Nat.sub_le _ _

theorem isRunnable_schedule (now : Int) (runs : scheduler.isRunnable target = true) :
    (scheduler.schedule now).isRunnable target = true := by
  obtain ⟨t, here, isRun⟩ := isRunnable_iff.mp runs
  apply isRunnable_iff.mpr
  simp [Scheduler.schedule, here, Option.map_some, Task.schedule, isRun]

theorem length_schedule (now : Int) :
    (scheduler.schedule now).tasklist.length = scheduler.tasklist.length :=
  List.length_map _

theorem length_setTask (idx : Nat) (set : Task Interval → Task Interval) :
    (scheduler.setTask idx set).tasklist.length = scheduler.tasklist.length :=
  List.length_modify _ _ _

theorem isRunnable_setTask {idx : Nat} {set : Task Interval → Task Interval}
    (keeps : idx = target → ∀ t : Task Interval, t.state = .run → (set t).state = .run)
    (runs : scheduler.isRunnable target = true) :
    (scheduler.setTask idx set).isRunnable target = true := by
  obtain ⟨t, here, isRun⟩ := isRunnable_iff.mp runs
  apply isRunnable_iff.mpr
  grind [Scheduler.setTask]

variable (ops : IntervalOps Interval)

/-- `mwresumetask` puts a task in `TASK_WAIT` whatever its state is. -/
def Op.Suspends (target : Nat) : Op Interval → Prop
  | .wake _ _ => False
  | .suspend idx _ => idx = target
  | .resume idx _ => idx = target
  | .setInterval idx interval _ => idx = target ∧ ops.negative interval = true

/-- An operation whose pass, or whose waking, does not pass over a runnable task. -/
def Op.PassesNone (scheduler : Scheduler Interval) : Op Interval → Prop
  | .wake idx _ => scheduler.refuses idx = none →
      ∀ place, place < ahead scheduler.tasklist.length scheduler.nexttask idx →
        scheduler.isRunnable ((scheduler.nexttask + place) % scheduler.tasklist.length) = false
  | .suspend idx now => scheduler.refuses idx = none →
      (scheduler.setTask idx fun t => { t with state := .susp }).PassesNone now
  | .resume idx now => scheduler.refuses idx = none →
      (scheduler.tasklist[idx]?.map fun t => ops.positive t.interval) = some true →
        (scheduler.setTask idx fun t => { t with state := .wait }).PassesNone now
  | .setInterval idx interval now => scheduler.refuses idx = none →
      (scheduler.setTask idx (Task.setInterval ops interval)).PassesNone now

theorem Op.length_run (op : Op Interval) :
    (op.run ops scheduler).tasklist.length = scheduler.tasklist.length := by
  cases op with
  | wake idx now =>
      grind [Op.run, Scheduler.mwwaketask, length_setTask]
  | suspend idx now =>
      grind [Op.run, Scheduler.mwsuspendtask, length_schedule, length_setTask]
  | resume idx now =>
      grind [Op.run, Scheduler.mwresumetask, length_schedule, length_setTask]
  | setInterval idx interval now =>
      grind [Op.run, Scheduler.mwsettaskinterval, length_schedule, length_setTask]

theorem Task.setInterval_run {interval : Interval} (notNegative : ops.negative interval ≠ true)
    {t : Task Interval} (isRun : t.state = .run) :
    (Task.setInterval ops interval t).state = .run := by
  simp_all [Task.setInterval]

theorem Op.isRunnable_run {op : Op Interval} (notSuspended : ¬op.Suspends ops target)
    (runs : scheduler.isRunnable target = true) :
    (op.run ops scheduler).isRunnable target = true := by
  cases op with
  | wake idx now =>
      rw [Op.run, Scheduler.mwwaketask]
      cases scheduler.refuses idx with
      | some errno => exact runs
      | none => exact isRunnable_setTask (fun _ _ _ => rfl) runs
  | suspend idx now =>
      rw [Op.run, Scheduler.mwsuspendtask]
      cases scheduler.refuses idx with
      | some errno => exact runs
      | none =>
          apply isRunnable_schedule
          exact isRunnable_setTask (fun same => absurd same notSuspended) runs
  | resume idx now =>
      rw [Op.run, Scheduler.mwresumetask]
      cases scheduler.refuses idx with
      | some errno => exact runs
      | none =>
          dsimp only
          split_ifs
          · apply isRunnable_schedule
            exact isRunnable_setTask (fun same => absurd same notSuspended) runs
          · exact runs
  | setInterval idx interval now =>
      rw [Op.run, Scheduler.mwsettaskinterval]
      cases scheduler.refuses idx with
      | some errno => exact runs
      | none =>
          apply isRunnable_schedule
          apply isRunnable_setTask _ runs
          intro same t isRun
          exact Task.setInterval_run ops (fun negative => notSuspended ⟨same, negative⟩) isRun

/-- The turn comes no further away from a task that stays runnable. -/
theorem Op.ahead_run_le {op : Op Interval} (notSuspended : ¬op.Suspends ops target)
    (passes : op.PassesNone ops scheduler) (runs : scheduler.isRunnable target = true) :
    ahead scheduler.tasklist.length (op.run ops scheduler).nexttask target ≤
      ahead scheduler.tasklist.length scheduler.nexttask target := by
  have pass : ∀ {idx : Nat} {set : Task Interval → Task Interval} {now : Int},
      (scheduler.setTask idx set).PassesNone now →
      (idx = target → ∀ t : Task Interval, t.state = .run → (set t).state = .run) →
      ahead scheduler.tasklist.length ((scheduler.setTask idx set).schedule now).nexttask target ≤
        ahead scheduler.tasklist.length scheduler.nexttask target := by
    intro idx set now passesSet keeps
    have near := ahead_schedule_le passesSet (isRunnable_setTask keeps runs)
    rw [length_setTask] at near
    exact near
  cases op with
  | wake idx now =>
      rw [Op.run, Scheduler.mwwaketask]
      cases isKnown : scheduler.refuses idx with
      | some errno => exact Nat.le_refl _
      | none =>
          have inside := isRunnable_inside runs
          have idxInside : idx < scheduler.tasklist.length := by
            grind [Scheduler.refuses]
          have near : ahead scheduler.tasklist.length scheduler.nexttask idx ≤
              ahead scheduler.tasklist.length scheduler.nexttask target := by
            apply le_ahead inside
            intro place isBefore same
            have idle := passes isKnown place isBefore
            rw [same, runs] at idle
            cases idle
          grind [turn_add_ahead, ahead_add]
  | suspend idx now =>
      rw [Op.run, Scheduler.mwsuspendtask]
      cases isKnown : scheduler.refuses idx with
      | some errno => exact Nat.le_refl _
      | none => exact pass (passes isKnown) (fun same => absurd same notSuspended)
  | resume idx now =>
      rw [Op.run, Scheduler.mwresumetask]
      cases isKnown : scheduler.refuses idx with
      | some errno => exact Nat.le_refl _
      | none =>
          dsimp only
          split_ifs with positive
          · exact pass (passes isKnown positive) (fun same => absurd same notSuspended)
          · exact Nat.le_refl _
  | setInterval idx interval now =>
      rw [Op.run, Scheduler.mwsettaskinterval]
      cases isKnown : scheduler.refuses idx with
      | some errno => exact Nat.le_refl _
      | none =>
          apply pass (passes isKnown)
          intro same t isRun
          exact Task.setInterval_run ops (fun negative => notSuspended ⟨same, negative⟩) isRun

theorem length_foldl_run (inner : List (Op Interval)) :
    (inner.foldl (Op.run ops) scheduler).tasklist.length = scheduler.tasklist.length := by
  induction inner generalizing scheduler with
  | nil => rfl
  | cons op rest ih =>
      rw [List.foldl_cons, ih, op.length_run]

theorem isRunnable_foldl_run {inner : List (Op Interval)}
    (notSuspended : ∀ op ∈ inner, ¬op.Suspends ops target)
    (runs : scheduler.isRunnable target = true) :
    (inner.foldl (Op.run ops) scheduler).isRunnable target = true := by
  induction inner generalizing scheduler with
  | nil => exact runs
  | cons op rest ih =>
      rw [List.forall_mem_cons] at notSuspended
      exact ih notSuspended.2 (Op.isRunnable_run ops notSuspended.1 runs)

variable (scheduler) in
theorem length_callTask (idx : Nat) (doing : Doing Interval) :
    (scheduler.callTask ops idx doing).tasklist.length = scheduler.tasklist.length := by
  grind [Scheduler.callTask, length_setTask, length_foldl_run]

theorem isRunnable_callTask {idx : Nat} {doing : Doing Interval} (other : idx ≠ target)
    (notSuspended : ∀ op ∈ doing.ops, ¬op.Suspends ops target)
    (runs : scheduler.isRunnable target = true) :
    (scheduler.callTask ops idx doing).isRunnable target = true := by
  have ran := isRunnable_foldl_run ops notSuspended runs
  rw [Scheduler.callTask]
  dsimp only
  split_ifs
  · exact isRunnable_setTask (fun same => absurd same other) ran
  · exact ran

theorem ready_of_isRunnable (runs : scheduler.isRunnable target = true) (began : Int) :
    scheduler.ready began = { scheduler with runnable := scheduler.countRunnable } ∧
      scheduler.countRunnable ≠ 0 := by
  obtain ⟨t, here, isRun⟩ := isRunnable_iff.mp runs
  have positive : 0 < scheduler.countRunnable := by
    grind [Scheduler.countRunnable, List.countP_pos_iff]
  have some : scheduler.countRunnable ≠ 0 := Nat.ne_of_gt positive
  exact ⟨by rw [Scheduler.ready, if_neg some], some⟩

/-- While a task is runnable `mwdotasks` calls the first one from the turn on. -/
theorem mwdotasks_of_isRunnable (runs : scheduler.isRunnable target = true)
    (doing : Doing Interval) :
    ∃ idx, scheduler.turn = some idx ∧ (scheduler.mwdotasks ops doing).called = some idx ∧
      (scheduler.mwdotasks ops doing).scheduler =
        ((scheduler.ready doing.began).callTask ops idx doing).schedule doing.ended := by
  have inside := isRunnable_inside runs
  obtain ⟨ready, some⟩ := ready_of_isRunnable runs doing.began
  have found := firstFrom_isSome scheduler.nexttask inside runs
  obtain ⟨idx, isTurn⟩ := Option.isSome_iff_exists.mp found
  have readyTurn : (scheduler.ready doing.began).turn = Option.some idx := by
    rw [ready]
    exact isTurn
  have nonempty : scheduler.tasklist.length ≠ 0 := Nat.ne_of_gt (Nat.zero_lt_of_lt inside)
  have runnable : (scheduler.ready doing.began).runnable ≠ 0 := by
    simp_all
  refine ⟨idx, isTurn, ?_, ?_⟩
  · simp_all [Scheduler.mwdotasks]
  · simp_all [Scheduler.mwdotasks]

inductive Step (Interval : Type) where
  | dotasks (doing : Doing Interval)
  | change (op : Op Interval)

def Scheduler.after (scheduler : Scheduler Interval) : Step Interval → Scheduler Interval
  | .dotasks doing => (scheduler.mwdotasks ops doing).scheduler
  | .change op => op.run ops scheduler

def Scheduler.calls (scheduler : Scheduler Interval) : Step Interval → Option Nat
  | .dotasks doing => (scheduler.mwdotasks ops doing).called
  | .change _ => none

def callsOf : Scheduler Interval → List (Step Interval) → List Nat
  | _, [] => []
  | scheduler, step :: rest =>
      (scheduler.calls ops step).toList ++ callsOf (scheduler.after ops step) rest

def Step.isDotasks : Step Interval → Bool
  | .dotasks _ => true
  | .change _ => false

def Step.Suspends (target : Nat) : Step Interval → Prop
  | .dotasks doing => ∃ op ∈ doing.ops, op.Suspends ops target
  | .change op => op.Suspends ops target

/-- A step that does not pass over a runnable task. In `mwdotasks` this is about the pass at its
end, where the turn is at the place behind the task that was called. -/
def Step.PassesNone (scheduler : Scheduler Interval) : Step Interval → Prop
  | .dotasks doing => ∀ idx, scheduler.countRunnable ≠ 0 → scheduler.turn = some idx →
      ((scheduler.ready doing.began).callTask ops idx doing).PassesNone doing.ended
  | .change op => op.PassesNone ops scheduler

def PassesNoneIn : Scheduler Interval → List (Step Interval) → Prop
  | _, [] => True
  | scheduler, step :: rest =>
      step.PassesNone ops scheduler ∧ PassesNoneIn (scheduler.after ops step) rest

/-- A runnable task is called, or stays runnable and its turn comes nearer. -/
theorem dotasks_nearer (runs : scheduler.isRunnable target = true) {doing : Doing Interval}
    (notSuspended : ∀ op ∈ doing.ops, ¬op.Suspends ops target)
    (passes : (Step.dotasks doing).PassesNone ops scheduler) :
    scheduler.calls ops (.dotasks doing) = some target ∨
      (scheduler.after ops (.dotasks doing)).isRunnable target = true ∧
      (scheduler.after ops (.dotasks doing)).tasklist.length = scheduler.tasklist.length ∧
      ahead scheduler.tasklist.length (scheduler.after ops (.dotasks doing)).nexttask target <
        ahead scheduler.tasklist.length scheduler.nexttask target := by
  obtain ⟨idx, isTurn, called, result⟩ := mwdotasks_of_isRunnable ops runs doing
  obtain ⟨ready, some⟩ := ready_of_isRunnable runs doing.began
  by_cases same : idx = target
  · exact Or.inl (called.trans (congrArg Option.some same))
  · right
    have passesCalled := passes idx some isTurn
    have readyRuns : (scheduler.ready doing.began).isRunnable target = true := by
      rw [ready]
      exact runs
    have readyLength : (scheduler.ready doing.began).tasklist.length =
        scheduler.tasklist.length := by
      rw [ready]
    have calledLength := length_callTask (scheduler.ready doing.began) ops idx doing
    have calledRuns := isRunnable_callTask ops same notSuspended readyRuns
    rw [Scheduler.after, result]
    refine ⟨isRunnable_schedule _ calledRuns, ?_, ?_⟩
    · rw [length_schedule, calledLength, readyLength]
    · have near := ahead_schedule_le passesCalled calledRuns
      rw [calledLength, readyLength] at near
      apply Nat.lt_of_le_of_lt near
      have turn : ((scheduler.ready doing.began).callTask ops idx doing).nexttask =
          (idx + 1) % scheduler.tasklist.length := by
        rw [← readyLength]
        rfl
      rw [turn]
      exact ahead_firstFrom (isRunnable_inside runs) runs isTurn same

/-- A runnable task waits for its turn to come. -/
theorem mem_callsOf {steps : List (Step Interval)}
    (runs : scheduler.isRunnable target = true)
    (notSuspended : ∀ step ∈ steps, ¬step.Suspends ops target)
    (passes : PassesNoneIn ops scheduler steps)
    (enough : ahead scheduler.tasklist.length scheduler.nexttask target <
      steps.countP Step.isDotasks) :
    target ∈ callsOf ops scheduler steps := by
  induction steps generalizing scheduler with
  | nil => exact absurd enough (Nat.not_lt_zero _)
  | cons step rest ih =>
      rw [List.forall_mem_cons] at notSuspended
      rw [callsOf, List.mem_append]
      cases step with
      | dotasks doing =>
          have inner : ∀ op ∈ doing.ops, ¬op.Suspends ops target :=
            fun op member suspends => notSuspended.1 ⟨op, member, suspends⟩
          rcases dotasks_nearer ops runs inner passes.1 with called | waits
          · simp [called, Or.inl]
          · obtain ⟨stillRuns, sameLength, nearer⟩ := waits
            right
            apply ih stillRuns notSuspended.2 passes.2
            grind
      | change op =>
          right
          have nearer := Op.ahead_run_le ops notSuspended.1 passes.1 runs
          apply ih (Op.isRunnable_run ops notSuspended.1 runs) notSuspended.2
            passes.2
          rw [List.countP_cons_of_neg (by exact Bool.false_ne_true)] at enough
          rw [op.length_run]
          exact Nat.lt_of_le_of_lt nearer enough

def Scheduler.AllRunnable (scheduler : Scheduler Interval) : Prop :=
  ∀ t ∈ scheduler.tasklist, t.state = .run

def Doing.AsksAgain (doing : Doing Interval) : Prop := doing.rc ≠ 0 ∧ doing.ops = []

theorem schedule_allRunnable (all : scheduler.AllRunnable) (now : Int) :
    (scheduler.schedule now).tasklist = scheduler.tasklist ∧
      (scheduler.schedule now).nexttask = 0 := by
  constructor
  · have same : ∀ t ∈ scheduler.tasklist, Task.schedule now t = id t := by
      intro t member
      rw [Task.schedule, all t member]
      rfl
    exact (List.map_congr_left same).trans (List.map_id _)
  · rcases schedule_chose now scheduler.tasklist.length scheduler.nexttask scheduler.tasklist with
      none | some
    · exact none.2.2
    · obtain ⟨place, t, earliest, _⟩ := some
      have waits := earliest.waits
      rw [Task.notDue, all t (List.mem_of_getElem? earliest.here)] at waits
      cases waits

/-- The place of the turn is called, and the turn goes to the first place. -/
theorem dotasks_allRunnable (all : scheduler.AllRunnable)
    (nonempty : 0 < scheduler.tasklist.length) {doing : Doing Interval} (again : doing.AsksAgain) :
    scheduler.calls ops (.dotasks doing) = some (scheduler.nexttask % scheduler.tasklist.length) ∧
      (scheduler.after ops (.dotasks doing)).tasklist = scheduler.tasklist ∧
      (scheduler.after ops (.dotasks doing)).nexttask = 0 := by
  have turnInside := Nat.mod_lt scheduler.nexttask nonempty
  have runsAt : ∀ place, place < scheduler.tasklist.length → scheduler.isRunnable place = true := by
    intro place inside
    apply isRunnable_iff.mpr
    exact ⟨_, List.getElem?_eq_getElem inside, all _ (List.getElem_mem inside)⟩
  have runs := runsAt _ turnInside
  obtain ⟨idx, isTurn, called, result⟩ := mwdotasks_of_isRunnable ops runs doing
  obtain ⟨_, places, _, same, before⟩ := firstFrom_some isTurn
  have atOnce : places = 0 := by
    by_contra later
    have idle := before 0 (Nat.pos_of_ne_zero later)
    rw [Nat.add_zero, runs] at idle
    cases idle
  rw [atOnce, Nat.add_zero] at same
  obtain ⟨ready, _⟩ := ready_of_isRunnable runs doing.began
  have list : ((scheduler.ready doing.began).callTask ops idx doing).tasklist =
      scheduler.tasklist := by
    rw [Scheduler.callTask, again.2, if_neg again.1, ready]
    rfl
  have allCalled : ((scheduler.ready doing.began).callTask ops idx doing).AllRunnable := by
    simp_all [Scheduler.AllRunnable]
  refine ⟨called.trans (congrArg some same), ?_, ?_⟩
  · simp_all [Scheduler.after, schedule_allRunnable]
  · simp_all [Scheduler.after, schedule_allRunnable]

/-- After the first call it is always the turn of the first task. -/
theorem callsOf_allRunnable (all : scheduler.AllRunnable)
    (nonempty : 0 < scheduler.tasklist.length) (doings : List (Doing Interval))
    (again : ∀ doing ∈ doings, doing.AsksAgain) (first : scheduler.nexttask = 0) :
    callsOf ops scheduler (doings.map Step.dotasks) = List.replicate doings.length 0 := by
  induction doings generalizing scheduler with
  | nil => rfl
  | cons doing rest ih =>
      rw [List.forall_mem_cons] at again
      obtain ⟨called, list, turn⟩ := dotasks_allRunnable ops all nonempty again.1
      grind [callsOf, Nat.zero_mod, Scheduler.AllRunnable]

/-- Every task has been called once. -/
theorem callsOf_perm_iff (all : scheduler.AllRunnable) {doings : List (Doing Interval)}
    (again : ∀ doing ∈ doings, doing.AsksAgain)
    (enough : doings.length = scheduler.tasklist.length)
    (inside : scheduler.tasklist ≠ [] → scheduler.nexttask < scheduler.tasklist.length) :
    (callsOf ops scheduler (doings.map Step.dotasks)).Perm
        (List.range scheduler.tasklist.length) ↔
      scheduler.tasklist.length ≤ 1 ∨
        scheduler.tasklist.length = 2 ∧ scheduler.nexttask = 1 := by
  cases doings with
  | nil =>
      rw [← enough]
      exact ⟨fun _ => Or.inl (Nat.zero_le 1), fun _ => List.Perm.refl []⟩
  | cons doing rest =>
      rw [List.length_cons] at enough
      have nonempty : 0 < scheduler.tasklist.length := by omega
      have turnInside := inside (List.ne_nil_of_length_pos nonempty)
      rw [List.forall_mem_cons] at again
      obtain ⟨called, list, turn⟩ := dotasks_allRunnable ops all nonempty again.1
      have stillAll : (scheduler.after ops (.dotasks doing)).AllRunnable := by
        simp_all [Scheduler.AllRunnable]
      rw [List.map_cons, callsOf, called,
        callsOf_allRunnable ops stillAll (list ▸ nonempty) rest again.2 turn,
        Nat.mod_eq_of_lt turnInside, ← enough]
      change (scheduler.nexttask :: List.replicate rest.length 0).Perm (List.range _) ↔ _
      constructor
      · grind [List.nodup_cons, List.nodup_replicate]
      · grind

/-- A task that is runnable, and that nobody suspends, is called within as many calls as there are
tasks, in every run that does not pass over a runnable task; when all are runnable and ask again,
each is called once exactly when there is one task at most, or when there are two and it is the
turn of the second. -/
theorem runnable_called_in_turn (ops : IntervalOps Interval) :
    (∀ (scheduler : Scheduler Interval) (target : Nat) (steps : List (Step Interval)),
      scheduler.isRunnable target = true → (∀ step ∈ steps, ¬step.Suspends ops target) →
        PassesNoneIn ops scheduler steps →
          scheduler.tasklist.length ≤ steps.countP Step.isDotasks →
            target ∈ callsOf ops scheduler steps) ∧
    ∀ (scheduler : Scheduler Interval) (doings : List (Doing Interval)),
      scheduler.AllRunnable → (∀ doing ∈ doings, doing.AsksAgain) →
        doings.length = scheduler.tasklist.length →
          (scheduler.tasklist ≠ [] → scheduler.nexttask < scheduler.tasklist.length) →
            ((callsOf ops scheduler (doings.map Step.dotasks)).Perm
                (List.range scheduler.tasklist.length) ↔
              scheduler.tasklist.length ≤ 1 ∨
                scheduler.tasklist.length = 2 ∧ scheduler.nexttask = 1) := by
  constructor
  · intro scheduler target steps runs notSuspended passes enough
    apply mem_callsOf ops runs notSuspended passes
    exact Nat.lt_of_lt_of_le (ahead_lt (isRunnable_inside runs)) enough
  · simp_all [callsOf_perm_iff]

end

def microseconds : IntervalOps Int where
  negative interval := interval < 0
  positive interval := 0 < interval
  after tt interval := tt + interval
  moved nextsched interval oldinterval := nextsched + (interval - oldinterval)

def againAtOnce : Doing Int := ⟨0, [], 1, 0, 0⟩

def waitingAndRunning : Scheduler Int := ⟨true, [⟨10, .wait, 1000⟩, ⟨10, .run, 0⟩], 0, 0, 1⟩

theorem waitingAndRunning_passed {place : Nat}
    (passed : Passed 0 waitingAndRunning.tasklist 0 place) : False := by
  rcases passed with chosen | none
  · obtain ⟨chosen, t, earliest, before⟩ := chosen
    have here := earliest.here
    match chosen, before with
    | 1, _ =>
        cases here
        exact absurd earliest.waits (by decide)
    | chosen + 2, _ => cases here
  · exact Nat.not_lt_zero place none.2

theorem runnable_called_in_turn_second :
    1 ∈ callsOf microseconds waitingAndRunning [.dotasks againAtOnce, .dotasks againAtOnce] := by
  apply (runnable_called_in_turn microseconds).1 waitingAndRunning 1
  · rfl
  · intro step member suspends
    have isCall : step = .dotasks againAtOnce := by simpa using member
    rw [isCall] at suspends
    obtain ⟨op, none, _⟩ := suspends
    cases none
  · have stays : ∀ idx, waitingAndRunning.countRunnable ≠ 0 → waitingAndRunning.turn = some idx →
        ((waitingAndRunning.ready 0).callTask microseconds idx againAtOnce).PassesNone 0 := by
      intro idx _ isTurn place passed
      cases isTurn
      exact (waitingAndRunning_passed passed).elim
    exact ⟨stays, stays, trivial⟩
  · decide

def twoRunning : Scheduler Int := ⟨true, [⟨10, .run, 0⟩, ⟨10, .run, 0⟩], 0, 0, 2⟩

/-- Of two runnable tasks the second is not called, however often `mwdotasks` is. -/
theorem second_task_starves :
    twoRunning.isRunnable 1 = true ∧ ∀ calls, 1 ∉ callsOf microseconds twoRunning
      (List.replicate calls (.dotasks againAtOnce)) := by
  refine ⟨rfl, ?_⟩
  intro calls
  have all : twoRunning.AllRunnable := by
    intro t member
    simp only [twoRunning, List.mem_cons, List.not_mem_nil, or_false, or_self] at member
    rw [member]
  have again : ∀ doing ∈ List.replicate calls againAtOnce, doing.AsksAgain := by
    intro doing member
    rw [List.eq_of_mem_replicate member]
    exact ⟨by decide, rfl⟩
  have called := callsOf_allRunnable microseconds all (by decide) _ again rfl
  rw [List.map_replicate] at called
  rw [called]
  intro member
  cases List.eq_of_mem_replicate member

end MidWay.Tasks

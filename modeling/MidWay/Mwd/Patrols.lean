import MidWay.Client.ReplyQueue

/-!
Contract: when the watchdog goes on patrol.

The time that a sleep took is kept as the time that is left of it. A sleep of a second or
more is so never followed by a patrol, however long it was, unless the process was told
to patrol by SIGUSR1.

Owns: `run_watchdog`, what is due at each of its turns, and the exact condition under
which it sleeps no longer than it may and patrols when it should.
-/

namespace MidWay.Mwd.Patrols

open MidWay.CLib MidWay.Client

def mwReady : Int := 0
def mwShutdown : Int := 1
def mwBooting : Int := 2
def mwDead : Int := 4

/-- What is read of `ipcmain` in a turn. -/
structure Ipcmain where
  mwdpid : Int
  status : Int
  boottime : Int
  shutdowntime : Int

inductive Deed where
  | checkTables
  | killAllServers (signal : Int)
  | cleanupIpc
  | markDead
deriving DecidableEq

def sigkill : Int := 9
def sigterm : Int := 15

structure Watchdog where
  interval : Int
  remaining : Int
  now : Int
deriving DecidableEq

/-- A turn of the loop: what is read of `ipcmain`, the time before and behind the sleep, whether
SIGUSR1 came since the flag was last looked at, whether the pipe to the parent is broken, and who is
the parent. -/
structure WakeUp where
  ipcmain : Ipcmain
  startsleep : Int
  woken : Int
  patrolNow : Bool
  hangup : Bool
  getppid : Int

def patrolInterval (envp : Option (List Byte)) : Int :=
  match envp with
  | none => 120
  | some text => if 0 < atoi text then atoi text else 120

def startWatchdog (envp : Option (List Byte)) (now : Int) : Watchdog where
  interval := patrolInterval envp
  remaining := 0
  now := now

def Watchdog.sleeping (dog : Watchdog) (ipcmain : Ipcmain) : Int :=
  if ipcmain.boottime < ipcmain.shutdowntime ∧ ipcmain.shutdowntime < dog.remaining + dog.now then
    ipcmain.shutdowntime - dog.now
  else if dog.remaining ≤ 0 then dog.interval
  else dog.remaining

/-- The time-out of `poll` is in milliseconds, and no `int` where it overflows. -/
def timeout (sleeping : Int) : Option Int :=
  if -2147483648 ≤ sleeping * 1000 ∧ sleeping * 1000 ≤ 2147483647 then some (sleeping * 1000)
  else none

/-- What `remaining` is set to behind the sleep. -/
def WakeUp.slept (wake : WakeUp) : Int := toInt32 (wake.woken - wake.startsleep)

/-- The turn behind the sleep: what is done, and the variables of the next turn, unless the process
ends. -/
def Watchdog.wakes (dog : Watchdog) (wake : WakeUp) : List Deed × Option Watchdog :=
  if wake.hangup = true ∨ wake.ipcmain.mwdpid ≠ wake.getppid then ([.killAllServers sigkill, .cleanupIpc], none)
  else
    let remaining := if wake.patrolNow then 0 else wake.slept
    let next := { dog with remaining := remaining, now := wake.woken }
    if 0 < remaining then
      if wake.ipcmain.status = mwShutdown then ([.killAllServers sigterm, .markDead], some next)
      else ([], some next)
    else ([.checkTables], some next)

/-- `mwd` is alive, and no shutdown is requested. -/
structure WakeUp.Quiet (wake : WakeUp) : Prop where
  connected : wake.hangup = false
  parent : wake.getppid = wake.ipcmain.mwdpid
  noShutdown : wake.ipcmain.shutdowntime ≤ wake.ipcmain.boottime
  status : wake.ipcmain.status ≠ mwShutdown

/-- The sleep that is asked for has a length, and ends by the time of the next patrol. -/
def Watchdog.AsksInTime (dog : Watchdog) (lastPatrol : Int) (wake : WakeUp) : Prop :=
  ∃ milliseconds, timeout (dog.sleeping wake.ipcmain) = some milliseconds ∧ 0 ≤ milliseconds ∧
    milliseconds ≤ 1000 * (lastPatrol + dog.interval - wake.startsleep)

def Watchdog.PatrolsWhenDue (dog : Watchdog) (lastPatrol : Int) (wake : WakeUp) : Prop :=
  wake.patrolNow = true ∨ lastPatrol + dog.interval ≤ wake.woken →
    Deed.checkTables ∈ (dog.wakes wake).1

def Watchdog.OnTime : Watchdog → Int → List WakeUp → Prop
  | _, _, [] => True
  | dog, lastPatrol, wake :: rest =>
      dog.AsksInTime lastPatrol wake ∧ dog.PatrolsWhenDue lastPatrol wake ∧
        ∀ next, (dog.wakes wake).2 = some next →
          next.OnTime (if Deed.checkTables ∈ (dog.wakes wake).1 then wake.woken else lastPatrol) rest

/-- Behind a patrol the watchdog goes to sleep in the same second, and behind another sleep no
longer one fits the time that is left; and it is woken by SIGUSR1, or within the second in which it
fell asleep, or before the patrol is due. -/
structure Timely (interval remaining lastPatrol : Int) (wake : WakeUp) : Prop where
  rested : remaining ≤ 0 → interval ≤ 2147483 ∧ wake.startsleep ≤ lastPatrol
  interrupted : 0 < remaining →
    remaining ≤ 2147483 ∧ remaining ≤ lastPatrol + interval - wake.startsleep
  woken : wake.patrolNow = true ∨ wake.slept ≤ 0 ∨ wake.woken < lastPatrol + interval

def AllTimely (interval : Int) : Int → Int → List WakeUp → Prop
  | _, _, [] => True
  | remaining, lastPatrol, wake :: rest =>
      Timely interval remaining lastPatrol wake ∧
        AllTimely interval (if wake.patrolNow then 0 else wake.slept)
          (if wake.patrolNow = true ∨ wake.slept ≤ 0 then wake.woken else lastPatrol) rest

section

variable {dog : Watchdog} {wake : WakeUp} {lastPatrol : Int}

theorem patrolInterval_pos (envp : Option (List Byte)) : 0 < patrolInterval envp := by
  unfold patrolInterval
  cases envp with
  | none => decide
  | some text =>
      grind

theorem WakeUp.Quiet.wakes (quiet : wake.Quiet) (dog : Watchdog) :
    dog.wakes wake =
      (if wake.patrolNow = true ∨ wake.slept ≤ 0 then [.checkTables] else [],
        some ⟨dog.interval, if wake.patrolNow then 0 else wake.slept, wake.woken⟩) := by
  have alive : ¬(wake.hangup = true ∨ wake.ipcmain.mwdpid ≠ wake.getppid) := by
    simp [quiet.connected, quiet.parent]
  rw [Watchdog.wakes, if_neg alive]
  dsimp only
  rw [if_neg quiet.status]
  grind

theorem WakeUp.Quiet.checks_iff (quiet : wake.Quiet) (dog : Watchdog) :
    Deed.checkTables ∈ (dog.wakes wake).1 ↔ wake.patrolNow = true ∨ wake.slept ≤ 0 := by
  simp [quiet.wakes]

theorem WakeUp.Quiet.sleeping (quiet : wake.Quiet) (dog : Watchdog) :
    dog.sleeping wake.ipcmain = if dog.remaining ≤ 0 then dog.interval else dog.remaining := by
  rw [Watchdog.sleeping, if_neg]
  exact fun soon => absurd soon.1 (Int.not_lt.mpr quiet.noShutdown)

/-- What is asked for is in time just if it is an `int` and fits. -/
theorem timeout_in_time {sleeping left : Int} (positive : 0 < sleeping) :
    (∃ milliseconds, timeout sleeping = some milliseconds ∧ 0 ≤ milliseconds ∧
      milliseconds ≤ 1000 * left) ↔ sleeping ≤ 2147483 ∧ sleeping ≤ left := by
  unfold timeout
  constructor
  · rintro ⟨milliseconds, asked, _, within⟩
    split_ifs at asked with fits
    cases asked
    omega
  · intro inTime
    refine ⟨sleeping * 1000, if_pos ?_, ?_, ?_⟩
    · omega
    · omega
    · omega

/-- One turn is as it should be just if it is timely. -/
theorem WakeUp.Quiet.turn_iff (quiet : wake.Quiet) (positive : 0 < dog.interval) :
    dog.AsksInTime lastPatrol wake ∧ dog.PatrolsWhenDue lastPatrol wake ↔
      Timely dog.interval dog.remaining lastPatrol wake := by
  have patrols : dog.PatrolsWhenDue lastPatrol wake ↔
      wake.patrolNow = true ∨ wake.slept ≤ 0 ∨ wake.woken < lastPatrol + dog.interval := by
    rw [Watchdog.PatrolsWhenDue, quiet.checks_iff]
    constructor
    · grind
    · grind
  have sleeping := quiet.sleeping dog
  rw [patrols, Watchdog.AsksInTime]
  by_cases rested : dog.remaining ≤ 0
  · rw [if_pos rested] at sleeping
    rw [sleeping, timeout_in_time positive]
    constructor
    · rintro ⟨asked, woken⟩
      exact ⟨fun _ => by omega, fun interrupted => by omega, woken⟩
    · intro timely
      have asked := timely.rested rested
      exact ⟨by omega, timely.woken⟩
  · rw [if_neg rested] at sleeping
    rw [sleeping, timeout_in_time (Int.not_le.mp rested)]
    constructor
    · rintro ⟨asked, woken⟩
      exact ⟨fun isOver => absurd isOver rested, fun _ => asked, woken⟩
    · intro timely
      exact ⟨timely.interrupted (Int.not_le.mp rested), timely.woken⟩

end

theorem onTime_iff {dog : Watchdog} (positive : 0 < dog.interval) {lastPatrol : Int}
    {run : List WakeUp} (quiet : ∀ wake ∈ run, wake.Quiet) :
    dog.OnTime lastPatrol run ↔ AllTimely dog.interval dog.remaining lastPatrol run := by
  induction run generalizing dog lastPatrol with
  | nil => exact Iff.rfl
  | cons wake rest ih =>
      rw [List.forall_mem_cons] at quiet
      obtain ⟨quietNow, quietLater⟩ := quiet
      rw [Watchdog.OnTime, AllTimely, ← and_assoc, quietNow.turn_iff positive, quietNow.wakes]
      have later : ∀ patrolled : Int,
          Watchdog.OnTime ⟨dog.interval, if wake.patrolNow then 0 else wake.slept, wake.woken⟩
            patrolled rest ↔
          AllTimely dog.interval (if wake.patrolNow then 0 else wake.slept) patrolled rest := by
        intro patrolled
        refine ih ?_ quietLater
        exact positive
      by_cases patrols : wake.patrolNow = true ∨ wake.slept ≤ 0
      · simp [later]
      · simp [later]

def Watchdog.deeds : Watchdog → List WakeUp → List Deed
  | _, [] => []
  | dog, wake :: rest =>
      (dog.wakes wake).1 ++
        match (dog.wakes wake).2 with
        | none => []
        | some next => next.deeds rest

/-- The watchdog patrols on time in every turn just if all the turns are timely. -/
theorem watchdog_on_time_iff (envp : Option (List Byte)) (now : Int) {run : List WakeUp}
    (quiet : ∀ wake ∈ run, wake.Quiet) :
    (startWatchdog envp now).OnTime now run ↔ AllTimely (patrolInterval envp) 0 now run :=
  onTime_iff (patrolInterval_pos envp) quiet

def quietTurn (startsleep woken : Int) (patrolNow : Bool) : WakeUp where
  ipcmain := ⟨1000, mwReady, 100, 0⟩
  startsleep := startsleep
  woken := woken
  patrolNow := patrolNow
  hangup := false
  getppid := 1000

theorem quietTurn_quiet (startsleep woken : Int) (patrolNow : Bool) :
    (quietTurn startsleep woken patrolNow).Quiet :=
  ⟨rfl, rfl, show (0 : Int) ≤ 100 by decide, show mwReady ≠ mwShutdown by decide⟩

/-- SIGUSR1 comes before the first patrol is due, and again behind a sleep that is interrupted. -/
theorem watchdog_on_time_iff_triggered :
    (startWatchdog none 100).OnTime 100
      [quietTurn 100 150 true, quietTurn 150 160 false, quietTurn 160 170 true] := by
  refine (watchdog_on_time_iff none 100 ?_).mpr ?_
  · simp [quietTurn_quiet]
  · refine ⟨⟨?_, ?_, ?_⟩, ⟨?_, ?_, ?_⟩, ⟨?_, ?_, ?_⟩, trivial⟩ <;> decide

/-- The watchdog sleeps for its interval of two minutes, and does not patrol behind it. -/
theorem whole_sleep_no_patrol : ¬(startWatchdog none 100).OnTime 100 [quietTurn 100 220 false] := by
  intro onTime
  have patrols := onTime.2.1 (Or.inr (by decide))
  exact absurd patrols (by decide)

end MidWay.Mwd.Patrols

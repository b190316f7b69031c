import MidWay.CLib.Errno
import MidWay.Mwd.ManagedServers
import MidWay.Mwd.Patrols
import MidWay.Mwd.Tables

/-!
Contract: the shutdown of `mwd`, in the runs of a task that counts down.

The phases of the countdown fall into one another, so that what is meant for several runs
is done in one. The count goes down within a phase and again behind it: from 5 to 3 where
there is a server to stop, and past 0 in the phase that kills what is left. The flag that
ends the main loop is set at 0 only.

Owns: `stop_server`, `kill_all_servers`, `do_shutdowntask`, a turn of the main loop, what
each run sends to whom, and that the flag is never set.
-/

namespace MidWay.Mwd.Shutdown

open MidWay.CLib MidWay.Mwd.ManagedServers MidWay.Mwd.Patrols

/-- What a run of the task finds: the tables, the managed servers and the fields of `ipcmain`. -/
structure World where
  tables : Tables
  managed : ServerTable
  mwdpid : Int
  mwwdpid : Int
  mwdMqid : Int
  status : Int
  shutdowntime : Int

/-- `countdown` and `flags.terminate` are changed by the task alone. -/
structure Daemon where
  world : World
  countdown : Int
  terminate : Bool

inductive Deed where
  | settaskinterval
  | removeQueue (mqid : Int)
  | kill (pid signal : Int)
deriving DecidableEq

def sighup : Int := 1
def sigint : Int := 2

def World.servers (world : World) : List Serverentry :=
  (List.range world.tables.srvtblLength).map fun idx => world.tables.srvtbl idx

def World.gateways (world : World) : List Gatewayentry :=
  (List.range world.tables.gwtblLength).map fun idx => world.tables.gwtbl idx

def World.clients (world : World) : List Cliententry :=
  (List.range world.tables.clttblLength).map fun idx => world.tables.clttbl idx

def World.getPids (world : World) : List Int :=
  ((world.servers.filter fun entry => 1 < entry.pid ∧ entry.pid ≠ world.mwdpid).map
      Serverentry.pid) ++
    (world.gateways.filter fun entry => 1 < entry.pid).map Gatewayentry.pid

/-- `stop_server(-1)`: the queue of every server is removed, but for that of `mwd` itself. -/
def World.stopServers (world : World) : List Deed :=
  (world.servers.filter fun entry => 0 < entry.mqid ∧ entry.mqid ≠ world.mwdMqid).map
    fun entry => .removeQueue entry.mqid

def World.killAllServers (world : World) (signal : Int) : List Deed :=
  world.getPids.map fun pid => .kill pid signal

def World.hardDisconnectIpc (world : World) : List Deed :=
  ((world.clients.filter fun entry => 1 < entry.mqid).map fun entry => .removeQueue entry.mqid) ++
    (world.gateways.filter fun entry => 1 < entry.mqid).map fun entry => .removeQueue entry.mqid

/-- `triggershutdown` and `kill_all_servers`, and the count goes down. -/
def Daemon.signal (daemon : Daemon) (signal : Int) : Daemon × List Deed :=
  let (managed, kills) := daemon.world.managed.triggershutdown signal
  ({ daemon with
      world := { daemon.world with managed := managed }
      countdown := daemon.countdown - 1 },
    (kills.map fun kill => .kill kill.pid kill.signal) ++ daemon.world.killAllServers signal)

def Daemon.case1 (daemon : Daemon) : Daemon × List Deed :=
  let (after, kills) := daemon.signal sigkill
  ({ after with world := { after.world with status := mwDead } },
    .kill sigterm daemon.world.mwwdpid :: kills ++ after.world.hardDisconnectIpc)

def Daemon.case2 (daemon : Daemon) : Daemon × List Deed :=
  let (daemon, kills) := daemon.signal sighup
  let (daemon, later) := daemon.case1
  (daemon, kills ++ later)

def Daemon.case3 (daemon : Daemon) : Daemon × List Deed :=
  let (daemon, kills) := daemon.signal sigint
  let (daemon, later) := daemon.case2
  (daemon, kills ++ later)

def Daemon.case4 (daemon : Daemon) : Daemon × List Deed :=
  let (daemon, kills) := daemon.signal sigterm
  let (daemon, later) := daemon.case3
  (daemon, kills ++ later)

def Daemon.case5 (daemon : Daemon) (now : Int) : Daemon × List Deed :=
  let daemon := { daemon with
    world := { daemon.world with shutdowntime := now, status := Patrols.mwShutdown }
    countdown := daemon.countdown - 1 }
  let stopped := daemon.world.stopServers
  if stopped.length ≠ 0 then (daemon, stopped)
  else
    let (daemon, later) := daemon.case4
    (daemon, stopped ++ later)

def Daemon.switch (daemon : Daemon) (now : Int) : Daemon × List Deed :=
  if daemon.countdown = 5 then daemon.case5 now
  else if daemon.countdown = 4 then daemon.case4
  else if daemon.countdown = 3 then daemon.case3
  else if daemon.countdown = 2 then daemon.case2
  else if daemon.countdown = 1 then daemon.case1
  else if daemon.countdown = 0 then ({ daemon with terminate := true }, [])
  else (daemon, [])

def Daemon.doShutdowntask (daemon : Daemon) (now : Int) : Daemon × List Deed :=
  let began := if daemon.countdown = 5 then [Deed.settaskinterval] else []
  let (after, deeds) := daemon.switch now
  ({ after with countdown := after.countdown - 1 }, began ++ deeds)

/-- What `parse_request` does: it is interrupted or finds no request, or a request is handled, or
fails to be received, and this is returned. -/
inductive Parsed where
  | interrupted (errno : Errno)
  | handled (rc : Int)

def parseRequest (status : Int) : Parsed → Int
  | .interrupted errno => if status = mwDead then rcOf .ESHUTDOWN else rcOf errno
  | .handled rc => rc

inductive Leaves where
  | goesOn
  | shutdownBreak
  | exits
  | terminateBreak
deriving DecidableEq

def Daemon.leaves (daemon : Daemon) (parsed : Parsed) : Leaves :=
  if parseRequest daemon.world.status parsed = rcOf .ESHUTDOWN then .shutdownBreak
  else if daemon.world.status = mwDead then .exits
  else if daemon.terminate then .terminateBreak
  else .goesOn

/-- A turn in which the task is run: the world as it finds it, the time, and what is parsed. -/
structure Turn where
  world : World
  now : Int
  parsed : Parsed

def daemonAt (turns : Nat → Turn) : Nat → Daemon
  | 0 => ⟨(turns 0).world, 5, false⟩
  | run + 1 =>
      { ((daemonAt turns run).doShutdowntask (turns run).now).1 with world := (turns (run + 1)).world }

def behindRun (turns : Nat → Turn) (run : Nat) : Daemon :=
  ((daemonAt turns run).doShutdowntask (turns run).now).1

def deedsOf (turns : Nat → Turn) (run : Nat) : List Deed :=
  ((daemonAt turns run).doShutdowntask (turns run).now).2

def World.groups (world : World) : List Int :=
  (world.managed.serverlist.filter fun server => server.pgid ≠ 0).map fun server => -server.pgid

structure SendsMembers (world : World) (deeds : List Deed) (signal : Int) : Prop where
  all : ∀ pid ∈ world.getPids, .kill pid signal ∈ deeds
  noOther : ∀ pid ∈ world.getPids, ∀ other, .kill pid other ∈ deeds → other = signal

structure Orderly (turns : Nat → Turn) : Prop where
  phases : ∃ first, SendsMembers (turns first).world (deedsOf turns first) sigterm ∧
    SendsMembers (turns (first + 1)).world (deedsOf turns (first + 1)) sigint ∧
    SendsMembers (turns (first + 2)).world (deedsOf turns (first + 2)) sighup ∧
    SendsMembers (turns (first + 3)).world (deedsOf turns (first + 3)) sigkill
  watchdog : ∃ run signal, .kill (turns run).world.mwwdpid signal ∈ deedsOf turns run
  only : ∀ run pid signal, .kill pid signal ∈ deedsOf turns run →
    pid = (turns run).world.mwwdpid ∨ pid ∈ (turns run).world.getPids ∨
      pid ∈ (turns run).world.groups
  terminates : ∃ run, (behindRun turns run).leaves (turns run).parsed = .terminateBreak ∧
    ∀ earlier, earlier < run → (behindRun turns earlier).leaves (turns earlier).parsed = .goesOn

section

variable {daemon : Daemon} {turns : Nat → Turn}

theorem case3_spec : daemon.case3.1.countdown = daemon.countdown - 3 ∧
    daemon.case3.1.terminate = daemon.terminate ∧ daemon.case3.1.world.status = mwDead := by
  refine ⟨?_, rfl, rfl⟩
  change daemon.countdown - 1 - 1 - 1 = _
  omega

theorem case4_spec : daemon.case4.1.countdown = daemon.countdown - 4 ∧
    daemon.case4.1.terminate = daemon.terminate ∧ daemon.case4.1.world.status = mwDead := by
  refine ⟨?_, rfl, rfl⟩
  change daemon.countdown - 1 - 1 - 1 - 1 = _
  omega

variable (daemon) in
theorem doShutdowntask_five (isFive : daemon.countdown = 5) (now : Int) :
    (daemon.doShutdowntask now).1.terminate = daemon.terminate ∧
      (daemon.world.stopServers ≠ [] ∧ (daemon.doShutdowntask now).1.countdown = 3 ∧
          (daemon.doShutdowntask now).2 = .settaskinterval :: daemon.world.stopServers ∨
        daemon.world.stopServers = [] ∧ (daemon.doShutdowntask now).1.countdown = -1) := by
  have same : ({ daemon.world with shutdowntime := now, status := Patrols.mwShutdown } : World).stopServers =
      daemon.world.stopServers := rfl
  rw [Daemon.doShutdowntask, if_pos isFive, Daemon.switch, if_pos isFive, Daemon.case5]
  dsimp only
  rw [same]
  by_cases none : daemon.world.stopServers = []
  · simp_all [case4_spec, not_not_intro]
  · simp_all

variable (daemon) in
/-- Behind servers that were stopped the second run goes through the rest of the phases; SIGTERM is
not among them. -/
theorem doShutdowntask_three (isThree : daemon.countdown = 3) (now : Int) :
    (daemon.doShutdowntask now).1.terminate = daemon.terminate ∧
      (daemon.doShutdowntask now).1.countdown = -1 ∧
      (daemon.doShutdowntask now).2 = daemon.case3.2 := by
  have notFive : daemon.countdown ≠ 5 := by
    omega
  simp_all [Daemon.doShutdowntask, if_neg, Daemon.switch, if_pos, case3_spec]

theorem doShutdowntask_negative (isNegative : daemon.countdown < 0) (now : Int) :
    daemon.doShutdowntask now = ({ daemon with countdown := daemon.countdown - 1 }, []) := by
  rw [Daemon.doShutdowntask, if_neg (by omega), Daemon.switch, if_neg (by omega), if_neg (by omega),
    if_neg (by omega), if_neg (by omega), if_neg (by omega), if_neg (by omega)]
  rfl

structure Counts (daemon : Daemon) : Prop where
  terminate : daemon.terminate = false
  countdown : daemon.countdown = 5 ∨ daemon.countdown = 3 ∨ daemon.countdown < 0

theorem Counts.doShutdowntask (counts : Counts daemon) (now : Int) :
    Counts (daemon.doShutdowntask now).1 := by
  rcases counts.countdown with isFive | isThree | isNegative
  · obtain ⟨sameFlag, ⟨_, isThree, _⟩ | ⟨_, isNegative⟩⟩ := doShutdowntask_five daemon isFive now
    · exact ⟨sameFlag.trans counts.terminate, Or.inr (Or.inl isThree)⟩
    · exact ⟨sameFlag.trans counts.terminate, Or.inr (Or.inr (by omega))⟩
  · obtain ⟨sameFlag, isNegative, _⟩ := doShutdowntask_three daemon isThree now
    exact ⟨sameFlag.trans counts.terminate, Or.inr (Or.inr (by omega))⟩
  · rw [doShutdowntask_negative isNegative]
    refine ⟨counts.terminate, Or.inr (Or.inr ?_)⟩
    dsimp only
    omega

theorem daemonAt_counts (turns : Nat → Turn) (run : Nat) : Counts (daemonAt turns run) := by
  induction run with
  | zero => exact ⟨rfl, Or.inl rfl⟩
  | succ run ih =>
      have behind := ih.doShutdowntask (turns run).now
      exact ⟨behind.terminate, behind.countdown⟩

theorem never_terminateBreak (turns : Nat → Turn) (run : Nat) :
    (behindRun turns run).leaves (turns run).parsed ≠ .terminateBreak := by
  have flag := ((daemonAt_counts turns run).doShutdowntask (turns run).now).terminate
  grind [Daemon.leaves, behindRun]

end

/-- The shutdown is not orderly and complete, whatever the tables have and whatever is handled
between the runs. -/
theorem shutdown_not_orderly (turns : Nat → Turn) : ¬Orderly turns := by
  intro orderly
  obtain ⟨run, isBreak, _⟩ := orderly.terminates
  exact never_terminateBreak turns run isBreak

theorem noEntries_fit : 0 ≤ 16777216 := by decide

/-- A server, the process 200 with the queue 7, and the watchdog, the process 300. -/
def oneServer : World where
  tables :=
    { clttblLength := 0
      srvtblLength := 1
      svctblLength := 1
      gwtblLength := 0
      clttblFits := noEntries_fit
      srvtblFits := by decide
      svctblFits := by decide
      svctblNonempty := by decide
      gwtblFits := noEntries_fit
      clttbl := fun _ => ⟨0, 0, 0, 0, 0, 0⟩
      srvtbl := fun _ => ⟨7, 200, 0, 0⟩
      svctbl := fun _ => ⟨-1, 0, 0, 0, 0, []⟩
      gwtbl := fun _ => ⟨0, 0, 0, 0, 0⟩
      nextClient := 0
      nextServer := 0
      nextService := 0
      events := []
      used := [] }
  managed := emptyTable
  mwdpid := 100
  mwwdpid := 300
  mwdMqid := 1
  status := Patrols.mwReady
  shutdowntime := 0

/-- The second run sends three signals at once, and SIGTERM is the process that is sent the number of
the watchdog. -/
theorem one_server_not_orderly :
    deedsOf (fun _ => ⟨oneServer, 1000, .handled 0⟩) 0 = [.settaskinterval, .removeQueue 7] ∧
    deedsOf (fun _ => ⟨oneServer, 1000, .handled 0⟩) 1 =
      [.kill 200 sigint, .kill 200 sighup, .kill sigterm 300, .kill 200 sigkill] ∧
    ¬Orderly fun _ => ⟨oneServer, 1000, .handled 0⟩ := by
  refine ⟨by decide, by decide, ?_⟩
  intro orderly
  obtain ⟨run, isBreak, _⟩ := orderly.terminates
  exact never_terminateBreak _ run isBreak

end MidWay.Mwd.Shutdown

import Mathlib.Data.List.Nodup
import MidWay.Lib.SwapRemove

/-!
Contract: the servers that are booted with `mwd`, each by a manager process of its own.

What `mwd` knows of a server comes from the messages of its manager, through a pipe. The
process group is in the first message, so that a shutdown before that message is sent to
the group 0, which is that of `mwd`. Whether a manager is alive is not known before its
pipe is closed by all who have it, and the server is one of them.

Owns: `triggershutdown`, `doMessage`, `server_booted`, `server_stopped_byfd` and
`bootOne`, the managers as they are, and the exact condition under which a shutdown hits
the managed servers and nothing else.
-/

namespace MidWay.Mwd.ManagedServers

open MidWay.Lib

inductive SrvStatus where
  | notrunning
  | startup
  | running
  | shutingdown
  | stopped
deriving DecidableEq

structure ManagedServer where
  status : SrvStatus
  fd : Int
  mgrpid : Int
  serverpid : Int
  pgid : Int
deriving DecidableEq

/-- The messages of a manager; those of another type are of none that is looked at. -/
inductive Message where
  | startup (pgid serverPid : Int)
  | restart
  | exit (exitcode serverPid : Int)
  | killed (signal serverPid : Int)
  | other (mtype : Int)

/-- A server is named by its place in `serverlist`, and `max_fd` is one less than the length of
`server_by_fd`. -/
structure ServerTable where
  serverlist : List ManagedServer
  serverByFd : List (Option Nat)
  pollFds : List Int
  shutdownFlag : Bool

/-- A call of `kill`. -/
structure Kill where
  pid : Int
  signal : Int
deriving DecidableEq

/-- A pointer that is `NULL` is followed, or an access leaves `server_by_fd`. -/
inductive Fault where
  | null
  | outside
deriving DecidableEq

def ServerTable.change (table : ServerTable) (server : Nat)
    (change : ManagedServer → ManagedServer) : ServerTable :=
  { table with serverlist := table.serverlist.modify server change }

def ServerTable.triggershutdown (table : ServerTable) (signal : Int) : ServerTable × List Kill :=
  ({ table with shutdownFlag := true },
    (table.serverlist.filter fun srv => srv.status ≠ .stopped).map fun srv => ⟨-srv.pgid, signal⟩)

def ServerTable.behindFd (table : ServerTable) (fd : Int) : Except Fault Nat :=
  if fd < 0 then .error .outside
  else
    match table.serverByFd[fd.toNat]? with
    | none => .error .outside
    | some none => .error .null
    | some (some server) => .ok server

def ServerTable.doMessage (table : ServerTable) (fd : Int) : Message → Except Fault ServerTable
  | .startup pgid serverPid =>
      (table.behindFd fd).map fun server => table.change server fun srv =>
        { srv with serverpid := serverPid, pgid := pgid, status := .running }
  | .restart => .ok table
  | .exit _ serverPid | .killed _ serverPid =>
      (table.behindFd fd).map fun server => table.change server fun srv =>
        { srv with serverpid := serverPid, status := .stopped }
  | .other _ => .ok table

def ServerTable.serverBooted (table : ServerTable) (server : Nat) (fd : Int) :
    Except Fault ServerTable :=
  if fd < 0 then .error .outside
  else
    let serverByFd := table.serverByFd ++
      List.replicate (fd.toNat + 1 - table.serverByFd.length) none
    match serverByFd[fd.toNat]? with
    | none => .error .outside
    | some (some _) => .ok { table with serverByFd := serverByFd }
    | some none =>
        .ok { table with
          serverByFd := serverByFd.set fd.toNat (some server)
          pollFds := table.pollFds ++ [fd] }

/-- The last descriptor comes into the place of the one that is not polled any longer. -/
def unpoll (pollFds : List Int) (fd : Int) : List Int :=
  match pollFds.findIdx? fun pfd => pfd == fd with
  | none => pollFds
  | some place => swapRemove pollFds place

def stoppedServer : ManagedServer where
  status := .stopped
  fd := -1
  mgrpid := 0
  serverpid := 0
  pgid := 0

def ServerTable.serverStoppedByfd (table : ServerTable) (fd : Int) : Except Fault ServerTable :=
  (table.behindFd fd).map fun server =>
    { table with
      serverByFd := table.serverByFd.set fd.toNat none
      serverlist := table.serverlist.modify server fun _ => stoppedServer
      pollFds := unpoll table.pollFds fd }

/-- What `memset` leaves. -/
def zeroServer : ManagedServer where
  status := .notrunning
  fd := 0
  mgrpid := 0
  serverpid := 0
  pgid := 0

def ServerTable.addserver (table : ServerTable) (server : ManagedServer) : ServerTable :=
  { table with serverlist := table.serverlist ++ [server] }

/-- A server is appended, and booted unless `fork` fails; what `pipe` and `fork` return is the
descriptor to read from and the process. -/
def ServerTable.bootOne (table : ServerTable) (fork : Option (Int × Int)) :
    Except Fault ServerTable :=
  match fork with
  | none => .ok (table.addserver zeroServer)
  | some (fd, mgrpid) =>
      (table.addserver
          { zeroServer with status := .startup, fd := fd, mgrpid := mgrpid }).serverBooted
        table.serverlist.length fd

def emptyTable : ServerTable := ⟨[], [], [], false⟩

inductive News where
  | waiting
  | started
  | stopped
deriving DecidableEq

/-- A manager: its process group, whether it is alive, the descriptor that `mwd` reads from as long
as the pipe is open, and the last news. -/
structure Manager where
  group : Int
  alive : Bool
  fd : Option Int
  news : News
deriving DecidableEq

inductive Event where
  | boot (fork : Option (Int × Int))
  | message (fd : Int) (msg : Message)
  | short (fd : Int)
  | hangup (fd : Int)
  | died (server : Nat)
  | trigger (signal : Int)

def News.behind (news : News) : Message → News
  | .startup _ _ => .started
  | .exit _ _ | .killed _ _ => .stopped
  | .restart | .other _ => news

def behind (managers : List Manager) : Event → List Manager
  | .boot none => managers ++ [⟨0, false, none, .waiting⟩]
  | .boot (some (fd, mgrpid)) => managers ++ [⟨mgrpid, true, some fd, .waiting⟩]
  | .message fd msg => managers.map fun manager =>
      if manager.fd = some fd then { manager with news := manager.news.behind msg } else manager
  | .hangup fd => managers.map fun manager =>
      if manager.fd = some fd then { manager with fd := none, news := .stopped } else manager
  | .died server => managers.modify server fun manager => { manager with alive := false }
  | .short _ | .trigger _ => managers

def Message.From (manager : Manager) : Message → Prop
  | .startup pgid _ => pgid = manager.group
  | .restart | .exit _ _ | .killed _ _ | .other _ => True

/-- A new pipe has a descriptor that none of the open ones has, and a new process a number; messages
and hang-ups come through the pipes that are open. -/
def Event.Enabled (managers : List Manager) : Event → Prop
  | .boot none => True
  | .boot (some (fd, mgrpid)) => 0 ≤ fd ∧ 0 < mgrpid ∧ ∀ manager ∈ managers, manager.fd ≠ some fd
  | .message fd msg => ∃ manager ∈ managers, manager.fd = some fd ∧ msg.From manager
  | .short fd | .hangup fd => ∃ manager ∈ managers, manager.fd = some fd
  | .died server => server < managers.length
  | .trigger _ => True

/-- The part of the program that handles the event. A message that is not whole is dropped, and
nobody tells `mwd` when a manager dies. -/
def ServerTable.step (table : ServerTable) : Event → Except Fault (ServerTable × List Kill)
  | .boot fork => (table.bootOne fork).map fun table => (table, [])
  | .message fd msg => (table.doMessage fd msg).map fun table => (table, [])
  | .short _ => .ok (table, [])
  | .hangup fd => (table.serverStoppedByfd fd).map fun table => (table, [])
  | .died _ => .ok (table, [])
  | .trigger signal => .ok (table.triggershutdown signal)

structure Polls (table : ServerTable) (fds : List (Option Int)) : Prop where
  byFd : ∀ fd : Nat, ∀ server, table.serverByFd[fd]? = some (some server) ↔
    fds[server]? = some (some (fd : Int))
  polled : ∀ fd, fd ∈ table.pollFds ↔ some fd ∈ fds
  nodup : table.pollFds.Nodup

def fdsOf (managers : List Manager) : List (Option Int) := managers.map Manager.fd

/-- Each `kill` is for the process group of a manager that is alive, and each server that has started
and not stopped gets one. -/
structure Hits (managers : List Manager) (kills : List Kill) (signal : Int) : Prop where
  only : ∀ kill ∈ kills, kill.pid ≠ 0 ∧
    ∃ manager ∈ managers, manager.alive = true ∧ kill.pid = -manager.group
  all : ∀ manager ∈ managers, manager.news = .started → ⟨-manager.group, signal⟩ ∈ kills

def Event.Aims (managers : List Manager) (kills : List Kill) : Event → Prop
  | .trigger signal => Hits managers kills signal
  | .boot _ | .message _ _ | .short _ | .hangup _ | .died _ => kills = []

def Lawful : List Manager → List Event → Prop
  | _, [] => True
  | managers, event :: rest => event.Enabled managers ∧ Lawful (behind managers event) rest

def ServerTable.Keeps : ServerTable → List Manager → List Event → Prop
  | _, _, [] => True
  | table, managers, event :: rest =>
      ∃ after kills, table.step event = .ok (after, kills) ∧ event.Aims managers kills ∧
        Polls after (fdsOf (behind managers event)) ∧ after.Keeps (behind managers event) rest

/-- At a shutdown no manager is still to send its first message, and the group of each server that
runs is that of a manager that is alive. -/
def Event.Fits (managers : List Manager) : Event → Prop
  | .trigger _ => ∀ manager ∈ managers, manager.news ≠ .waiting ∧
      (manager.news = .started → ∃ other ∈ managers, other.alive = true ∧
        other.group = manager.group)
  | .boot _ | .message _ _ | .short _ | .hangup _ | .died _ => True

def AllFit : List Manager → List Event → Prop
  | _, [] => True
  | managers, event :: rest => event.Fits managers ∧ AllFit (behind managers event) rest

/-- What `mwd` knows of one server agrees with the news of its manager. -/
structure Agrees (server : ManagedServer) (manager : Manager) : Prop where
  waiting : manager.news = .waiting → server.status ≠ .stopped ∧ server.pgid = 0
  started : manager.news = .started → server.status = .running ∧ server.pgid = manager.group
  stopped : manager.news = .stopped → server.status = .stopped

structure Refines (table : ServerTable) (managers : List Manager) : Prop where
  length : table.serverlist.length = managers.length
  agree : ∀ (place : Nat) (server : ManagedServer) (manager : Manager),
    table.serverlist[place]? = some server → managers[place]? = some manager →
      Agrees server manager
  polls : Polls table (fdsOf managers)
  nonneg : ∀ fd, some fd ∈ fdsOf managers → 0 ≤ fd
  group : ∀ manager ∈ managers, manager.alive = true → 0 < manager.group

theorem emptyTable_refines : Refines emptyTable [] := by
  refine ⟨rfl, ?_, ⟨?_, ?_, List.nodup_nil⟩, ?_, ?_⟩
  · simp
  · simp [emptyTable, fdsOf]
  · simp [emptyTable, fdsOf]
  · intro fd member
    cases member
  · simp

variable {fd : Int} {server : ManagedServer} {manager : Manager}

section

variable {table : ServerTable} {managers : List Manager}

theorem Refines.manager_of (refines : Refines table managers) (member : server ∈ table.serverlist) :
    ∃ manager ∈ managers, Agrees server manager := by
  obtain ⟨place, isServer⟩ := List.mem_iff_getElem?.mp member
  obtain ⟨inside, _⟩ := List.getElem?_eq_some_iff.mp isServer
  rw [refines.length] at inside
  have isManager := List.getElem?_eq_getElem inside
  exact ⟨_, List.getElem_mem inside, refines.agree place _ _ isServer isManager⟩

theorem Refines.server_of (refines : Refines table managers) (member : manager ∈ managers) :
    ∃ server ∈ table.serverlist, Agrees server manager := by
  obtain ⟨place, isManager⟩ := List.mem_iff_getElem?.mp member
  obtain ⟨inside, _⟩ := List.getElem?_eq_some_iff.mp isManager
  rw [← refines.length] at inside
  have isServer := List.getElem?_eq_getElem inside
  exact ⟨_, List.getElem_mem inside, refines.agree place _ _ isServer isManager⟩

theorem mem_triggershutdown (kill : Kill) (signal : Int) :
    kill ∈ (table.triggershutdown signal).2 ↔
      ∃ server ∈ table.serverlist, server.status ≠ .stopped ∧ ⟨-server.pgid, signal⟩ = kill := by
  simp [ServerTable.triggershutdown, List.mem_map, List.mem_filter, and_assoc]

/-- A shutdown hits the managed servers just if their groups are known and theirs. -/
theorem Refines.trigger_iff (refines : Refines table managers) (signal : Int) :
    Hits managers (table.triggershutdown signal).2 signal ↔
      (Event.trigger signal).Fits managers := by
  constructor
  · intro hits manager member
    obtain ⟨server, isServer, agrees⟩ := refines.server_of member
    constructor
    · intro waiting
      obtain ⟨notStopped, noGroup⟩ := agrees.waiting waiting
      have signalled := (mem_triggershutdown _ signal).mpr ⟨server, isServer, notStopped, rfl⟩
      have toGroup := (hits.only _ signalled).1
      rw [noGroup] at toGroup
      exact toGroup rfl
    · intro started
      obtain ⟨_, other, isOther, isAlive, sameGroup⟩ := hits.only _ (hits.all manager member started)
      exact ⟨other, isOther, isAlive, (Int.neg_inj.mp sameGroup).symm⟩
  · intro fits
    constructor
    · intro kill isKill
      obtain ⟨server, isServer, notStopped, rfl⟩ := (mem_triggershutdown kill signal).mp isKill
      obtain ⟨manager, member, agrees⟩ := refines.manager_of isServer
      obtain ⟨notWaiting, isAlive⟩ := fits manager member
      cases news : manager.news with
      | waiting => exact absurd news notWaiting
      | stopped => exact absurd (agrees.stopped news) notStopped
      | started =>
          obtain ⟨other, isOther, otherAlive, sameGroup⟩ := isAlive news
          have positive := refines.group other isOther otherAlive
          have group := (agrees.started news).2
          grind
    · intro manager member started
      obtain ⟨server, isServer, agrees⟩ := refines.server_of member
      obtain ⟨isRunning, group⟩ := agrees.started started
      grind [mem_triggershutdown]

theorem Refines.behindFd (refines : Refines table managers) (isOpen : some fd ∈ fdsOf managers) :
    ∃ place, table.behindFd fd = .ok place ∧ (fdsOf managers)[place]? = some (some fd) ∧
      table.serverByFd[fd.toNat]? = some (some place) := by
  obtain ⟨place, isPlace⟩ := List.mem_iff_getElem?.mp isOpen
  have nonneg := refines.nonneg fd isOpen
  have isFd : ((fd.toNat : Nat) : Int) = fd := Int.toNat_of_nonneg nonneg
  have byFd := (refines.polls.byFd fd.toNat place).mpr (by rw [isFd]; exact isPlace)
  refine ⟨place, ?_, isPlace, byFd⟩
  rw [ServerTable.behindFd, if_neg (Int.not_lt.mpr nonneg), byFd]

theorem Refines.fd_unique (refines : Refines table managers) {first second : Nat}
    (isFirst : (fdsOf managers)[first]? = some (some fd))
    (isSecond : (fdsOf managers)[second]? = some (some fd)) : first = second := by
  have nonneg := refines.nonneg fd (List.mem_of_getElem? isFirst)
  have isFd : ((fd.toNat : Nat) : Int) = fd := Int.toNat_of_nonneg nonneg
  have firstBy := (refines.polls.byFd fd.toNat first).mpr (by rw [isFd]; exact isFirst)
  have secondBy := (refines.polls.byFd fd.toNat second).mpr (by rw [isFd]; exact isSecond)
  simp_all [Option.some.injEq]

/-- One server and its manager change. -/
theorem Refines.told (refines : Refines table managers) {fd : Int} {place : Nat}
    (isPlace : (fdsOf managers)[place]? = some (some fd))
    {changeServer : ManagedServer → ManagedServer} {changeManager : Manager → Manager}
    (agrees : ∀ server manager, managers[place]? = some manager → Agrees server manager →
      Agrees (changeServer server) (changeManager manager)) (other : Nat) (server : ManagedServer)
    (manager : Manager)
    (isServer : (table.serverlist.modify place changeServer)[other]? = some server)
    (isManager : (managers.map fun manager =>
      if manager.fd = some fd then changeManager manager else manager)[other]? = some manager) :
    Agrees server manager := by
  rw [List.getElem?_modify, Option.map_eq_map, Option.map_eq_some_iff] at isServer
  rw [List.getElem?_map, Option.map_eq_some_iff] at isManager
  obtain ⟨oldServer, wasServer, rfl⟩ := isServer
  obtain ⟨oldManager, wasManager, rfl⟩ := isManager
  have before := refines.agree other oldServer oldManager wasServer wasManager
  have isFd : (fdsOf managers)[other]? = some oldManager.fd := by
    simp [fdsOf, wasManager]
  by_cases same : place = other
  · simp_all [Option.some.injEq]
  · have differs : oldManager.fd ≠ some fd := by
      intro sameFd
      rw [sameFd] at isFd
      exact same (refines.fd_unique isPlace isFd)
    rw [if_neg same, if_neg differs]
    exact before

def Message.heard : Message → ManagedServer → ManagedServer
  | .startup pgid serverPid, srv =>
      { srv with serverpid := serverPid, pgid := pgid, status := .running }
  | .exit _ serverPid, srv | .killed _ serverPid, srv =>
      { srv with serverpid := serverPid, status := .stopped }
  | .restart, srv | .other _, srv => srv

theorem doMessage_ok {place : Nat} (isBehind : table.behindFd fd = .ok place) (msg : Message) :
    table.doMessage fd msg = .ok (table.change place msg.heard) := by
  have same : table.change place id = table := by
    rw [ServerTable.change, List.modify_id]
  cases msg with
  | startup pgid serverPid =>
      rw [ServerTable.doMessage, isBehind]
      rfl
  | restart => exact congrArg Except.ok same.symm
  | exit exitcode serverPid =>
      rw [ServerTable.doMessage, isBehind]
      rfl
  | killed signal serverPid =>
      rw [ServerTable.doMessage, isBehind]
      rfl
  | other mtype => exact congrArg Except.ok same.symm

theorem Agrees.heard (agrees : Agrees server manager) {msg : Message} (isFrom : msg.From manager) :
    Agrees (msg.heard server) { manager with news := manager.news.behind msg } := by
  cases msg with
  | startup pgid serverPid =>
      refine ⟨?_, fun _ => ⟨rfl, isFrom⟩, ?_⟩
      · intro impossible
        cases impossible
      · intro impossible
        cases impossible
  | restart => exact ⟨agrees.waiting, agrees.started, agrees.stopped⟩
  | exit exitcode serverPid =>
      refine ⟨?_, ?_, fun _ => rfl⟩
      · intro impossible
        cases impossible
      · intro impossible
        cases impossible
  | killed signal serverPid =>
      refine ⟨?_, ?_, fun _ => rfl⟩
      · intro impossible
        cases impossible
      · intro impossible
        cases impossible
  | other mtype => exact ⟨agrees.waiting, agrees.started, agrees.stopped⟩

/-- A message is heard. -/
theorem Refines.message (refines : Refines table managers) {msg : Message}
    (isEnabled : (Event.message fd msg).Enabled managers) :
    ∃ after, table.step (.message fd msg) = .ok (after, []) ∧
      Refines after (behind managers (.message fd msg)) := by
  obtain ⟨teller, isTeller, tellerFd, isFrom⟩ := isEnabled
  have isOpen : some fd ∈ fdsOf managers := List.mem_map.mpr ⟨teller, isTeller, tellerFd⟩
  obtain ⟨place, isBehind, isPlace, _⟩ := refines.behindFd isOpen
  have sameFds : fdsOf (behind managers (.message fd msg)) = fdsOf managers := by
    rw [fdsOf, fdsOf, behind, List.map_map]
    apply List.map_congr_left
    grind
  refine ⟨table.change place msg.heard, ?_, ?_, ?_, ?_, ?_, ?_⟩
  · rw [ServerTable.step, doMessage_ok isBehind]
    rfl
  · rw [ServerTable.change, List.length_modify, refines.length, behind, List.length_map]
  · intro other server manager isServer isManager
    refine refines.told isPlace ?_ other server manager isServer isManager
    intro oldServer oldManager wasManager agrees
    obtain ⟨telling, tellerPlace⟩ := List.mem_iff_getElem?.mp isTeller
    have tellerIs : (fdsOf managers)[telling]? = some (some fd) := by
      rw [fdsOf, List.getElem?_map, tellerPlace, Option.map_some, tellerFd]
    rw [refines.fd_unique isPlace tellerIs, tellerPlace, Option.some.injEq] at wasManager
    rw [← wasManager] at agrees ⊢
    exact agrees.heard isFrom
  · rw [sameFds]
    exact ⟨refines.polls.byFd, refines.polls.polled, refines.polls.nodup⟩
  · simp_all [refines.nonneg]
  · intro manager member isAlive
    obtain ⟨old, wasManager, rfl⟩ := List.mem_map.mp member
    split_ifs at isAlive ⊢
    · exact refines.group old wasManager isAlive
    · exact refines.group old wasManager isAlive

theorem unpoll_perm {fds : List Int} (member : fd ∈ fds) :
    (unpoll fds fd).Perm (fds.erase fd) := by
  have isSome : (fds.findIdx? fun pfd => pfd == fd).isSome = true := by
    simp_all [List.any_eq_true]
  obtain ⟨place, isFirst⟩ := Option.isSome_iff_exists.mp isSome
  obtain ⟨inside, isFd, _⟩ := List.findIdx?_eq_some_iff_getElem.mp isFirst
  rw [unpoll, isFirst]
  apply swapRemove_erase
  rw [List.getElem?_eq_getElem inside, eq_of_beq isFd]

/-- A pipe that is closed is not polled any longer. -/
theorem Refines.hangup (refines : Refines table managers)
    (isEnabled : (Event.hangup fd).Enabled managers) :
    ∃ after, table.step (.hangup fd) = .ok (after, []) ∧
      Refines after (behind managers (.hangup fd)) := by
  obtain ⟨gone, isGone, goneFd⟩ := isEnabled
  have isOpen : some fd ∈ fdsOf managers := List.mem_map.mpr ⟨gone, isGone, goneFd⟩
  obtain ⟨place, isBehind, isPlace, isThere⟩ := refines.behindFd isOpen
  have nonneg := refines.nonneg fd isOpen
  have unpolled := unpoll_perm ((refines.polls.polled fd).mpr isOpen)
  have fds : fdsOf (behind managers (.hangup fd)) =
      (fdsOf managers).map fun known => if known = some fd then none else known := by
    rw [fdsOf, fdsOf, behind, List.map_map, List.map_map]
    apply List.map_congr_left
    intro manager _
    dsimp only [Function.comp]
    split_ifs
    · rfl
    · rfl
  have stillOpen : ∀ other, some other ∈ fdsOf (behind managers (.hangup fd)) ↔
      other ≠ fd ∧ some other ∈ fdsOf managers := by
    intro other
    rw [fds, List.mem_map]
    constructor
    · simp_all
    · simp_all
  refine ⟨_, by rw [ServerTable.step, ServerTable.serverStoppedByfd, isBehind]; rfl, ?_, ?_, ⟨?_, ?_, ?_⟩,
    ?_, ?_⟩
  · rw [List.length_modify, refines.length, behind, List.length_map]
  · intro other server manager isServer isManager
    refine refines.told isPlace ?_ other server manager isServer isManager
    intro oldServer oldManager _ _
    refine ⟨?_, ?_, fun _ => rfl⟩
    · simp
    · simp
  · intro other server
    have wasBy := refines.polls.byFd other server
    grind
  · simp [unpolled.mem_iff, refines.polls.nodup.mem_erase_iff, refines.polls.polled, stillOpen]
  · exact unpolled.nodup_iff.mpr (refines.polls.nodup.erase fd)
  · simp_all [refines.nonneg]
  · intro manager member isAlive
    obtain ⟨old, wasManager, rfl⟩ := List.mem_map.mp member
    split_ifs at isAlive ⊢
    · exact refines.group old wasManager isAlive
    · exact refines.group old wasManager isAlive

theorem Refines.agree_append (refines : Refines table managers) (agrees : Agrees server manager)
    (place : Nat) (someServer : ManagedServer) (someManager : Manager)
    (isServer : (table.serverlist ++ [server])[place]? = some someServer)
    (isManager : (managers ++ [manager])[place]? = some someManager) :
    Agrees someServer someManager := by
  have length := refines.length
  rw [List.getElem?_append] at isServer isManager
  split_ifs at isServer with inList
  · rw [if_pos (length ▸ inList)] at isManager
    exact refines.agree place _ _ isServer isManager
  · grind

/-- Without a process the server stays in the list. -/
theorem Refines.boot_failed (refines : Refines table managers) :
    Refines (table.addserver zeroServer) (behind managers (.boot none)) := by
  have fds : fdsOf (behind managers (.boot none)) = fdsOf managers ++ [none] := by
    simp [fdsOf, behind, List.map_append]
  have known : ∀ fd, some fd ∈ fdsOf (behind managers (.boot none)) ↔
      some fd ∈ fdsOf managers := by
    intro fd
    rw [fds]
    simp
  refine ⟨?_, ?_, ⟨?_, ?_, refines.polls.nodup⟩, ?_, ?_⟩
  · simp [ServerTable.addserver, List.length_append, refines.length, behind]
  · refine refines.agree_append ⟨fun _ => ⟨by decide, rfl⟩, ?_, ?_⟩
    · simp
    · simp
  · intro fd server
    refine (refines.polls.byFd fd server).trans ?_
    grind
  · intro fd
    rw [known]
    exact refines.polls.polled fd
  · simp_all [refines.nonneg]
  · intro manager member isAlive
    rcases List.mem_append.mp member with old | new
    · exact refines.group manager old isAlive
    · simp_all

/-- A new server is polled. -/
theorem Refines.boot (refines : Refines table managers) {mgrpid : Int}
    (isEnabled : (Event.boot (some (fd, mgrpid))).Enabled managers) :
    ∃ after, table.step (.boot (some (fd, mgrpid))) = .ok (after, []) ∧
      Refines after (behind managers (.boot (some (fd, mgrpid)))) := by
  obtain ⟨nonneg, positive, isNew⟩ := isEnabled
  have isFd : ((fd.toNat : Nat) : Int) = fd := Int.toNat_of_nonneg nonneg
  have fds : fdsOf (behind managers (.boot (some (fd, mgrpid)))) = fdsOf managers ++ [some fd] := by
    simp [fdsOf, behind, List.map_append]
  have fresh : some fd ∉ fdsOf managers := by
    intro member
    obtain ⟨manager, isManager, same⟩ := List.mem_map.mp member
    exact isNew manager isManager same
  have fdsLength : (fdsOf managers).length = table.serverlist.length := by
    rw [fdsOf, List.length_map, refines.length]
  generalize longer_eq : table.serverByFd ++
    List.replicate (fd.toNat + 1 - table.serverByFd.length) none = longer
  have inside : fd.toNat < longer.length := by
    grind
  have same : ∀ place server : Nat, longer[place]? = some (some server) ↔
      table.serverByFd[place]? = some (some server) := by
    intro place server
    rw [← longer_eq, List.getElem?_append]
    split_ifs with old
    · exact Iff.rfl
    · grind
  have isFree : longer[fd.toNat]? = some none := by
    rw [List.getElem?_eq_getElem inside, Option.some.injEq]
    cases inUse : longer[fd.toNat] with
    | none => rfl
    | some server =>
        have used := List.getElem?_eq_getElem inside
        rw [inUse, same, refines.polls.byFd, isFd] at used
        exact absurd (List.mem_of_getElem? used) fresh
  have booted : table.step (.boot (some (fd, mgrpid))) = .ok ({ table with
      serverlist := table.serverlist ++
        [{ zeroServer with status := .startup, fd := fd, mgrpid := mgrpid }]
      serverByFd := longer.set fd.toNat (some table.serverlist.length)
      pollFds := table.pollFds ++ [fd] }, []) := by
    rw [ServerTable.step, ServerTable.bootOne, ServerTable.serverBooted,
      if_neg (Int.not_lt.mpr nonneg)]
    dsimp only [ServerTable.addserver]
    rw [longer_eq, isFree]
    rfl
  refine ⟨_, booted, ?_, ?_, ⟨?_, ?_, ?_⟩, ?_, ?_⟩
  · simp [List.length_append, refines.length, behind]
  · refine refines.agree_append ⟨fun _ => ⟨?_, rfl⟩, ?_, ?_⟩
    · exact show SrvStatus.startup ≠ .stopped by decide
    · simp
    · simp
  · intro other server
    rw [fds, List.getElem?_set, List.getElem?_append]
    by_cases isOther : fd.toNat = other
    · grind
    · rw [if_neg isOther, same, refines.polls.byFd]
      split_ifs with old
      · exact Iff.rfl
      · grind
  · simp [fds, List.mem_append, refines.polls.polled, Option.some.injEq]
  · rw [List.nodup_append]
    refine ⟨refines.polls.nodup, List.nodup_singleton fd, ?_⟩
    intro first inFds second isSecond sameFd
    simp_all [refines.polls.polled]
  · intro other isKnown
    rw [fds, List.mem_append, List.mem_singleton] at isKnown
    rcases isKnown with old | new
    · exact refines.nonneg other old
    · simp_all
  · intro manager member isAlive
    rcases List.mem_append.mp member with old | new
    · exact refines.group manager old isAlive
    · simp_all

/-- Nothing of what `mwd` knows changes when a manager dies. -/
theorem Refines.died (refines : Refines table managers) (server : Nat) :
    Refines table (behind managers (.died server)) := by
  have sameFds : fdsOf (behind managers (.died server)) = fdsOf managers := by
    apply List.ext_getElem?
    grind [fdsOf, behind]
  refine ⟨?_, ?_, sameFds ▸ refines.polls, sameFds ▸ refines.nonneg, ?_⟩
  · rw [behind, List.length_modify, refines.length]
  · intro place someServer manager isServer isManager
    rw [behind, List.getElem?_modify, Option.map_eq_map, Option.map_eq_some_iff] at isManager
    obtain ⟨old, wasManager, rfl⟩ := isManager
    have agrees := refines.agree place someServer old isServer wasManager
    split_ifs
    · exact ⟨agrees.waiting, agrees.started, agrees.stopped⟩
    · exact agrees
  · intro manager member isAlive
    obtain ⟨place, isManager⟩ := List.mem_iff_getElem?.mp member
    rw [behind, List.getElem?_modify, Option.map_eq_map, Option.map_eq_some_iff] at isManager
    obtain ⟨old, wasManager, rfl⟩ := isManager
    split_ifs at isAlive ⊢
    exact refines.group old (List.mem_of_getElem? wasManager) isAlive

/-- Every event is handled, and what `mwd` knows agrees with the managers behind it. -/
theorem Refines.step (refines : Refines table managers) {event : Event}
    (isEnabled : event.Enabled managers) :
    ∃ after kills, table.step event = .ok (after, kills) ∧
      Refines after (behind managers event) ∧
      (event.Aims managers kills ↔ event.Fits managers) := by
  cases event with
  | boot fork =>
      cases fork with
      | none => exact ⟨_, [], rfl, refines.boot_failed, iff_of_true rfl trivial⟩
      | some forked =>
          obtain ⟨fd, mgrpid⟩ := forked
          obtain ⟨after, stepped, refinesAfter⟩ := refines.boot isEnabled
          exact ⟨after, [], stepped, refinesAfter, iff_of_true rfl trivial⟩
  | message fd msg =>
      obtain ⟨after, stepped, refinesAfter⟩ := refines.message isEnabled
      exact ⟨after, [], stepped, refinesAfter, iff_of_true rfl trivial⟩
  | short fd => exact ⟨table, [], rfl, refines, iff_of_true rfl trivial⟩
  | hangup fd =>
      obtain ⟨after, stepped, refinesAfter⟩ := refines.hangup isEnabled
      exact ⟨after, [], stepped, refinesAfter, iff_of_true rfl trivial⟩
  | died server => exact ⟨table, [], rfl, refines.died server, iff_of_true rfl trivial⟩
  | trigger signal =>
      refine ⟨_, _, rfl, ?_, refines.trigger_iff signal⟩
      exact ⟨refines.length, refines.agree,
        ⟨refines.polls.byFd, refines.polls.polled, refines.polls.nodup⟩, refines.nonneg,
        refines.group⟩

end

/-- In every run the shutdowns hit the managed servers and nothing else, and the managers that are
connected are polled, just if at each shutdown every manager has sent its first message and the
group of each server that runs is that of a manager that is alive. -/
theorem shutdowns_hit_iff {events : List Event} (lawful : Lawful [] events) :
    emptyTable.Keeps [] events ↔ AllFit [] events := by
  have refines := emptyTable_refines
  generalize emptyTable = table at refines
  generalize ([] : List Manager) = managers at refines lawful
  induction events generalizing table managers with
  | nil => exact Iff.rfl
  | cons event rest ih =>
      obtain ⟨isEnabled, lawfulAfter⟩ := lawful
      obtain ⟨after, kills, stepped, refinesAfter, aims⟩ := refines.step isEnabled
      have later : after.Keeps (behind managers event) rest ↔
          AllFit (behind managers event) rest :=
        ih after (behind managers event) refinesAfter lawfulAfter
      rw [ServerTable.Keeps, AllFit, ← aims, ← later]
      constructor
      · simp_all
      · rintro ⟨aimed, keeps⟩
        exact ⟨after, kills, stepped, aimed, refinesAfter.polls, keeps⟩

/-- A server is booted and shut down, with or without a message of its manager before. -/
def bootAndShutdown (first : List Event) : List Event :=
  .boot (some (5, 100)) :: (first ++ [.trigger 15])

theorem shutdowns_hit_iff_started :
    emptyTable.Keeps [] (bootAndShutdown [.message 5 (.startup 100 101)]) := by
  refine (shutdowns_hit_iff ?_).mpr ?_
  · refine ⟨⟨by decide, by decide, ?_⟩, ⟨_, List.mem_cons_self, rfl, rfl⟩, trivial, trivial⟩
    intro manager member
    cases member
  · refine ⟨trivial, trivial, ?_, trivial⟩
    intro manager member
    rw [List.mem_singleton.mp member]
    refine ⟨by decide, fun _ => ⟨_, member, ?_, ?_⟩⟩
    · rw [List.mem_singleton.mp member]
      rfl
    · rw [List.mem_singleton.mp member]

/-- Before the first message the signal goes to the group of `mwd`. -/
theorem shutdown_before_startup : ¬emptyTable.Keeps [] (bootAndShutdown []) := by
  rintro ⟨booted, bootKills, bootStep, _, _, after, kills, stepped, aims, _⟩
  cases bootStep
  cases stepped
  exact (aims.only ⟨0, 15⟩ List.mem_cons_self).1 rfl

end MidWay.Mwd.ManagedServers

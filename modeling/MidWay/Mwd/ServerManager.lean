import Mathlib.Data.List.Basic
import Mathlib.Data.List.Nodup
import Mathlib.Data.Nat.Pairing
import Mathlib.Logic.Function.Basic
import MidWay.CLib.Bytes
import MidWay.Lib.SwapRemove

/-!
Contract: the server manager, which keeps the wanted number of instances of each server.

The count of the instances that are wanted is changed by orders, the list of the active
ones by `fork` and by the deaths that `waitpid` reports. The loop of the task that starts
the missing instances compares a counter with the number that is missing then, and the
first grows while the second shrinks.

Owns: the orders, `smgrServerFuneral`, `smgrDoWaitPid` and `smgrTask`, the processes
behind them, and the exact condition under which the wanted number is kept.
-/

namespace MidWay.Mwd.ServerManager

open MidWay.CLib MidWay.Lib

inductive ActiveStatus where
  | down
  | booting
  | running
  | failed
  | shutwait
deriving DecidableEq

structure ActiveServer where
  pid : Int
  status : ActiveStatus
  kills : Nat
deriving DecidableEq

/-- A server, with the name of its group. `activelist` holds the first `active` entries of the
array; those behind them are never read. -/
structure Server where
  group : List Byte
  name : List Byte
  startMin : Int
  activelist : List ActiveServer
  started : Int
  booted : Bool
  lastdeath : Int
deriving DecidableEq

def Server.active (S : Server) : Nat := S.activelist.length

def Server.pids (S : Server) : List Int := S.activelist.map ActiveServer.pid

/-- A server of the configuration; `lastdeath` is not set. -/
structure Config where
  group : List Byte
  name : List Byte
  startMin : Int
  lastdeath : Int

def smgrBeginServer (config : Config) : Server where
  group := config.group
  name := config.name
  startMin := config.startMin
  activelist := []
  started := 0
  booted := false
  lastdeath := config.lastdeath

/-- The servers of all groups, in the order in which every search comes by them, and the place of
the one that is found. -/
def smgrfindServerByName (servers : List Server) (groupname servername : Option (List Byte)) :
    Option (Server × Nat) :=
  servername.bind fun name =>
    servers.zipIdx.find? fun entry =>
      entry.1.group == groupname.getD [] && entry.1.name == name

def smgrfindServerByPid (servers : List Server) (pid : Int) : Option (Server × Nat) :=
  servers.zipIdx.find? fun entry => entry.1.pids.contains pid

/-- An instance is started; `fork` is the process, if there is one. -/
def Server.smgrExecServer (S : Server) (fork : Option Int) : Server :=
  match fork with
  | none => S
  | some pid => { S with activelist := S.activelist ++ [⟨pid, .running, 0⟩] }

/-- The value of `started` passes the largest `int`. -/
inductive Fault where
  | overflow
deriving DecidableEq

/-- What an operation returns and leaves, the processes that it has forked for the server in each
place, and those that get `SIGTERM`. -/
structure Outcome where
  result : Int
  servers : List Server
  forked : Nat → List Int
  terminated : List Int

def unchanged (result : Int) (servers : List Server) : Outcome :=
  ⟨result, servers, fun _ => [], []⟩

def forkedAt (place : Nat) (pids : List Int) : Nat → List Int :=
  Function.update (fun _ => []) place pids

def smgrStartServer (servers : List Server) (groupname servername : Option (List Byte))
    (fork : Option Int) : Except Fault Outcome :=
  match smgrfindServerByName servers groupname servername with
  | none => .ok (unchanged (-1) servers)
  | some (S, place) =>
      if S.booted = false then .ok (unchanged (-1) servers)
      else if S.started = 2147483647 then .error .overflow
      else
        .ok {
          result := fork.getD (-1)
          servers := servers.set place
            (Server.smgrExecServer { S with started := S.started + 1 } fork)
          forked := forkedAt place fork.toList
          terminated := [] }

def ActiveServer.terminate (AS : ActiveServer) : ActiveServer :=
  { AS with status := .shutwait, kills := 1 }

def Server.firstRunning (S : Server) : Option (ActiveServer × Nat) :=
  S.activelist.zipIdx.find? fun entry => entry.1.status == .running

def smgrStopServer (servers : List Server) (groupname servername : Option (List Byte)) : Outcome :=
  match smgrfindServerByName servers groupname servername with
  | none => unchanged (-1) servers
  | some (S, place) =>
      if S.started ≤ 0 then unchanged (-1) servers
      else
        match S.firstRunning with
        | none =>
            { result := 0
              servers := servers.set place { S with started := S.started - 1 }
              forked := fun _ => []
              terminated := [] }
        | some (AS, i) =>
            { result := AS.pid
              servers := servers.set place { S with
                started := S.started - 1
                activelist := S.activelist.modify i ActiveServer.terminate }
              forked := fun _ => []
              terminated := [AS.pid] }

/-- The attempts to start an instance, each with what `fork` returns at it. -/
def Server.execAll (S : Server) (forks : Nat → Option Int) (attempts : List Nat) : Server :=
  attempts.foldl (fun S attempt => S.smgrExecServer (forks attempt)) S

def smgrBootServer (servers : List Server) (groupname servername : Option (List Byte))
    (forks : Nat → Option Int) : Outcome :=
  match smgrfindServerByName servers groupname servername with
  | none => unchanged (-1) servers
  | some (S, place) =>
      if S.booted then unchanged (-1) servers
      else
        let started := if S.startMin < 0 then 0 else S.startMin
        let attempts := List.range started.toNat
        { result := 0
          servers := servers.set place
            (Server.execAll { S with booted := true, started := started } forks attempts)
          forked := forkedAt place (attempts.filterMap forks)
          terminated := [] }

def smgrShutdownServer (servers : List Server) (groupname servername : Option (List Byte)) :
    Outcome :=
  match smgrfindServerByName servers groupname servername with
  | none => unchanged (-1) servers
  | some (S, place) =>
      if S.booted = false then unchanged (-1) servers
      else
        { result := 0
          servers := servers.set place { S with
            booted := false
            started := 0
            activelist := S.activelist.map fun AS =>
              if AS.status = .running then AS.terminate else AS }
          forked := fun _ => []
          terminated := (S.activelist.filter fun AS => AS.status = .running).map ActiveServer.pid }

/-- A death that `waitpid` reports, whether the status is `MWSHUTDOWN` then, and the time when
`lastdeath` is tested and when it is set. -/
structure Death where
  pid : Int
  shutdown : Bool
  tested : Int
  recorded : Int

/-- The server without the instance that died; the last entry comes into its place. -/
def smgrServerFuneral (servers : List Server) (pid : Int) : Option (Server × Nat) :=
  (smgrfindServerByPid servers pid).bind fun found =>
    (found.1.activelist.findIdx? fun AS => AS.pid == pid).map fun i =>
      ({ found.1 with activelist := swapRemove found.1.activelist i }, found.2)

/-- What is done about one death. An instance is started for it unless another one died less than
three seconds ago. -/
def smgrDoWaitPid (mwwdpid : Int) (servers : List Server) (death : Death) (fork : Option Int) :
    Outcome :=
  if death.pid = mwwdpid then unchanged 0 servers
  else
    match smgrServerFuneral servers death.pid with
    | none => unchanged 0 servers
    | some (S, place) =>
        if death.shutdown then { unchanged 0 servers with servers := servers.set place S }
        else if S.active < S.started ∧ 2 < death.tested - S.lastdeath then
          { result := 0
            servers := servers.set place
              { S.smgrExecServer fork with lastdeath := death.recorded }
            forked := forkedAt place fork.toList
            terminated := [] }
        else
          { unchanged 0 servers with
            servers := servers.set place { S with lastdeath := death.recorded } }

@[simp] theorem Server.smgrExecServer_started (S : Server) (fork : Option Int) :
    (S.smgrExecServer fork).started = S.started := by
  cases fork <;> rfl

@[simp] theorem Server.smgrExecServer_booted (S : Server) (fork : Option Int) :
    (S.smgrExecServer fork).booted = S.booted := by
  cases fork <;> rfl

@[simp] theorem Server.smgrExecServer_pids (S : Server) (fork : Option Int) :
    (S.smgrExecServer fork).pids = S.pids ++ fork.toList := by
  cases fork with
  | none => exact (List.append_nil _).symm
  | some pid => exact List.map_append

@[simp] theorem Server.length_pids (S : Server) : S.pids.length = S.active := List.length_map _

theorem Server.smgrExecServer_active (S : Server) (fork : Option Int) :
    (S.smgrExecServer fork).active = S.active + fork.toList.length := by
  rw [← Server.length_pids, Server.smgrExecServer_pids, List.length_append, Server.length_pids]

/-- The loop of the task from turn `i` on. The number of the instances that are missing is
computed anew in every turn. -/
def Server.startMissing (forks : Nat → Option Int) (S : Server) (i : Nat) : Server × List Int :=
  if i < S.started - S.active then
    let later := (S.smgrExecServer (forks i)).startMissing forks (i + 1)
    (later.1, (forks i).toList ++ later.2)
  else (S, [])
termination_by (S.started - S.active - i).toNat
decreasing_by
  rw [Server.smgrExecServer_started, Server.smgrExecServer_active]
  omega

def Server.smgrTask (now : Int) (forks : Nat → Option Int) (S : Server) : Server × List Int :=
  if S.booted ∧ 5 < now - S.lastdeath then S.startMissing forks 0 else (S, [])

/-- The task comes by every server; nothing is started unless the state of the system is 0. -/
def smgrTask (systemstate : Int) (now : Nat → Int) (forks : Nat → Nat → Option Int)
    (servers : List Server) : Outcome :=
  if systemstate ≠ 0 then unchanged 0 servers
  else
    { result := 0
      servers := servers.mapIdx fun place S => (S.smgrTask (now place) (forks place)).1
      forked := fun place =>
        servers[place]?.elim [] fun S => (S.smgrTask (now place) (forks place)).2
      terminated := [] }

/-- The processes that were forked for the server in each place and whose death is not yet reported,
whether that of the watchdog is not, and when an instance died last. -/
structure World where
  children : Nat → List Int
  watchdog : Bool
  died : Nat → Option Int

/-- A number that a new process can get: no process has it that is not waited for. -/
def World.Free (mwwdpid : Int) (world : World) (pid : Int) : Prop :=
  0 < pid ∧ (∀ place, pid ∉ world.children place) ∧ (world.watchdog = true → pid ≠ mwwdpid)

def World.grow (world : World) (forked : Nat → List Int) : World :=
  { world with children := fun place => world.children place ++ forked place }

def World.bury (mwwdpid : Int) (world : World) (death : Death) : World where
  children := fun place => (world.children place).erase death.pid
  watchdog := world.watchdog && death.pid != mwwdpid
  died := fun place =>
    if death.pid ∈ world.children place then some death.recorded else world.died place

inductive Event where
  | boot (groupname servername : Option (List Byte)) (forks : Nat → Option Int)
  | start (groupname servername : Option (List Byte)) (fork : Option Int)
  | stop (groupname servername : Option (List Byte))
  | shutdown (groupname servername : Option (List Byte))
  | waitpid (death : Death) (fork : Option Int)
  | task (systemstate : Int) (now : Nat → Int) (forks : Nat → Nat → Option Int)

def step (mwwdpid : Int) (servers : List Server) : Event → Except Fault Outcome
  | .boot groupname servername forks => .ok (smgrBootServer servers groupname servername forks)
  | .start groupname servername fork => smgrStartServer servers groupname servername fork
  | .stop groupname servername => .ok (smgrStopServer servers groupname servername)
  | .shutdown groupname servername => .ok (smgrShutdownServer servers groupname servername)
  | .waitpid death fork => .ok (smgrDoWaitPid mwwdpid servers death fork)
  | .task systemstate now forks => .ok (smgrTask systemstate now forks servers)

def World.behind (mwwdpid : Int) (world : World) (outcome : Outcome) : Event → World
  | .waitpid death _ => (world.bury mwwdpid death).grow outcome.forked
  | .boot _ _ _ | .start _ _ _ | .stop _ _ | .shutdown _ _ | .task _ _ _ =>
      world.grow outcome.forked

def Distinct {ι : Type} (forks : ι → Option Int) : Prop :=
  ∀ first second pid, forks first = some pid → forks second = some pid → first = second

/-- Each process that is forked gets a free number; `waitpid` can report any process. -/
def Event.Enabled (mwwdpid : Int) (world : World) : Event → Prop
  | .boot _ _ forks =>
      (∀ attempt pid, forks attempt = some pid → world.Free mwwdpid pid) ∧ Distinct forks
  | .start _ _ fork => ∀ pid, fork = some pid → world.Free mwwdpid pid
  | .stop _ _ | .shutdown _ _ => True
  | .waitpid death fork => ∀ pid, fork = some pid → (world.bury mwwdpid death).Free mwwdpid pid
  | .task _ _ forks =>
      (∀ place attempt pid, forks place attempt = some pid → world.Free mwwdpid pid) ∧
        Distinct fun attempt : Nat × Nat => forks attempt.1 attempt.2

def Tracks (servers : List Server) (world : World) : Prop :=
  ∀ (place : Nat) (S : Server), servers[place]? = some S →
    S.pids.Perm (world.children place) ∧ S.pids.Nodup

def OnlyBooted (outcome : Outcome) : Prop :=
  ∀ place, outcome.forked place ≠ [] →
    ∃ S, outcome.servers[place]? = some S ∧ S.booted = true

/-- A task is to start what is missing of this server: it is booted, and no instance died in the
last five seconds. -/
def Due (world : World) (now : Nat → Int) (place : Nat) (S : Server) : Prop :=
  S.booted = true ∧ ∀ time, world.died place = some time → 5 < now place - time

/-- A task in a ready system in which no `fork` fails starts all the instances that are missing and
no others. -/
def Event.Completes (servers : List Server) (world : World) (outcome : Outcome) : Event → Prop
  | .task systemstate now forks =>
      systemstate = 0 → (∀ place attempt, forks place attempt ≠ none) →
        ∀ place S, servers[place]? = some S → Due world now place S →
          (∃ after, outcome.servers[place]? = some after ∧ S.started ≤ after.active) ∧
            (outcome.forked place).length ≤ (S.started - S.active).toNat
  | .boot _ _ _ | .start _ _ _ | .stop _ _ | .shutdown _ _ | .waitpid _ _ => True

def Lawful (mwwdpid : Int) : List Server → World → List Event → Prop
  | _, _, [] => True
  | servers, world, event :: rest =>
      event.Enabled mwwdpid world ∧ ∀ outcome, step mwwdpid servers event = .ok outcome →
        Lawful mwwdpid outcome.servers (world.behind mwwdpid outcome event) rest

def Keeps (mwwdpid : Int) : List Server → World → List Event → Prop
  | _, _, [] => True
  | servers, world, event :: rest =>
      ∃ outcome, step mwwdpid servers event = .ok outcome ∧
        Tracks outcome.servers (world.behind mwwdpid outcome event) ∧ OnlyBooted outcome ∧
          event.Completes servers world outcome ∧
            Keeps mwwdpid outcome.servers (world.behind mwwdpid outcome event) rest

/-- The count of a server that is started is not the largest `int`; no server has the number that
the watchdog had when it dies; and of a server for which a task is to start what is missing, nothing
is, or one instance, and `lastdeath` is more than five seconds ago. -/
def Event.Fits (mwwdpid : Int) (servers : List Server) (world : World) : Event → Prop
  | .start groupname servername _ =>
      ∀ S place, smgrfindServerByName servers groupname servername = some (S, place) →
        S.booted = true → S.started ≠ 2147483647
  | .waitpid death _ => death.pid = mwwdpid → ∀ place, death.pid ∉ world.children place
  | .task systemstate now forks =>
      systemstate = 0 → (∀ place attempt, forks place attempt ≠ none) →
        ∀ place S, servers[place]? = some S → Due world now place S →
          S.started ≤ S.active ∨ S.started = S.active + 1 ∧ 5 < now place - S.lastdeath
  | .boot _ _ _ | .stop _ _ | .shutdown _ _ => True

def AllFit (mwwdpid : Int) : List Server → World → List Event → Prop
  | _, _, [] => True
  | servers, world, event :: rest =>
      event.Fits mwwdpid servers world ∧ ∀ outcome, step mwwdpid servers event = .ok outcome →
        AllFit mwwdpid outcome.servers (world.behind mwwdpid outcome event) rest

def Server.Idle (S : Server) : Prop := S.booted = false → S.started = 0

/-- The servers keep their entries and get those of the processes that are forked, which are for
servers that are booted. -/
structure Grows (servers : List Server) (outcome : Outcome) : Prop where
  length : outcome.servers.length = servers.length
  pids : ∀ (place : Nat) (after : Server), outcome.servers[place]? = some after →
    ∃ S, servers[place]? = some S ∧ after.pids = S.pids ++ outcome.forked place
  down : ∀ (place : Nat) (after : Server), outcome.servers[place]? = some after → after.booted = false →
    after.started = 0 ∧ outcome.forked place = []
  beyond : ∀ place, servers.length ≤ place → outcome.forked place = []

variable {place : Nat} {S after : Server} {fork : Option Int}
  {groupname servername : Option (List Byte)} {pid : Int} {outcome : Outcome} {death : Death}

section

variable {servers : List Server}

theorem smgrfindServerByName_some
    (found : smgrfindServerByName servers groupname servername = some (S, place)) :
    servers[place]? = some S := by
  obtain ⟨name, _, isFound⟩ := Option.bind_eq_some_iff.mp found
  exact List.mem_zipIdx_iff_getElem?.mp (List.mem_of_find?_eq_some isFound)

theorem grows_unchanged (idle : ∀ S ∈ servers, S.Idle) (result : Int) :
    Grows servers (unchanged result servers) where
  length := rfl
  pids := fun _ after isAfter => ⟨after, isAfter, (List.append_nil _).symm⟩
  down := fun _ after isAfter isDown =>
    ⟨idle after (List.mem_of_getElem? isAfter) isDown, rfl⟩
  beyond := fun _ _ => rfl

/-- Only one server changes. -/
theorem grows_set (idle : ∀ S ∈ servers, S.Idle) {forked : List Int}
    (isServer : servers[place]? = some S) (pids : after.pids = S.pids ++ forked)
    (down : after.booted = false → after.started = 0 ∧ forked = []) (result : Int)
    (terminated : List Int) :
    Grows servers ⟨result, servers.set place after, forkedAt place forked, terminated⟩ := by
  obtain ⟨inside, _⟩ := List.getElem?_eq_some_iff.mp isServer
  constructor
  · exact List.length_set
  · intro other later isLater
    dsimp only at isLater ⊢
    by_cases same : other = place
    · simp_all [Option.some.injEq, forkedAt, Function.update_self]
    · rw [List.getElem?_set_ne (Ne.symm same)] at isLater
      exact ⟨later, isLater, by rw [forkedAt, Function.update_of_ne same, List.append_nil]⟩
  · intro other later isLater isDown
    dsimp only at isLater ⊢
    by_cases same : other = place
    · simp_all [Option.some.injEq, forkedAt, Function.update_self]
    · rw [List.getElem?_set_ne (Ne.symm same)] at isLater
      refine ⟨idle later (List.mem_of_getElem? isLater) isDown, ?_⟩
      rw [forkedAt, Function.update_of_ne same]
  · intro other beyond
    have differs : other ≠ place := by omega
    simp_all [forkedAt, Function.update_of_ne]

theorem forkedAt_nil (place : Nat) : forkedAt place [] = fun _ => [] :=
  Function.update_eq_self place _

theorem grows_set_nothing (idle : ∀ S ∈ servers, S.Idle) (isServer : servers[place]? = some S)
    (pids : after.pids = S.pids) (down : after.booted = false → after.started = 0) (result : Int)
    (terminated : List Int) :
    Grows servers ⟨result, servers.set place after, fun _ => [], terminated⟩ := by
  rw [← forkedAt_nil place]
  simp_all [grows_set]

theorem Server.execAll_booted (forks : Nat → Option Int) (attempts : List Nat) (S : Server) :
    (S.execAll forks attempts).booted = S.booted := by
  induction attempts generalizing S with
  | nil => rfl
  | cons attempt rest ih =>
      exact (ih _).trans (S.smgrExecServer_booted _)

theorem Server.execAll_pids (forks : Nat → Option Int) (attempts : List Nat) (S : Server) :
    (S.execAll forks attempts).pids = S.pids ++ attempts.filterMap forks := by
  induction attempts generalizing S with
  | nil => exact (List.append_nil _).symm
  | cons attempt rest ih =>
      have unfolded : S.execAll forks (attempt :: rest) =
          (S.smgrExecServer (forks attempt)).execAll forks rest := rfl
      rw [unfolded, ih, Server.smgrExecServer_pids, List.append_assoc]
      cases isFork : forks attempt with
      | none => rw [List.filterMap_cons_none isFork]; rfl
      | some pid => rw [List.filterMap_cons_some isFork]; rfl

theorem smgrBootServer_grows (idle : ∀ S ∈ servers, S.Idle)
    (groupname servername : Option (List Byte)) (forks : Nat → Option Int) :
    Grows servers (smgrBootServer servers groupname servername forks) := by
  unfold smgrBootServer
  cases found : smgrfindServerByName servers groupname servername with
  | none => exact grows_unchanged idle _
  | some entry =>
      obtain ⟨S, place⟩ := entry
      dsimp only
      by_cases booted : S.booted = true
      · simp_all [grows_unchanged]
      · rw [if_neg booted]
        refine grows_set idle (smgrfindServerByName_some found) ?_ ?_ _ _
        · rw [Server.execAll_pids]
          rfl
        · simp [Server.execAll_booted]

theorem smgrStartServer_grows (idle : ∀ S ∈ servers, S.Idle)
    (stepped : smgrStartServer servers groupname servername fork = .ok outcome) :
    Grows servers outcome := by
  unfold smgrStartServer at stepped
  cases found : smgrfindServerByName servers groupname servername with
  | none =>
      grind [grows_unchanged]
  | some entry =>
      obtain ⟨S, place⟩ := entry
      rw [found] at stepped
      dsimp only at stepped
      split_ifs at stepped with isDown isLargest
      · grind [grows_unchanged]
      · cases stepped
        refine grows_set idle (smgrfindServerByName_some found) ?_ ?_ _ _
        · rw [Server.smgrExecServer_pids]
          rfl
        · simp_all [Server.smgrExecServer_booted]

theorem smgrStopServer_grows (idle : ∀ S ∈ servers, S.Idle)
    (groupname servername : Option (List Byte)) :
    Grows servers (smgrStopServer servers groupname servername) := by
  unfold smgrStopServer
  cases found : smgrfindServerByName servers groupname servername with
  | none => exact grows_unchanged idle _
  | some entry =>
      obtain ⟨S, place⟩ := entry
      have isServer := smgrfindServerByName_some found
      dsimp only
      by_cases noneStarted : S.started ≤ 0
      · simp_all [grows_unchanged]
      · rw [if_neg noneStarted]
        have isBooted : S.booted = true := by
          by_contra notBooted
          have isZero := idle S (List.mem_of_getElem? isServer) 
            (Bool.eq_false_iff.mpr notBooted)
          omega
        have down {after : Server} (same : after.booted = S.booted) :
            after.booted = false → after.started = 0 := by
          intro isDown
          rw [same, isBooted] at isDown
          cases isDown
        cases S.firstRunning with
        | none =>
            dsimp only
            refine grows_set_nothing idle isServer ?_ ?_ _ _
            · rfl
            · exact down rfl
        | some running =>
            dsimp only
            refine grows_set_nothing idle isServer ?_ ?_ _ _
            on_goal 2 => exact down rfl
            change (S.activelist.modify running.2 ActiveServer.terminate).map ActiveServer.pid =
              S.activelist.map ActiveServer.pid
            apply List.ext_getElem?
            intro entry
            rw [List.getElem?_map, List.getElem?_map, List.getElem?_modify]
            cases S.activelist[entry]? with
            | none => rfl
            | some AS =>
                rw [Option.map_eq_map, Option.map_some, Option.map_some, Option.map_some]
                split_ifs
                · rfl
                · rfl

section

variable (forks : Nat → Option Int)

theorem Server.startMissing_pids (S : Server) (i : Nat) :
    (S.startMissing forks i).1.pids = S.pids ++ (S.startMissing forks i).2 := by
  fun_induction Server.startMissing with
  | case1 S i goesOn later ih =>
      rw [ih, Server.smgrExecServer_pids, List.append_assoc]
  | case2 S i ends => exact (List.append_nil _).symm

theorem Server.startMissing_booted (S : Server) (i : Nat) :
    (S.startMissing forks i).1.booted = S.booted := by
  fun_induction Server.startMissing with
  | case1 S i goesOn later ih =>
      rw [ih, Server.smgrExecServer_booted]
  | case2 S i ends => rfl

theorem Server.startMissing_started (S : Server) (i : Nat) :
    (S.startMissing forks i).1.started = S.started := by
  fun_induction Server.startMissing with
  | case1 S i goesOn later ih =>
      rw [ih, Server.smgrExecServer_started]
  | case2 S i ends => rfl

theorem Server.startMissing_attempts (S : Server) (i : Nat) :
    ∃ turns, (S.startMissing forks i).2 = (List.range' i turns).filterMap forks := by
  fun_induction Server.startMissing with
  | case1 S i goesOn later ih =>
      obtain ⟨turns, isLater⟩ := ih
      refine ⟨turns + 1, ?_⟩
      grind [List.range'_succ, List.filterMap_cons_none, List.filterMap_cons_some]
  | case2 S i ends => exact ⟨0, rfl⟩

theorem Server.startMissing_le (S : Server) (i : Nat) :
    (S.startMissing forks i).2.length ≤ (S.started - S.active).toNat := by
  fun_induction Server.startMissing with
  | case1 S i goesOn later ih =>
      change later.2.length ≤ _ at ih
      grind [Server.smgrExecServer_started, Server.smgrExecServer_active, List.length_append]
  | case2 S i ends => exact Nat.zero_le _

theorem Server.startMissing_half (succeed : ∀ attempt, forks attempt ≠ none) (S : Server) (i : Nat) :
    (S.startMissing forks i).2.length = ((S.started - S.active - i).toNat + 1) / 2 := by
  fun_induction Server.startMissing with
  | case1 S i goesOn later ih =>
      obtain ⟨pid, isFork⟩ := Option.ne_none_iff_exists'.mp (succeed i)
      grind [Server.smgrExecServer_started, Server.smgrExecServer_active, List.length_append]
  | case2 S i ends =>
      grind

theorem Server.smgrTask_pids (now : Int) (S : Server) :
    (S.smgrTask now forks).1.pids = S.pids ++ (S.smgrTask now forks).2 := by
  unfold Server.smgrTask
  split_ifs
  · exact S.startMissing_pids forks 0
  · exact (List.append_nil _).symm

theorem Server.smgrTask_booted (now : Int) (S : Server) :
    (S.smgrTask now forks).1.booted = S.booted := by
  unfold Server.smgrTask
  split_ifs
  · exact S.startMissing_booted forks 0
  · rfl

theorem Server.smgrTask_started (now : Int) (S : Server) :
    (S.smgrTask now forks).1.started = S.started := by
  unfold Server.smgrTask
  split_ifs
  · exact S.startMissing_started forks 0
  · rfl

theorem Server.smgrTask_down (isDown : S.booted = false) (now : Int) :
    (S.smgrTask now forks).2 = [] := by
  simp [Server.smgrTask, isDown]

theorem Server.smgrTask_attempts (now : Int) (S : Server) :
    ∃ turns, (S.smgrTask now forks).2 = (List.range' 0 turns).filterMap forks := by
  unfold Server.smgrTask
  split_ifs
  · exact S.startMissing_attempts forks 0
  · exact ⟨0, rfl⟩

theorem Server.smgrTask_le (now : Int) (S : Server) :
    (S.smgrTask now forks).2.length ≤ (S.started - S.active).toNat := by
  unfold Server.smgrTask
  split_ifs
  · exact S.startMissing_le forks 0
  · exact Nat.zero_le _

theorem Server.smgrTask_completes_iff (succeed : ∀ attempt, forks attempt ≠ none)
    (isBooted : S.booted = true) (now : Int) :
    S.started ≤ (S.smgrTask now forks).1.active ↔
      S.started ≤ S.active ∨ S.started = S.active + 1 ∧ 5 < now - S.lastdeath := by
  have grown : (S.smgrTask now forks).1.active = S.active + (S.smgrTask now forks).2.length := by
    rw [← Server.length_pids, Server.smgrTask_pids, List.length_append, Server.length_pids]
  rw [grown]
  by_cases longAgo : 5 < now - S.lastdeath
  · have half := S.startMissing_half forks succeed 0
    rw [Server.smgrTask, if_pos ⟨isBooted, longAgo⟩, half]
    omega
  · simp_all [Server.smgrTask, if_neg, List.length_nil]

end

theorem smgrTask_grows (idle : ∀ S ∈ servers, S.Idle) (systemstate : Int) (now : Nat → Int)
    (forks : Nat → Nat → Option Int) : Grows servers (smgrTask systemstate now forks servers) := by
  unfold smgrTask
  by_cases isReady : systemstate = 0
  · rw [if_neg (not_not_intro isReady)]
    constructor
    · exact List.length_mapIdx
    · grind [Option.map_eq_some_iff, Server.smgrTask_pids]
    · intro place after isAfter isDown
      dsimp only at isAfter ⊢
      rw [List.getElem?_mapIdx, Option.map_eq_some_iff] at isAfter
      obtain ⟨S, isServer, rfl⟩ := isAfter
      rw [Server.smgrTask_booted] at isDown
      rw [isServer, Server.smgrTask_started]
      exact ⟨idle S (List.mem_of_getElem? isServer) isDown,
        Server.smgrTask_down (forks place) isDown (now place)⟩
    · simp_all
  · simp_all [grows_unchanged]

theorem smgrShutdownServer_grows (idle : ∀ S ∈ servers, S.Idle)
    (groupname servername : Option (List Byte)) :
    Grows servers (smgrShutdownServer servers groupname servername) := by
  unfold smgrShutdownServer
  cases found : smgrfindServerByName servers groupname servername with
  | none => exact grows_unchanged idle _
  | some entry =>
      obtain ⟨S, place⟩ := entry
      dsimp only
      by_cases isDown : S.booted = false
      · simp_all [grows_unchanged]
      · rw [if_neg isDown]
        refine grows_set_nothing idle (smgrfindServerByName_some found) ?_ (fun _ => rfl) _ _
        rw [Server.pids, Server.pids, List.map_map]
        apply List.map_congr_left
        intro AS _
        rw [Function.comp_apply]
        split_ifs
        · rfl
        · rfl

structure Fresh (world : World) (forked : Nat → List Int) : Prop where
  nodup : ∀ place, (forked place).Nodup
  new : ∀ place, ∀ pid ∈ forked place, ∀ other, pid ∉ world.children other
  apart : ∀ place other pid, pid ∈ forked place → pid ∈ forked other → place = other

variable {mwwdpid : Int} {world : World}

theorem fresh_nothing (world : World) : Fresh world fun _ => [] where
  nodup := fun _ => List.nodup_nil
  new := fun _ _ member => absurd member List.not_mem_nil
  apart := fun _ _ _ member => absurd member List.not_mem_nil

theorem mem_forkedAt {other : Nat} {pids : List Int} :
    pid ∈ forkedAt place pids other ↔ other = place ∧ pid ∈ pids := by
  by_cases same : other = place
  · simp [same, forkedAt, Function.update_self, and_iff_right]
  · simp_all [forkedAt, Function.update_of_ne]

theorem fresh_forkedAt {pids : List Int} (nodup : pids.Nodup)
    (free : ∀ pid ∈ pids, ∀ other, pid ∉ world.children other) (place : Nat) :
    Fresh world (forkedAt place pids) where
  nodup := by
    intro other
    by_cases same : other = place
    · simp [same, forkedAt, Function.update_self, nodup]
    · simp_all [forkedAt, Function.update_of_ne, List.nodup_nil]
  new := fun _ pid member => free pid (mem_forkedAt.mp member).2
  apart := fun _ _ _ first second =>
    (mem_forkedAt.mp first).1.trans (mem_forkedAt.mp second).1.symm

theorem Distinct.nodup {ι : Type} {forks : ι → Option Int} (distinct : Distinct forks)
    {attempts : List ι} (nodup : attempts.Nodup) : (attempts.filterMap forks).Nodup :=
  nodup.filterMap fun first second pid isFirst isSecond =>
    distinct first second pid isFirst isSecond

theorem smgrBootServer_fresh {forks : Nat → Option Int}
    (isEnabled : (Event.boot groupname servername forks).Enabled mwwdpid world) :
    Fresh world (smgrBootServer servers groupname servername forks).forked := by
  obtain ⟨free, distinct⟩ := isEnabled
  unfold smgrBootServer
  cases smgrfindServerByName servers groupname servername with
  | none => exact fresh_nothing world
  | some entry =>
      dsimp only
      by_cases booted : entry.1.booted = true
      · rw [if_pos booted]
        exact fresh_nothing world
      · rw [if_neg booted]
        refine fresh_forkedAt (distinct.nodup List.nodup_range) ?_ _
        intro pid member
        obtain ⟨attempt, _, isFork⟩ := List.mem_filterMap.mp member
        exact (free attempt pid isFork).2.1

theorem fresh_one (free : ∀ pid, fork = some pid → world.Free mwwdpid pid) (place : Nat) :
    Fresh world (forkedAt place fork.toList) := by
  refine fresh_forkedAt ?_ ?_ place
  · grind
  · intro pid member
    exact (free pid (Option.mem_toList.mp member)).2.1

theorem smgrStartServer_fresh (free : ∀ pid, fork = some pid → world.Free mwwdpid pid)
    (stepped : smgrStartServer servers groupname servername fork = .ok outcome) :
    Fresh world outcome.forked := by
  unfold smgrStartServer at stepped
  cases found : smgrfindServerByName servers groupname servername with
  | none =>
      rw [found] at stepped
      cases stepped
      exact fresh_nothing world
  | some entry =>
      rw [found] at stepped
      dsimp only at stepped
      split_ifs at stepped
      · cases stepped
        exact fresh_nothing world
      · cases stepped
        exact fresh_one free _

theorem smgrStopServer_forked (groupname servername : Option (List Byte)) :
    (smgrStopServer servers groupname servername).forked = fun _ => [] := by
  unfold smgrStopServer
  cases smgrfindServerByName servers groupname servername with
  | none => rfl
  | some entry =>
      dsimp only
      split_ifs
      · rfl
      · grind

theorem smgrShutdownServer_forked (groupname servername : Option (List Byte)) :
    (smgrShutdownServer servers groupname servername).forked = fun _ => [] := by
  unfold smgrShutdownServer
  cases smgrfindServerByName servers groupname servername with
  | none => rfl
  | some entry =>
      dsimp only
      split_ifs
      · rfl
      · rfl

theorem smgrTask_fresh {systemstate : Int} {now : Nat → Int} {forks : Nat → Nat → Option Int}
    (isEnabled : (Event.task systemstate now forks).Enabled mwwdpid world) :
    Fresh world (smgrTask systemstate now forks servers).forked := by
  obtain ⟨free, distinct⟩ := isEnabled
  by_cases isReady : systemstate = 0
  · have attempted (place : Nat) : ∃ turns,
        (smgrTask systemstate now forks servers).forked place =
          (List.range' 0 turns).filterMap (forks place) := by
      rw [smgrTask, if_neg (not_not_intro isReady)]
      dsimp only
      cases servers[place]? with
      | none => exact ⟨0, rfl⟩
      | some S => exact S.smgrTask_attempts (forks place) (now place)
    have result (place : Nat) (pid : Int)
        (member : pid ∈ (smgrTask systemstate now forks servers).forked place) :
        ∃ attempt, forks place attempt = some pid := by
      obtain ⟨turns, isForked⟩ := attempted place
      rw [isForked] at member
      obtain ⟨attempt, _, isFork⟩ := List.mem_filterMap.mp member
      exact ⟨attempt, isFork⟩
    constructor
    · intro place
      obtain ⟨turns, isForked⟩ := attempted place
      have ofPlace : Distinct (forks place) := fun first second pid isFirst isSecond =>
        (Prod.mk.inj (distinct (place, first) (place, second) pid isFirst isSecond)).2
      rw [isForked]
      exact ofPlace.nodup List.nodup_range'
    · intro place pid member
      obtain ⟨attempt, isFork⟩ := result place pid member
      exact (free place attempt pid isFork).2.1
    · intro place other pid first second
      obtain ⟨firstAttempt, isFirst⟩ := result place pid first
      obtain ⟨secondAttempt, isSecond⟩ := result other pid second
      exact (Prod.mk.inj
        (distinct (place, firstAttempt) (other, secondAttempt) pid isFirst isSecond)).1
  · rw [smgrTask, if_pos isReady]
    exact fresh_nothing world

structure Inv (servers : List Server) (world : World) : Prop where
  live : ∀ (place : Nat) (S : Server), servers[place]? = some S →
    S.pids.Perm (world.children place)
  nodup : ∀ place, (world.children place).Nodup
  apart : ∀ place other pid, pid ∈ world.children place → pid ∈ world.children other →
    place = other
  inside : ∀ place pid, pid ∈ world.children place → place < servers.length
  idle : ∀ S ∈ servers, S.Idle

theorem Inv.tracks (inv : Inv servers world) : Tracks servers world := by
  intro place S isServer
  have live := inv.live place S isServer
  exact ⟨live, live.nodup_iff.mpr (inv.nodup place)⟩

theorem Inv.grow (inv : Inv servers world) (grows : Grows servers outcome)
    (fresh : Fresh world outcome.forked) :
    Inv outcome.servers (world.grow outcome.forked) := by
  constructor
  · intro place after isAfter
    obtain ⟨S, isServer, pids⟩ := grows.pids place after isAfter
    rw [pids]
    exact (inv.live place S isServer).append_right _
  · intro place
    refine (inv.nodup place).append (fresh.nodup place) ?_
    intro pid old isNew
    exact fresh.new place pid isNew place old
  · intro place other pid first second
    rcases List.mem_append.mp first with oldFirst | newFirst
    · rcases List.mem_append.mp second with oldSecond | newSecond
      · exact inv.apart place other pid oldFirst oldSecond
      · exact absurd oldFirst (fresh.new other pid newSecond place)
    · rcases List.mem_append.mp second with oldSecond | newSecond
      · exact absurd oldSecond (fresh.new place pid newFirst other)
      · exact fresh.apart place other pid newFirst newSecond
  · intro place pid member
    rw [grows.length]
    rcases List.mem_append.mp member with old | isNew
    · exact inv.inside place pid old
    · by_contra beyond
      simp_all [grows.beyond, List.not_mem_nil]
  · intro after member isDown
    obtain ⟨place, isAfter⟩ := List.mem_iff_getElem?.mp member
    exact (grows.down place after isAfter isDown).1

theorem Grows.onlyBooted (grows : Grows servers outcome) :
    OnlyBooted outcome := by
  intro place isForked
  have inside : place < outcome.servers.length := by
    rw [grows.length]
    by_contra beyond
    exact isForked (grows.beyond place (Nat.le_of_not_lt beyond))
  refine ⟨_, List.getElem?_eq_getElem inside, ?_⟩
  by_contra notBooted
  exact isForked (grows.down place _ (List.getElem?_eq_getElem inside)
    (Bool.eq_false_iff.mpr notBooted)).2

theorem smgrfindServerByPid_some (found : smgrfindServerByPid servers pid = some (S, place)) :
    servers[place]? = some S ∧ pid ∈ S.pids := by
  grind [smgrfindServerByPid]

/-- The server of a process is the one that is found. -/
theorem Inv.findServerByPid (inv : Inv servers world) (isChild : pid ∈ world.children place) :
    ∃ S, smgrfindServerByPid servers pid = some (S, place) := by
  have inside := inv.inside place pid isChild
  have isServer := List.getElem?_eq_getElem inside
  have hasEntry := (inv.live place _ isServer).mem_iff.mpr isChild
  cases found : smgrfindServerByPid servers pid with
  | none =>
      refine absurd (List.contains_iff_mem.mpr hasEntry) ?_
      have isIdx : (servers[place], place) ∈ servers.zipIdx :=
        List.mem_zipIdx_iff_getElem?.mpr isServer
      exact List.find?_eq_none.mp found _ isIdx
  | some entry =>
      obtain ⟨S, other⟩ := entry
      obtain ⟨isOther, member⟩ := smgrfindServerByPid_some found
      have same := inv.apart other place pid ((inv.live other S isOther).mem_iff.mp member) isChild
      exact ⟨S, by rw [same]⟩

theorem Inv.funeral_none (inv : Inv servers world) (foreign : ∀ place, pid ∉ world.children place) :
    smgrServerFuneral servers pid = none := by
  have notFound : smgrfindServerByPid servers pid = none := by
    rw [smgrfindServerByPid, List.find?_eq_none]
    intro entry member hasEntry
    have isServer := List.mem_zipIdx_iff_getElem?.mp member
    exact foreign _ ((inv.live _ _ isServer).mem_iff.mp (List.contains_iff_mem.mp hasEntry))
  rw [smgrServerFuneral, notFound]
  rfl

/-- The server loses the entry of the process, and nothing else. -/
theorem Inv.funeral (inv : Inv servers world) (isChild : pid ∈ world.children place) :
    ∃ S after, servers[place]? = some S ∧ smgrServerFuneral servers pid = some (after, place) ∧
      (pid :: after.pids).Perm S.pids ∧ after.booted = S.booted ∧ after.started = S.started := by
  obtain ⟨S, found⟩ := inv.findServerByPid isChild
  obtain ⟨isServer, hasEntry⟩ := smgrfindServerByPid_some found
  obtain ⟨AS, isEntry, isPid⟩ := List.mem_map.mp hasEntry
  have someEntry : (S.activelist.findIdx? fun AS => AS.pid == pid).isSome = true := by
    grind
  obtain ⟨i, isIdx⟩ := Option.isSome_iff_exists.mp someEntry
  obtain ⟨inside, samePid, _⟩ := List.findIdx?_eq_some_iff_getElem.mp isIdx
  have removed := swapRemove_erase (List.getElem?_eq_getElem inside)
  refine ⟨S, { S with activelist := swapRemove S.activelist i }, isServer, ?_, ?_, rfl, rfl⟩
  · simp [smgrServerFuneral, found, Option.bind_some, isIdx, Option.map_some]
  · have withEntry : (S.activelist[i] :: swapRemove S.activelist i).Perm S.activelist :=
      (removed.cons _).trans (List.perm_cons_erase (List.getElem_mem inside)).symm
    have mapped := withEntry.map ActiveServer.pid
    rw [List.map_cons, beq_iff_eq.mp samePid] at mapped
    exact mapped

/-- A death that is of none of the servers leaves all as it is. -/
theorem Inv.bury_foreign (inv : Inv servers world)
    (foreign : ∀ place, death.pid ∉ world.children place) :
    Inv servers (world.bury mwwdpid death) := by
  have same (place : Nat) : (world.bury mwwdpid death).children place = world.children place :=
    List.erase_of_not_mem (foreign place)
  constructor
  · simp_all [inv.live]
  · simp [same, inv.nodup]
  · intro place other pid
    rw [same, same]
    exact inv.apart place other pid
  · intro place pid
    rw [same]
    exact inv.inside place pid
  · exact inv.idle

theorem Inv.bury (inv : Inv servers world) (isChild : death.pid ∈ world.children place)
    (isServer : servers[place]? = some S) (buried : (death.pid :: after.pids).Perm S.pids)
    (booted : after.booted = S.booted) (started : after.started = S.started) :
    Inv (servers.set place after) (world.bury mwwdpid death) := by
  have inside := inv.inside place death.pid isChild
  have wasChild {other : Nat} {pid : Int}
      (member : pid ∈ (world.bury mwwdpid death).children other) : pid ∈ world.children other :=
    List.mem_of_mem_erase member
  constructor
  · intro other later isLater
    by_cases same : other = place
    · subst same
      rw [List.getElem?_set_self inside, Option.some.injEq] at isLater
      subst isLater
      have erased := (buried.trans (inv.live other S isServer)).erase death.pid
      rw [List.erase_cons_head] at erased
      exact erased
    · rw [List.getElem?_set_ne (Ne.symm same)] at isLater
      have notHere : death.pid ∉ world.children other :=
        fun alsoHere => same (inv.apart other place death.pid alsoHere isChild)
      have kept : (world.bury mwwdpid death).children other = world.children other :=
        List.erase_of_not_mem notHere
      rw [kept]
      exact inv.live other later isLater
  · exact fun other => (inv.nodup other).erase death.pid
  · exact fun first second pid inFirst inSecond =>
      inv.apart first second pid (wasChild inFirst) (wasChild inSecond)
  · intro other pid member
    rw [List.length_set]
    exact inv.inside other pid (wasChild member)
  · intro later member
    rcases List.mem_or_eq_of_mem_set member with old | isAfter
    · exact inv.idle later old
    · intro isDown
      rw [isAfter, started]
      rw [isAfter, booted] at isDown
      exact inv.idle S (List.mem_of_getElem? isServer) isDown

theorem Inv.waitpid (inv : Inv servers world)
    (isEnabled : (Event.waitpid death fork).Enabled mwwdpid world)
    (fits : (Event.waitpid death fork).Fits mwwdpid servers world) :
    Inv (smgrDoWaitPid mwwdpid servers death fork).servers
        ((world.bury mwwdpid death).grow (smgrDoWaitPid mwwdpid servers death fork).forked) ∧
      OnlyBooted (smgrDoWaitPid mwwdpid servers death fork) := by
  by_cases foreign : ∀ place, death.pid ∉ world.children place
  · have nothing : smgrDoWaitPid mwwdpid servers death fork = unchanged 0 servers := by
      unfold smgrDoWaitPid
      rw [inv.funeral_none foreign, ite_self]
    rw [nothing]
    have grows := grows_unchanged inv.idle 0
    exact ⟨(inv.bury_foreign foreign).grow grows (fresh_nothing _), grows.onlyBooted⟩
  · obtain ⟨place, isChild⟩ : ∃ place, death.pid ∈ world.children place := by
      by_contra noChild
      exact foreign fun place isChild => noChild ⟨place, isChild⟩
    have notWatchdog : death.pid ≠ mwwdpid := fun same => fits same place isChild
    obtain ⟨S, after, isServer, funeral, buried, booted, started⟩ := inv.funeral isChild
    have invBuried : Inv (servers.set place after) (world.bury mwwdpid death) :=
      inv.bury isChild isServer buried booted started
    have isAfter : (servers.set place after)[place]? = some after :=
      List.getElem?_set_self (inv.inside place death.pid isChild)
    have down (isDown : after.booted = false) : after.started = 0 :=
      invBuried.idle after (List.mem_of_getElem? isAfter) isDown
    unfold smgrDoWaitPid
    rw [if_neg notWatchdog, funeral]
    dsimp only
    by_cases shutdown : death.shutdown = true
    · rw [if_pos shutdown]
      have grows := grows_unchanged invBuried.idle 0
      exact ⟨invBuried.grow grows (fresh_nothing _), grows.onlyBooted⟩
    · rw [if_neg shutdown]
      by_cases restart : after.active < after.started ∧ 2 < death.tested - after.lastdeath
      · rw [if_pos restart]
        have grows : Grows (servers.set place after)
            { result := 0
              servers := (servers.set place after).set place
                { after.smgrExecServer fork with lastdeath := death.recorded }
              forked := forkedAt place fork.toList
              terminated := [] } := by
          refine grows_set invBuried.idle isAfter ?_ ?_ 0 []
          · exact after.smgrExecServer_pids fork
          · intro isDown
            have noneStarted := down ((after.smgrExecServer_booted fork).symm.trans isDown)
            omega
        rw [List.set_set] at grows
        exact ⟨invBuried.grow grows (fresh_one isEnabled place), grows.onlyBooted⟩
      · rw [if_neg restart]
        have grows : Grows (servers.set place after)
            { unchanged 0 servers with
              servers := (servers.set place after).set place
                { after with lastdeath := death.recorded } } := by
          refine grows_set_nothing invBuried.idle isAfter ?_ ?_ 0 []
          · rfl
          · exact down
        rw [List.set_set] at grows
        exact ⟨invBuried.grow grows (fresh_nothing _), grows.onlyBooted⟩

theorem Inv.step (inv : Inv servers world) {event : Event} {outcome : Outcome}
    (isEnabled : event.Enabled mwwdpid world) (fits : event.Fits mwwdpid servers world)
    (stepped : step mwwdpid servers event = .ok outcome) :
    Inv outcome.servers (world.behind mwwdpid outcome event) ∧ OnlyBooted outcome := by
  cases event with
  | boot groupname servername forks =>
      cases stepped
      have grows := smgrBootServer_grows inv.idle groupname servername forks
      exact ⟨inv.grow grows (smgrBootServer_fresh isEnabled), grows.onlyBooted⟩
  | start groupname servername fork =>
      have grows := smgrStartServer_grows inv.idle stepped
      exact ⟨inv.grow grows (smgrStartServer_fresh isEnabled stepped), grows.onlyBooted⟩
  | stop groupname servername =>
      cases stepped
      have grows := smgrStopServer_grows inv.idle groupname servername
      have fresh := fresh_nothing world
      rw [← @smgrStopServer_forked servers groupname servername] at fresh
      exact ⟨inv.grow grows fresh, grows.onlyBooted⟩
  | shutdown groupname servername =>
      cases stepped
      have grows := smgrShutdownServer_grows inv.idle groupname servername
      have fresh := fresh_nothing world
      rw [← @smgrShutdownServer_forked servers groupname servername] at fresh
      exact ⟨inv.grow grows fresh, grows.onlyBooted⟩
  | waitpid death fork =>
      cases stepped
      exact inv.waitpid isEnabled fits
  | task systemstate now forks =>
      cases stepped
      have grows := smgrTask_grows inv.idle systemstate now forks
      exact ⟨inv.grow grows (smgrTask_fresh isEnabled), grows.onlyBooted⟩

theorem smgrStartServer_ok_iff :
    (∃ outcome, smgrStartServer servers groupname servername fork = .ok outcome) ↔
      (Event.start groupname servername fork).Fits mwwdpid servers world := by
  unfold smgrStartServer
  cases found : smgrfindServerByName servers groupname servername with
  | none =>
      refine iff_of_true ⟨_, rfl⟩ ?_
      intro S place isFound
      rw [found] at isFound
      cases isFound
  | some entry =>
      obtain ⟨S, place⟩ := entry
      dsimp only
      split_ifs with isDown isLargest
      · refine iff_of_true ⟨_, rfl⟩ ?_
        intro other otherPlace isFound isBooted
        simp_all
      · refine iff_of_false ?_ fun fits => ?_
        · simp
        · exact fits S place found (Bool.not_eq_false _ ▸ isDown) isLargest
      · refine iff_of_true ⟨_, rfl⟩ ?_
        intro other otherPlace isFound _
        simp_all

/-- A server that has the number which the watchdog had keeps its entry when it dies. -/
theorem Inv.watchdog_number (inv : Inv servers world) (isWatchdog : death.pid = mwwdpid)
    (isChild : death.pid ∈ world.children place) :
    ¬Tracks (smgrDoWaitPid mwwdpid servers death fork).servers
      ((world.bury mwwdpid death).grow (smgrDoWaitPid mwwdpid servers death fork).forked) := by
  rw [smgrDoWaitPid, if_pos isWatchdog]
  intro tracks
  have isServer := List.getElem?_eq_getElem (inv.inside place death.pid isChild)
  have before := (inv.live place _ isServer).length_eq
  have after := (tracks place _ isServer).1.length_eq
  have kept : ((world.bury mwwdpid death).grow (unchanged 0 servers).forked).children place =
      (world.children place).erase death.pid := List.append_nil _
  grind

theorem Inv.task_iff (systemstate : Int) (now : Nat → Int) (forks : Nat → Nat → Option Int) :
    (Event.task systemstate now forks).Completes servers world
        (smgrTask systemstate now forks servers) ↔
      (Event.task systemstate now forks).Fits mwwdpid servers world := by
  refine forall_congr' fun isReady => forall_congr' fun succeed => forall_congr' fun place =>
    forall_congr' fun S => forall_congr' fun isServer => forall_congr' fun due => ?_
  have after : (smgrTask systemstate now forks servers).servers[place]? =
      some (S.smgrTask (now place) (forks place)).1 := by
    rw [smgrTask, if_neg (not_not_intro isReady), List.getElem?_mapIdx, isServer, Option.map_some]
  have forked : (smgrTask systemstate now forks servers).forked place =
      (S.smgrTask (now place) (forks place)).2 := by
    rw [smgrTask, if_neg (not_not_intro isReady)]
    dsimp only
    rw [isServer]
    rfl
  rw [after, forked, and_iff_left (S.smgrTask_le (forks place) (now place)),
    ← Server.smgrTask_completes_iff (forks place) (succeed place) due.1 (now place)]
  constructor
  · simp
  · simp

/-- An event is handled as it should be just if it fits. -/
theorem Inv.step_iff (inv : Inv servers world) {event : Event}
    (isEnabled : event.Enabled mwwdpid world) :
    (∃ outcome, MidWay.Mwd.ServerManager.step mwwdpid servers event = .ok outcome ∧
      Tracks outcome.servers (world.behind mwwdpid outcome event) ∧ OnlyBooted outcome ∧
        event.Completes servers world outcome) ↔ event.Fits mwwdpid servers world := by
  constructor
  · rintro ⟨outcome, stepped, tracks, _, completes⟩
    cases event with
    | boot groupname servername forks => trivial
    | start groupname servername fork => exact smgrStartServer_ok_iff.mp ⟨outcome, stepped⟩
    | stop groupname servername => trivial
    | shutdown groupname servername => trivial
    | waitpid death fork =>
        cases stepped
        intro isWatchdog place isChild
        exact inv.watchdog_number isWatchdog isChild tracks
    | task systemstate now forks =>
        cases stepped
        exact (Inv.task_iff systemstate now forks).mp completes
  · intro fits
    obtain ⟨outcome, stepped⟩ : ∃ outcome,
        MidWay.Mwd.ServerManager.step mwwdpid servers event = .ok outcome := by
      cases event with
      | start groupname servername fork => exact smgrStartServer_ok_iff.mpr fits
      | boot groupname servername forks => exact ⟨_, rfl⟩
      | stop groupname servername => exact ⟨_, rfl⟩
      | shutdown groupname servername => exact ⟨_, rfl⟩
      | waitpid death fork => exact ⟨_, rfl⟩
      | task systemstate now forks => exact ⟨_, rfl⟩
    obtain ⟨after, onlyBooted⟩ := inv.step isEnabled fits stepped
    refine ⟨outcome, stepped, after.tracks, onlyBooted, ?_⟩
    cases event with
    | task systemstate now forks =>
        cases stepped
        exact (Inv.task_iff systemstate now forks).mpr fits
    | boot groupname servername forks => trivial
    | start groupname servername fork => trivial
    | stop groupname servername => trivial
    | shutdown groupname servername => trivial
    | waitpid death fork => trivial

end

def World.initial : World := ⟨fun _ => [], true, fun _ => none⟩

theorem begin_inv (configs : List Config) :
    Inv (configs.map smgrBeginServer) World.initial := by
  have isNew {S : Server} (member : S ∈ configs.map smgrBeginServer) :
      S.pids = [] ∧ S.started = 0 := by
    obtain ⟨config, _, rfl⟩ := List.mem_map.mp member
    exact ⟨rfl, rfl⟩
  constructor
  · intro place S isServer
    rw [(isNew (List.mem_of_getElem? isServer)).1]
    exact List.Perm.nil
  · exact fun _ => List.nodup_nil
  · exact fun _ _ _ member => absurd member List.not_mem_nil
  · exact fun _ _ member => absurd member List.not_mem_nil
  · exact fun S member _ => (isNew member).2

/-- In every run of the server manager the entries are the processes, no instance is started for a
server that is not booted, and each task starts what is missing, just if every event fits. -/
theorem keeps_wanted_iff (mwwdpid : Int) (configs : List Config) {events : List Event}
    (lawful : Lawful mwwdpid (configs.map smgrBeginServer) World.initial events) :
    Keeps mwwdpid (configs.map smgrBeginServer) World.initial events ↔
      AllFit mwwdpid (configs.map smgrBeginServer) World.initial events := by
  have inv := begin_inv configs
  generalize configs.map smgrBeginServer = servers at inv lawful
  generalize World.initial = world at inv lawful
  induction events generalizing servers world with
  | nil => exact Iff.rfl
  | cons event rest ih =>
      obtain ⟨isEnabled, lawfulAfter⟩ := lawful
      constructor
      · rintro ⟨outcome, stepped, tracks, onlyBooted, completes, keeps⟩
        have fits := (inv.step_iff isEnabled).mp ⟨outcome, stepped, tracks, onlyBooted, completes⟩
        refine ⟨fits, ?_⟩
        intro other again
        rw [stepped, Except.ok.injEq] at again
        subst again
        exact (ih _ _ (inv.step isEnabled fits stepped).1
          (lawfulAfter outcome stepped)).mp keeps
      · rintro ⟨fits, later⟩
        obtain ⟨outcome, stepped, tracks, onlyBooted, completes⟩ :=
          (inv.step_iff isEnabled).mpr fits
        exact ⟨outcome, stepped, tracks, onlyBooted, completes,
          (ih _ _ (inv.step isEnabled fits stepped).1
            (lawfulAfter outcome stepped)).mpr (later outcome stepped)⟩

/-- The server `S`, of which so many instances are to run. -/
def oneServer (startMin : Int) : Config := ⟨[], [83], startMin, 0⟩

/-- No instance can be forked when the server is booted, and every one when the task runs. -/
def bootThenTask : List Event :=
  [.boot none (some [83]) fun _ => none,
    .task 0 (fun _ => 10) fun place attempt => some (1000 + Nat.pair place attempt)]

theorem keeps_wanted_iff_one :
    Keeps 300 ([oneServer 1].map smgrBeginServer) World.initial bootThenTask := by
  refine (keeps_wanted_iff 300 [oneServer 1] ?_).mpr ?_
  · refine ⟨⟨fun _ _ impossible => absurd impossible (by simp), ?_⟩, ?_⟩
    · intro first second pid impossible
      cases impossible
    · intro outcome stepped
      cases stepped
      refine ⟨⟨?_, ?_⟩, fun _ _ => trivial⟩
      · intro place attempt pid isFork
        rw [Option.some.injEq] at isFork
        refine ⟨by omega, ?_, fun _ => by omega⟩
        intro other member
        have noChild : ((World.initial.behind 300 (smgrBootServer
            ([oneServer 1].map smgrBeginServer) none (some [83]) fun _ => none)
            (.boot none (some [83]) fun _ => none)).children other) = [] := by
          change [] ++ forkedAt 0 [] other = []
          rw [forkedAt_nil, List.append_nil]
        rw [noChild] at member
        exact List.not_mem_nil member
      · intro first second pid isFirst isSecond
        rw [Option.some.injEq] at isFirst isSecond
        obtain ⟨samePlace, sameAttempt⟩ :=
          Nat.pair_eq_pair.mp (show Nat.pair first.1 first.2 = Nat.pair second.1 second.2 by omega)
        exact Prod.ext samePlace sameAttempt
  · refine ⟨trivial, ?_⟩
    intro outcome stepped
    cases stepped
    refine ⟨?_, fun _ _ => trivial⟩
    intro _ _ place S isServer _
    cases place with
    | zero =>
        cases isServer
        exact Or.inr ⟨rfl, by decide⟩
    | succ place => cases isServer

/-- Of the two instances that are missing only one is started. -/
theorem one_of_two_started :
    ¬Keeps 300 ([oneServer 2].map smgrBeginServer) World.initial bootThenTask := by
  rintro ⟨booted, bootStep, _, _, _, outcome, stepped, _, _, completes, _⟩
  cases bootStep
  cases stepped
  have fits : (Event.task _ _ _).Fits 300 _ _ := (Inv.task_iff _ _ _).mp completes
  have enough := fits rfl (fun _ _ => Option.some_ne_none _) 0 _ rfl
    ⟨rfl, fun time impossible => by cases impossible⟩
  rcases enough with all | one
  · exact absurd all (by decide)
  · exact absurd one.1 (by decide)

end MidWay.Mwd.ServerManager

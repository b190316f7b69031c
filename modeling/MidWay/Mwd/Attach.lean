import Mathlib.Data.Set.Basic
import MidWay.Mwd.Consistency

/-!
Contract: when a refused attach leaves the client and server tables alone.

A request to attach both as a server and as a client takes the entry of the
server first. Where the client table is full the request is refused, and that
entry is not given back.

Owns: the entries in use, what the client part of `do_attach` does, and the exact
case in which a refusal holds an entry.
-/

namespace MidWay.Mwd

open MidWay.CLib

variable {tables : Tables} {areq : Attach}

def Tables.clientsInUse (tables : Tables) : Set (Int × Cliententry) :=
  { pair | 0 ≤ pair.1 ∧ pair.1 < tables.clttblLength ∧ pair.2 = tables.clttbl pair.1 ∧
    pair.2.status ≠ unassigned }

def Tables.serversInUse (tables : Tables) : Set (Int × Serverentry) :=
  { pair | 0 ≤ pair.1 ∧ pair.1 < tables.srvtblLength ∧ pair.2 = tables.srvtbl pair.1 ∧
    pair.2.status ≠ unassigned }

def Tables.ClientsFull (tables : Tables) : Prop :=
  ∀ idx : Int, 0 ≤ idx → idx < tables.clttblLength → (tables.clttbl idx).status ≠ unassigned

def Tables.ServersFull (tables : Tables) : Prop :=
  ∀ idx : Int, 0 ≤ idx → idx < tables.srvtblLength → (tables.srvtbl idx).status ≠ unassigned

theorem addserver_full (full : tables.ServersFull) (mqid pid : Int) :
    tables.addserver mqid pid = (rcOf .ENOSPC, tables) := by
  rcases addserver_spec tables mqid pid with refused | ⟨srvidx, lower, upper, isFree, _⟩
  · exact refused
  · exact absurd isFree (full srvidx lower upper)

theorem addserver_refused {mqid pid : Int} (refused : (tables.addserver mqid pid).1 < 0) :
    tables.ServersFull := by
  intro idx lower upper isFree
  unfold Tables.addserver at refused
  cases found : searchFrom (fun idx => (tables.srvtbl idx).status == unassigned) tables.nextServer
      tables.srvtblLength with
  | none =>
      grind [ne_of_beq_false, searchFrom_none]
  | some srvidx =>
      have fits := tables.srvtblFits
      rcases searchFrom_some found with ⟨_, srvLower, srvUpper⟩
      grind [orMask_index, mwServerMask, isMask_server]

theorem addserver_added (notFull : ¬tables.ServersFull) (mqid pid : Int) :
    ∃ srvidx after, tables.addserver mqid pid = (srvidx + mwServerMask, after) ∧ 0 ≤ srvidx ∧
      srvidx < after.srvtblLength ∧ (tables.srvtbl srvidx).status = unassigned ∧
      after.srvtbl = Function.update tables.srvtbl srvidx ⟨mqid, pid, 0, unassigned⟩ ∧
      (tables.ClientsFull ↔ after.ClientsFull) := by
  rcases addserver_spec tables mqid pid with refused | ⟨srvidx, lower, upper, isFree, added⟩
  · have negative : (tables.addserver mqid pid).1 < 0 := by
      rw [refused]
      exact rcOf_neg .ENOSPC
    exact absurd (addserver_refused negative) notFull
  · exact ⟨srvidx, _, added, lower, upper, isFree, rfl, Iff.rfl⟩

/-- The types `do_attach` asks for. -/
def IsClientType (type : Int) : Prop :=
  type = mwIpcClient ∨ type = mwIpcServer ∨ type = mwNetClient

theorem addclient_full (full : tables.ClientsFull) (type mqid pid gwid : Int) :
    tables.addclient type mqid pid gwid = (rcOf .ENOSPC, tables) := by
  unfold Tables.addclient
  cases found : searchFrom (fun idx => (tables.clttbl idx).status == unassigned) tables.nextClient
      tables.clttblLength with
  | none => rfl
  | some cltidx =>
      rcases searchFrom_some found with ⟨isFree, lower, upper⟩
      exact absurd (eq_of_beq isFree) (full cltidx lower upper)

theorem addclient_refused {type mqid pid gwid : Int} (isType : IsClientType type)
    (refused : (tables.addclient type mqid pid gwid).1 < 0) : tables.ClientsFull := by
  intro idx lower upper isFree
  unfold Tables.addclient at refused
  cases found : searchFrom (fun idx => (tables.clttbl idx).status == unassigned) tables.nextClient
      tables.clttblLength with
  | none =>
      grind [ne_of_beq_false, searchFrom_none]
  | some cltidx =>
      have fits := tables.clttblFits
      rcases searchFrom_some found with ⟨_, cltLower, cltUpper⟩
      have positive : ¬orMask mwClientMask cltidx < 0 := by
        grind [orMask_index, mwClientMask, isMask_client]
      rw [found] at refused
      dsimp only at refused
      split_ifs at refused with ipc net
      · exact positive refused
      · exact positive refused
      · rcases isType with client | server | other
        · exact ipc (Or.inl client)
        · exact ipc (Or.inr server)
        · exact net other

theorem attachClient_full (client : areq.client ≠ 0) (full : tables.ClientsFull) :
    tables.attachClient areq =
      ({ areq with returncode := rcOf .ENOSPC, cltid := unassigned }, tables) := by
  unfold Tables.attachClient
  rw [if_neg client]
  dsimp only
  rw [addclient_full full, if_pos (rcOf_neg .ENOSPC)]

/-- The client part refuses only where the client table is full, and then it takes nothing. -/
theorem attachClient_refused (accepted : areq.returncode = 0)
    (refused : (tables.attachClient areq).1.returncode < 0) :
    areq.client ≠ 0 ∧ tables.ClientsFull ∧ (tables.attachClient areq).2 = tables := by
  by_cases client : areq.client = 0
  · simp_all [Tables.attachClient]
  · have full : tables.ClientsFull := by
      unfold Tables.attachClient at refused
      rw [if_neg client] at refused
      dsimp only at refused
      have accepts : ¬areq.returncode < 0 := by
        omega
      split_ifs at refused with gateway noClient server noClient noClient
      · exact addclient_refused (Or.inr (Or.inr rfl)) noClient
      · exact absurd refused accepts
      · exact addclient_refused (Or.inr (Or.inl rfl)) noClient
      · exact absurd refused accepts
      · exact addclient_refused (Or.inl rfl) noClient
      · exact absurd refused accepts
    exact ⟨client, full, by rw [attachClient_full client full]⟩

def SameInUse (before after : Tables) : Prop :=
  after.clientsInUse = before.clientsInUse ∧ after.serversInUse = before.serversInUse

structure HalfAttached (status : Status) (areq : Attach) (tables : Tables) : Prop where
  running : status ≠ .dead
  accepting : ¬(status = .shutdown ∧ areq.server = 1)
  server : areq.server ≠ 0
  client : areq.client ≠ 0
  direct : areq.gwid = -1
  serverFree : ¬tables.ServersFull
  clientsFull : tables.ClientsFull

/-- The entry of the server is taken, and the request is refused. -/
theorem HalfAttached.holds_entry {status : Status} (half : HalfAttached status areq tables) :
    (tables.doAttach status areq).1.returncode < 0 ∧
      (tables.doAttach status areq).2.serversInUse ≠ tables.serversInUse := by
  unfold Tables.doAttach
  dsimp only
  rw [if_neg half.running, if_neg half.accepting, if_neg half.server,
    if_neg (not_not.mpr half.direct)]
  rcases addserver_added half.serverFree areq.ipcqid areq.pid with
    ⟨srvidx, after, added, lower, upper, isFree, srvtbl, sameClients⟩
  rw [added]
  dsimp only
  rw [if_neg (by rw [mwServerMask]; omega)]
  have client : ({ areq with srvid := srvidx + mwServerMask, cltid := unassigned, returncode := 0 } :
      Attach).client ≠ 0 := half.client
  rw [attachClient_full client (sameClients.mp half.clientsFull)]
  refine ⟨rcOf_neg .ENOSPC, ?_⟩
  intro same
  have taken : (srvidx, (⟨areq.ipcqid, areq.pid, 0, unassigned⟩ : Serverentry)) ∈
      tables.serversInUse := by
    have assigned : (0 : Int) ≠ unassigned := by decide
    rw [← same]
    exact ⟨lower, upper, by rw [srvtbl, Function.update_self], assigned⟩
  rcases taken with ⟨_, _, isEntry, inUse⟩
  rw [isEntry] at inUse
  exact inUse isFree

theorem refused_sameInUse {status : Status} (whole : ¬HalfAttached status areq tables)
    (refused : (tables.doAttach status areq).1.returncode < 0) :
    SameInUse tables (tables.doAttach status areq).2 := by
  unfold Tables.doAttach at refused ⊢
  dsimp only at refused ⊢
  split_ifs at refused ⊢ with dead down noServer gateway full
  · exact ⟨rfl, rfl⟩
  · exact ⟨rfl, rfl⟩
  · have same := (attachClient_refused (by rfl) refused).2.2
    rw [same]
    exact ⟨rfl, rfl⟩
  · exact ⟨rfl, rfl⟩
  · rw [addserver_full (addserver_refused full)]
    exact ⟨rfl, rfl⟩
  · rcases attachClient_refused (by rfl) refused with ⟨client, clientsFull, _⟩
    have notFull : ¬tables.ServersFull := by
      intro serversFull
      rw [addserver_full serversFull] at full
      exact full (rcOf_neg .ENOSPC)
    rcases addserver_added notFull areq.ipcqid areq.pid with
      ⟨srvidx, after, added, _, _, _, _, sameClients⟩
    rw [added] at clientsFull
    exact absurd ⟨dead, down, noServer, client, not_not.mp gateway, notFull,
      sameClients.mpr clientsFull⟩ whole

/-- A refusal leaves both tables with the entries they had, but for a server that got its entry
before the client part found no room. -/
theorem refused_attach_changes_nothing (status : Status) (areq : Attach) (tables : Tables) :
    ((tables.doAttach status areq).1.returncode < 0 →
      SameInUse tables (tables.doAttach status areq).2) ↔ ¬HalfAttached status areq tables := by
  constructor
  · intro kept half
    rcases half.holds_entry with ⟨refused, different⟩
    exact different (kept refused).2
  · simp_all [refused_sameInUse]

def noClientTables : Tables :=
  { emptyTables with clttbl := fun _ => ⟨mwIpcClient, gwLocal, 0, 200, 7, unassigned⟩ }

def serverAndClient : Attach := ⟨5, 100, 1, unassigned, 1, unassigned, -1, 0⟩

theorem refused_attach_holds_server :
    ¬((noClientTables.doAttach .ready serverAndClient).1.returncode < 0 →
      SameInUse noClientTables (noClientTables.doAttach .ready serverAndClient).2) := by
  intro kept
  have same := (kept (by decide)).2
  have taken : ((0 : Int), (⟨5, 100, 0, unassigned⟩ : Serverentry)) ∈ noClientTables.serversInUse := by
    rw [← same]
    exact ⟨by decide, by decide, by decide, by decide⟩
  exact taken.2.2.2 (congrArg Serverentry.status taken.2.2.1)

end MidWay.Mwd

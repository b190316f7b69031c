import MidWay.Mwd.Attach
import MidWay.Mwd.Bounds

/-!
Contract: who gets which entry of the client, server, service and gateway tables.

The client and server tables are searched from a start index to the end and then
in front of it, the service and gateway tables around from it. Whatever the start
index, each search looks at every entry, so it fails only on a full table.

Owns: `allocgwid` of `gateway.c`, what one allocation does to the tables, and that
the allocations of a run without a free give different ids.
-/

namespace MidWay.Mwd

open MidWay.CLib

def mwBooting : Int := 2

/-- The tables and `gwtbl_nextidx`, which is in shared memory with them. -/
structure Allocator where
  tables : Tables
  gwtblNextidx : Nat

/-- `locked` tells whether the semaphore of the table could be taken. -/
def Allocator.allocgwid (state : Allocator) (locked : Bool) (mqid ipcserverpid location role : Int) :
    Int × Allocator :=
  if locked = false then (-1, state)
  else
    let round (step : Int) : Int := (state.gwtblNextidx + step) % state.tables.gwtblLength
    match firstFree (fun step => (state.tables.gwtbl (round step)).pid == unassigned) 0
      state.tables.gwtblLength with
    | none => (unassigned, state)
    | some step =>
        let idx := round step
        (orMask mwGatewayMask idx,
          { tables := state.tables.setGateway idx ⟨location, role, mqid, ipcserverpid, mwBooting⟩
            gwtblNextidx := idx.toNat + 1 })

inductive Allocation where
  | server (mqid pid : Int)
  | client (type mqid pid gwid : Int)
  | service (name : List Byte) (type : Int)
  | gateway (locked : Bool) (mqid ipcserverpid location role : Int)

/-- What the callers pass: a client type that is known, a type for a service, and the process
id of the gateway. -/
def Allocation.Known : Allocation → Prop
  | .server _ _ => True
  | .client type _ _ _ => IsClientType type
  | .service _ type => IsSvcType type
  | .gateway _ _ ipcserverpid _ _ => ipcserverpid ≠ unassigned

def Allocation.table : Allocation → TableName
  | .server _ _ => .server
  | .client _ _ _ _ => .client
  | .service _ _ => .service
  | .gateway _ _ _ _ _ => .gateway

def Allocation.locked : Allocation → Bool
  | .gateway locked _ _ _ _ => locked
  | .server _ _ | .client _ _ _ _ | .service _ _ => true

def Allocator.allocate (state : Allocator) : Allocation → Int × Allocator
  | .server mqid pid =>
      ((state.tables.addserver mqid pid).1,
        { state with tables := (state.tables.addserver mqid pid).2 })
  | .client type mqid pid gwid =>
      ((state.tables.addclient type mqid pid gwid).1,
        { state with tables := (state.tables.addclient type mqid pid gwid).2 })
  | .service name type =>
      ((state.tables.addservice name type).1,
        { state with tables := (state.tables.addservice name type).2 })
  | .gateway locked mqid ipcserverpid location role =>
      state.allocgwid locked mqid ipcserverpid location role

def Tables.Taken (tables : Tables) : TableName → Int → Prop
  | .client, idx => (tables.clttbl idx).status ≠ unassigned
  | .server, idx => (tables.srvtbl idx).status ≠ unassigned
  | .service, idx => (tables.svctbl idx).type ≠ unassigned
  | .gateway, idx => (tables.gwtbl idx).pid ≠ unassigned

def SameEntry (before after : Tables) : TableName → Int → Prop
  | .client, idx => after.clttbl idx = before.clttbl idx
  | .server, idx => after.srvtbl idx = before.srvtbl idx
  | .service, idx => after.svctbl idx = before.svctbl idx
  | .gateway, idx => after.gwtbl idx = before.gwtbl idx

/-- The id of an entry; `addservice` gives the index itself. -/
def idOf : TableName → Int → Int
  | .client, idx => idx + mwClientMask
  | .server, idx => idx + mwServerMask
  | .service, idx => idx
  | .gateway, idx => idx + mwGatewayMask

def Tables.Full (tables : Tables) (table : TableName) : Prop :=
  ∀ idx : Int, 0 ≤ idx → idx < tables.lengthOf table → tables.Taken table idx

structure Takes (table : TableName) (before after : Tables) (idx : Int) : Prop where
  lower : 0 ≤ idx
  upper : idx < before.lengthOf table
  free : ¬before.Taken table idx
  taken : after.Taken table idx
  others : ∀ other place, other ≠ table ∨ place ≠ idx → SameEntry before after other place
  lengths : ∀ other, after.lengthOf other = before.lengthOf other

/-- An error, with the tables as they were, or the id of the entry that was taken. `locked` is
false where the table could not be locked. -/
inductive Allocates (table : TableName) (locked : Bool) (before : Tables) (result : Int × Tables) :
    Prop
  | failed (error : result.1 < 0) (full : before.Full table ∨ locked = false)
      (unchanged : result.2 = before)
  | taken (idx : Int) (takes : Takes table before result.2 idx) (id : result.1 = idOf table idx)

theorem Takes.of_server {tables : Tables} {srvidx : Int} (lower : 0 ≤ srvidx)
    (upper : srvidx < tables.srvtblLength) (free : (tables.srvtbl srvidx).status = unassigned)
    (entry : Serverentry) (inUse : entry.status ≠ unassigned) (next : Fin (tables.srvtblLength + 1)) :
    Takes .server tables { tables.setServer srvidx entry with nextServer := next } srvidx := by
  refine ⟨lower, upper, fun taken => taken free, ?_, ?_, ?_⟩
  · change (Function.update tables.srvtbl srvidx entry srvidx).status ≠ unassigned
    rw [Function.update_self]
    exact inUse
  · intro other place elsewhere
    cases other with
    | server =>
        have apart : place ≠ srvidx := elsewhere.resolve_left fun other => other rfl
        exact Function.update_of_ne apart entry tables.srvtbl
    | client => rfl
    | service => rfl
    | gateway => rfl
  · intro other
    cases other <;> rfl

theorem addserver_allocates (tables : Tables) (mqid pid : Int) :
    Allocates .server true tables (tables.addserver mqid pid) := by
  by_cases full : tables.ServersFull
  · rw [addserver_full full]
    exact .failed (rcOf_neg .ENOSPC) (Or.inl full) rfl
  · rcases addserver_spec tables mqid pid with refused | ⟨srvidx, lower, upper, isFree, added⟩
    · have negative : (tables.addserver mqid pid).1 < 0 := by
        rw [refused]
        exact rcOf_neg .ENOSPC
      exact absurd (addserver_refused negative) full
    · rw [added]
      have inUse : (0 : Int) ≠ unassigned := by decide
      exact .taken srvidx (Takes.of_server lower upper isFree _ inUse _) rfl

theorem Takes.of_client {tables : Tables} {cltidx : Int} (lower : 0 ≤ cltidx)
    (upper : cltidx < tables.clttblLength) (free : (tables.clttbl cltidx).status = unassigned)
    (entry : Cliententry) (inUse : entry.status ≠ unassigned)
    (next : Fin (tables.clttblLength + 1)) :
    Takes .client tables { tables.setClient cltidx entry with nextClient := next } cltidx := by
  refine ⟨lower, upper, fun taken => taken free, ?_, ?_, ?_⟩
  · change (Function.update tables.clttbl cltidx entry cltidx).status ≠ unassigned
    rw [Function.update_self]
    exact inUse
  · intro other place elsewhere
    cases other with
    | client =>
        have apart : place ≠ cltidx := elsewhere.resolve_left fun other => other rfl
        exact Function.update_of_ne apart entry tables.clttbl
    | server => rfl
    | service => rfl
    | gateway => rfl
  · intro other
    cases other <;> rfl

theorem addclient_allocates (tables : Tables) {type : Int} (isType : IsClientType type)
    (mqid pid gwid : Int) :
    Allocates .client true tables (tables.addclient type mqid pid gwid) := by
  have fits := tables.clttblFits
  by_cases full : tables.ClientsFull
  · rw [addclient_full full]
    exact .failed (rcOf_neg .ENOSPC) (Or.inl full) rfl
  · rw [Tables.addclient]
    cases found : searchFrom (fun idx => (tables.clttbl idx).status == unassigned) tables.nextClient
        tables.clttblLength with
    | none =>
        refine absurd ?_ full
        intro idx lower upper
        exact ne_of_beq_false (searchFrom_none found lower upper)
    | some cltidx =>
        rcases searchFrom_some found with ⟨isFree, lower, upper⟩
        have id : orMask mwClientMask cltidx = cltidx + mwClientMask :=
          orMask_index isMask_client lower (by omega)
        have inUse : (0 : Int) ≠ unassigned := by decide
        dsimp only
        rw [id]
        split_ifs with ipc net
        · exact .taken cltidx
            (Takes.of_client lower upper (eq_of_beq isFree) _ inUse _) rfl
        · exact .taken cltidx
            (Takes.of_client lower upper (eq_of_beq isFree) _ inUse _) rfl
        · rcases isType with isIpc | isServer | isNet
          · exact absurd (Or.inl isIpc) ipc
          · exact absurd (Or.inr isServer) ipc
          · exact absurd isNet net

theorem round_reaches (start : Int) {length idx : Int} (lower : 0 ≤ idx) (upper : idx < length) :
    ∃ step, 0 ≤ step ∧ step < length ∧ (start + step) % length = idx := by
  have positive : 0 < length := Int.lt_of_le_of_lt lower upper
  refine ⟨(idx - start) % length, Int.emod_nonneg _ (Int.ne_of_gt positive),
    Int.emod_lt_of_pos _ positive, ?_⟩
  rw [Int.add_emod_emod, show start + (idx - start) = idx by omega]
  exact Int.emod_eq_of_lt lower upper

theorem round_full {free : Int → Bool} {start : Int} {length : Nat}
    (none : firstFree (fun step => free ((start + step) % length)) 0 length = none) {idx : Int}
    (lower : 0 ≤ idx) (upper : idx < length) : free idx = false := by
  obtain ⟨step, stepLower, stepUpper, reached⟩ := round_reaches start lower upper
  have looked := firstFree_none none stepLower (by omega)
  rw [reached] at looked
  exact looked

theorem addservice_allocates (tables : Tables) (name : List Byte) {type : Int}
    (isType : IsSvcType type) : Allocates .service true tables (tables.addservice name type) := by
  have positive : (0 : Int) < tables.svctblLength := Int.natCast_pos.mpr tables.svctblNonempty
  rw [Tables.addservice]
  dsimp only
  cases found : firstFree (fun step =>
      (tables.svctbl ((tables.nextService + step) % tables.svctblLength)).type == unassigned) 0
      tables.svctblLength with
  | none =>
      refine .failed (rcOf_neg .ENOSPC) (Or.inl ?_) rfl
      intro idx lower upper
      exact ne_of_beq_false (@round_full (fun idx => (tables.svctbl idx).type == unassigned) _ _
        found idx lower upper)
  | some step =>
      have isFree := eq_of_beq (firstFree_some found).1
      refine .taken _ ⟨Int.emod_nonneg _ (Int.ne_of_gt positive), Int.emod_lt_of_pos _ positive,
        fun taken => taken isFree, ?_, ?_, ?_⟩ rfl
      · change (Function.update tables.svctbl _ _ _).type ≠ unassigned
        rw [Function.update_self]
        exact isType.ne_unassigned
      · intro other place elsewhere
        cases other with
        | service =>
            have apart := elsewhere.resolve_left fun other => other rfl
            exact Function.update_of_ne apart _ tables.svctbl
        | client => rfl
        | server => rfl
        | gateway => rfl
      · intro other
        cases other <;> rfl

theorem allocgwid_allocates (state : Allocator) (locked : Bool) (mqid : Int) {ipcserverpid : Int}
    (isPid : ipcserverpid ≠ unassigned) (location role : Int) :
    Allocates .gateway locked state.tables
      ((state.allocgwid locked mqid ipcserverpid location role).1,
        (state.allocgwid locked mqid ipcserverpid location role).2.tables) := by
  have fits := state.tables.gwtblFits
  rw [Allocator.allocgwid]
  split_ifs with notLocked
  · exact .failed (by decide : (-1 : Int) < 0) (Or.inr notLocked) rfl
  dsimp only
  cases found : firstFree (fun step =>
      (state.tables.gwtbl ((state.gwtblNextidx + step) % state.tables.gwtblLength)).pid ==
        unassigned) 0 state.tables.gwtblLength with
  | none =>
      refine .failed (by decide : unassigned < 0) (Or.inl ?_) rfl
      intro idx lower upper
      exact ne_of_beq_false (@round_full (fun idx => (state.tables.gwtbl idx).pid == unassigned) _ _
        found idx lower upper)
  | some step =>
      rcases firstFree_some found with ⟨isFree, stepLower, stepUpper⟩
      have positive : (0 : Int) < state.tables.gwtblLength := by omega
      have lower := Int.emod_nonneg (state.gwtblNextidx + step) (Int.ne_of_gt positive)
      have upper := Int.emod_lt_of_pos (state.gwtblNextidx + step) positive
      refine .taken _ ⟨lower, upper, fun taken => taken (eq_of_beq isFree), ?_, ?_, ?_⟩
        (orMask_index isMask_gateway lower (by omega))
      · change (Function.update state.tables.gwtbl _ _ _).pid ≠ unassigned
        rw [Function.update_self]
        exact isPid
      · intro other place elsewhere
        cases other with
        | gateway =>
            have apart := elsewhere.resolve_left fun other => other rfl
            exact Function.update_of_ne apart _ state.tables.gwtbl
        | client => rfl
        | server => rfl
        | service => rfl
      · intro other
        cases other <;> rfl

theorem allocate_allocates (state : Allocator) {allocation : Allocation} (known : allocation.Known) :
    Allocates allocation.table allocation.locked state.tables
      ((state.allocate allocation).1, (state.allocate allocation).2.tables) := by
  cases allocation with
  | server mqid pid => exact addserver_allocates state.tables mqid pid
  | client type mqid pid gwid => exact addclient_allocates state.tables known mqid pid gwid
  | service name type => exact addservice_allocates state.tables name known
  | gateway locked mqid ipcserverpid location role =>
      exact allocgwid_allocates state locked mqid known location role

def Allocator.results : Allocator → List Allocation → List (TableName × Int)
  | _, [] => []
  | state, allocation :: rest =>
      (allocation.table, (state.allocate allocation).1) ::
        (state.allocate allocation).2.results rest

def Allocator.issued (state : Allocator) (allocations : List Allocation) : List (TableName × Int) :=
  (state.results allocations).filter fun result => 0 ≤ result.2

theorem idOf_nonneg (table : TableName) {idx : Int} (lower : 0 ≤ idx) : 0 ≤ idOf table idx := by
  cases table <;>
    simp only [idOf, mwClientMask, mwServerMask, mwGatewayMask] <;> omega

theorem idOf_injective {table : TableName} {first second : Int}
    (same : idOf table first = idOf table second) : first = second := by
  cases table <;> simp only [idOf] at same <;> omega

theorem Takes.keeps {table : TableName} {before after : Tables} {idx : Int}
    (takes : Takes table before after idx) {other : TableName} {place : Int}
    (taken : before.Taken other place) : after.Taken other place := by
  by_cases same : other = table ∧ place = idx
  · simp [same, takes.taken]
  · have entry := takes.others other place (by tauto)
    cases other <;> simp only [SameEntry, Tables.Taken] at entry taken ⊢ <;> rwa [entry]

/-- Every id that is issued later is that of an entry which is free now. -/
theorem issued_free (state : Allocator) {allocations : List Allocation}
    (known : ∀ allocation ∈ allocations, allocation.Known) {table : TableName} {id : Int}
    (isIssued : (table, id) ∈ state.issued allocations) :
    ∃ idx, ¬state.tables.Taken table idx ∧ id = idOf table idx := by
  induction allocations generalizing state with
  | nil => cases isIssued
  | cons allocation rest ih =>
      rw [Allocator.issued, Allocator.results, List.mem_filter, List.mem_cons] at isIssued
      obtain ⟨first | later, accepted⟩ := isIssued
      · cases first
        rcases allocate_allocates state (known allocation List.mem_cons_self) with
          ⟨error, -, -⟩ | ⟨idx, takes, isId⟩
        · exact absurd (of_decide_eq_true accepted) (Int.not_le.mpr error)
        · exact ⟨idx, takes.free, isId⟩
      · have inRest : (table, id) ∈ (state.allocate allocation).2.issued rest :=
          List.mem_filter.mpr ⟨later, accepted⟩
        obtain ⟨idx, free, isId⟩ := ih _
          (fun other member => known other (List.mem_cons_of_mem _ member)) inRest
        refine ⟨idx, ?_, isId⟩
        intro taken
        apply free
        rcases allocate_allocates state (known allocation List.mem_cons_self) with
          ⟨-, -, unchanged⟩ | ⟨place, takes, -⟩
        · simp_all
        · exact takes.keeps taken

theorem issued_nodup (state : Allocator) {allocations : List Allocation}
    (known : ∀ allocation ∈ allocations, allocation.Known) : (state.issued allocations).Nodup := by
  induction allocations generalizing state with
  | nil => exact List.nodup_nil
  | cons allocation rest ih =>
      have restKnown : ∀ other ∈ rest, other.Known :=
        fun other member => known other (List.mem_cons_of_mem _ member)
      have restNodup := ih (state.allocate allocation).2 restKnown
      rcases allocate_allocates state (known allocation List.mem_cons_self) with
        ⟨error, -, -⟩ | ⟨idx, takes, isId⟩
      · have skipped : state.issued (allocation :: rest) =
            (state.allocate allocation).2.issued rest :=
          List.filter_cons_of_neg (by simpa using error)
        rw [skipped]
        exact restNodup
      · have accepted : 0 ≤ (state.allocate allocation).1 := by
          change _ = _ at isId
          rw [isId]
          exact idOf_nonneg _ takes.lower
        have first : state.issued (allocation :: rest) =
            (allocation.table, (state.allocate allocation).1) ::
              (state.allocate allocation).2.issued rest :=
          List.filter_cons_of_pos (by simpa using accepted)
        rw [first, List.nodup_cons]
        refine ⟨?_, restNodup⟩
        -- the entry is in use from now on, and what is issued later is free then
        intro again
        obtain ⟨place, free, sameId⟩ := issued_free _ restKnown again
        have same : idx = place := idOf_injective (isId.symm.trans sameId)
        rw [← same] at free
        exact free takes.taken

/-- Whatever the tables and the start indexes: an allocation that fails finds its table full, or
the gateway table locked for it, and changes nothing; one that succeeds gives the id of an entry
that was free, takes it and leaves all others. Without a free in between no id is given twice. -/
theorem allocations_exact (state : Allocator) :
    (∀ allocation : Allocation, allocation.Known →
      Allocates allocation.table allocation.locked state.tables
        ((state.allocate allocation).1, (state.allocate allocation).2.tables)) ∧
      ∀ allocations : List Allocation, (∀ allocation ∈ allocations, allocation.Known) →
        (state.issued allocations).Nodup := by
  constructor
  · simp_all [allocate_allocates]
  · simp_all [issued_nodup]

def emptyAllocator : Allocator := ⟨emptyTables, 0⟩

def threeServers : List Allocation := [.server 5 100, .server 6 101, .server 7 102]

theorem allocations_exact_three_servers :
    emptyAllocator.issued threeServers =
        [(.server, mwServerMask), (.server, mwServerMask + 1)] ∧
      (emptyAllocator.issued threeServers).Nodup := by
  constructor
  · decide
  · apply (allocations_exact emptyAllocator).2
    intro allocation member
    rcases List.mem_cons.mp member with rfl | later
    · trivial
    · rcases List.mem_cons.mp later with rfl | last
      · trivial
      · rw [List.mem_singleton.mp last]
        trivial

/-- A gateway that cannot lock the table gets no id from a table with free entries. -/
theorem allocgwid_not_locked :
    (emptyAllocator.allocate (.gateway false 8 103 0 1)).1 < 0 ∧
      ¬emptyAllocator.tables.Full .gateway :=
  ⟨by decide, fun full => full 0 (by decide) (by decide) rfl⟩

end MidWay.Mwd

import MidWay.Broker.Descriptors
import MidWay.CLib.Format
import MidWay.Lib.TwoLevel

/-!
Contract: the connection table of a gateway, and the set of the descriptors it polls.

The table has two levels and grows by whole directories. The set is that of `select`, so
that a descriptor behind its end is closed again, from inside the function that makes the
connection. The next highest descriptor is searched for down to 1.

Owns: `conn_add`, `conn_del`, `poll_on`, `poll_off`, what holds of the table over all
calls, and the exact condition under which it does.
-/

namespace MidWay.Gateway.Connections

open MidWay.CLib MidWay.Lib MidWay.Broker

/-- An `int` overflows, an access leaves the table, or the connection of a gateway is closed, which
goes on in `gw_closegateway`. -/
inductive Fault where
  | overflow
  | outside
  | gateway
deriving DecidableEq

def unassigned : Int := -1

def conndirSize : Nat := 10

/-- `messagebuffer` is whether there is one. -/
structure Connection where
  fd : Int
  cid : Int
  gwid : Int
  role : Int
  type : Int
  cost : Int
  connectionid : Int
  connected : Int
  messagebuffer : Bool
deriving DecidableEq

/-- `opened` are the descriptors that the process has. It has no counterpart in the program. -/
structure Table where
  connDir : List (List Connection)
  connectiontablesize : Nat
  maxsocket : Int
  sockettable : Int → Bool
  sockettableWrite : Int → Bool
  lastconnectionid : Int
  opened : Int → Bool

def Table.fd2conn (table : Table) (fd : Int) : Option Connection :=
  if fd < 0 then none else entryAt conndirSize table.connDir fd.toNat

/-- A change of the slot that `fd2conn` finds. -/
def Table.change (table : Table) (fd : Int) (change : Connection → Connection) : Table :=
  { table with connDir := modifyAt conndirSize table.connDir fd.toNat change }

/-- What `memset` leaves. -/
def zeroConnection : Connection := ⟨0, 0, 0, 0, 0, 0, 0, 0, false⟩

def connClear (_conn : Connection) : Connection :=
  { zeroConnection with
    cid := unassigned
    gwid := unassigned
    cost := 100
    connectionid := unassigned
    fd := unassigned
    role := unassigned }

/-- The table is made large enough for the descriptor, and the slots that are new are cleared. -/
def Table.extend (table : Table) (fd : Nat) : Except Fault Table :=
  if (table.connectiontablesize : Int) ≤ fd then
    let oldndir := if table.connectiontablesize = 0 then 0
      else (table.connectiontablesize - 1) / conndirSize + 1
    let newndir := fd / conndirSize + 1
    let l := newndir * conndirSize
    if 2147483647 < l then .error .overflow
    else
      let dirs := table.connDir ++
        List.replicate (newndir - oldndir) (List.replicate conndirSize zeroConnection)
      .ok { table with
        connDir := modifyRange conndirSize dirs table.connectiontablesize
          (l - table.connectiontablesize) connClear
        connectiontablesize := l }
  else .ok table

def fdSetsize : Int := 1024

def Table.unpollWrite (table : Table) (fd : Int) : Table :=
  if fd < 0 ∨ table.maxsocket < fd then table
  else { table with sockettableWrite := Function.update table.sockettableWrite fd false }

/-- The loop of `poll_off`, from the descriptor below this one on: it does not look at 0. -/
def nextHighest (set : Int → Bool) : Nat → Int
  | 0 => -1
  | 1 => -1
  | fd + 2 => if set (fd + 1 : Nat) then (fd + 1 : Nat) else nextHighest set (fd + 1)

def Table.pollOff (table : Table) (fd : Int) : Table :=
  if fd < 0 ∨ table.maxsocket < fd then table
  else
    let table := table.unpollWrite fd
    let table := { table with sockettable := Function.update table.sockettable fd false }
    if fd < table.maxsocket then table
    else { table with maxsocket := nextHighest table.sockettable fd.toNat }

def Table.connDel (table : Table) (fd : Int) : Except Fault Table :=
  match table.fd2conn fd with
  | none => .error .outside
  | some conn =>
      if conn.gwid ≠ unassigned then .error .gateway
      else
        let table := (table.pollOff fd).change fd connClear
        .ok { table with opened := Function.update table.opened fd false }

def Table.pollOn (table : Table) (fd : Int) : Except Fault Table :=
  if fd < 0 then .ok table
  else if fdSetsize - 1 ≤ fd then table.connDel fd
  else
    .ok { table with
      sockettable := Function.update table.sockettable fd true
      maxsocket := if table.maxsocket < fd then fd else table.maxsocket }

def Table.connSet (table : Table) (place : Int) (role type : Int) : Table :=
  table.change place fun conn => { conn with role := role, type := type }

/-- An `int` that overflows is taken to wrap, as the test behind it expects. -/
def nextConnectionid (last : Int) : Int :=
  if toInt32 (last + 1) ≤ 0 then 100 else toInt32 (last + 1)

def Connection.assign (fd now connectionid : Int) (conn : Connection) : Connection :=
  { conn with
    connectionid := connectionid
    fd := fd
    connected := now
    messagebuffer := true
    cost := 100 }

def Table.connAdd (table : Table) (fd role type now : Int) :
    Except Fault (Option Int × Table) :=
  if fd < 0 then .ok (none, table)
  else
    let lastconnectionid := nextConnectionid table.lastconnectionid
    match ({ table with lastconnectionid := lastconnectionid }).extend fd.toNat with
    | .error fault => .error fault
    | .ok table =>
        match table.fd2conn fd with
        | none => .error .outside
        | some conn =>
            if conn.fd ≠ unassigned then .ok (some fd, table)
            else
              let table := table.change fd (Connection.assign fd now lastconnectionid)
              (table.pollOn fd).map fun table => (some fd, table.connSet fd role type)

def connInit (lastconnectionid : Int) : Table where
  connDir := []
  connectiontablesize := 0
  maxsocket := -1
  sockettable _ := false
  sockettableWrite _ := false
  lastconnectionid := lastconnectionid
  opened _ := false

inductive Call where
  | add (fd role type now : Int)
  | del (fd : Int)

def Call.fd : Call → Int
  | .add fd _ _ _ => fd
  | .del fd => fd

def Table.step (table : Table) : Call → Except Fault (Option Int × Table)
  | .add fd role type now =>
      ({ table with opened := Function.update table.opened fd true }).connAdd fd role type now
  | .del fd => (table.connDel fd).map fun after => (none, after)

/-- A new descriptor is an `int` that is not open, and one that is closed is open. -/
def Call.Enabled (table : Table) : Call → Prop
  | .add fd _ _ _ => 0 ≤ fd ∧ fd ≤ 2147483647 ∧ table.opened fd = false
  | .del fd => table.opened fd = true

structure Consistent (table : Table) : Prop where
  slots : ∀ place conn, table.fd2conn place = some conn →
    conn.fd = unassigned ∨ conn.fd = place
  isOpen : ∀ fd, (∃ conn, table.fd2conn fd = some conn ∧ conn.fd = fd) ↔ table.opened fd = true
  polled : ∀ fd, table.sockettable fd = table.opened fd
  highest : Highest table.sockettable table.maxsocket

/-- `conn_add` returns `NULL`, or a connection that is open, polled and as it was asked for. -/
def Call.Returned (result : Option Int) (after : Table) : Call → Prop
  | .add fd role type _ => ∀ place, result = some place →
      ∃ conn, after.fd2conn place = some conn ∧ conn.fd = fd ∧ conn.role = role ∧
        conn.type = type ∧ after.opened fd = true ∧ after.sockettable fd = true
  | .del _ => True

/-- The call returns as it should, and leaves the table as it should be; what was in the other slots
is still there. -/
structure Call.Kept (call : Call) (table : Table) (result : Option Int) (after : Table) :
    Prop where
  stepped : table.step call = .ok (result, after)
  consistent : Consistent after
  unchanged : ∀ place conn, place ≠ call.fd → table.fd2conn place = some conn →
    after.fd2conn place = some conn
  returned : call.Returned result after

def Table.Lawful : Table → List Call → Prop
  | _, [] => True
  | table, call :: rest => call.Enabled table ∧
      ∀ result after, table.step call = .ok (result, after) → after.Lawful rest

def Table.Keeps : Table → List Call → Prop
  | _, [] => True
  | table, call :: rest => ∃ result after, call.Kept table result after ∧ after.Keeps rest

/-- A new descriptor fits the set, and where 0 is polled, another one is left that the search
finds. -/
def Call.Fits (table : Table) : Call → Prop
  | .add fd _ _ _ => fd < fdSetsize - 1
  | .del fd => fd = 0 ∨ table.sockettable 0 = false ∨
      ∃ other, other ≠ 0 ∧ other ≠ fd ∧ table.sockettable other = true

def Table.AllFit : Table → List Call → Prop
  | _, [] => True
  | table, call :: rest => call.Fits table ∧
      ∀ result after, table.step call = .ok (result, after) → after.AllFit rest

section

variable {table : Table} {fd : Int}

theorem fd2conn_change (change : Connection → Connection) (place : Int) (nonneg : 0 ≤ fd) :
    (table.change fd change).fd2conn place =
      if place = fd then (table.fd2conn place).map change else table.fd2conn place := by
  unfold Table.fd2conn Table.change
  dsimp only
  split_ifs with negative same same
  · rfl
  · rfl
  · rw [entryAt_modifyAt, if_pos (by rw [same])]
  · rw [entryAt_modifyAt, if_neg (by omega)]

theorem nonneg_of_fd2conn {conn : Connection} (isConn : table.fd2conn fd = some conn) : 0 ≤ fd := by
  simp_all [Table.fd2conn]

structure Table.Whole (table : Table) : Prop where
  wide : AllWide conndirSize table.connDir
  size : table.connectiontablesize = table.connDir.length * conndirSize

theorem Table.Whole.fd2conn_isSome (whole : table.Whole) (nonneg : 0 ≤ fd) :
    (table.fd2conn fd).isSome = true ↔ fd < table.connectiontablesize := by
  simp_all [Table.fd2conn, if_neg, whole.wide.entryAt_isSome, whole.size]

theorem Table.Whole.change (whole : table.Whole) (place : Int)
    (change : Connection → Connection) : (table.change place change).Whole :=
  ⟨whole.wide.modifyAt _ _, whole.size.trans (by rw [Table.change, length_modifyAt])⟩

/-- The table has room for the descriptor, the slots there were are as they were, and the new ones
are clear. -/
structure Grown (table after : Table) (fd : Nat) : Prop where
  whole : after.Whole
  room : fd < after.connectiontablesize
  slots : ∀ place, after.fd2conn place = table.fd2conn place ∨
    table.fd2conn place = none ∧ after.fd2conn place = some (connClear zeroConnection)

/-- The table grows, or its size is no `int`. -/
theorem Table.Whole.extend (whole : table.Whole) (fd : Nat) :
    (∃ dirs size, table.extend fd =
        .ok { table with connDir := dirs, connectiontablesize := size } ∧
      Grown table { table with connDir := dirs, connectiontablesize := size } fd) ∨
    2147483640 ≤ fd ∧ table.extend fd = .error .overflow := by
  have size := whole.size
  by_cases room : fd < table.connectiontablesize
  · left
    refine ⟨table.connDir, table.connectiontablesize, ?_, whole, room, fun place => Or.inl rfl⟩
    rw [Table.extend, if_neg (by omega)]
  · have oldndir : (if table.connectiontablesize = 0 then 0
        else (table.connectiontablesize - 1) / conndirSize + 1) = table.connDir.length := by
      rw [conndirSize] at size ⊢
      split_ifs <;> omega
    rw [Table.extend, if_pos (by omega), oldndir]
    dsimp only
    by_cases fits : 2147483647 < (fd / conndirSize + 1) * conndirSize
    · right
      rw [if_pos fits]
      rw [conndirSize] at fits
      exact ⟨by omega, rfl⟩
    · left
      rw [if_neg fits]
      have newDirs : fd / conndirSize + 1 - table.connDir.length + table.connDir.length =
          fd / conndirSize + 1 := by
        rw [conndirSize] at size ⊢
        omega
      generalize more_eq : List.replicate (fd / conndirSize + 1 - table.connDir.length)
        (List.replicate conndirSize zeroConnection) = more
      have moreWide : AllWide conndirSize more := more_eq ▸ allWide_replicate _ _ _
      have moreLength : more.length = fd / conndirSize + 1 - table.connDir.length := by
        rw [← more_eq, List.length_replicate]
      have allLength : (table.connDir ++ more).length = fd / conndirSize + 1 := by
        grind
      obtain ⟨sameLength, wide, entries⟩ := modifyRange_spec (table.connDir ++ more)
        table.connectiontablesize
        ((fd / conndirSize + 1) * conndirSize - table.connectiontablesize) connClear
      refine ⟨_, _, rfl, ⟨wide (whole.wide.append moreWide), ?_⟩, ?_, ?_⟩
      · rw [sameLength, allLength]
      · grind [conndirSize]
      · intro place
        unfold Table.fd2conn
        dsimp only
        split_ifs with negative
        · exact Or.inl rfl
        · rw [entries]
          by_cases old : place.toNat < table.connDir.length * conndirSize
          · rw [if_neg (by omega), entryAt_append more old]
            exact Or.inl rfl
          · have absent : entryAt conndirSize table.connDir place.toNat = none := by
              rw [← Option.not_isSome_iff_eq_none, whole.wide.entryAt_isSome]
              exact old
            have isNew := (whole.wide.append moreWide).entryAt_isSome place.toNat
            rw [allLength] at isNew
            by_cases inside : place.toNat < (fd / conndirSize + 1) * conndirSize
            · obtain ⟨conn, isConn⟩ := Option.isSome_iff_exists.mp (isNew.mpr inside)
              rw [if_pos (by omega), isConn]
              exact Or.inr ⟨absent, rfl⟩
            · simp_all [Or.inl]

theorem nextHighest_eq (set : Int → Bool) (count : Nat) :
    nextHighest set count = highestBelow (Function.update set 0 false) count := by
  induction count with
  | zero => rfl
  | succ count ih =>
      cases count with
      | zero =>
          rfl
      | succ count =>
          grind [nextHighest, highestBelow, Function.update_of_ne]

/-- The search is right but where 0 is all that is left. -/
theorem nextHighest_highest {set : Int → Bool} {count : Nat}
    (bound : ∀ fd, set fd = true → 0 ≤ fd ∧ fd < count) :
    Highest set (nextHighest set count) ↔
      set 0 = false ∨ ∃ other, other ≠ 0 ∧ set other = true := by
  have besides : Highest (Function.update set 0 false) (nextHighest set count) := by
    grind [nextHighest_eq, Function.update_self, Function.update_of_ne, highestBelow_highest]
  constructor
  · intro highest
    by_contra alone
    rw [not_or, not_exists, Bool.not_eq_false] at alone
    obtain ⟨zero, noOther⟩ := alone
    have above := highest.bound 0 zero
    rcases besides.isMarked with none | isMarked
    · omega
    · grind
  · rintro (zero | ⟨other, nonzero, isMarked⟩)
    · grind [Function.update_eq_self]
    · have above := besides.bound other (by rw [Function.update_of_ne nonzero]; exact isMarked)
      have otherBound := bound other isMarked
      have positive : nextHighest set count ≠ 0 := by
        omega
      constructor
      · intro fd fdMarked
        by_cases same : fd = 0
        · omega
        · exact besides.bound fd (by rw [Function.update_of_ne same]; exact fdMarked)
      · rcases besides.isMarked with none | highestMarked
        · exact Or.inl none
        · simp_all [Function.update_of_ne, Or.inr]

/-- Behind `poll_off` the highest descriptor is known but where 0 is all that is left. -/
theorem pollOff_highest {set : Int → Bool} {maxsocket : Int} (highest : Highest set maxsocket)
    (isMarked : set fd = true) :
    Highest (Function.update set fd false) (if fd < maxsocket then maxsocket
        else nextHighest (Function.update set fd false) fd.toNat) ↔
      fd = 0 ∨ set 0 = false ∨ ∃ other, other ≠ 0 ∧ other ≠ fd ∧ set other = true := by
  have bound := highest.bound fd isMarked
  split_ifs with isBelow
  · have unmarked := highest.unmark fd
    rw [if_pos (by omega)] at unmarked
    refine iff_of_true unmarked (Or.inr (Or.inr ⟨maxsocket, by omega, by omega, ?_⟩))
    exact highest.isMarked.resolve_left (by omega)
  · have left : ∀ other, Function.update set fd false other = true ↔
        other ≠ fd ∧ set other = true := by
      intro other
      by_cases same : other = fd
      · simp [same]
      · simp [same]
    have zero : Function.update set fd false 0 = false ↔ fd = 0 ∨ set 0 = false := by
      grind
    rw [nextHighest_highest, zero, or_assoc]
    · simp only [left]
    · intro other otherMarked
      obtain ⟨differs, wasMarked⟩ := (left other).mp otherMarked
      have otherBound := highest.bound other wasMarked
      omega

end

structure Sound (table : Table) : Prop where
  whole : table.Whole
  consistent : Consistent table
  noGateway : ∀ place conn, table.fd2conn place = some conn → conn.gwid = unassigned

theorem connInit_sound (lastconnectionid : Int) : Sound (connInit lastconnectionid) := by
  have empty : ∀ place, (connInit lastconnectionid).fd2conn place = none := by
    intro place
    unfold Table.fd2conn
    split_ifs
    · rfl
    · rfl
  constructor
  · constructor
    · intro dir member
      cases member
    · rfl
  · constructor
    · simp [empty]
    · intro fd
      constructor
      · simp [empty]
      · intro isOpen
        cases isOpen
    · intro fd
      rfl
    · constructor
      · intro fd isMarked
        cases isMarked
      · exact Or.inl rfl
  · simp [empty]

section

variable {table : Table} {fd : Int}

theorem Sound.conn_of_opened (sound : Sound table) (isOpen : table.opened fd = true) :
    ∃ conn, table.fd2conn fd = some conn ∧ conn.fd = fd ∧ conn.gwid = unassigned := by
  obtain ⟨conn, isConn, isFd⟩ := (sound.consistent.isOpen fd).mpr isOpen
  exact ⟨conn, isConn, isFd, sound.noGateway fd conn isConn⟩

/-- What `conn_del` does to an open connection. -/
theorem Sound.connDel (sound : Sound table) (isOpen : table.opened fd = true) :
    table.connDel fd = .ok { table with
      connDir := modifyAt conndirSize table.connDir fd.toNat connClear
      sockettableWrite := Function.update table.sockettableWrite fd false
      sockettable := Function.update table.sockettable fd false
      maxsocket := if fd < table.maxsocket then table.maxsocket
        else nextHighest (Function.update table.sockettable fd false) fd.toNat
      opened := Function.update table.opened fd false } := by
  obtain ⟨conn, isConn, _, noGateway⟩ := sound.conn_of_opened isOpen
  have bound := sound.consistent.highest.bound fd ((sound.consistent.polled fd).trans isOpen)
  have inSet : ¬(fd < 0 ∨ table.maxsocket < fd) := by
    omega
  rw [Table.connDel, isConn]
  dsimp only
  rw [if_neg (not_not_intro noGateway), Table.pollOff, if_neg inSet, Table.unpollWrite,
    if_neg inSet]
  dsimp only
  split_ifs
  · rfl
  · rfl

/-- One slot is opened or closed, and slots that are clear come behind the others. -/
theorem Sound.reslot (sound : Sound table) (isOpen : Bool) {after : Table} {own : Connection}
    (nonneg : 0 ≤ fd) (whole : after.Whole)
    (others : ∀ place, place ≠ fd → after.fd2conn place = table.fd2conn place ∨
      table.fd2conn place = none ∧ after.fd2conn place = some (connClear zeroConnection))
    (isOwn : after.fd2conn fd = some own) (ownFd : own.fd = if isOpen then fd else unassigned)
    (noGateway : own.gwid = unassigned)
    (opened : after.opened = Function.update table.opened fd isOpen)
    (sockettable : after.sockettable = Function.update table.sockettable fd isOpen)
    (highest : Highest after.sockettable after.maxsocket) : Sound after := by
  have consistent := sound.consistent
  refine ⟨whole, ⟨?_, ?_, ?_, highest⟩, ?_⟩
  · intro place conn isConn
    by_cases same : place = fd
    · grind
    · rcases others place same with old | ⟨_, clear⟩
      · exact consistent.slots place conn (old.symm.trans isConn)
      · rw [clear, Option.some.injEq] at isConn
        rw [← isConn]
        exact Or.inl rfl
  · intro place
    rw [opened]
    by_cases same : place = fd
    · rw [same, Function.update_self, isOwn]
      cases isOpen with
      | true =>
          simp [ownFd]
      | false =>
          refine iff_of_false ?_ Bool.false_ne_true
          rintro ⟨conn, isConn, isFd⟩
          cases isConn
          rw [ownFd, if_neg Bool.false_ne_true] at isFd
          rw [← isFd] at nonneg
          exact absurd nonneg (by decide)
    · rw [Function.update_of_ne same, ← consistent.isOpen]
      rcases others place same with old | ⟨absent, clear⟩
      · rw [old]
      · rw [absent, clear]
        have inTable : 0 ≤ place := nonneg_of_fd2conn clear
        refine iff_of_false ?_ ?_
        · rintro ⟨conn, isConn, isFd⟩
          cases isConn
          rw [← isFd] at inTable
          exact absurd inTable (by decide)
        · simp
  · intro place
    rw [opened, sockettable]
    by_cases same : place = fd
    · rw [same, Function.update_self, Function.update_self]
    · rw [Function.update_of_ne same, Function.update_of_ne same, consistent.polled]
  · intro place conn isConn
    by_cases same : place = fd
    · simp_all [Option.some.injEq]
    · rcases others place same with old | ⟨_, clear⟩
      · exact sound.noGateway place conn (old.symm.trans isConn)
      · rw [clear, Option.some.injEq] at isConn
        rw [← isConn]
        rfl

/-- A connection that is closed leaves a sound table just if the next highest descriptor is
found. -/
theorem Sound.connDel_sound (sound : Sound table) (isOpen : table.opened fd = true) :
    ∃ after, table.connDel fd = .ok after ∧
      (∀ place conn, place ≠ fd → table.fd2conn place = some conn →
        after.fd2conn place = some conn) ∧
      ((Call.del fd).Fits table → Sound after) ∧ (Consistent after → (Call.del fd).Fits table) := by
  have consistent := sound.consistent
  have isMarked := (consistent.polled fd).trans isOpen
  have nonneg := (consistent.highest.bound fd isMarked).1
  have next := pollOff_highest consistent.highest isMarked
  obtain ⟨conn, isConn, _⟩ := sound.conn_of_opened isOpen
  generalize after_eq : ({ table with
      connDir := modifyAt conndirSize table.connDir fd.toNat connClear
      sockettableWrite := Function.update table.sockettableWrite fd false
      sockettable := Function.update table.sockettable fd false
      maxsocket := if fd < table.maxsocket then table.maxsocket
        else nextHighest (Function.update table.sockettable fd false) fd.toNat
      opened := Function.update table.opened fd false } : Table) = after
  have closed := sound.connDel isOpen
  rw [after_eq] at closed
  have slots : ∀ place, after.fd2conn place =
      if place = fd then (table.fd2conn place).map connClear else table.fd2conn place := by
    intro place
    rw [← after_eq]
    exact fd2conn_change connClear place nonneg
  have others : ∀ place, place ≠ fd → after.fd2conn place = table.fd2conn place :=
    fun place differs => (slots place).trans (if_neg differs)
  refine ⟨after, closed, ?_, ?_, ?_⟩
  · simp_all
  · intro fits
    have isOwn : after.fd2conn fd = some (connClear conn) := by
      simp [slots, isConn]
    have changed := sound.whole.change fd connClear
    refine sound.reslot false nonneg ?_ (fun place differs => Or.inl (others place differs)) isOwn
      rfl rfl ?_ ?_ ?_
    · rw [← after_eq]
      exact ⟨changed.wide, changed.size⟩
    · rw [← after_eq]
    · rw [← after_eq]
    · rw [← after_eq]
      exact next.mpr fits
  · intro consistentAfter
    have highest := consistentAfter.highest
    rw [← after_eq] at highest
    exact next.mp highest

/-- The slot of a new descriptor is clear behind the growth. -/
theorem Sound.clear_slot (sound : Sound table) (nonneg : 0 ≤ fd) (isNew : table.opened fd = false)
    {after : Table} (grown : Grown table after fd.toNat) :
    ∃ conn, after.fd2conn fd = some conn ∧ conn.fd = unassigned ∧ conn.gwid = unassigned := by
  have isSome : (after.fd2conn fd).isSome = true := by
    rw [grown.whole.fd2conn_isSome nonneg]
    have room := grown.room
    omega
  obtain ⟨conn, isConn⟩ := Option.isSome_iff_exists.mp isSome
  refine ⟨conn, isConn, ?_⟩
  rcases grown.slots fd with old | ⟨_, clear⟩
  · have wasConn := old.symm.trans isConn
    refine ⟨?_, sound.noGateway fd conn wasConn⟩
    apply (sound.consistent.slots fd conn wasConn).resolve_right
    intro isFd
    rw [(sound.consistent.isOpen fd).mp ⟨conn, wasConn, isFd⟩] at isNew
    cases isNew
  · rw [isConn, Option.some.injEq] at clear
    rw [clear]
    exact ⟨rfl, rfl⟩

variable (table) in
theorem connAdd_clear (nonneg : 0 ≤ fd) {grown : Table} {conn : Connection}
    (extended : ({ table with lastconnectionid := nextConnectionid table.lastconnectionid }).extend
      fd.toNat = .ok grown)
    (isConn : grown.fd2conn fd = some conn) (isClear : conn.fd = unassigned)
    (role type now : Int) :
    table.connAdd fd role type now =
      ((grown.change fd (Connection.assign fd now (nextConnectionid table.lastconnectionid))).pollOn
        fd).map fun table => (some fd, table.connSet fd role type) := by
  simp_all [Table.connAdd, if_neg]

/-- The table with the descriptor opened grows, and has a clear slot for it. -/
theorem Sound.extend (sound : Sound table) (nonneg : 0 ≤ fd) (lastconnectionid : Int) :
    (∃ grown, ({ table with
          opened := Function.update table.opened fd true
          lastconnectionid := lastconnectionid } : Table).extend fd.toNat = .ok grown ∧
        Grown table grown fd.toNat ∧ grown.opened = Function.update table.opened fd true ∧
        grown.sockettable = table.sockettable ∧ grown.maxsocket = table.maxsocket) ∨
      2147483640 ≤ fd ∧ ({ table with
          opened := Function.update table.opened fd true
          lastconnectionid := lastconnectionid } : Table).extend fd.toNat = .error .overflow := by
  have whole : ({ table with
      opened := Function.update table.opened fd true
      lastconnectionid := lastconnectionid } : Table).Whole :=
    ⟨sound.whole.wide, sound.whole.size⟩
  rcases whole.extend fd.toNat with ⟨dirs, size, extended, grown⟩ | ⟨large, failed⟩
  · exact Or.inl ⟨_, extended, ⟨grown.whole, grown.room, grown.slots⟩, rfl, rfl, rfl⟩
  · exact Or.inr ⟨by omega, failed⟩

variable (table) in
theorem pollOn_fits (nonneg : 0 ≤ fd) (fits : fd < fdSetsize - 1) :
    ∃ after, table.pollOn fd = .ok after ∧ after.connDir = table.connDir ∧
      after.connectiontablesize = table.connectiontablesize ∧ after.opened = table.opened ∧
      after.sockettable = Function.update table.sockettable fd true ∧
      (Highest table.sockettable table.maxsocket →
        Highest after.sockettable after.maxsocket) := by
  have notNegative : ¬fd < 0 := by
    omega
  rw [Table.pollOn, if_neg notNegative, if_neg (Int.not_le.mpr fits)]
  exact ⟨_, rfl, rfl, rfl, rfl, rfl, fun highest => highest.mark nonneg⟩

/-- A descriptor of the set gets a connection. -/
theorem Sound.connAdd_fits (sound : Sound table) (nonneg : 0 ≤ fd)
    (isNew : table.opened fd = false) (fits : fd < fdSetsize - 1) (role type now : Int) :
    ∃ result after, (Call.add fd role type now).Kept table result after ∧ Sound after := by
  rcases sound.extend nonneg (nextConnectionid table.lastconnectionid) with
    ⟨grown, extended, isGrown, opened, sockettable, maxsocket⟩ | ⟨large, _⟩
  · obtain ⟨conn, isConn, isClear, noGateway⟩ := sound.clear_slot nonneg isNew isGrown
    have added := connAdd_clear { table with opened := Function.update table.opened fd true } nonneg
      extended isConn isClear role type now
    generalize assigned_eq : grown.change fd
      (Connection.assign fd now (nextConnectionid table.lastconnectionid)) = assigned at added
    obtain ⟨after, polled, sameDir, sameSize, sameOpened, marked, highest⟩ :=
      pollOn_fits assigned nonneg fits
    rw [polled] at added
    have slots : ∀ place, (after.connSet fd role type).fd2conn place =
        if place = fd then some { conn.assign fd now (nextConnectionid table.lastconnectionid) with
          role := role
          type := type }
        else grown.fd2conn place := by
      intro place
      have same : after.fd2conn place = assigned.fd2conn place := by
        rw [Table.fd2conn, Table.fd2conn, sameDir]
      rw [Table.connSet, fd2conn_change _ _ nonneg, same, ← assigned_eq,
        fd2conn_change _ _ nonneg]
      split_ifs with isFd
      · simp [isFd, isConn]
      · rfl
    have isOwn := slots fd
    rw [if_pos rfl] at isOwn
    have whole : (after.connSet fd role type).Whole := by
      have changed := isGrown.whole.change fd
        (Connection.assign fd now (nextConnectionid table.lastconnectionid))
      rw [assigned_eq] at changed
      apply Table.Whole.change
      refine ⟨?_, ?_⟩
      · simp [sameDir, changed.wide]
      · simp [sameDir, sameSize, changed.size]
    have openedAfter : after.opened = Function.update table.opened fd true := by
      rw [sameOpened, ← assigned_eq]
      exact opened
    have markedAfter : after.sockettable = Function.update table.sockettable fd true := by
      rw [marked, ← assigned_eq]
      exact congrArg (Function.update · fd true) sockettable
    have soundAfter : Sound (after.connSet fd role type) := by
      refine sound.reslot true nonneg whole ?_ isOwn rfl noGateway openedAfter markedAfter ?_
      · simp_all [isGrown.slots]
      · apply highest
        rw [← assigned_eq]
        change Highest grown.sockettable grown.maxsocket
        simp [sockettable, maxsocket, sound.consistent.highest]
    refine ⟨some fd, after.connSet fd role type, ⟨added, soundAfter.consistent, ?_, ?_⟩, soundAfter⟩
    · intro place other differs isOther
      rw [slots, if_neg (show place ≠ fd from differs)]
      rcases isGrown.slots place with old | ⟨absent, _⟩
      · exact old.trans isOther
      · simp [absent] at isOther
    · intro place same
      cases same
      refine ⟨_, isOwn, rfl, rfl, rfl, ?_, ?_⟩
      · exact (congrFun openedAfter fd).trans (Function.update_self _ _ _)
      · exact (congrFun markedAfter fd).trans (Function.update_self _ _ _)
  · grind [fdSetsize]

theorem pollOff_connDir : (table.pollOff fd).connDir = table.connDir := by
  grind [Table.pollOff, Table.unpollWrite]

theorem connDel_slot (nonneg : 0 ≤ fd) {conn : Connection} (isConn : table.fd2conn fd = some conn)
    (noGateway : conn.gwid = unassigned) :
    ∃ after, table.connDel fd = .ok after ∧ after.fd2conn fd = some (connClear conn) := by
  rw [Table.connDel, isConn]
  dsimp only
  rw [if_neg (not_not_intro noGateway)]
  refine ⟨_, rfl, ?_⟩
  have same : (table.pollOff fd).fd2conn fd = some conn := by
    simp_all [Table.fd2conn, pollOff_connDir]
  change ((table.pollOff fd).change fd connClear).fd2conn fd = _
  rw [fd2conn_change _ _ nonneg, if_pos rfl, same]
  rfl

/-- A descriptor behind the set gets a connection that is closed, or none at all. -/
theorem Sound.connAdd_closed (sound : Sound table) (nonneg : 0 ≤ fd)
    (isNew : table.opened fd = false) (unfit : ¬fd < fdSetsize - 1) {role type now : Int}
    {result : Option Int} {after : Table} :
    ¬(Call.add fd role type now).Kept table result after := by
  intro kept
  have stepped := kept.stepped
  have notNegative : ¬fd < 0 := by
    omega
  rw [Table.step] at stepped
  rcases sound.extend nonneg (nextConnectionid table.lastconnectionid) with
    ⟨grown, extended, isGrown, _⟩ | ⟨_, failed⟩
  · obtain ⟨conn, isConn, isClear, noGateway⟩ := sound.clear_slot nonneg isNew isGrown
    rw [connAdd_clear { table with opened := Function.update table.opened fd true } nonneg
      extended isConn isClear role type now, Table.pollOn, if_neg notNegative,
      if_pos (Int.not_lt.mp unfit)] at stepped
    have isAssigned : (grown.change fd (Connection.assign fd now
        (nextConnectionid table.lastconnectionid))).fd2conn fd =
          some (conn.assign fd now (nextConnectionid table.lastconnectionid)) := by
      rw [fd2conn_change _ _ nonneg, if_pos rfl, isConn]
      rfl
    obtain ⟨closed, deleted, isClosed⟩ := connDel_slot nonneg isAssigned noGateway
    rw [deleted] at stepped
    cases stepped
    obtain ⟨own, isOwn, isFd, _⟩ := kept.returned fd rfl
    rw [Table.connSet, fd2conn_change _ _ nonneg, if_pos rfl, isClosed] at isOwn
    cases isOwn
    have isUnassigned : fd = unassigned := isFd.symm
    rw [isUnassigned] at nonneg
    exact absurd nonneg (by decide)
  · simp_all [Table.connAdd]

end

/-- A call that can be made does what it should just if it fits. -/
theorem Sound.call_kept_iff {table : Table} (sound : Sound table) {call : Call}
    (isEnabled : call.Enabled table) :
    (call.Fits table → ∃ result after, call.Kept table result after ∧ Sound after) ∧
      ∀ result after, call.Kept table result after → call.Fits table := by
  cases call with
  | add fd role type now =>
      obtain ⟨nonneg, _, isNew⟩ := isEnabled
      constructor
      · intro fits
        exact sound.connAdd_fits nonneg isNew fits role type now
      · intro result after kept
        by_contra unfit
        exact sound.connAdd_closed nonneg isNew unfit kept
  | del fd =>
      obtain ⟨after, deleted, unchanged, soundAfter, consistentFits⟩ :=
        sound.connDel_sound isEnabled
      have stepped : table.step (.del fd) = .ok (none, after) := by
        rw [Table.step, deleted]
        rfl
      constructor
      · intro fits
        have afterSound := soundAfter fits
        exact ⟨none, after, ⟨stepped, afterSound.consistent, unchanged, trivial⟩, afterSound⟩
      · intro result other kept
        have same := kept.stepped
        rw [stepped] at same
        cases same
        exact consistentFits kept.consistent

/-- The table is as it should be behind all calls just if each of them fits: no descriptor is behind
the set, and the next highest is found whenever one is closed. -/
theorem table_consistent_iff (lastconnectionid : Int) {calls : List Call}
    (lawful : (connInit lastconnectionid).Lawful calls) :
    (connInit lastconnectionid).Keeps calls ↔ (connInit lastconnectionid).AllFit calls := by
  have sound := connInit_sound lastconnectionid
  generalize connInit lastconnectionid = table at lawful sound
  induction calls generalizing table with
  | nil => exact Iff.rfl
  | cons call rest ih =>
      obtain ⟨isEnabled, lawfulAfter⟩ := lawful
      obtain ⟨keeps, fitsKept⟩ := sound.call_kept_iff isEnabled
      constructor
      · rintro ⟨result, after, kept, restKeeps⟩
        have fits := fitsKept result after kept
        obtain ⟨_, _, again, soundAfter⟩ := keeps fits
        have same := kept.stepped.symm.trans again.stepped
        cases same
        refine ⟨fits, ?_⟩
        intro other otherAfter stepped
        rw [kept.stepped] at stepped
        cases stepped
        exact (ih _ (lawfulAfter _ _ kept.stepped) soundAfter).mp restKeeps
      · rintro ⟨fits, restFits⟩
        obtain ⟨result, after, kept, soundAfter⟩ := keeps fits
        refine ⟨result, after, kept, ?_⟩
        exact (ih _ (lawfulAfter _ _ kept.stepped) soundAfter).mpr
          (restFits _ _ kept.stepped)

def twoConnections (first second : Int) : List Call :=
  [.add first 0 0 0, .add second 0 0 0, .del second]

def Table.behind (table : Table) (call : Call) : Table :=
  match table.step call with
  | .error _ => table
  | .ok (_, after) => after

theorem Table.eq_behind {table after : Table} {call : Call} {result : Option Int}
    (stepped : table.step call = .ok (result, after)) : after = table.behind call := by
  rw [Table.behind, stepped]

theorem Table.Lawful.cons {table : Table} {call : Call} {rest : List Call}
    (isEnabled : call.Enabled table) (restLawful : (table.behind call).Lawful rest) :
    table.Lawful (call :: rest) := by
  refine ⟨isEnabled, ?_⟩
  grind [Table.eq_behind]

theorem Table.AllFit.cons {table : Table} {call : Call} {rest : List Call}
    (fits : call.Fits table) (restFits : (table.behind call).AllFit rest) :
    table.AllFit (call :: rest) := by
  refine ⟨fits, ?_⟩
  grind [Table.eq_behind]

/-- Neither of the descriptors is 0. -/
theorem table_consistent_iff_two : (connInit 1).Keeps (twoConnections 5 27) := by
  have lawful : (connInit 1).Lawful (twoConnections 5 27) := by
    refine Table.Lawful.cons ⟨by decide, by decide, by decide⟩ ?_
    refine Table.Lawful.cons ⟨by decide, by decide, by decide⟩ ?_
    exact Table.Lawful.cons (show Table.opened _ 27 = true by decide) trivial
  refine (table_consistent_iff 1 lawful).mpr ?_
  refine Table.AllFit.cons (by decide : (5 : Int) < fdSetsize - 1) ?_
  refine Table.AllFit.cons (by decide : (27 : Int) < fdSetsize - 1) ?_
  exact Table.AllFit.cons (Or.inr (Or.inl (by decide))) trivial

/-- The descriptor 0 is still polled when 5 has been closed, and no descriptor is the highest; and
the connection of the descriptor 1023 is closed when it is returned. -/
theorem zero_forgotten : ¬(connInit 1).Keeps (twoConnections 0 5) ∧
    ¬(connInit 1).Keeps [.add 1023 0 0 0] := by
  constructor
  · rintro ⟨_, _, first, _, _, second, _, _, third, _⟩
    have highest := third.consistent.highest.bound 0
    rw [Table.eq_behind third.stepped, Table.eq_behind second.stepped,
      Table.eq_behind first.stepped] at highest
    exact absurd (highest (by decide)).2 (by decide)
  · rintro ⟨result, after, kept, _⟩
    exact (connInit_sound 1).connAdd_closed (by decide) rfl (by decide) kept

end MidWay.Gateway.Connections

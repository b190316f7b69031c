import MidWay.Lib.Queue
import MidWay.Lib.Runs
import MidWay.Srb.LookAhead

/-!
Contract: the fifo of connections that have data in their buffers.

`conn_select` takes the connection at the tail of the fifo, or, when it is empty, one
that `select` reports. A message is read from it, and `_mw_srb_recvmessage` enqueues
it again when it finds a boundary behind the message. The handler of the message can
close any connection; `conn_del` wipes its slot, links and all, wherever it is in
the fifo.

Only connections that messages are read from are in the model; the sockets of
listeners and of the broker have no buffer.

Owns: `connReadFifoEnqueue`, `connReadFifoDequeue`, and when the fifo is in order.
-/

namespace MidWay.Gateway.ReadFifo

open MidWay.CLib MidWay.Lib MidWay.Srb

structure Slot where
  conn : Connection
  readFifoNext : Option Nat
  readFifoPrev : Option Nat

def unassignedFd : Int := -1

def Slot.isOpen (slot : Slot) : Prop := slot.conn.fd ≠ unassignedFd

/-- `conn_clear`. -/
def clearedSlot : Slot := ⟨⟨unassignedFd, false, false, [], 0, 0, none⟩, none, none⟩

/-- `slots` is indexed by the descriptor; `selected` is the connection `conn_select` gave, until a
message is read from it. -/
structure State where
  slots : Nat → Slot
  readPendingFifoHead : Option Nat
  readPendingFifoTail : Option Nat
  selected : Option Nat

/-- An `Assert` that fails, or a null pointer that is followed. -/
inductive Failure where
  | assertion
  | nullPointer
deriving DecidableEq, Repr

def State.setSlot (state : State) (fd : Nat) (change : Slot → Slot) : State :=
  { state with slots := fun other => if other = fd then change (state.slots fd) else state.slots other }

def connReadFifoEnqueue (state : State) (conn : Nat) : Except Failure State :=
  if (state.slots conn).readFifoPrev ≠ none then .error .assertion
  else if (state.slots conn).readFifoNext ≠ none then .error .assertion
  else
    match state.readPendingFifoHead with
    | none =>
        .ok ({ state with
          readPendingFifoHead := some conn
          readPendingFifoTail := some conn }.setSlot conn fun slot =>
            { slot with readFifoPrev := none, readFifoNext := none })
    | some head =>
        let state := state.setSlot head fun slot => { slot with readFifoPrev := some conn }
        let state := state.setSlot conn fun slot => { slot with readFifoNext := some head }
        .ok { state with readPendingFifoHead := some conn }

def connReadFifoDequeue (state : State) : Except Failure (Option Nat × State) :=
  match state.readPendingFifoHead with
  | none =>
      if state.readPendingFifoTail = none then .ok (none, state) else .error .assertion
  | some head =>
      if state.readPendingFifoTail = some head then
        .ok (some head, { state with
          readPendingFifoHead := none
          readPendingFifoTail := none }.setSlot head fun slot =>
            { slot with readFifoPrev := none, readFifoNext := none })
      else
        match state.readPendingFifoTail with
        | none => .error .nullPointer
        | some conn =>
            match (state.slots conn).readFifoPrev with
            | none => .error .nullPointer
            | some prev =>
                let state := state.setSlot prev fun slot => { slot with readFifoNext := none }
                let state := { state with readPendingFifoTail := some prev }
                .ok (some conn, state.setSlot conn fun slot => { slot with readFifoPrev := none })

/-- What the gateway does: `ready` is what `select` would report, `socket` what has arrived. -/
inductive Action where
  | select (ready : Option Nat)
  | receive (uninit : List Byte) (socket : List Arrival)
  | connDel (fd : Nat)
  | connAdd (fd : Nat) (mcast : Bool) (memory : List Byte)

def returns : Call → Bool
  | .returned _ _ _ _ => true
  | _ => false

/-- A connection is read when it was selected and is still open, and the call returns. A slot is
free before a connection is added, and gets a block of `SRBMESSAGEMAXLEN+1` bytes. -/
def State.enabled (state : State) : Action → Prop
  | .select ready => state.selected = none ∧ ∀ fd ∈ ready, (state.slots fd).isOpen
  | .receive uninit socket => ∃ fd, state.selected = some fd ∧ (state.slots fd).isOpen ∧
      returns (mwSrbRecvmessage uninit false (state.slots fd).conn socket)
  | .connDel fd => (state.slots fd).isOpen
  | .connAdd fd _ memory =>
      ¬(state.slots fd).isOpen ∧ bufferStart + srbMessageMaxLen + 1 ≤ memory.length

/-- `conn_select`, as far as it chooses a connection. -/
def connSelect (state : State) (ready : Option Nat) : Except Failure State :=
  (connReadFifoDequeue state).map fun found =>
    { found.2 with selected := found.1.or ready }

/-- `_mw_srb_recvmessage` of the selected connection. -/
def receive (uninit : List Byte) (state : State) (socket : List Arrival) : Except Failure State :=
  match state.selected with
  | none => .error .nullPointer
  | some fd =>
      match mwSrbRecvmessage uninit false (state.slots fd).conn socket with
      | .returned srbmsg errno conn _ =>
          let state := { state with selected := none }.setSlot fd fun slot => { slot with conn := conn }
          if enqueues srbmsg errno conn then connReadFifoEnqueue state fd else .ok state
      | _ => .error .assertion

def connDel (state : State) (fd : Nat) : State :=
  { state with selected := if state.selected = some fd then none else state.selected }.setSlot fd
    fun _ => clearedSlot

/-- `conn_add`; the links are not touched. `memory` is what `malloc` gives. -/
def connAdd (state : State) (fd : Nat) (mcast : Bool) (memory : List Byte) : State :=
  state.setSlot fd fun slot => { slot with conn := ⟨fd, mcast, true, memory, 0, 0, none⟩ }

def State.step (state : State) : Action → Except Failure State
  | .select ready => connSelect state ready
  | .receive uninit socket => receive uninit state socket
  | .connDel fd => .ok (connDel state fd)
  | .connAdd fd mcast memory => .ok (connAdd state fd mcast memory)

def readFifoMachine : Machine State Action Failure where
  start := fun state => state = ⟨fun _ => clearedSlot, none, none, none⟩
  enabled := State.enabled
  step := State.step

def State.next (state : State) (fd : Nat) : Option Nat := (state.slots fd).readFifoNext

def State.prev (state : State) (fd : Nat) : Option Nat := (state.slots fd).readFifoPrev

/-- The fifo holds these connections, from the head on: they are open, and every open connection
with a complete message is one of them, or was just selected. -/
structure State.Pending (state : State) (conns : List Nat) : Prop where
  queue : Queue state.next state.prev state.readPendingFifoHead state.readPendingFifoTail conns
  isOpen : ∀ fd ∈ conns, (state.slots fd).isOpen
  complete : ∀ fd, (state.slots fd).isOpen → (state.slots fd).conn.HoldsMessage →
    fd ∈ conns ∨ state.selected = some fd

def State.Orderly (state : State) : Prop := ∃ conns, state.Pending conns

/-- The connection is the head of the fifo, or has another one in front of it. -/
def State.InFifo (state : State) (fd : Nat) : Prop :=
  state.readPendingFifoHead = some fd ∨ (state.slots fd).readFifoPrev ≠ none

def ClosesQueued (state : State) : Action → Prop
  | .connDel fd => state.InFifo fd
  | _ => False

structure Invariant (state : State) (conns : List Nat) : Prop extends state.Pending conns where
  unlinked : ∀ fd ∉ conns, state.next fd = none ∧ state.prev fd = none
  selected : ∀ fd, state.selected = some fd → fd ∉ conns
  bounded : ∀ fd, (state.slots fd).isOpen → (state.slots fd).conn.Bounded

variable {state : State} {conns : List Nat}

theorem State.setSlot_self (state : State) (fd : Nat) (change : Slot → Slot) :
    (state.setSlot fd change).slots fd = change (state.slots fd) := if_pos rfl

theorem State.setSlot_other (state : State) {fd other : Nat} (differs : other ≠ fd)
    (change : Slot → Slot) : (state.setSlot fd change).slots other = state.slots other :=
  if_neg differs

/-- A change of links only. -/
theorem Invariant.relink (invariant : Invariant state conns) {next : State} {conns' : List Nat}
    (sameConn : ∀ fd, (next.slots fd).conn = (state.slots fd).conn)
    (queue : Queue next.next next.prev next.readPendingFifoHead next.readPendingFifoTail conns')
    (isOpen : ∀ fd ∈ conns', (state.slots fd).isOpen)
    (kept : ∀ fd, fd ∈ conns ∨ state.selected = some fd → fd ∈ conns' ∨ next.selected = some fd)
    (unlinked : ∀ fd ∉ conns', next.next fd = none ∧ next.prev fd = none)
    (selected : ∀ fd, next.selected = some fd → fd ∉ conns') : Invariant next conns' := by
  have sameOpen : ∀ fd, (next.slots fd).isOpen ↔ (state.slots fd).isOpen := by
    simp [Slot.isOpen, sameConn]
  refine ⟨⟨queue, ?_, ?_⟩, unlinked, selected, ?_⟩
  · exact fun fd member => (sameOpen fd).mpr (isOpen fd member)
  · intro fd stillOpen holds
    rw [sameConn] at holds
    exact kept fd (invariant.complete fd ((sameOpen fd).mp stillOpen) holds)
  · simp_all [invariant.bounded]

/-- A fifo with one connection is empty after it. -/
theorem Invariant.dequeue_single {conn : Nat} (invariant : Invariant state [conn])
    (idle : state.selected = none) :
    ∃ next, connReadFifoDequeue state = .ok (some conn, next) ∧
      Invariant { next with selected := some conn } [] := by
  have head : state.readPendingFifoHead = some conn := invariant.queue.first
  have tail : state.readPendingFifoTail = some conn := invariant.queue.last
  have result : connReadFifoDequeue state = .ok (some conn, { state with
      readPendingFifoHead := none
      readPendingFifoTail := none }.setSlot conn fun slot =>
        { slot with readFifoPrev := none, readFifoNext := none }) := by
    rw [connReadFifoDequeue, head]
    simp only [tail, if_true]
  refine ⟨_, result, ?_⟩
  apply invariant.relink
  · grind [State.setSlot]
  · exact Queue.empty _ _
  · exact fun fd member => absurd member List.not_mem_nil
  · simp [idle]
  · intro fd _
    simp only [State.next, State.prev, State.setSlot]
    split_ifs with same
    · exact ⟨rfl, rfl⟩
    · exact invariant.unlinked fd (mt List.mem_singleton.mp same)
  · exact fun fd _ => List.not_mem_nil

/-- The last of several connections is taken. -/
theorem Invariant.dequeue_last {front : List Nat} {second conn : Nat}
    (invariant : Invariant state (front ++ [second, conn])) (idle : state.selected = none) :
    ∃ next, connReadFifoDequeue state = .ok (some conn, next) ∧
      Invariant { next with selected := some conn } (front ++ [second]) := by
  have queue := invariant.queue
  have nodup := queue.nodup
  have distinct : second ≠ conn ∧ second ∉ front ∧ conn ∉ front := by
    grind
  have tail : state.readPendingFifoTail = some conn := by
    simp [queue.last]
  have several : ∃ head, state.readPendingFifoHead = some head ∧ head ≠ conn := by
    cases front with
    | nil => exact ⟨second, queue.first, distinct.1⟩
    | cons head rest =>
        refine ⟨head, queue.first, ?_⟩
        rintro rfl
        exact distinct.2.2 List.mem_cons_self
  rcases several with ⟨head, isHead, notTail⟩
  have prev : (state.slots conn).readFifoPrev = some second := queue.linked.prev_last
  have noNext : (state.slots conn).readFifoNext = none := by
    have split : front ++ [second, conn] = (front ++ [second]) ++ [conn] := by simp
    have linked := queue.linked
    rw [split] at linked
    exact linked.next_last
  have result : connReadFifoDequeue state = .ok (some conn, ({
      state.setSlot second fun slot => { slot with readFifoNext := none } with
      readPendingFifoTail := some second } : State).setSlot conn fun slot =>
        { slot with readFifoPrev := none }) := by
    have notSame : ¬some conn = some head := fun same => notTail (Option.some.inj same).symm
    rw [connReadFifoDequeue, isHead]
    simp only [tail, notSame, if_false, prev]
  refine ⟨_, result, ?_⟩
  apply invariant.relink
  · grind [State.setSlot]
  · refine queue.dropLast ?_ ?_ ?_
    · simp only [State.next, State.setSlot, if_neg distinct.1, if_true]
    · intro other member
      have notConn : other ≠ conn := fun same => distinct.2.2 (same ▸ member)
      have notSecond : other ≠ second := fun same => distinct.2.1 (same ▸ member)
      simp only [State.next, State.setSlot, if_neg notConn, if_neg notSecond]
    · intro other member
      have notConn : other ≠ conn := by
        grind
      simp only [State.prev, State.setSlot, if_neg notConn]
      split_ifs with isSecond
      · rw [isSecond]
      · rfl
  · intro fd member
    apply invariant.isOpen
    grind
  · grind
  · intro fd outside
    have notSecond : fd ≠ second := by
      simp_all
    by_cases isConn : fd = conn
    · simp_all [State.next, State.prev, State.setSlot]
    · simp only [State.next, State.prev, State.setSlot, if_neg isConn, if_neg notSecond]
      apply invariant.unlinked fd
      simp_all
  · grind

/-- `conn_select` takes the last connection, or the one that is ready when there is none. -/
theorem Invariant.select (invariant : Invariant state conns) (idle : state.selected = none)
    (ready : Option Nat) :
    ∃ next conns', connSelect state ready = .ok next ∧ Invariant next conns' := by
  rcases List.eq_nil_or_concat conns with rfl | ⟨front, conn, rfl⟩
  · have head : state.readPendingFifoHead = none := invariant.queue.first
    have tail : state.readPendingFifoTail = none := invariant.queue.last
    have result : connReadFifoDequeue state = .ok (none, state) := by
      simp_all [connReadFifoDequeue]
    refine ⟨{ state with selected := ready }, [], ?_, ?_⟩
    · rw [connSelect, result]
      rfl
    · apply invariant.relink
      · exact fun _ => rfl
      · exact invariant.queue
      · exact invariant.isOpen
      · simp [idle]
      · exact invariant.unlinked
      · exact fun fd _ => List.not_mem_nil
  · have taken : ∃ next conns', connReadFifoDequeue state = .ok (some conn, next) ∧
        Invariant { next with selected := some conn } conns' := by
      rcases List.eq_nil_or_concat front with rfl | ⟨earlier, second, rfl⟩
      · rcases invariant.dequeue_single idle with ⟨next, result, after⟩
        exact ⟨next, [], result, after⟩
      · have split : (earlier.concat second).concat conn = earlier ++ [second, conn] := by simp
        rw [split] at invariant
        rcases invariant.dequeue_last idle with ⟨next, result, after⟩
        exact ⟨next, earlier ++ [second], result, after⟩
    rcases taken with ⟨next, conns', result, after⟩
    refine ⟨{ next with selected := some conn }, conns', ?_, after⟩
    rw [connSelect, result]
    rfl

/-- The selected connection is put in front. -/
theorem Invariant.enqueue (invariant : Invariant state conns) {conn : Nat}
    (selected : state.selected = some conn) (isOpen : (state.slots conn).isOpen) :
    ∃ next, connReadFifoEnqueue { state with selected := none } conn = .ok next ∧
      Invariant next (conn :: conns) := by
  have outside := invariant.selected conn selected
  rcases invariant.unlinked conn outside with ⟨noNext, noPrev⟩
  have prevNone : (state.slots conn).readFifoPrev = none := noPrev
  have nextNone : (state.slots conn).readFifoNext = none := noNext
  have openAll : ∀ fd ∈ conn :: conns, (state.slots fd).isOpen := by
    simp_all [invariant.isOpen]
  have kept : ∀ fd, fd ∈ conns ∨ state.selected = some fd → fd ∈ conn :: conns := by
    grind
  unfold connReadFifoEnqueue
  rw [if_neg (not_not.mpr prevNone), if_neg (not_not.mpr nextNone)]
  cases conns with
  | nil =>
      have head : state.readPendingFifoHead = none := invariant.queue.first
      simp only [head]
      refine ⟨_, rfl, ?_⟩
      apply invariant.relink
      · grind [State.setSlot]
      · simp [State.next, State.setSlot, State.prev, Queue.single]
      · exact openAll
      · exact fun fd before => Or.inl (kept fd before)
      · intro fd notHere
        have differs : fd ≠ conn := fun same => notHere (List.mem_singleton.mpr same)
        simp only [State.next, State.prev, State.setSlot, if_neg differs]
        exact invariant.unlinked fd List.not_mem_nil
      · exact fun fd isSelected => by cases isSelected
  | cons first rest =>
      have head : state.readPendingFifoHead = some first := invariant.queue.first
      have differs : conn ≠ first := fun same => outside (same ▸ List.mem_cons_self)
      have firstOnce : first ∉ rest := (List.nodup_cons.mp invariant.queue.nodup).1
      simp only [head]
      refine ⟨_, rfl, ?_⟩
      apply invariant.relink
      · intro fd
        simp only [State.setSlot]
        grind
      · refine invariant.queue.cons outside ?_ ?_ ?_ ?_ ?_
        · simp only [State.next, State.setSlot, if_true]
        · simp_all [State.prev, State.setSlot]
        · simp only [State.prev, State.setSlot, if_neg differs.symm, if_true]
        · intro other member
          have notConn : other ≠ conn := fun same => outside (same ▸ member)
          simp only [State.next, State.setSlot, if_neg notConn]
          grind
        · intro other member
          have notConn : other ≠ conn := fun same => outside (same ▸ List.mem_cons_of_mem _ member)
          have notFirst : other ≠ first := fun same => firstOnce (same ▸ member)
          simp only [State.prev, State.setSlot, if_neg notConn, if_neg notFirst]
      · exact openAll
      · exact fun fd before => Or.inl (kept fd before)
      · intro fd notHere
        have notConn : fd ≠ conn := fun same => notHere (same ▸ List.mem_cons_self)
        have notFirst : fd ≠ first := by
          simp_all
        simp only [State.next, State.prev, State.setSlot, if_neg notConn, if_neg notFirst]
        exact invariant.unlinked fd fun member => notHere (List.mem_cons_of_mem _ member)
      · exact fun fd isSelected => by cases isSelected

/-- What a call leaves in the buffer of the selected connection. -/
theorem Invariant.read (invariant : Invariant state conns) {fd : Nat}
    (selected : state.selected = some fd) {conn : Connection} (bounded : conn.Bounded)
    (sameFd : conn.fd = (state.slots fd).conn.fd) :
    Invariant (state.setSlot fd fun slot => { slot with conn := conn }) conns := by
  have sameLinks : ∀ other,
      (state.setSlot fd fun slot => { slot with conn := conn }).next other = state.next other ∧
        (state.setSlot fd fun slot => { slot with conn := conn }).prev other = state.prev other := by
    intro other
    simp only [State.next, State.prev, State.setSlot]
    split_ifs with same
    · simp [same]
    · exact ⟨rfl, rfl⟩
  have sameOpen : ∀ other,
      ((state.setSlot fd fun slot => { slot with conn := conn }).slots other).isOpen ↔
        (state.slots other).isOpen := by
    intro other
    simp only [Slot.isOpen, State.setSlot]
    split_ifs with same
    · rw [same, sameFd]
    · exact Iff.rfl
  refine ⟨⟨?_, ?_, ?_⟩, ?_, invariant.selected, ?_⟩
  · exact invariant.queue.congr (fun other _ => (sameLinks other).1) fun other _ =>
      (sameLinks other).2
  · exact fun other member => (sameOpen other).mpr (invariant.isOpen other member)
  · intro other isOpen holds
    by_cases same : other = fd
    · exact Or.inr (same ▸ selected)
    · rw [state.setSlot_other same] at isOpen holds
      exact invariant.complete other isOpen holds
  · simp_all [invariant.unlinked]
  · intro other isOpen
    by_cases same : other = fd
    · simp [same, state.setSlot_self, bounded]
    · simp_all [state.setSlot_other, invariant.bounded]

/-- A message is read from the selected connection, which is enqueued when more follows. -/
theorem Invariant.receive (invariant : Invariant state conns) {fd : Nat}
    (selected : state.selected = some fd) (isOpen : (state.slots fd).isOpen) {uninit : List Byte}
    {socket later : List Arrival} {srbmsg : Option SRBmessage} {errno : Option Errno}
    {conn : Connection}
    (returned : mwSrbRecvmessage uninit false (state.slots fd).conn socket =
      .returned srbmsg errno conn later) :
    ∃ next conns', receive uninit state socket = .ok next ∧ Invariant next conns' := by
  rcases mwSrbRecvmessage_looked (invariant.bounded fd isOpen) returned with
    ⟨bounded, sameFd, looked⟩
  have read := invariant.read selected bounded sameFd
  have here : ((state.setSlot fd fun slot => { slot with conn := conn }).slots fd).conn = conn := by
    rw [state.setSlot_self]
  have stillOpen : ((state.setSlot fd fun slot => { slot with conn := conn }).slots fd).isOpen := by
    simp_all [Slot.isOpen]
  unfold ReadFifo.receive
  simp only [selected, returned]
  by_cases more : enqueues srbmsg errno conn = true
  · rw [if_pos more]
    rcases read.enqueue selected stillOpen with ⟨next, result, after⟩
    exact ⟨next, _, result, after⟩
  · rw [if_neg more]
    refine ⟨_, conns, rfl, ⟨⟨read.queue, read.isOpen, ?_⟩, read.unlinked, ?_, read.bounded⟩⟩
    · intro other otherOpen holds
      rcases read.complete other otherOpen holds with inFifo | isSelected
      · exact Or.inl inFifo
      · have same : fd = other := Option.some.inj (selected.symm.trans isSelected)
        subst same
        have holdsHere : conn.HoldsMessage := by
          rw [← here]
          exact holds
        exact absurd (looked isOpen holdsHere) more
    · intro other isSelected
      cases isSelected

/-- A connection that is not in the fifo is closed. -/
theorem Invariant.connDel (invariant : Invariant state conns) {fd : Nat} (outside : fd ∉ conns) :
    Invariant (connDel state fd) conns := by
  have otherSlot : ∀ other ≠ fd, (ReadFifo.connDel state fd).slots other = state.slots other :=
    fun other differs => if_neg differs
  have closed : (ReadFifo.connDel state fd).slots fd = clearedSlot := if_pos rfl
  have notOpen : ¬((ReadFifo.connDel state fd).slots fd).isOpen := by
    rw [closed]
    exact not_not.mpr rfl
  have inFifo : ∀ other ∈ conns, other ≠ fd := fun other member same => outside (same ▸ member)
  refine ⟨⟨?_, ?_, ?_⟩, ?_, ?_, ?_⟩
  · refine invariant.queue.congr ?_ ?_
    · simp_all [State.next]
    · simp_all [State.prev]
  · simp_all [invariant.isOpen]
  · intro other isOpen holds
    by_cases same : other = fd
    · simp_all
    · rw [otherSlot other same] at isOpen holds
      rcases invariant.complete other isOpen holds with member | selected
      · exact Or.inl member
      · refine Or.inr ?_
        have notClosed : ¬state.selected = some fd := by
          simp_all
        exact (if_neg notClosed).trans selected
  · intro other notMember
    by_cases same : other = fd
    · rw [same, State.next, State.prev, closed]
      exact ⟨rfl, rfl⟩
    · rw [State.next, State.prev, otherSlot other same]
      exact invariant.unlinked other notMember
  · intro other isSelected
    have before : state.selected = some other := by
      by_cases isFd : state.selected = some fd
      · have none : (ReadFifo.connDel state fd).selected = none := if_pos isFd
        rw [none] at isSelected
        cases isSelected
      · exact (if_neg isFd).symm.trans isSelected
    exact invariant.selected other before
  · intro other isOpen
    by_cases same : other = fd
    · simp_all
    · simp_all [invariant.bounded]

/-- A connection gets an empty buffer. -/
theorem Invariant.connAdd (invariant : Invariant state conns) {fd : Nat}
    (closed : ¬(state.slots fd).isOpen) (mcast : Bool) {memory : List Byte}
    (buffer : bufferStart ≤ memory.length) :
    Invariant (connAdd state fd mcast memory) conns := by
  have otherSlot : ∀ other ≠ fd, (ReadFifo.connAdd state fd mcast memory).slots other =
      state.slots other := fun other differs => if_neg differs
  have isNew : ((ReadFifo.connAdd state fd mcast memory).slots fd).conn =
      ⟨fd, mcast, true, memory, 0, 0, none⟩ := by
    rw [ReadFifo.connAdd, state.setSlot_self]
  have sameLinks : ∀ other,
      (ReadFifo.connAdd state fd mcast memory).next other = state.next other ∧
        (ReadFifo.connAdd state fd mcast memory).prev other = state.prev other := by
    intro other
    simp only [State.next, State.prev, ReadFifo.connAdd, State.setSlot]
    split_ifs with same
    · simp [same]
    · exact ⟨rfl, rfl⟩
  refine ⟨⟨?_, ?_, ?_⟩, ?_, invariant.selected, ?_⟩
  · exact invariant.queue.congr (fun other _ => (sameLinks other).1) fun other _ =>
      (sameLinks other).2
  · intro other member
    have differs : other ≠ fd := fun same => closed (same ▸ invariant.isOpen other member)
    simp_all [invariant.isOpen]
  · intro other isOpen holds
    by_cases same : other = fd
    · rw [same, isNew] at holds
      exact absurd holds (Connection.pending_nothing (Int.le_refl 0))
    · rw [otherSlot other same] at isOpen holds
      exact invariant.complete other isOpen holds
  · simp_all [invariant.unlinked]
  · intro other isOpen
    by_cases same : other = fd
    · rw [same, isNew]
      refine ⟨?_, buffer⟩
      simp only
      omega
    · simp_all [invariant.bounded]

theorem Invariant.inFifo_iff (invariant : Invariant state conns) (fd : Nat) :
    state.InFifo fd ↔ fd ∈ conns := by
  constructor
  · rintro (isHead | hasPrev)
    · rw [invariant.queue.first] at isHead
      exact List.mem_of_mem_head? (Option.mem_def.mpr isHead)
    · by_contra outside
      exact hasPrev (invariant.unlinked fd outside).2
  · intro member
    exact invariant.queue.first_or_prev member

/-- A step that closes no connection of the fifo keeps the invariant. -/
theorem Invariant.step (invariant : Invariant state conns) {action : Action}
    (enabled : state.enabled action) (apart : ¬ClosesQueued state action) :
    ∃ next conns', state.step action = .ok next ∧ Invariant next conns' := by
  cases action with
  | select ready => exact invariant.select enabled.1 ready
  | receive uninit socket =>
      rcases enabled with ⟨fd, selected, isOpen, returned⟩
      cases result : mwSrbRecvmessage uninit false (state.slots fd).conn socket with
      | returned srbmsg errno conn later => exact invariant.receive selected isOpen result
      | waiting conn =>
          rw [result] at returned
          cases returned
      | failed failure =>
          rw [result] at returned
          cases returned
  | connDel fd =>
      exact ⟨_, conns, rfl, invariant.connDel (mt (invariant.inFifo_iff fd).mpr apart)⟩
  | connAdd fd mcast memory =>
      have block := enabled.2
      exact ⟨_, conns, rfl, invariant.connAdd enabled.1 mcast (by omega)⟩

/-- Who follows the links from the head still meets a connection that was closed. -/
theorem Invariant.closesQueued (invariant : Invariant state conns) {fd : Nat}
    (inFifo : state.InFifo fd) : ¬(ReadFifo.connDel state fd).Orderly := by
  rintro ⟨conns', pending⟩
  have member := (invariant.inFifo_iff fd).mp inFifo
  rcases List.append_of_mem member with ⟨front, later, rfl⟩
  have otherSlot : ∀ other ≠ fd, (ReadFifo.connDel state fd).slots other = state.slots other :=
    fun other differs => if_neg differs
  have before : ∀ other ∈ front, other ≠ fd := by
    rintro other inFront rfl
    exact (List.nodup_append.mp invariant.queue.nodup).2.2 other inFront other
      List.mem_cons_self rfl
  have met : fd ∈ conns' := by
    apply invariant.queue.linked.follows pending.queue.linked
    · exact pending.queue.first.symm.trans invariant.queue.first
    · simp_all [State.next]
  have isOpen := pending.isOpen fd met
  have closed : (ReadFifo.connDel state fd).slots fd = clearedSlot := if_pos rfl
  rw [closed] at isOpen
  exact isOpen rfl

theorem invariant_start : Invariant ⟨fun _ => clearedSlot, none, none, none⟩ [] := by
  have closed : ¬clearedSlot.isOpen := not_not.mpr rfl
  refine ⟨⟨Queue.empty _ _, ?_, ?_⟩, ?_, ?_, ?_⟩
  · exact fun fd member => absurd member List.not_mem_nil
  · exact fun fd isOpen => absurd isOpen closed
  · exact fun fd _ => ⟨rfl, rfl⟩
  · exact fun fd _ => List.not_mem_nil
  · exact fun fd isOpen => absurd isOpen closed

/-- While no connection is closed that is in the fifo, the fifo is in order. Each further step
succeeds and leaves it so if and only if it closes no connection of the fifo. -/
theorem readFifo_orderly {state : State}
    (reachable : readFifoMachine.Reachable (fun state action => ¬ClosesQueued state action) state) :
    state.Orderly ∧ ∀ action, state.enabled action →
      ((∃ next, state.step action = .ok next ∧ next.Orderly) ↔ ¬ClosesQueued state action) := by
  have holds : ∃ conns, Invariant state conns := by
    apply @Machine.Reachable.safe _ _ _ _ _ (fun state => ∃ conns, Invariant state conns)
      ?_ ?_ _ reachable
    · rintro start rfl
      exact ⟨[], invariant_start⟩
    · rintro before action ⟨conns, invariant⟩ enabled apart
      rcases invariant.step enabled apart with ⟨next, conns', result, after⟩
      exact ⟨next, result, conns', after⟩
  rcases holds with ⟨conns, invariant⟩
  refine ⟨⟨conns, invariant.toPending⟩, ?_⟩
  intro action enabled
  constructor
  · rintro ⟨next, result, orderly⟩ closes
    cases action with
    | connDel fd =>
        cases result
        exact invariant.closesQueued closes orderly
    | select ready => exact closes
    | receive uninit socket => exact closes
    | connAdd fd mcast memory => exact closes
  · intro apart
    rcases invariant.step enabled apart with ⟨next, conns', result, after⟩
    exact ⟨next, result, conns', after.toPending⟩

/-- A client connects, and after its `INIT` it sends two `TERM` messages in one packet. The first
one is read. -/
def twoTerms : List Action :=
  [.connAdd 5 false (List.replicate (bufferStart + srbMessageMaxLen + 1) 0), .select (some 5),
    .receive [] [.data (ascii "INIT?VERSION=0.9&TYPE=CLIENT&NAME=a\r\n".toList)],
    .select (some 5), .receive [] [.data (ascii "TERM!\r\nTERM!\r\n".toList)]]

def emptyTable : State := ⟨fun _ => clearedSlot, none, none, none⟩

/-- The two messages, one turn after the other. -/
theorem twoTerms_turns :
    let init := [Arrival.data (ascii "INIT?VERSION=0.9&TYPE=CLIENT&NAME=a\r\n".toList)]
    let terms := [Arrival.data (ascii "TERM!\r\nTERM!\r\n".toList)]
    let connected := readFifoMachine.next (readFifoMachine.next emptyTable
      (.connAdd 5 false (List.replicate (bufferStart + srbMessageMaxLen + 1) 0))) (.select (some 5))
    let attached := readFifoMachine.next connected (.receive [] init)
    let chosen := readFifoMachine.next attached (.select (some 5))
    returns (mwSrbRecvmessage [] false (connected.slots 5).conn init) = true ∧
      (readFifoMachine.step connected (.receive [] init)).isOk = true ∧
      attached.selected = none ∧ (attached.slots 5).conn.fd ≠ -1 ∧
      (readFifoMachine.step attached (.select (some 5))).isOk = true ∧
      chosen.selected = some 5 ∧ (chosen.slots 5).conn.fd ≠ -1 ∧
      returns (mwSrbRecvmessage [] false (chosen.slots 5).conn terms) = true ∧
      (readFifoMachine.step chosen (.receive [] terms)).isOk = true := by
  decide +kernel

theorem twoTerms_reachable :
    readFifoMachine.Reachable (fun state action => ¬ClosesQueued state action)
      (twoTerms.foldl readFifoMachine.next emptyTable) := by
  have started : readFifoMachine.Reachable (fun state action => ¬ClosesQueued state action)
      emptyTable := .start rfl
  rcases twoTerms_turns with ⟨initReturns, initRead, noneSelected, attachedOpen, selectable,
    isSelected, chosenOpen, termReturns, termRead⟩
  apply started.runs
  refine ⟨⟨?_, ?_⟩, id, rfl, ⟨rfl, ?_⟩, id, by decide +kernel,
    ⟨5, rfl, ?_, initReturns⟩, id, initRead,
    ⟨noneSelected, ?_⟩, id, selectable, ⟨5, isSelected, chosenOpen, termReturns⟩, id, termRead,
    trivial⟩
  · exact not_not.mpr rfl
  · exact Nat.le_of_eq List.length_replicate.symm
  · rintro fd member
    cases member
    exact show (5 : Int) ≠ -1 by decide
  · exact show (5 : Int) ≠ -1 by decide
  · rintro fd member
    cases member
    exact attachedOpen

theorem readFifo_orderly_twoTerms :
    (twoTerms.foldl readFifoMachine.next emptyTable).Orderly ∧
      ∀ action, (twoTerms.foldl readFifoMachine.next emptyTable).enabled action →
        ((∃ next, (twoTerms.foldl readFifoMachine.next emptyTable).step action = .ok next ∧
            next.Orderly) ↔
          ¬ClosesQueued (twoTerms.foldl readFifoMachine.next emptyTable) action) :=
  readFifo_orderly twoTerms_reachable

/-- The handler of the first `TERM` closes the connection, which the second one has put in the
fifo. The next `conn_select` gives the closed connection. -/
theorem term_closes_queued :
    ∃ state next, readFifoMachine.Reachable (fun state action => ¬ClosesQueued state action) state ∧
      state.enabled (.connDel 5) ∧ state.step (.connDel 5) = .ok next ∧ ¬next.Orderly ∧
      ∃ after, next.step (.select none) = .ok after ∧ after.selected = some 5 ∧
        ¬(after.slots 5).isOpen := by
  have atEnd : (twoTerms.foldl readFifoMachine.next emptyTable).readPendingFifoHead = some 5 ∧
      (twoTerms.foldl readFifoMachine.next emptyTable).readPendingFifoTail = some 5 ∧
      ((twoTerms.foldl readFifoMachine.next emptyTable).slots 5).conn.fd = 5 := by
    decide +kernel
  rcases atEnd with ⟨head, tail, isOpen⟩
  have reachable := twoTerms_reachable
  generalize twoTerms.foldl readFifoMachine.next emptyTable = state at head tail isOpen reachable
  have closed : (connDel state 5).slots 5 = clearedSlot := by
    rw [connDel, State.setSlot_self]
  refine ⟨state, connDel state 5, reachable, ?_, rfl, ?_, ?_⟩
  · rw [State.enabled, Slot.isOpen, isOpen]
    decide
  · rintro ⟨conns, pending⟩
    have member : 5 ∈ conns :=
      List.mem_of_mem_head? (Option.mem_def.mpr (pending.queue.first.symm.trans head))
    have stillOpen := pending.isOpen 5 member
    rw [closed] at stillOpen
    exact stillOpen rfl
  · have stillHead : (connDel state 5).readPendingFifoHead = some 5 := head
    have stillTail : (connDel state 5).readPendingFifoTail = some 5 := tail
    have taken : connReadFifoDequeue (connDel state 5) = .ok (some 5, { connDel state 5 with
        readPendingFifoHead := none
        readPendingFifoTail := none }.setSlot 5 fun slot =>
          { slot with readFifoPrev := none, readFifoNext := none }) := by
      rw [connReadFifoDequeue, stillHead]
      simp only [stillTail, if_true]
    have selects : (connDel state 5).step (.select none) = .ok { ({ connDel state 5 with
        readPendingFifoHead := none
        readPendingFifoTail := none }.setSlot 5 fun slot =>
          { slot with readFifoPrev := none, readFifoNext := none }) with selected := some 5 } := by
      rw [State.step, connSelect, taken]
      rfl
    refine ⟨_, selects, rfl, ?_⟩
    simp only [State.setSlot_self, closed]
    exact not_not.mpr rfl

end MidWay.Gateway.ReadFifo

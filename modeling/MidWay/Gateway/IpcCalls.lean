import MidWay.Gateway.StoreLists

/-!
Contract: a call of a local client that goes out to a peer gateway.

The call is put into the hash before it is sent, under the handle the peer will
answer with. When it cannot be sent it is taken out of the hash and the function
returns: the struct is then in no list, and the lock is not given back. A call
that is sent waits in front of its bucket.

Owns: `openIPCCall` and `storeIPCCall` as changes of one struct, and when a
failure leaves no trace.
-/

namespace MidWay.Gateway

open MidWay.CLib MidWay.Url MidWay.Srb

variable {store : CallStore} {outlet : Outlet} {cmsg : Call}

/-- The call a local client made, before it is sent. -/
def unsentCall (domain : Domain) (store : CallStore) (cmsg : Call) (conn : Connection) :
    PendingCall :=
  { clearPendingCall with
    srcMwid := cmsg.callerMwid
    srchdl := cmsg.handle
    dstMwid := conn.gwid
    dstconn := some conn
    dsthdl := store.nextIpchdl domain }

/-- A struct is taken for a call of a local client. -/
structure OpenedIPCCall (domain : Domain) (store : CallStore) (cmsg : Call) (conn : Connection)
    (adr : Nat) (store' : CallStore) : Prop where
  placed : Placed store store' adr (unsentCall domain store cmsg conn)
    (mkhash conn.gwid (store.nextIpchdl domain))
  fresh : ¬ store.Pending adr
  front : ∃ rest, store'.hash (mkhash conn.gwid (store.nextIpchdl domain)) = adr :: rest
  handle : store'.handle = mwNexthandle domain.irand store.handle
  sent : store'.sent = store.sent

theorem openIPCCall_handle (domain : Domain) (store : CallStore) (cmsg : Call)
    (conn : Connection) :
    (store.openIPCCall domain cmsg conn).2.1 =
      UInt32.ofInt (mwNexthandle domain.irand
        (store.newPendingCall cmsg.callerMwid cmsg.handle).2.handle) := rfl

theorem newPendingCall_handle (store : CallStore) (srcid srchdl : UInt32) :
    (store.newPendingCall srcid srchdl).2.handle = store.handle := by
  rcases store with ⟨pcs, hash, freelist, alloced, handle, sent⟩
  cases freelist with
  | nil => rfl
  | cons adr rest => rfl

theorem openIPCCall_dsthdl (domain : Domain) (store : CallStore) (cmsg : Call)
    (conn : Connection) :
    (store.openIPCCall domain cmsg conn).2.1 = store.nextIpchdl domain := by
  rw [openIPCCall_handle, newPendingCall_handle]
  rfl

theorem openIPCCall_opened (ok : StoreOk store) (domain : Domain) (cmsg : Call)
    (conn : Connection) :
    OpenedIPCCall domain store cmsg conn (store.openIPCCall domain cmsg conn).1
      (store.openIPCCall domain cmsg conn).2.2 := by
  have taken := newPendingCall_taken ok cmsg.callerMwid cmsg.handle
  rw [CallStore.openIPCCall]
  generalize store.newPendingCall cmsg.callerMwid cmsg.handle = result at taken
  rcases result with ⟨adr, store'⟩
  have zero : store'.pc adr = _ := taken.pc
  have sameHandle : store'.handle = store.handle := taken.rest.1
  have linkedHere : adr ∈ store'.hash (mkhash cmsg.callerMwid cmsg.handle) :=
    (taken.placed.mem adr _).mpr (Or.inl ⟨rfl, rfl⟩)
  have pending : store'.Pending adr := ⟨_, linkedHere⟩
  simp only [zero, sameHandle]
  have changed := taken.ok.setPc taken.notFree (unsentCall domain store cmsg conn)
  have outside : ¬ (store'.unlinkPendingCall adr).Pending adr := by
    simp [taken.ok.pending_unlinked]
  have relinked := (changed.unlink adr).link outside (taken.ok.not_mem_unlinked_freelist adr)
    (taken.ok.alloced adr (Or.inl pending)) (mkhash conn.gwid (store.nextIpchdl domain))
  have relinkedPlaced : Placed store' ((({ store' with
      handle := mwNexthandle domain.irand store.handle }).setPc adr
      (unsentCall domain store cmsg conn)).rehashPendingCall adr conn.gwid
      (store.nextIpchdl domain)) adr (unsentCall domain store cmsg conn)
      (mkhash conn.gwid (store.nextIpchdl domain)) := by
    refine ⟨⟨relinked.nodup, relinked.bucket, relinked.freeNodup, relinked.free,
      relinked.alloced⟩, if_pos rfl, fun other different => if_neg different, ?_⟩
    intro other place
    change other ∈ linked (unlinked store'.hash adr) adr _ place ↔ _
    rw [mem_linked, taken.ok.mem_unlinked]
  refine ⟨taken.placed.trans relinkedPlaced, taken.fresh, ⟨_, if_pos rfl⟩, rfl, taken.rest.2⟩

/-- The buffer of the call can be read, and its messages go out. -/
structure Outlet.Passes (outlet : Outlet) (handle : UInt32) (cmsg : Call) : Prop where
  buffer : cmsg.data ≠ [] → outlet.fault cmsg = none
  sent : 0 ≤ sendcallResult outlet.written
    (outlet.messages handle cmsg (if cmsg.data = [] then none else some cmsg.data))

theorem mwGetbufferFromCall_ok (readable : cmsg.data ≠ [] → outlet.fault cmsg = none) :
    mwGetbufferFromCall outlet cmsg =
      .ok (if cmsg.data = [] then none else some cmsg.data) := by
  grind [mwGetbufferFromCall]

theorem BufferFault.rc_neg (fault : BufferFault) : fault.rc < 0 := by
  cases fault with
  | noSegment => decide
  | badChunk => decide
  | shortChunk => decide

theorem storeIPCCall_sent {domain : Domain} {conn : Connection}
    (passes : outlet.Passes (store.nextIpchdl domain) cmsg) :
    store.storeIPCCall domain outlet cmsg conn =
      ⟨0, (store.openIPCCall domain cmsg conn).2.2.setPc (store.openIPCCall domain cmsg conn).1
        { (store.openIPCCall domain cmsg conn).2.2.pc (store.openIPCCall domain cmsg conn).1 with
          call := cmsg, status := .replypending }, false⟩ := by
  unfold CallStore.storeIPCCall
  simp only [openIPCCall_dsthdl, mwGetbufferFromCall_ok passes.buffer]
  rw [if_neg (Int.not_lt.mpr passes.sent)]

/-- The struct of a call that is not sent is unlinked, and that is all. -/
theorem storeIPCCall_unsent {domain : Domain} (conn : Connection)
    (stopped : ¬ outlet.Passes (store.nextIpchdl domain) cmsg) :
    (store.storeIPCCall domain outlet cmsg conn).rc < 0 ∧
      (store.storeIPCCall domain outlet cmsg conn).locked = true ∧
      (store.storeIPCCall domain outlet cmsg conn).store =
        (store.openIPCCall domain cmsg conn).2.2.unlinkPendingCall
          (store.openIPCCall domain cmsg conn).1 := by
  unfold CallStore.storeIPCCall
  simp only [openIPCCall_dsthdl]
  by_cases readable : cmsg.data ≠ [] → outlet.fault cmsg = none
  · have refused : sendcallResult outlet.written (outlet.messages (store.nextIpchdl domain) cmsg
        (if cmsg.data = [] then none else some cmsg.data)) < 0 := by
      by_contra sent
      exact stopped ⟨readable, Int.not_lt.mp sent⟩
    simp_all [mwGetbufferFromCall_ok, if_pos]
  · simp only [Classical.not_imp] at readable
    rcases readable with ⟨hasData, isFault⟩
    rcases Option.ne_none_iff_exists'.mp isFault with ⟨fault, isFault⟩
    simp [mwGetbufferFromCall, if_neg, isFault, hasData, fault.rc_neg]

def CallStore.Listed (store : CallStore) (adr : Nat) : Prop :=
  store.Pending adr ∨ adr ∈ store.freelist

/-- Every struct is in the list it was in, a new one is not lost, and the lock is free
again. -/
structure LeavesNoTrace (before : CallStore) (after : IPCCalled) : Prop where
  hash : after.store.hash = before.hash
  free : ∀ adr ∈ before.freelist, adr ∈ after.store.freelist
  new : ∀ adr < after.store.alloced, before.alloced ≤ adr → after.store.Listed adr
  unlocked : after.locked = false

/-- A failure leaves no trace exactly when there is none: when the buffer of the call
can be read and its messages go out. -/
theorem storeIPCCall_leaves_no_trace (domain : Domain) (outlet : Outlet) (store : CallStore)
    (cmsg : Call) (conn : Connection) :
    ((store.storeIPCCall domain outlet cmsg conn).rc < 0 →
      LeavesNoTrace store (store.storeIPCCall domain outlet cmsg conn)) ↔
    outlet.Passes (store.nextIpchdl domain) cmsg := by
  constructor
  · intro noTrace
    by_contra stopped
    rcases storeIPCCall_unsent conn stopped with ⟨failed, locked, -⟩
    have unlocked := (noTrace failed).unlocked
    rw [locked] at unlocked
    cases unlocked
  · simp_all [storeIPCCall_sent]

def spareStore : CallStore := { emptyStore with freelist := [0], alloced := 1 }

def peerDomain : Domain :=
  ⟨0x04000001, fun _ _ => 0x08000001, fun _ => 0x04000001, 41, fun _ => true⟩

def peerConn : Connection := ⟨5, unassigned, 0x04000002, true, true⟩

def strayCall : Call :=
  ⟨.svccall, 7, 0x02000001, unassigned, unassigned, 0x08000001, [115], [97], 0, 0, [], [], 0⟩

def blockedOutlet : Outlet := ⟨fun _ => some .noSegment, 3000, none, [], fun _ => 0⟩

/-- The free struct is in no list afterwards, and the lock is kept. -/
theorem storeIPCCall_leaves_lock :
    (spareStore.storeIPCCall peerDomain blockedOutlet strayCall peerConn).rc < 0 ∧
    (spareStore.storeIPCCall peerDomain blockedOutlet strayCall peerConn).locked = true ∧
    0 ∉ (spareStore.storeIPCCall peerDomain blockedOutlet strayCall peerConn).store.freelist ∧
    ¬ LeavesNoTrace spareStore
      (spareStore.storeIPCCall peerDomain blockedOutlet strayCall peerConn) := by
  have lost : 0 ∉ (spareStore.storeIPCCall peerDomain blockedOutlet strayCall
      peerConn).store.freelist := by decide
  refine ⟨by decide, by decide, lost, ?_⟩
  intro noTrace
  exact lost (noTrace.free 0 (by decide))

end MidWay.Gateway

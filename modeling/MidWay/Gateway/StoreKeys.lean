import MidWay.Gateway.IpcCalls

/-!
Contract: the list every struct of the call store is in.

A struct is free or pending. A pending one is in the bucket of its current key: the
tuple of the caller while the data of the request is collected, the tuple the answer
will come under afterwards. Every public operation keeps this, whatever ids and
handles it is called with.

Owns: `PendingCall.key`, `Keyed`, and its preservation by the operations.
-/

namespace MidWay.Gateway

open MidWay.CLib MidWay.Url MidWay.Srb

def PendingCall.key (pc : PendingCall) : UInt32 × UInt32 :=
  if pc.status = .calldatapending then (pc.srcMwid, pc.srchdl) else (pc.dstMwid, pc.dsthdl)

def PendingCall.keyBucket (pc : PendingCall) : UInt8 := mkhash pc.key.1 pc.key.2

/-- Every struct is in a list, and in the bucket of its key, this one perhaps not. -/
structure KeyedBut (store : CallStore) (adr : Nat) : Prop where
  ok : StoreOk store
  listed : ∀ other < store.alloced, other ≠ adr → store.Listed other
  keys : ∀ other bucket, other ∈ store.hash bucket → other ≠ adr →
    bucket = (store.pc other).keyBucket

structure Keyed (store : CallStore) : Prop where
  ok : StoreOk store
  listed : ∀ adr < store.alloced, store.Listed adr
  keys : ∀ adr bucket, adr ∈ store.hash bucket → bucket = (store.pc adr).keyBucket

theorem emptyStore_keyed : Keyed emptyStore := by
  refine ⟨emptyStore_ok, ?_, ?_⟩
  · intro adr below
    exact absurd below (Nat.not_lt_zero adr)
  · intro adr bucket member
    exact absurd ⟨bucket, member⟩ (emptyStore_not_pending adr)

theorem PendingCall.hasTuple_key (pc : PendingCall) : pc.hasTuple pc.key.1 pc.key.2 = true := by
  grind [PendingCall.hasTuple, PendingCall.key]

theorem Keyed.lookup_none {store : CallStore} (keyed : Keyed store) {mwid hdl : UInt32}
    (nothing : store.lookupPendingCall mwid hdl = none) {adr : Nat} {bucket : UInt8}
    (member : adr ∈ store.hash bucket) : (store.pc adr).key ≠ (mwid, hdl) := by
  intro isKey
  have place := keyed.keys adr bucket member
  rw [PendingCall.keyBucket, isKey] at place
  have here : (store.pc adr).hasTuple mwid hdl = true := by
    have own := (store.pc adr).hasTuple_key
    rw [isKey] at own
    exact own
  subst place
  exact absurd here (List.find?_eq_none.mp nothing adr member)

theorem Keyed.but {store : CallStore} (keyed : Keyed store) (adr : Nat) : KeyedBut store adr :=
  ⟨keyed.ok, fun other below _ => keyed.listed other below,
    fun other bucket member _ => keyed.keys other bucket member⟩

section OutOfPlace

variable {store : CallStore} {adr : Nat}

theorem KeyedBut.settle (keyed : KeyedBut store adr) (pending : store.Pending adr)
    (here : ∀ bucket, adr ∈ store.hash bucket → bucket = (store.pc adr).keyBucket) :
    Keyed store := by
  refine ⟨keyed.ok, ?_, ?_⟩
  · intro other below
    by_cases same : other = adr
    · exact Or.inl (same ▸ pending)
    · exact keyed.listed other below same
  · intro other bucket member
    by_cases same : other = adr
    · grind
    · exact keyed.keys other bucket member same

theorem KeyedBut.setPc (keyed : KeyedBut store adr) (notFree : adr ∉ store.freelist)
    (pc : PendingCall) : KeyedBut (store.setPc adr pc) adr := by
  refine ⟨keyed.ok.setPc notFree pc, keyed.listed, ?_⟩
  intro other bucket member different
  rw [show (store.setPc adr pc).pc other = store.pc other from if_neg different]
  exact keyed.keys other bucket member different

theorem KeyedBut.rest (keyed : KeyedBut store adr) (handle : Int) (sent : List (UInt32 × Call)) :
    KeyedBut { store with handle := handle, sent := sent } adr :=
  ⟨⟨keyed.ok.nodup, keyed.ok.bucket, keyed.ok.freeNodup, keyed.ok.free, keyed.ok.alloced⟩,
    keyed.listed, keyed.keys⟩

theorem Keyed.rest (keyed : Keyed store) (handle : Int) (sent : List (UInt32 × Call)) :
    Keyed { store with handle := handle, sent := sent } :=
  ⟨⟨keyed.ok.nodup, keyed.ok.bucket, keyed.ok.freeNodup, keyed.ok.free, keyed.ok.alloced⟩,
    keyed.listed, keyed.keys⟩

theorem KeyedBut.rehash (keyed : KeyedBut store adr) (pending : store.Pending adr)
    {mwid hdl : UInt32} (isKey : (store.pc adr).keyBucket = mkhash mwid hdl) :
    Keyed (store.rehashPendingCall adr mwid hdl) := by
  have outside : ¬ (store.unlinkPendingCall adr).Pending adr := by
    simp [keyed.ok.pending_unlinked]
  have relinked := (keyed.ok.unlink adr).link outside (keyed.ok.not_mem_unlinked_freelist adr)
    (keyed.ok.alloced adr (Or.inl pending)) (mkhash mwid hdl)
  have inBucket : ∀ other bucket, other ∈ (store.rehashPendingCall adr mwid hdl).hash bucket ↔
      (other = adr ∧ bucket = mkhash mwid hdl) ∨ (other ≠ adr ∧ other ∈ store.hash bucket) := by
    intro other bucket
    change other ∈ linked (unlinked store.hash adr) adr _ bucket ↔ _
    rw [mem_linked, keyed.ok.mem_unlinked]
  refine ⟨relinked, ?_, ?_⟩
  · intro other below
    by_cases same : other = adr
    · exact Or.inl ⟨mkhash mwid hdl, (inBucket _ _).mpr (Or.inl ⟨same, rfl⟩)⟩
    · rcases keyed.listed other below same with ⟨bucket, member⟩ | inFree
      · exact Or.inl ⟨bucket, (inBucket _ _).mpr (Or.inr ⟨same, member⟩)⟩
      · exact Or.inr ((List.mem_erase_of_ne same).mpr inFree)
  · intro other bucket member
    rcases (inBucket other bucket).mp member with ⟨rfl, rfl⟩ | ⟨different, before⟩
    · exact isKey.symm
    · exact keyed.keys other bucket before different

/-- A struct that was taken for a new call. -/
theorem Taken.keyedBut {store' : CallStore} {srcid srchdl : UInt32} (keyed : Keyed store)
    (taken : Taken store store' srcid srchdl adr) : KeyedBut store' adr := by
  have mem := taken.placed.mem
  refine ⟨taken.ok, ?_, ?_⟩
  · intro other below different
    rcases taken.free other below with same | ⟨before, keeps⟩
    · exact absurd same different
    · rcases keyed.listed other before with ⟨bucket, member⟩ | inFree
      · exact Or.inl ⟨bucket, (mem other bucket).mpr (Or.inr ⟨different, member⟩)⟩
      · exact Or.inr (keeps inFree)
  · intro other bucket member different
    rcases (mem other bucket).mp member with ⟨same, -⟩ | ⟨-, before⟩
    · exact absurd same different
    · rw [taken.others other different]
      exact keyed.keys other bucket before

end OutOfPlace

section Operations

variable {store : CallStore} (keyed : Keyed store) (domain : Domain)
include keyed

theorem Keyed.notFree {adr : Nat} (pending : store.Pending adr) : adr ∉ store.freelist :=
  fun inFree => (keyed.ok.free adr inFree).1 pending

theorem Keyed.setPc {adr : Nat} (pending : store.Pending adr) {pc : PendingCall}
    (sameKey : pc.keyBucket = (store.pc adr).keyBucket) : Keyed (store.setPc adr pc) := by
  apply ((keyed.but adr).setPc (keyed.notFree pending) pc).settle pending
  intro bucket member
  rw [show (store.setPc adr pc).pc adr = pc from if_pos rfl, sameKey]
  exact keyed.keys adr bucket member

theorem Keyed.freePendingCall {adr : Nat} (below : adr < store.alloced) :
    Keyed (store.freePendingCall adr) := by
  have removed := freePendingCall_removed keyed.ok below
  refine ⟨removed.ok, ?_, ?_⟩
  · intro other otherBelow
    by_cases same : other = adr
    · exact Or.inr (same ▸ List.mem_cons_self)
    · rcases keyed.listed other otherBelow with ⟨bucket, member⟩ | inFree
      · exact Or.inl ⟨bucket, (removed.mem other bucket).mpr ⟨same, member⟩⟩
      · exact Or.inr (List.mem_cons_of_mem _ ((List.mem_erase_of_ne same).mpr inFree))
  · intro other bucket member
    rcases (removed.mem other bucket).mp member with ⟨different, before⟩
    rw [removed.others other different]
    exact keyed.keys other bucket before

theorem Keyed.routeCall {adr : Nat} (pending : store.Pending adr) :
    Keyed (store.routeCall domain adr) := by
  have routed := ((keyed.but adr).rest (mwNexthandle domain.irand store.handle) store.sent).setPc
    (keyed.notFree pending) ((store.pc adr).routed domain (store.nextIpchdl domain))
  have pendingRouted : CallStore.Pending (({ store with
      handle := mwNexthandle domain.irand store.handle } : CallStore).setPc adr
      ((store.pc adr).routed domain (store.nextIpchdl domain))) adr := pending
  have isKey : ((({ store with handle := mwNexthandle domain.irand store.handle } : CallStore).setPc
      adr ((store.pc adr).routed domain (store.nextIpchdl domain))).pc adr).keyBucket =
      mkhash (store.pc adr).putbuffer.cltid (store.nextIpchdl domain) := by
    rw [show (({ store with handle := mwNexthandle domain.irand store.handle } : CallStore).setPc adr
      ((store.pc adr).routed domain (store.nextIpchdl domain))).pc adr =
      (store.pc adr).routed domain (store.nextIpchdl domain) from if_pos rfl]
    rfl
  have rehashed := routed.rehash pendingRouted isKey
  exact rehashed.rest _ _

theorem Keyed.routeReply {adr : Nat} (pending : store.Pending adr)
    (replied : (store.pc adr).status = .replydatapending) :
    Keyed (store.routeReply domain adr) := by
  rw [CallStore.routeReply]
  generalize ({ (store.pc adr).putbuffer with
    mtype := .svcreply, srvid := domain.myGatewayid } : Call) = call
  have changed : Keyed (store.setPc adr { store.pc adr with call := call }) :=
    keyed.setPc pending rfl
  have stored : Keyed ((store.setPc adr { store.pc adr with call := call }).ipcSendmessage
      (store.pc adr).srcMwid call) := changed.rest _ _
  split_ifs
  · exact stored.freePendingCall (keyed.ok.alloced adr (Or.inl pending))
  · apply stored.setPc pending
    have here : ((store.setPc adr { store.pc adr with call := call }).ipcSendmessage
        (store.pc adr).srcMwid call).pc adr = { store.pc adr with call := call } := if_pos rfl
    simp_all [here, PendingCall.keyBucket, PendingCall.key, replied]

theorem Keyed.checkIfComplete {adr : Nat} (pending : store.Pending adr) :
    Keyed (store.checkIfComplete domain adr) := by
  rw [CallStore.checkIfComplete]
  cases status : (store.pc adr).status with
  | free => exact keyed
  | replypending => exact keyed
  | calldatapending =>
      simp only
      split_ifs
      · exact keyed
      · exact keyed.routeCall domain pending
  | replydatapending =>
      simp only
      split_ifs
      · exact keyed
      · exact keyed.routeReply domain pending status

theorem Keyed.storeSRBCall (mwid nethandle : UInt32) (map : Urlmap) (conn : Connection)
    (datatotal : Int) (service : List Byte) (instanceName domainname : Option (List Byte))
    (flags : UInt32) :
    Keyed (store.storeSRBCall domain mwid nethandle map conn datatotal service instanceName
      domainname flags) := by
  have taken := newPendingCall_taken keyed.ok mwid nethandle
  rw [CallStore.storeSRBCall]
  generalize store.newPendingCall mwid nethandle = result at taken
  rcases result with ⟨adr, store'⟩
  have linkedHere : ∀ bucket, adr ∈ store'.hash bucket ↔ bucket = mkhash mwid nethandle := by
    simp [taken.placed.mem]
  have pending : store'.Pending adr := ⟨_, (linkedHere _).mpr rfl⟩
  simp only
  refine Keyed.checkIfComplete ?_ domain pending
  apply ((taken.keyedBut keyed).setPc taken.notFree _).settle pending
  intro bucket member
  have zero : store'.pc adr = _ := taken.pc
  have place : bucket = mkhash mwid nethandle := (linkedHere bucket).mp member
  rw [show ∀ pc, (store'.setPc adr pc).pc adr = pc from fun _ => if_pos rfl, place]
  simp only [zero, PendingCall.keyBucket, PendingCall.key, if_true]

theorem Keyed.storeSRBData {mwid nethandle : UInt32} {data : List Byte} {store' : CallStore}
    (result : store.storeSRBData domain mwid nethandle data = .ok store') : Keyed store' := by
  cases found : store.lookupPendingCall mwid nethandle with
  | none =>
      rw [CallStore.storeSRBData, found] at result
      cases result
      exact keyed
  | some adr =>
      have pending : store.Pending adr := ⟨_, List.mem_of_find?_eq_some found⟩
      rcases storeSRBData_ok domain found result with ⟨fits, granted⟩
      rw [storeSRBData_found domain found fits granted] at result
      cases result
      have received : Keyed (store.setPc adr ((store.pc adr).received domain data)) :=
        keyed.setPc pending rfl
      exact received.checkIfComplete domain pending

theorem Keyed.storeSRBReply {mwid nethandle : UInt32} {rcode apprcode datatotal : Int}
    {store' : CallStore}
    (result : store.storeSRBReply domain mwid nethandle rcode apprcode datatotal = .ok store') :
    Keyed store' := by
  rw [CallStore.storeSRBReply] at result
  cases found : store.lookupPendingCall mwid nethandle with
  | none =>
      simp_all
  | some adr =>
      have pending : store.Pending adr := ⟨_, List.mem_of_find?_eq_some found⟩
      simp only [found] at result
      split_ifs at result with waits
      cases result
      refine Keyed.checkIfComplete (keyed.setPc pending ?_) domain pending
      simp [PendingCall.keyBucket, PendingCall.key, waits]

theorem Keyed.storeIPCReply {cmsg : Call} {answer : Option (Connection × Urlmap)}
    {store' : CallStore} (result : store.storeIPCReply cmsg = .ok (answer, store')) :
    Keyed store' := by
  rw [CallStore.storeIPCReply] at result
  cases found : store.lookupPendingCall cmsg.callerMwid cmsg.handle with
  | none =>
      simp_all
  | some adr =>
      have pending : store.Pending adr := ⟨_, List.mem_of_find?_eq_some found⟩
      simp only [found] at result
      cases hasConn : (store.pc adr).srcconn with
      | none =>
          simp [hasConn] at result
      | some conn =>
          simp only [hasConn] at result
          split_ifs at result
          · simp_all
          · simp_all
          · cases result
            exact keyed.freePendingCall (keyed.ok.alloced adr (Or.inl pending))

theorem Keyed.foldl_freePendingCall {calls : List Nat}
    (below : ∀ adr ∈ calls, adr < store.alloced) :
    Keyed (calls.foldl CallStore.freePendingCall store) := by
  induction calls generalizing store with
  | nil => exact keyed
  | cons adr rest ih =>
      apply ih (keyed.freePendingCall (below adr List.mem_cons_self))
      intro other member
      exact below other (List.mem_cons_of_mem adr member)

theorem Keyed.storeSRBClearClient (mwid : UInt32) : Keyed (store.storeSRBClearClient mwid) := by
  apply keyed.foldl_freePendingCall
  intro adr member
  rcases List.mem_flatMap.mp (List.mem_of_mem_filter member) with ⟨index, -, inBucket⟩
  exact keyed.ok.alloced adr (Or.inl ⟨_, inBucket⟩)

theorem Keyed.openIPCCall (cmsg : Call) (conn : Connection) :
    Keyed (store.openIPCCall domain cmsg conn).2.2 ∧
      (store.openIPCCall domain cmsg conn).2.2.Pending (store.openIPCCall domain cmsg conn).1 := by
  have taken := newPendingCall_taken keyed.ok cmsg.callerMwid cmsg.handle
  have opened := openIPCCall_opened keyed.ok domain cmsg conn
  refine ⟨?_, _, (opened.placed.mem _ _).mpr (Or.inl ⟨rfl, rfl⟩)⟩
  rw [CallStore.openIPCCall]
  generalize store.newPendingCall cmsg.callerMwid cmsg.handle = result at taken
  rcases result with ⟨adr, store'⟩
  have zero : store'.pc adr = _ := taken.pc
  have pending : store'.Pending adr := ⟨_, (taken.placed.mem adr _).mpr (Or.inl ⟨rfl, rfl⟩)⟩
  simp only [zero]
  apply KeyedBut.rehash
  · have counted : KeyedBut { store' with handle := mwNexthandle domain.irand store'.handle } adr :=
      (taken.keyedBut keyed).rest _ _
    exact counted.setPc taken.notFree _
  · exact pending
  · rw [show ∀ (base : CallStore) pc, (base.setPc adr pc).pc adr = pc from fun _ _ => if_pos rfl]
    rfl

theorem Keyed.storeIPCCall {outlet : Outlet} {cmsg : Call}
    (passes : outlet.Passes (store.nextIpchdl domain) cmsg) (conn : Connection) :
    Keyed (store.storeIPCCall domain outlet cmsg conn).store := by
  rw [storeIPCCall_sent passes]
  have opened := openIPCCall_opened keyed.ok domain cmsg conn
  rcases keyed.openIPCCall domain cmsg conn with ⟨openKeyed, pending⟩
  apply openKeyed.setPc pending
  rw [opened.placed.pc]
  rfl

end Operations

end MidWay.Gateway

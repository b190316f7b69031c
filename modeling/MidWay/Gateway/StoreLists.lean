import Mathlib.Data.List.Basic
import Mathlib.Data.List.Nodup
import MidWay.Gateway.CallStore

/-!
Contract: the lists of the call store, and what each operation does to them.

Every struct is in one list at most: one bucket of the hash, or the free list,
and then it is cleared. Under that invariant the operations are described by what
they do to the buckets and to one struct.

Owns: `StoreOk`, and for `newPendingCall`, `rehashPendingCall` and
`freePendingCall` the new buckets and the frame.
-/

namespace MidWay.Gateway

open MidWay.CLib MidWay.Url MidWay.Srb

variable {bucket : UInt8} {mwid nethandle : UInt32} {other : Nat} {domain : Domain}

theorem connGetinfo_ne_zero (conn : Connection) : connGetinfo conn ≠ 0 := by
  rw [connGetinfo]
  split_ifs with isClient isGateway
  · intro isZero
    exact isClient (by rw [isZero]; rfl)
  · intro isZero
    exact isGateway (by rw [isZero]; rfl)
  · decide

theorem connGetinfo_or {conn : Connection} (attached : connGetinfo conn ≠ unassigned) :
    conn.cid = connGetinfo conn ∨ conn.gwid = connGetinfo conn := by
  rw [connGetinfo] at attached ⊢
  grind

/-- The struct at this address holds a pending call. -/
def CallStore.Pending (store : CallStore) (adr : Nat) : Prop := ∃ bucket, adr ∈ store.hash bucket

structure StoreOk (store : CallStore) : Prop where
  nodup : ∀ bucket, (store.hash bucket).Nodup
  bucket : ∀ adr bucket other, adr ∈ store.hash bucket → adr ∈ store.hash other → bucket = other
  freeNodup : store.freelist.Nodup
  free : ∀ adr ∈ store.freelist, ¬ store.Pending adr ∧ store.pc adr = clearPendingCall
  alloced : ∀ adr, store.Pending adr ∨ adr ∈ store.freelist → adr < store.alloced

theorem emptyStore_not_pending (adr : Nat) : ¬ emptyStore.Pending adr := by
  rintro ⟨bucket, member⟩
  exact List.not_mem_nil member

theorem emptyStore_ok : StoreOk emptyStore := by
  refine ⟨?_, ?_, List.nodup_nil, ?_, ?_⟩
  · intro bucket
    exact List.nodup_nil
  · intro adr bucket other member
    exact absurd ⟨bucket, member⟩ (emptyStore_not_pending adr)
  · intro adr member
    exact absurd member List.not_mem_nil
  · rintro adr (pending | member)
    · exact absurd pending (emptyStore_not_pending adr)
    · exact absurd member List.not_mem_nil

/-- The buckets when an address is put in front of one of them. -/
def linked (hash : UInt8 → List Nat) (adr : Nat) (bucket : UInt8) : UInt8 → List Nat :=
  fun other => if other = bucket then adr :: hash other else hash other

def unlinked (hash : UInt8 → List Nat) (adr : Nat) : UInt8 → List Nat :=
  fun bucket => (hash bucket).erase adr

theorem mem_linked {hash : UInt8 → List Nat} {adr : Nat} {place : UInt8} :
    other ∈ linked hash adr bucket place ↔
      (other = adr ∧ place = bucket) ∨ other ∈ hash place := by
  grind [linked]

theorem unlinked_eq {hash : UInt8 → List Nat} {adr : Nat}
    (absent : ∀ bucket, adr ∉ hash bucket) : unlinked hash adr = hash := by
  funext bucket
  exact List.erase_of_not_mem (absent bucket)

section Lists

variable {store : CallStore} (ok : StoreOk store)
include ok

theorem StoreOk.mem_unlinked {adr : Nat} :
    other ∈ unlinked store.hash adr bucket ↔ other ≠ adr ∧ other ∈ store.hash bucket :=
  (ok.nodup bucket).mem_erase_iff

theorem StoreOk.pending_unlinked {adr : Nat} :
    (store.unlinkPendingCall adr).Pending other ↔ other ≠ adr ∧ store.Pending other := by
  constructor
  · rintro ⟨bucket, member⟩
    rcases ok.mem_unlinked.mp member with ⟨different, inBucket⟩
    exact ⟨different, bucket, inBucket⟩
  · rintro ⟨different, bucket, inBucket⟩
    exact ⟨bucket, ok.mem_unlinked.mpr ⟨different, inBucket⟩⟩

theorem StoreOk.unlink (adr : Nat) : StoreOk (store.unlinkPendingCall adr) := by
  refine ⟨?_, ?_, ok.freeNodup.erase adr, ?_, ?_⟩
  · intro bucket
    exact (ok.nodup bucket).erase adr
  · intro other bucket place inBucket inPlace
    exact ok.bucket other bucket place (ok.mem_unlinked.mp inBucket).2
      (ok.mem_unlinked.mp inPlace).2
  · intro other member
    rcases ok.free other (List.mem_of_mem_erase member) with ⟨notPending, cleared⟩
    refine ⟨?_, cleared⟩
    simp_all [ok.pending_unlinked]
  · intro other present
    apply ok.alloced other
    rcases present with pending | inFree
    · exact Or.inl (ok.pending_unlinked.mp pending).2
    · exact Or.inr (List.mem_of_mem_erase inFree)

theorem StoreOk.not_mem_unlinked_freelist (adr : Nat) :
    adr ∉ (store.unlinkPendingCall adr).freelist := by
  change adr ∉ store.freelist.erase adr
  rw [ok.freeNodup.mem_erase_iff]
  simp

theorem StoreOk.setPc {adr : Nat} (notFree : adr ∉ store.freelist) (pc : PendingCall) :
    StoreOk (store.setPc adr pc) := by
  refine ⟨ok.nodup, ok.bucket, ok.freeNodup, ?_, ok.alloced⟩
  intro other member
  refine ⟨(ok.free other member).1, ?_⟩
  have different : other ≠ adr := fun same => notFree (same ▸ member)
  simp only [CallStore.setPc, if_neg different]
  exact (ok.free other member).2

theorem StoreOk.link {adr : Nat} (notPending : ¬ store.Pending adr)
    (notFree : adr ∉ store.freelist) (below : adr < store.alloced) (bucket : UInt8) :
    StoreOk (store.linkPendingCall adr bucket) := by
  have absent : ∀ place, adr ∉ store.hash place := fun place member => notPending ⟨place, member⟩
  refine ⟨?_, ?_, ok.freeNodup, ?_, ?_⟩
  · intro place
    change (linked store.hash adr bucket place).Nodup
    rw [linked]
    split_ifs
    · exact List.nodup_cons.mpr ⟨absent place, ok.nodup place⟩
    · exact ok.nodup place
  · intro other place another inPlace inAnother
    rcases mem_linked.mp inPlace with ⟨rfl, rfl⟩ | before
    · rcases mem_linked.mp inAnother with ⟨-, rfl⟩ | before
      · rfl
      · exact absurd before (absent another)
    · rcases mem_linked.mp inAnother with ⟨rfl, rfl⟩ | alsoBefore
      · exact absurd before (absent place)
      · exact ok.bucket other place another before alsoBefore
  · intro other member
    rcases ok.free other member with ⟨otherNotPending, cleared⟩
    refine ⟨?_, cleared⟩
    rintro ⟨place, inPlace⟩
    rcases mem_linked.mp inPlace with ⟨rfl, -⟩ | inPlace
    · exact notFree member
    · exact otherNotPending ⟨place, inPlace⟩
  · intro other present
    rcases present with ⟨place, inPlace⟩ | inFree
    · rcases mem_linked.mp inPlace with ⟨rfl, -⟩ | inPlace
      · exact below
      · exact ok.alloced other (Or.inl ⟨place, inPlace⟩)
    · exact ok.alloced other (Or.inr inFree)

end Lists

/-- The structs but this one that are there afterwards were there before, and the free
ones are still free. -/
def KeepsFree (store store' : CallStore) (adr : Nat) : Prop :=
  ∀ other < store'.alloced, other = adr ∨
    (other < store.alloced ∧ (other ∈ store.freelist → other ∈ store'.freelist))

structure Cleared (store store' : CallStore) (adr : Nat) : Prop where
  ok : StoreOk store'
  fresh : ¬ store.Pending adr
  notFree : adr ∉ store'.freelist
  below : adr < store'.alloced
  pc : store'.pc adr = clearPendingCall
  others : ∀ other ≠ adr, store'.pc other = store.pc other
  hash : store'.hash = store.hash
  free : KeepsFree store store' adr
  rest : store'.handle = store.handle ∧ store'.sent = store.sent

structure Taken (store store' : CallStore) (srcid srchdl : UInt32) (adr : Nat) : Prop where
  ok : StoreOk store'
  fresh : ¬ store.Pending adr
  notFree : adr ∉ store'.freelist
  pc : store'.pc adr = { clearPendingCall with srcMwid := srcid, srchdl := srchdl }
  others : ∀ other ≠ adr, store'.pc other = store.pc other
  hash : store'.hash = linked store.hash adr (mkhash srcid srchdl)
  free : KeepsFree store store' adr
  rest : store'.handle = store.handle ∧ store'.sent = store.sent

section Operations

variable {store : CallStore} (ok : StoreOk store)
include ok

theorem takeStruct_cleared : Cleared store store.takeStruct.2 store.takeStruct.1 := by
  rcases store with ⟨pcs, hash, freelist, alloced, handle, sent⟩
  cases freelist with
  | nil =>
      have notPending : ¬ CallStore.Pending ⟨pcs, hash, [], alloced, handle, sent⟩ alloced := by
        intro pending
        exact Nat.lt_irrefl _ (ok.alloced alloced (Or.inl pending))
      have grown : StoreOk ⟨pcs, hash, [], alloced + 1, handle, sent⟩ := by
        refine ⟨ok.nodup, ok.bucket, ok.freeNodup, ok.free, ?_⟩
        intro other present
        exact Nat.lt_succ_of_lt (ok.alloced other present)
      refine ⟨grown.setPc List.not_mem_nil _, notPending, List.not_mem_nil, Nat.lt_succ_self _,
        ?_, ?_, rfl, ?_, rfl, rfl⟩
      · simp [CallStore.takeStruct, CallStore.setPc]
      · simp_all [CallStore.takeStruct, CallStore.setPc]
      · intro other below
        rcases Nat.lt_succ_iff_lt_or_eq.mp below with before | same
        · exact Or.inr ⟨before, id⟩
        · exact Or.inl same
  | cons adr rest =>
      have inFree : adr ∈ adr :: rest := List.mem_cons_self
      rcases ok.free adr inFree with ⟨notPending, cleared⟩
      refine ⟨ok.unlink adr, notPending, ok.not_mem_unlinked_freelist adr,
        ok.alloced adr (Or.inr inFree), cleared, fun other different => rfl, ?_, ?_, rfl, rfl⟩
      · exact unlinked_eq fun bucket member => notPending ⟨bucket, member⟩
      · intro other below
        by_cases same : other = adr
        · exact Or.inl same
        · exact Or.inr ⟨below, fun inList => (List.mem_erase_of_ne same).mpr inList⟩

theorem newPendingCall_taken (srcid srchdl : UInt32) :
    Taken store (store.newPendingCall srcid srchdl).2 srcid srchdl
      (store.newPendingCall srcid srchdl).1 := by
  have cleared := takeStruct_cleared ok
  rw [CallStore.newPendingCall]
  generalize store.takeStruct = taken at cleared
  rcases taken with ⟨adr, store'⟩
  have notPending : ¬ store'.Pending adr := by
    rintro ⟨bucket, member⟩
    exact cleared.fresh ⟨bucket, cleared.hash ▸ member⟩
  refine ⟨?_, cleared.fresh, cleared.notFree, ?_, ?_, ?_, cleared.free, cleared.rest⟩
  · exact (cleared.ok.setPc cleared.notFree _).link notPending cleared.notFree cleared.below _
  · have zero : store'.pc adr = clearPendingCall := cleared.pc
    simp [CallStore.linkPendingCall, CallStore.setPc, zero]
  · intro other different
    rw [← cleared.others other different]
    simp_all [CallStore.linkPendingCall, CallStore.setPc]
  · have same : store'.hash = store.hash := cleared.hash
    rw [← same]
    rfl

/-- A struct is released. -/
theorem freePendingCall_ok {adr : Nat} (below : adr < store.alloced) :
    StoreOk (store.freePendingCall adr) := by
  have notFree := ok.not_mem_unlinked_freelist adr
  have cleared := (ok.unlink adr).setPc notFree clearPendingCall
  have notPending : ¬ (store.unlinkPendingCall adr).Pending adr := by
    simp [ok.pending_unlinked]
  refine ⟨cleared.nodup, cleared.bucket, List.nodup_cons.mpr ⟨notFree, cleared.freeNodup⟩, ?_, ?_⟩
  · intro other member
    rcases List.mem_cons.mp member with rfl | inFree
    · exact ⟨notPending, by simp [CallStore.freePendingCall, CallStore.setPc]⟩
    · exact cleared.free other inFree
  · intro other present
    rcases present with isPending | member
    · exact cleared.alloced other (Or.inl isPending)
    · rcases List.mem_cons.mp member with rfl | inFree
      · exact below
      · exact cleared.alloced other (Or.inr inFree)

end Operations

/-- The call at `adr` is now `pc`, in this bucket; all other calls are as before. -/
structure Placed (store store' : CallStore) (adr : Nat) (pc : PendingCall) (bucket : UInt8) :
    Prop where
  ok : StoreOk store'
  pc : store'.pc adr = pc
  others : ∀ other ≠ adr, store'.pc other = store.pc other
  mem : ∀ other place, other ∈ store'.hash place ↔
    (other = adr ∧ place = bucket) ∨ (other ≠ adr ∧ other ∈ store.hash place)

/-- The call at `adr` is gone; all other calls are as before. -/
structure Removed (store store' : CallStore) (adr : Nat) : Prop where
  ok : StoreOk store'
  others : ∀ other ≠ adr, store'.pc other = store.pc other
  mem : ∀ other place, other ∈ store'.hash place ↔ other ≠ adr ∧ other ∈ store.hash place

/-- The call when its request is complete: as `check_if_complete` leaves it. -/
def PendingCall.routed (domain : Domain) (pc : PendingCall) (ipchdl : UInt32) : PendingCall :=
  { pc with
    call := { pc.putbuffer with
      handle := ipchdl
      svcid := domain.bestService pc.call.service pc.call.flags }
    status := .replypending
    dstMwid := pc.putbuffer.cltid
    dsthdl := ipchdl }

def PendingCall.reply (domain : Domain) (pc : PendingCall) : Call :=
  { pc.putbuffer with mtype := .svcreply, srvid := domain.myGatewayid }

/-- The call when a reply went to the caller and more replies follow. -/
def PendingCall.reset (domain : Domain) (pc : PendingCall) : PendingCall :=
  { pc with
    call := pc.reply domain
    status := .replypending
    data := []
    bufsize := 0
    datalen := 0 }

def CallStore.nextIpchdl (store : CallStore) (domain : Domain) : UInt32 :=
  UInt32.ofInt (mwNexthandle domain.irand store.handle)

section Changes

variable {store : CallStore} (ok : StoreOk store)
include ok

theorem freePendingCall_removed {adr : Nat} (below : adr < store.alloced) :
    Removed store (store.freePendingCall adr) adr := by
  refine ⟨freePendingCall_ok ok below, ?_, ?_⟩
  · simp_all [CallStore.freePendingCall, CallStore.setPc, CallStore.unlinkPendingCall]
  · intro other place
    exact ok.mem_unlinked

theorem setPc_placed {adr : Nat} (inBucket : adr ∈ store.hash bucket) (pc : PendingCall) :
    Placed store (store.setPc adr pc) adr pc bucket := by
  have notFree : adr ∉ store.freelist := fun inFree => (ok.free adr inFree).1 ⟨bucket, inBucket⟩
  refine ⟨ok.setPc notFree pc, by simp [CallStore.setPc], ?_, ?_⟩
  · simp_all [CallStore.setPc]
  · intro other place
    change other ∈ store.hash place ↔ _
    constructor
    · intro member
      by_cases same : other = adr
      · subst same
        exact Or.inl ⟨rfl, ok.bucket other place bucket member inBucket⟩
      · exact Or.inr ⟨same, member⟩
    · grind

theorem routeCall_placed (domain : Domain) {adr : Nat} (pending : store.Pending adr) :
    Placed store (store.routeCall domain adr) adr
      ((store.pc adr).routed domain (store.nextIpchdl domain))
      (mkhash (store.pc adr).putbuffer.cltid (store.nextIpchdl domain)) := by
  have notFree : adr ∉ store.freelist := fun inFree => (ok.free adr inFree).1 pending
  have changed := ok.setPc notFree ((store.pc adr).routed domain (store.nextIpchdl domain))
  have outside : ¬ (store.unlinkPendingCall adr).Pending adr := by
    simp [ok.pending_unlinked]
  have relinked := (changed.unlink adr).link outside (ok.not_mem_unlinked_freelist adr)
    (ok.alloced adr (Or.inl pending))
    (mkhash (store.pc adr).putbuffer.cltid (store.nextIpchdl domain))
  refine ⟨⟨relinked.nodup, relinked.bucket, relinked.freeNodup, relinked.free, relinked.alloced⟩,
    ?_, ?_, ?_⟩
  · change (if adr = adr then _ else _) = _
    rw [if_pos rfl]
    rfl
  · intro other different
    exact if_neg different
  · intro other place
    change other ∈ linked (unlinked store.hash adr) adr _ place ↔ _
    rw [mem_linked, ok.mem_unlinked]
    rfl

/-- The last reply releases the call. -/
theorem routeReply_removed (domain : Domain) {adr : Nat} (pending : store.Pending adr)
    (last : ((store.pc adr).reply domain).returncode ≠ mwMore) :
    Removed store (store.routeReply domain adr) adr := by
  have below := ok.alloced adr (Or.inl pending)
  rcases pending with ⟨bucket, member⟩
  have stored := setPc_placed ok member { store.pc adr with call := (store.pc adr).reply domain }
  have sent : StoreOk ((store.setPc adr { store.pc adr with
      call := (store.pc adr).reply domain }).ipcSendmessage (store.pc adr).srcMwid
      ((store.pc adr).reply domain)) :=
    ⟨stored.ok.nodup, stored.ok.bucket, stored.ok.freeNodup, stored.ok.free, stored.ok.alloced⟩
  have removed := freePendingCall_removed sent below
  have result : store.routeReply domain adr = ((store.setPc adr { store.pc adr with
      call := (store.pc adr).reply domain }).ipcSendmessage (store.pc adr).srcMwid
      ((store.pc adr).reply domain)).freePendingCall adr := if_pos last
  rw [result]
  refine ⟨removed.ok, ?_, removed.mem⟩
  intro other different
  exact (removed.others other different).trans (stored.others other different)

/-- A reply that is not the last leaves the call as it was before any reply. -/
theorem routeReply_placed (domain : Domain) {adr : Nat} (member : adr ∈ store.hash bucket)
    (more : ((store.pc adr).reply domain).returncode = mwMore) :
    Placed store (store.routeReply domain adr) adr ((store.pc adr).reset domain) bucket := by
  have stored := setPc_placed ok member { store.pc adr with call := (store.pc adr).reply domain }
  have sent : StoreOk ((store.setPc adr { store.pc adr with
      call := (store.pc adr).reply domain }).ipcSendmessage (store.pc adr).srcMwid
      ((store.pc adr).reply domain)) :=
    ⟨stored.ok.nodup, stored.ok.bucket, stored.ok.freeNodup, stored.ok.free, stored.ok.alloced⟩
  have placed := setPc_placed sent member ((store.pc adr).reset domain)
  have result : store.routeReply domain adr = ((store.setPc adr { store.pc adr with
      call := (store.pc adr).reply domain }).ipcSendmessage (store.pc adr).srcMwid
      ((store.pc adr).reply domain)).setPc adr ((store.pc adr).reset domain) :=
    if_neg (not_not.mpr more)
  rw [result]
  refine ⟨placed.ok, placed.pc, ?_, placed.mem⟩
  intro other different
  exact (placed.others other different).trans (stored.others other different)

end Changes

theorem routeReply_sent (store : CallStore) (domain : Domain) (adr : Nat) :
    (store.routeReply domain adr).sent =
      store.sent ++ [((store.pc adr).srcMwid, (store.pc adr).reply domain)] := by
  rw [CallStore.routeReply]
  split_ifs
  · rfl
  · rfl

theorem Placed.trans {store store' store'' : CallStore} {adr : Nat} {pc pc' : PendingCall}
    {bucket' : UInt8} (first : Placed store store' adr pc bucket)
    (second : Placed store' store'' adr pc' bucket') : Placed store store'' adr pc' bucket' := by
  refine ⟨second.ok, second.pc, ?_, ?_⟩
  · simp_all [second.others, first.others]
  · intro other place
    rw [second.mem, first.mem]
    constructor
    · grind
    · grind

theorem Taken.placed {store store' : CallStore} {srcid srchdl : UInt32} {adr : Nat}
    (taken : Taken store store' srcid srchdl adr) :
    Placed store store' adr { clearPendingCall with srcMwid := srcid, srchdl := srchdl }
      (mkhash srcid srchdl) := by
  refine ⟨taken.ok, taken.pc, taken.others, ?_⟩
  intro other place
  rw [taken.hash, mem_linked]
  constructor
  · rintro (here | member)
    · exact Or.inl here
    · refine Or.inr ⟨?_, member⟩
      rintro rfl
      exact taken.fresh ⟨place, member⟩
  · grind

/-- The call as a request without data leaves it. -/
def openedCall (domain : Domain) (mwid nethandle : UInt32) (map : Urlmap) (conn : Connection)
    (datatotal : Int) (service : List Byte) (instanceName domainname : Option (List Byte))
    (flags : UInt32) : PendingCall :=
  { clearPendingCall with
    srcMwid := mwid
    srchdl := nethandle
    srcconn := some conn
    status := .calldatapending
    callmsg := map
    datalen := datatotal
    call := { clearPendingCall.call with
      cltid := mwid
      srvid := unassigned
      gwid := domain.myGatewayid
      service := service.take mwMaxSvcName
      instanceName := (instanceName.getD []).take mwMaxNameLen
      domainname := (domainname.getD []).take mwMaxNameLen
      flags := flags } }

/-- What `check_if_complete` does to a call that has all its data or not: nothing,
or it routes the call under the next handle. -/
structure Checked (domain : Domain) (store store' : CallStore) (adr : Nat) (pc : PendingCall)
    (bucket : UInt8) : Prop where
  waiting : pc.datarecv ≠ pc.datalen → Placed store store' adr pc bucket ∧
    store'.handle = store.handle ∧ store'.sent = store.sent
  complete : pc.datarecv = pc.datalen →
    Placed store store' adr (pc.routed domain (store.nextIpchdl domain))
      (mkhash pc.call.cltid (store.nextIpchdl domain)) ∧
    store'.handle = mwNexthandle domain.irand store.handle ∧
    store'.sent = store.sent ++
      [(domain.providerByServiceid (domain.bestService pc.call.service pc.call.flags),
        (pc.routed domain (store.nextIpchdl domain)).call)]

theorem PendingCall.putbuffer_cltid (pc : PendingCall) : pc.putbuffer.cltid = pc.call.cltid := by
  grind [PendingCall.putbuffer]

theorem checkIfComplete_checked {store store' : CallStore} (domain : Domain) {adr : Nat}
    {pc : PendingCall} (placed : Placed store store' adr pc bucket)
    (rest : store'.handle = store.handle ∧ store'.sent = store.sent)
    (collecting : pc.status = .calldatapending) :
    Checked domain store (store'.checkIfComplete domain adr) adr pc bucket := by
  have pending : store'.Pending adr := ⟨bucket, (placed.mem adr bucket).mpr (Or.inl ⟨rfl, rfl⟩)⟩
  have sameNext : store'.nextIpchdl domain = store.nextIpchdl domain := by
    simp [CallStore.nextIpchdl, rest]
  rw [CallStore.checkIfComplete, placed.pc, collecting]
  simp only
  constructor
  · simp_all
  · intro complete
    rw [if_neg (not_not.mpr complete)]
    have routed := routeCall_placed placed.ok domain pending
    rw [placed.pc, sameNext, PendingCall.putbuffer_cltid] at routed
    refine ⟨placed.trans routed, ?_, ?_⟩
    · rw [← rest.1]
      rfl
    · rw [← rest.2, ← placed.pc, ← sameNext]
      rfl

theorem storeSRBCall_checked {store : CallStore} (ok : StoreOk store) (domain : Domain)
    (mwid nethandle : UInt32) (map : Urlmap) (conn : Connection) (datatotal : Int)
    (service : List Byte) (instanceName domainname : Option (List Byte)) (flags : UInt32) :
    ∃ adr, ¬ store.Pending adr ∧
      Checked domain store (store.storeSRBCall domain mwid nethandle map conn datatotal service
          instanceName domainname flags) adr
        (openedCall domain mwid nethandle map conn datatotal service instanceName domainname flags)
        (mkhash mwid nethandle) := by
  have taken := newPendingCall_taken ok mwid nethandle
  rw [CallStore.storeSRBCall]
  generalize store.newPendingCall mwid nethandle = result at taken
  rcases result with ⟨adr, store'⟩
  have zero : store'.pc adr = _ := taken.pc
  refine ⟨adr, taken.fresh, ?_⟩
  simp only [zero]
  have linkedHere : adr ∈ store'.hash (mkhash mwid nethandle) :=
    (taken.placed.mem adr _).mpr (Or.inl ⟨rfl, rfl⟩)
  have placed := taken.placed.trans (setPc_placed taken.ok linkedHere
    (openedCall domain mwid nethandle map conn datatotal service instanceName domainname flags))
  exact checkIfComplete_checked domain placed taken.rest rfl

/-- The total of the call when this data is the next: what was announced, else the
length of the data. -/
def PendingCall.total (pc : PendingCall) (data : List Byte) : Int :=
  if pc.datalen < 0 then (data.length : Int) else pc.datalen

def PendingCall.received (domain : Domain) (pc : PendingCall) (data : List Byte) : PendingCall :=
  { pc with
    datalen := pc.total data
    bufsize := if pc.bufsize = 0 ∧ domain.mwalloc (pc.total data) then pc.total data
      else pc.bufsize
    data := pc.data ++ data }

def PendingCall.Fits (pc : PendingCall) (data : List Byte) : Prop :=
  pc.datarecv + data.length ≤ pc.total data

/-- The data stays within the buffer, the one the call has or the one it gets. -/
def PendingCall.Granted (domain : Domain) (pc : PendingCall) (data : List Byte) : Prop :=
  data ≠ [] → pc.datarecv + data.length ≤ (pc.received domain data).bufsize

/-- The call has no buffer, or one for its total, and its data is in it. -/
structure PendingCall.Buffered (pc : PendingCall) : Prop where
  size : pc.bufsize = 0 ∨ pc.bufsize = pc.datalen
  data : pc.datarecv ≤ pc.bufsize

section Buffers

variable {pc : PendingCall} (buffered : pc.Buffered) {data : List Byte}
include buffered

/-- Once there is a buffer, its size is the total. -/
theorem PendingCall.Buffered.size_received (domain : Domain) :
    (pc.received domain data).bufsize = 0 ∨
      (pc.received domain data).bufsize = (pc.received domain data).datalen := by
  simp only [PendingCall.received]
  split_ifs with fresh
  · exact Or.inr rfl
  · rcases buffered.size with noBuffer | isTotal
    · exact Or.inl noBuffer
    · have nonneg : ¬ pc.datalen < 0 := by
        have := buffered.data
        rw [PendingCall.datarecv] at this
        omega
      simp_all [PendingCall.total, if_neg, Or.inr]

theorem PendingCall.Buffered.received (granted : pc.Granted domain data) :
    (pc.received domain data).Buffered := by
  refine ⟨buffered.size_received domain, ?_⟩
  have count : (pc.received domain data).datarecv = pc.datarecv + data.length := by
    simp [PendingCall.datarecv, PendingCall.received]
  rw [count]
  by_cases empty : data = []
  · have before := buffered.data
    subst empty
    simp only [PendingCall.received, PendingCall.datarecv, List.length_nil] at before ⊢
    split_ifs with fresh
    · grind [PendingCall.total, List.length_nil]
    · omega
  · exact granted empty

/-- Data within the total, when the call has a buffer or shared memory has one. -/
theorem PendingCall.Buffered.granted (fits : pc.Fits data)
    (hasBlock : pc.bufsize = 0 → domain.mwalloc (pc.total data) = true) :
    pc.Granted domain data := by
  intro nonempty
  have positive := List.length_pos_iff.mpr nonempty
  have total : (pc.received domain data).bufsize = pc.total data := by
    rcases buffered.size_received domain with noBuffer | isTotal
    · simp only [PendingCall.received] at noBuffer ⊢
      grind
    · exact isTotal
  rw [total]
  exact fits

end Buffers

theorem storeSRBData_found {store : CallStore} (domain : Domain) {adr : Nat} {data : List Byte}
    (found : store.lookupPendingCall mwid nethandle = some adr) (fits : (store.pc adr).Fits data)
    (granted : (store.pc adr).Granted domain data) :
    store.storeSRBData domain mwid nethandle data =
      .ok ((store.setPc adr ((store.pc adr).received domain data)).checkIfComplete domain adr) := by
  have hasRoom : ¬ (data ≠ [] ∧ ((store.pc adr).received domain data).bufsize <
      (store.pc adr).datarecv + data.length) := by
    rintro ⟨nonempty, short⟩
    have := granted nonempty
    omega
  rw [CallStore.storeSRBData, found]
  exact (if_pos fits).trans (if_neg hasRoom)

theorem storeSRBData_collecting {store : CallStore} (ok : StoreOk store) (domain : Domain)
    {adr : Nat} {data : List Byte} (found : store.lookupPendingCall mwid nethandle = some adr)
    (inBucket : adr ∈ store.hash bucket) (collecting : (store.pc adr).status = .calldatapending)
    (fits : (store.pc adr).Fits data) (granted : (store.pc adr).Granted domain data) :
    ∃ store', store.storeSRBData domain mwid nethandle data = .ok store' ∧
      Checked domain store store' adr ((store.pc adr).received domain data) bucket := by
  refine ⟨_, storeSRBData_found domain found fits granted, ?_⟩
  exact checkIfComplete_checked domain (setPc_placed ok inBucket _) ⟨rfl, rfl⟩ collecting

theorem storeSRBData_refused {store : CallStore} (domain : Domain) {adr : Nat} {data : List Byte}
    (found : store.lookupPendingCall mwid nethandle = some adr) (fits : (store.pc adr).Fits data)
    (refused : ¬ (store.pc adr).Granted domain data) :
    store.storeSRBData domain mwid nethandle data = .error .bufferOverrun := by
  simp only [PendingCall.Granted, Classical.not_imp, Int.not_le] at refused
  rw [CallStore.storeSRBData, found]
  exact (if_pos fits).trans (if_pos refused)

theorem storeSRBData_overrun {store : CallStore} (domain : Domain) {adr : Nat} {data : List Byte}
    (found : store.lookupPendingCall mwid nethandle = some adr)
    (overrun : ¬ (store.pc adr).Fits data) :
    store.storeSRBData domain mwid nethandle data = .error .assertion := by
  rw [CallStore.storeSRBData, found]
  exact if_neg overrun

theorem storeSRBData_ok {store store' : CallStore} (domain : Domain) {adr : Nat} {data : List Byte}
    (found : store.lookupPendingCall mwid nethandle = some adr)
    (result : store.storeSRBData domain mwid nethandle data = .ok store') :
    (store.pc adr).Fits data ∧ (store.pc adr).Granted domain data := by
  by_cases fits : (store.pc adr).Fits data
  · refine ⟨fits, ?_⟩
    grind [storeSRBData_refused]
  · rw [storeSRBData_overrun domain found fits] at result
    cases result

theorem storeSRBData_checked {store store' : CallStore} (ok : StoreOk store) (domain : Domain)
    {adr : Nat} {data : List Byte} (found : store.lookupPendingCall mwid nethandle = some adr)
    (inBucket : adr ∈ store.hash bucket) (collecting : (store.pc adr).status = .calldatapending)
    (result : store.storeSRBData domain mwid nethandle data = .ok store') :
    Checked domain store store' adr ((store.pc adr).received domain data) bucket := by
  rcases storeSRBData_ok domain found result with ⟨fits, granted⟩
  grind [storeSRBData_collecting]

theorem Checked.data {store store' : CallStore} {adr : Nat} {pc : PendingCall}
    (checked : Checked domain store store' adr pc bucket) :
    (store'.pc adr).data = pc.data ∧ ∀ other ≠ adr, store'.pc other = store.pc other := by
  by_cases complete : pc.datarecv = pc.datalen
  · rcases checked.complete complete with ⟨placed, -⟩
    exact ⟨by rw [placed.pc]; rfl, placed.others⟩
  · rcases checked.waiting complete with ⟨placed, -⟩
    exact ⟨by rw [placed.pc], placed.others⟩

theorem setPc_self (store : CallStore) (adr : Nat) : store.setPc adr (store.pc adr) = store := by
  rw [CallStore.setPc]
  congr 1
  funext other
  split_ifs with same
  · rw [same]
  · rfl

/-- A call that waits for its reply takes no more data. -/
theorem storeSRBData_complete {store store' : CallStore} (domain : Domain) {adr : Nat}
    {data : List Byte} (found : store.lookupPendingCall mwid nethandle = some adr)
    (routed : (store.pc adr).status = .replypending)
    (complete : (store.pc adr).datarecv = (store.pc adr).datalen)
    (buffered : (store.pc adr).datarecv ≤ (store.pc adr).bufsize)
    (result : store.storeSRBData domain mwid nethandle data = .ok store') : store' = store := by
  rcases storeSRBData_ok domain found result with ⟨fits, granted⟩
  have total : (store.pc adr).total data = (store.pc adr).datalen := by
    rw [PendingCall.total, if_neg]
    rw [← complete, PendingCall.datarecv]
    omega
  have noData : data = [] := by
    rw [PendingCall.Fits, total, complete] at fits
    exact List.length_eq_zero_iff.mp (by omega)
  have sameBuffer : (if (store.pc adr).bufsize = 0 ∧ domain.mwalloc (store.pc adr).datalen
      then (store.pc adr).datalen else (store.pc adr).bufsize) = (store.pc adr).bufsize := by
    split_ifs with fresh
    · grind [PendingCall.datarecv]
    · rfl
  have unchanged : (store.pc adr).received domain data = store.pc adr := by
    rw [PendingCall.received, total, sameBuffer, noData, List.append_nil]
  grind [storeSRBData_found, setPc_self, CallStore.checkIfComplete, Except.ok.inj]

structure AllCalls (property : PendingCall → Prop) (store : CallStore) : Prop where
  ok : StoreOk store
  all : ∀ adr, store.Pending adr → property (store.pc adr)

theorem AllCalls.empty (property : PendingCall → Prop) : AllCalls property emptyStore :=
  ⟨emptyStore_ok, fun adr pending => absurd pending (emptyStore_not_pending adr)⟩

section AllCalls

variable {property : PendingCall → Prop} {store store' : CallStore} {adr : Nat}
  (calls : AllCalls property store)
include calls

theorem AllCalls.place {pc : PendingCall} (placed : Placed store store' adr pc bucket)
    (holds : property pc) :
    AllCalls property store' := by
  refine ⟨placed.ok, ?_⟩
  intro other pending
  rcases pending with ⟨place, member⟩
  rcases (placed.mem other place).mp member with ⟨rfl, -⟩ | ⟨different, before⟩
  · simp [placed.pc, holds]
  · rw [placed.others other different]
    exact calls.all other ⟨place, before⟩

theorem AllCalls.remove (removed : Removed store store' adr) : AllCalls property store' := by
  refine ⟨removed.ok, ?_⟩
  intro other pending
  rcases pending with ⟨place, member⟩
  rcases (removed.mem other place).mp member with ⟨different, before⟩
  rw [removed.others other different]
  exact calls.all other ⟨place, before⟩

theorem AllCalls.setPc (pending : store.Pending adr) {pc : PendingCall} (holds : property pc) :
    AllCalls property (store.setPc adr pc) := by
  rcases pending with ⟨bucket, member⟩
  exact calls.place (setPc_placed calls.ok member pc) holds

theorem AllCalls.free (below : adr < store.alloced) :
    AllCalls property (store.freePendingCall adr) :=
  calls.remove (freePendingCall_removed calls.ok below)

theorem AllCalls.routeReply (domain : Domain) (pending : store.Pending adr)
    (reset : ((store.pc adr).reply domain).returncode = mwMore →
      property ((store.pc adr).reset domain)) :
    AllCalls property (store.routeReply domain adr) := by
  by_cases more : ((store.pc adr).reply domain).returncode = mwMore
  · rcases pending with ⟨bucket, member⟩
    exact calls.place (routeReply_placed calls.ok domain member more) (reset more)
  · exact calls.remove (routeReply_removed calls.ok domain pending more)

theorem AllCalls.checkIfComplete (domain : Domain) (pending : store.Pending adr)
    (routed : (store.pc adr).status = .calldatapending →
      (store.pc adr).datarecv = (store.pc adr).datalen →
      property ((store.pc adr).routed domain (store.nextIpchdl domain)))
    (reset : (store.pc adr).status = .replydatapending →
      ((store.pc adr).reply domain).returncode = mwMore →
      property ((store.pc adr).reset domain)) :
    AllCalls property (store.checkIfComplete domain adr) := by
  rw [CallStore.checkIfComplete]
  cases status : (store.pc adr).status with
  | free => exact calls
  | replypending => exact calls
  | calldatapending =>
      simp only
      split_ifs with waits
      · exact calls
      · exact calls.place (routeCall_placed calls.ok domain pending)
          (routed status (not_not.mp waits))
  | replydatapending =>
      simp only
      split_ifs with waits
      · exact calls
      · exact calls.routeReply domain pending (reset status)

theorem AllCalls.storeSRBCall (domain : Domain) (mwid nethandle : UInt32) (map : Urlmap)
    (conn : Connection) (datatotal : Int) (service : List Byte)
    (instanceName domainname : Option (List Byte)) (flags : UInt32)
    (opened : property (openedCall domain mwid nethandle map conn datatotal service instanceName
      domainname flags))
    (routed : datatotal = 0 → property ((openedCall domain mwid nethandle map conn datatotal
      service instanceName domainname flags).routed domain (store.nextIpchdl domain))) :
    AllCalls property (store.storeSRBCall domain mwid nethandle map conn datatotal service
      instanceName domainname flags) := by
  rcases storeSRBCall_checked calls.ok domain mwid nethandle map conn datatotal service
    instanceName domainname flags with ⟨place, -, checked⟩
  by_cases complete : datatotal = 0
  · exact calls.place (checked.complete complete.symm).1 (routed complete)
  · exact calls.place (checked.waiting (Ne.symm complete)).1 opened

theorem AllCalls.foldl_free {released : List Nat} (below : ∀ adr ∈ released, adr < store.alloced) :
    AllCalls property (released.foldl CallStore.freePendingCall store) := by
  induction released generalizing store with
  | nil => exact calls
  | cons first rest ih =>
      apply ih (calls.free (below first List.mem_cons_self))
      intro other member
      exact below other (List.mem_cons_of_mem first member)

theorem AllCalls.storeSRBClearClient (mwid : UInt32) :
    AllCalls property (store.storeSRBClearClient mwid) := by
  apply calls.foldl_free
  intro other member
  rcases List.mem_flatMap.mp (List.mem_of_mem_filter member) with ⟨index, -, inBucket⟩
  exact calls.ok.alloced other (Or.inl ⟨_, inBucket⟩)

theorem AllCalls.storeIPCReply {cmsg : Call} {answer : Option (Connection × Urlmap)}
    (result : store.storeIPCReply cmsg = .ok (answer, store')) : AllCalls property store' := by
  rw [CallStore.storeIPCReply] at result
  cases found : store.lookupPendingCall cmsg.callerMwid cmsg.handle with
  | none =>
      simp_all
  | some place =>
      have below : place < store.alloced :=
        calls.ok.alloced place (Or.inl ⟨_, List.mem_of_find?_eq_some found⟩)
      simp only [found] at result
      cases hasConn : (store.pc place).srcconn with
      | none =>
          simp [hasConn] at result
      | some conn =>
          simp only [hasConn] at result
          split_ifs at result
          · simp_all
          · simp_all
          · cases result
            exact calls.free below

end AllCalls

end MidWay.Gateway

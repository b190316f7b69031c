import Mathlib.Data.List.Find
import MidWay.Gateway.StoreLists
import MidWay.Gateway.SrbServer

/-!
Contract: what the call store does for one client leaves the calls of the others
as they are.

Every operation changes one struct, and takes only that one out of a list or puts
it in front of one. The pending calls of another client stay in their order, so
a lookup for that client finds what it found before.

Owns: `WellStore`, `ActsOn`, `Untouched`, and the operations and handlers as
instances of them.
-/

namespace MidWay.Gateway

open MidWay.CLib MidWay.Url MidWay.Srb

variable {adr : Nat} {mwid owner nethandle hdl : UInt32} {store'' : CallStore} {data : List Byte}

/-- The call is issued in the name of its client, its destination tuple is either
not set or names the client too, and there is a connection to answer on. -/
structure PendingCall.Owned (pc : PendingCall) : Prop where
  cltid : pc.call.cltid = pc.srcMwid
  dst : pc.dstMwid = 0 ∨ pc.dstMwid = pc.srcMwid
  conn : pc.srcconn ≠ none

structure WellStore (store : CallStore) : Prop where
  ok : StoreOk store
  owned : ∀ adr, store.Pending adr → (store.pc adr).Owned

/-- The pending calls of a client in a bucket, in the order of the links. -/
def CallStore.callsOf (store : CallStore) (mwid : UInt32) (bucket : UInt8) : List Nat :=
  (store.hash bucket).filter fun adr => (store.pc adr).srcMwid == mwid

def CallStore.sentFor (store : CallStore) (mwid : UInt32) : List (UInt32 × Call) :=
  store.sent.filter fun message => message.2.cltid == mwid

structure Untouched (mwid : UInt32) (store store' : CallStore) : Prop where
  calls : ∀ bucket, store'.callsOf mwid bucket = store.callsOf mwid bucket
  pc : ∀ bucket, ∀ adr ∈ store.callsOf mwid bucket, store'.pc adr = store.pc adr
  sent : store'.sentFor mwid = store.sentFor mwid

theorem Untouched.refl (mwid : UInt32) (store : CallStore) : Untouched mwid store store :=
  ⟨fun _ => rfl, fun _ _ _ => rfl, rfl⟩

theorem Untouched.trans {store store' : CallStore} (first : Untouched mwid store store')
    (second : Untouched mwid store' store'') :
    Untouched mwid store store'' := by
  refine ⟨?_, ?_, second.sent.trans first.sent⟩
  · simp [second.calls, first.calls]
  · intro bucket adr member
    have still : adr ∈ store'.callsOf mwid bucket := by
      simp [first.calls, member]
    rw [second.pc bucket adr still, first.pc bucket adr member]

theorem PendingCall.Owned.srcMwid {pc : PendingCall} (owned : pc.Owned) (client : mwid ≠ 0)
    (matched : pc.hasTuple mwid hdl = true) : pc.srcMwid = mwid := by
  simp only [PendingCall.hasTuple, Bool.or_eq_true, Bool.and_eq_true, beq_iff_eq] at matched
  rcases matched with ⟨isDst, -⟩ | ⟨isSrc, -⟩
  · rcases owned.dst with unset | same
    · exact absurd (isDst.symm.trans unset) client
    · exact same.symm.trans isDst
  · exact isSrc

theorem WellStore.lookup_eq {store : CallStore} (well : WellStore store) (client : mwid ≠ 0)
    (hdl : UInt32) :
    store.lookupPendingCall mwid hdl =
      (store.callsOf mwid (mkhash mwid hdl)).find? fun adr => (store.pc adr).hasTuple mwid hdl := by
  rw [CallStore.lookupPendingCall, CallStore.callsOf, List.find?_filter]
  apply List.find?_congr
  intro adr member
  cases matched : (store.pc adr).hasTuple mwid hdl with
  | false => simp
  | true => simp [(well.owned adr ⟨_, member⟩).srcMwid client matched]

theorem WellStore.lookup_mem {store : CallStore} (well : WellStore store) (client : mwid ≠ 0)
    (found : store.lookupPendingCall mwid hdl = some adr) :
    adr ∈ store.callsOf mwid (mkhash mwid hdl) := by
  rw [well.lookup_eq client] at found
  exact List.mem_of_find?_eq_some found

theorem WellStore.lookup_owner {store : CallStore} (well : WellStore store) (client : mwid ≠ 0)
    (found : store.lookupPendingCall mwid hdl = some adr) :
    store.Pending adr ∧ (store.pc adr).srcMwid = mwid := by
  have member := well.lookup_mem client found
  rw [CallStore.callsOf, List.mem_filter] at member
  exact ⟨⟨_, member.1⟩, by simpa using member.2⟩

theorem Untouched.lookup {store store' : CallStore} (untouched : Untouched mwid store store')
    (well : WellStore store) (well' : WellStore store') (client : mwid ≠ 0) (hdl : UInt32) :
    store'.lookupPendingCall mwid hdl = store.lookupPendingCall mwid hdl := by
  rw [well.lookup_eq client, well'.lookup_eq client, untouched.calls]
  apply List.find?_congr
  intro adr member
  rw [untouched.pc _ adr member]

/-- Only this struct changes, and the others keep their places. -/
structure ChangesOnly (adr : Nat) (store store' : CallStore) : Prop where
  others : ∀ other ≠ adr, store'.pc other = store.pc other
  order : ∀ bucket, (store'.hash bucket).filter (· ≠ adr) = (store.hash bucket).filter (· ≠ adr)

theorem ChangesOnly.trans {store store' : CallStore} (first : ChangesOnly adr store store')
    (second : ChangesOnly adr store' store'') :
    ChangesOnly adr store store'' := by
  refine ⟨?_, fun bucket => (second.order bucket).trans (first.order bucket)⟩
  simp_all [second.others, first.others]

theorem setPc_changes (store : CallStore) (adr : Nat) (pc : PendingCall) :
    ChangesOnly adr store (store.setPc adr pc) := by
  refine ⟨?_, fun _ => rfl⟩
  simp_all [CallStore.setPc, if_neg]

theorem linkPendingCall_changes (store : CallStore) (adr : Nat) (bucket : UInt8) :
    ChangesOnly adr store (store.linkPendingCall adr bucket) := by
  refine ⟨fun _ _ => rfl, ?_⟩
  grind [CallStore.linkPendingCall]

theorem unlinkPendingCall_changes (store : CallStore) (adr : Nat) :
    ChangesOnly adr store (store.unlinkPendingCall adr) := by
  refine ⟨fun _ _ => rfl, ?_⟩
  grind [CallStore.unlinkPendingCall, List.erase_filter, List.erase_of_not_mem]

theorem takeStruct_changes (store : CallStore) :
    ChangesOnly store.takeStruct.1 store store.takeStruct.2 := by
  rcases store with ⟨pcs, hash, freelist, alloced, handle, sent⟩
  cases freelist with
  | nil => exact ⟨(setPc_changes _ _ _).others, fun _ => rfl⟩
  | cons adr rest => exact unlinkPendingCall_changes _ adr

theorem newPendingCall_changes (store : CallStore) (srcid srchdl : UInt32) :
    ChangesOnly (store.newPendingCall srcid srchdl).1 store
      (store.newPendingCall srcid srchdl).2 := by
  have taken := takeStruct_changes store
  rw [CallStore.newPendingCall]
  generalize store.takeStruct = result at taken
  rcases result with ⟨adr, store'⟩
  exact taken.trans ((setPc_changes _ adr _).trans (linkPendingCall_changes _ adr _))

theorem freePendingCall_changes (store : CallStore) (adr : Nat) :
    ChangesOnly adr store (store.freePendingCall adr) := by
  have changes := (unlinkPendingCall_changes store adr).trans
    (setPc_changes _ adr clearPendingCall)
  exact ⟨changes.others, changes.order⟩

structure ActsOn (owner : UInt32) (adr : Nat) (store store' : CallStore) : Prop where
  well : WellStore store'
  only : ChangesOnly adr store store'
  before : store.Pending adr → (store.pc adr).srcMwid = owner
  after : store'.Pending adr → (store'.pc adr).srcMwid = owner
  sent : ∃ messages, store'.sent = store.sent ++ messages ∧
    ∀ message ∈ messages, message.2.cltid = owner

theorem ActsOn.trans {store store' : CallStore} (first : ActsOn owner adr store store')
    (second : ActsOn owner adr store' store'') :
    ActsOn owner adr store store'' := by
  refine ⟨second.well, first.only.trans second.only, first.before, second.after, ?_⟩
  rcases first.sent with ⟨messages, grown, owned⟩
  rcases second.sent with ⟨more, grownMore, ownedMore⟩
  grind

theorem ActsOn.untouched {store store' : CallStore} (acts : ActsOn owner adr store store')
    (different : mwid ≠ owner) :
    Untouched mwid store store' := by
  -- The struct is no call of this client, before and after.
  have dropBefore : ∀ bucket, store.callsOf mwid bucket =
      ((store.hash bucket).filter (· ≠ adr)).filter fun other =>
        (store.pc other).srcMwid == mwid := by
    intro bucket
    rw [List.filter_filter, CallStore.callsOf]
    apply List.filter_congr
    intro other member
    by_cases same : other = adr
    · subst same
      have foreign : ((store.pc other).srcMwid == mwid) = false := by
        rw [acts.before ⟨bucket, member⟩]
        exact beq_false_of_ne (Ne.symm different)
      rw [foreign, Bool.false_and]
    · simp [same]
  have dropAfter : ∀ bucket, store'.callsOf mwid bucket =
      ((store'.hash bucket).filter (· ≠ adr)).filter fun other =>
        (store.pc other).srcMwid == mwid := by
    intro bucket
    rw [List.filter_filter, CallStore.callsOf]
    apply List.filter_congr
    intro other member
    by_cases same : other = adr
    · subst same
      have foreign : ((store'.pc other).srcMwid == mwid) = false := by
        rw [acts.after ⟨bucket, member⟩]
        exact beq_false_of_ne (Ne.symm different)
      simp [foreign]
    · simp [same, acts.only.others other same]
  refine ⟨?_, ?_, ?_⟩
  · intro bucket
    rw [dropAfter, dropBefore, acts.only.order]
  · simp_all [acts.only.others]
  · rcases acts.sent with ⟨messages, grown, owned⟩
    rw [CallStore.sentFor, CallStore.sentFor, grown, List.filter_append]
    have none : messages.filter (fun message => message.2.cltid == mwid) = [] := by
      grind [List.filter_eq_nil_iff]
    rw [none, List.append_nil]

section Operations

variable {store : CallStore} (well : WellStore store)
include well

theorem WellStore.acts_refl (isOwner : (store.pc adr).srcMwid = owner) :
    ActsOn owner adr store store :=
  ⟨well, ⟨fun _ _ => rfl, fun _ => rfl⟩, fun _ => isOwner, fun _ => isOwner, [], by simp, by simp⟩

theorem WellStore.place {store' : CallStore} {pc : PendingCall} {bucket : UInt8}
    (placed : Placed store store' adr pc bucket) (owned : pc.Owned) : WellStore store' := by
  refine ⟨placed.ok, ?_⟩
  rintro other ⟨place, member⟩
  rcases (placed.mem other place).mp member with ⟨rfl, -⟩ | ⟨different, before⟩
  · simp [placed.pc, owned]
  · rw [placed.others other different]
    exact well.owned other ⟨place, before⟩

theorem setPc_acts (pending : store.Pending adr) (isOwner : (store.pc adr).srcMwid = owner)
    (pc : PendingCall) (owned : pc.Owned) (sameOwner : pc.srcMwid = owner) :
    ActsOn owner adr store (store.setPc adr pc) := by
  rcases pending with ⟨bucket, member⟩
  have placed := setPc_placed well.ok member pc
  refine ⟨well.place placed owned, setPc_changes store adr pc, fun _ => isOwner, ?_,
    [], by simp [CallStore.setPc], by simp⟩
  intro _
  rw [placed.pc]
  exact sameOwner

theorem pending_freePendingCall {other : Nat} :
    (store.freePendingCall adr).Pending other ↔ other ≠ adr ∧ store.Pending other :=
  well.ok.pending_unlinked

theorem freePendingCall_acts (below : adr < store.alloced)
    (isOwner : store.Pending adr → (store.pc adr).srcMwid = owner) :
    ActsOn owner adr store (store.freePendingCall adr) := by
  have changes := freePendingCall_changes store adr
  refine ⟨⟨freePendingCall_ok well.ok below, ?_⟩, changes, isOwner, ?_, [], ?_, by simp⟩
  · intro other pending
    rcases (pending_freePendingCall well).mp pending with ⟨different, before⟩
    simp_all [changes.others, well.owned]
  · grind [pending_freePendingCall]
  · simp [CallStore.freePendingCall, CallStore.setPc, CallStore.unlinkPendingCall]

theorem ipcSendmessage_acts (id : UInt32) {call : Call} (isOwner : (store.pc adr).srcMwid = owner)
    (named : call.cltid = owner) :
    ActsOn owner adr store (store.ipcSendmessage id call) := by
  refine ⟨⟨⟨well.ok.nodup, well.ok.bucket, well.ok.freeNodup, well.ok.free, well.ok.alloced⟩,
    well.owned⟩, ⟨fun _ _ => rfl, fun _ => rfl⟩, fun _ => isOwner, fun _ => isOwner,
    [(id, call)], rfl, ?_⟩
  simp [named]

theorem routeCall_acts (domain : Domain) (pending : store.Pending adr)
    (isOwner : (store.pc adr).srcMwid = owner) :
    ActsOn owner adr store (store.routeCall domain adr) := by
  have named : (store.pc adr).putbuffer.cltid = owner := by
    rw [PendingCall.putbuffer_cltid, (well.owned adr pending).cltid, isOwner]
  have placed := routeCall_placed well.ok domain pending
  have owned : ((store.pc adr).routed domain (store.nextIpchdl domain)).Owned :=
    ⟨named.trans isOwner.symm, Or.inr (named.trans isOwner.symm), (well.owned adr pending).conn⟩
  refine ⟨well.place placed owned, ?_, fun _ => isOwner, ?_, ?_⟩
  · have changes := ((setPc_changes { store with handle := mwNexthandle domain.irand store.handle }
      adr ((store.pc adr).routed domain (store.nextIpchdl domain))).trans
      (unlinkPendingCall_changes _ adr)).trans (linkPendingCall_changes _ adr
        (mkhash (store.pc adr).putbuffer.cltid (store.nextIpchdl domain)))
    exact ⟨changes.others, changes.order⟩
  · intro _
    rw [placed.pc]
    exact isOwner
  · refine ⟨[_], rfl, ?_⟩
    simp [named]

theorem routeReply_acts (domain : Domain) (pending : store.Pending adr)
    (isOwner : (store.pc adr).srcMwid = owner) :
    ActsOn owner adr store (store.routeReply domain adr) := by
  have owned := well.owned adr pending
  have named : (store.pc adr).putbuffer.cltid = owner := by
    rw [PendingCall.putbuffer_cltid, owned.cltid, isOwner]
  rw [CallStore.routeReply]
  generalize replied : ({ (store.pc adr).putbuffer with
    mtype := .svcreply, srvid := domain.myGatewayid } : Call) = call
  have callNamed : call.cltid = owner := by
    grind
  have stored := setPc_acts well pending isOwner { store.pc adr with call := call }
    ⟨callNamed.trans isOwner.symm, owned.dst, owned.conn⟩ isOwner
  have sent := ipcSendmessage_acts stored.well (store.pc adr).srcMwid (stored.after pending)
    callNamed
  split_ifs with last
  · apply (stored.trans sent).trans
    exact freePendingCall_acts sent.well (well.ok.alloced adr (Or.inl pending))
      (stored.trans sent).after
  · apply (stored.trans sent).trans
    exact setPc_acts sent.well pending ((stored.trans sent).after pending) _
      ⟨callNamed.trans isOwner.symm, owned.dst, owned.conn⟩ isOwner

theorem checkIfComplete_acts (domain : Domain) (pending : store.Pending adr)
    (isOwner : (store.pc adr).srcMwid = owner) :
    ActsOn owner adr store (store.checkIfComplete domain adr) := by
  rw [CallStore.checkIfComplete]
  cases status : (store.pc adr).status with
  | calldatapending =>
      simp only
      split_ifs
      · exact well.acts_refl isOwner
      · exact routeCall_acts well domain pending isOwner
  | replydatapending =>
      simp only
      split_ifs
      · exact well.acts_refl isOwner
      · exact routeReply_acts well domain pending isOwner
  | free => exact well.acts_refl isOwner
  | replypending => exact well.acts_refl isOwner

/-- A call is opened for the client. -/
theorem storeSRBCall_acts (domain : Domain) (mwid nethandle : UInt32) (map : Urlmap)
    (conn : Connection) (datatotal : Int) (service : List Byte)
    (instanceName domainname : Option (List Byte)) (flags : UInt32) :
    ∃ adr, ActsOn mwid adr store (store.storeSRBCall domain mwid nethandle map conn datatotal service
      instanceName domainname flags) := by
  have taken := newPendingCall_taken well.ok mwid nethandle
  have changes := newPendingCall_changes store mwid nethandle
  rw [CallStore.storeSRBCall]
  generalize store.newPendingCall mwid nethandle = result at taken changes
  rcases result with ⟨adr, store'⟩
  have zero : store'.pc adr = _ := taken.pc
  have linkedHere : adr ∈ store'.hash (mkhash mwid nethandle) :=
    (taken.placed.mem adr _).mpr (Or.inl ⟨rfl, rfl⟩)
  refine ⟨adr, ?_⟩
  simp only [zero]
  have placed := taken.placed.trans (setPc_placed taken.ok linkedHere
    (openedCall domain mwid nethandle map conn datatotal service instanceName domainname flags))
  have opened : ActsOn mwid adr store (store'.setPc adr
      (openedCall domain mwid nethandle map conn datatotal service instanceName domainname flags)) := by
    refine ⟨well.place placed ⟨rfl, Or.inl rfl, Option.some_ne_none _⟩, changes.trans (setPc_changes store' adr _), ?_, ?_,
      [], ?_, by simp⟩
    · simp [taken.fresh]
    · intro _
      rw [placed.pc]
      rfl
    · simpa [CallStore.setPc] using taken.rest.2
  have pending : (store'.setPc adr (openedCall domain mwid nethandle map conn datatotal service
      instanceName domainname flags)).Pending adr := ⟨_, linkedHere⟩
  exact opened.trans (checkIfComplete_acts opened.well domain pending (opened.after pending))

/-- Data changes the call that is found, or nothing. -/
theorem storeSRBData_acts {store' : CallStore} (domain : Domain) (client : mwid ≠ 0)
    (result : store.storeSRBData domain mwid nethandle data = .ok store') :
    store' = store ∨ ∃ adr, ActsOn mwid adr store store' := by
  cases found : store.lookupPendingCall mwid nethandle with
  | none =>
      simp_all [CallStore.storeSRBData, Or.inl]
  | some adr =>
      rcases storeSRBData_ok domain found result with ⟨fits, granted⟩
      rw [storeSRBData_found domain found fits granted] at result
      cases result
      rcases well.lookup_owner client found with ⟨pending, isOwner⟩
      have received := setPc_acts well pending isOwner ((store.pc adr).received domain data)
        ⟨(well.owned adr pending).cltid, (well.owned adr pending).dst,
          (well.owned adr pending).conn⟩ isOwner
      exact Or.inr ⟨adr, received.trans
        (checkIfComplete_acts received.well domain pending (received.after pending))⟩

theorem storeSRBReply_acts {store' : CallStore} (domain : Domain) (client : mwid ≠ 0)
    {rcode apprcode datatotal : Int}
    (result : store.storeSRBReply domain mwid nethandle rcode apprcode datatotal = .ok store') :
    store' = store ∨ ∃ adr, ActsOn mwid adr store store' := by
  rw [CallStore.storeSRBReply] at result
  cases found : store.lookupPendingCall mwid nethandle with
  | none =>
      simp_all [Or.inl]
  | some adr =>
      simp only [found] at result
      split_ifs at result
      cases result
      rcases well.lookup_owner client found with ⟨pending, isOwner⟩
      have replied := setPc_acts well pending isOwner
        { store.pc adr with
          call := { (store.pc adr).call with returncode := rcode, appreturncode := apprcode }
          status := .replydatapending
          datalen := datatotal }
        ⟨(well.owned adr pending).cltid, (well.owned adr pending).dst,
          (well.owned adr pending).conn⟩ isOwner
      exact Or.inr ⟨adr, replied.trans
        (checkIfComplete_acts replied.well domain pending (replied.after pending))⟩

/-- A reply of a server releases the call that is found, whosever it is, or nothing. -/
theorem storeIPCReply_acts {store' : CallStore} {cmsg : Call}
    {answer : Option (Connection × Urlmap)}
    (result : store.storeIPCReply cmsg = .ok (answer, store')) :
    store' = store ∨ ∃ adr, store.lookupPendingCall cmsg.callerMwid cmsg.handle = some adr ∧
      ActsOn (store.pc adr).srcMwid adr store store' := by
  rw [CallStore.storeIPCReply] at result
  cases found : store.lookupPendingCall cmsg.callerMwid cmsg.handle with
  | none =>
      simp_all [Or.inl]
  | some adr =>
      have member := List.mem_of_find?_eq_some found
      simp only [found] at result
      cases hasConn : (store.pc adr).srcconn with
      | none =>
          simp [hasConn] at result
      | some conn =>
          simp only [hasConn] at result
          split_ifs at result
          · simp_all [Or.inl]
          · simp_all [Or.inl]
          · cases result
            refine Or.inr ⟨adr, rfl, freePendingCall_acts well ?_ fun _ => rfl⟩
            exact well.ok.alloced adr (Or.inl ⟨_, member⟩)

end Operations

/-- The calls of the client that leaves are released, one by one. -/
theorem foldl_freePendingCall_clears (adrs : List Nat) {store : CallStore} (well : WellStore store)
    (below : ∀ adr ∈ adrs, adr < store.alloced)
    (isOwner : ∀ adr ∈ adrs, store.Pending adr → (store.pc adr).srcMwid = mwid) :
    WellStore (adrs.foldl CallStore.freePendingCall store) ∧ ∀ other, other ≠ mwid →
      Untouched other store (adrs.foldl CallStore.freePendingCall store) := by
  induction adrs generalizing store with
  | nil => exact ⟨well, fun other _ => Untouched.refl other store⟩
  | cons adr rest ih =>
      have freed := freePendingCall_acts well (below adr List.mem_cons_self)
        (isOwner adr List.mem_cons_self)
      have restOwner : ∀ next ∈ rest, (store.freePendingCall adr).Pending next →
          ((store.freePendingCall adr).pc next).srcMwid = mwid := by
        intro next member pending
        rcases (pending_freePendingCall well).mp pending with ⟨different, before⟩
        rw [freed.only.others next different]
        exact isOwner next (List.mem_cons_of_mem _ member) before
      rcases ih freed.well
        (fun next member => below next (List.mem_cons_of_mem _ member)) restOwner with
        ⟨wellAfter, untouched⟩
      refine ⟨wellAfter, ?_⟩
      intro other different
      exact (freed.untouched different).trans (untouched other different)

theorem storeSRBClearClient_clears {store : CallStore} (well : WellStore store) (mwid : UInt32) :
    WellStore (store.storeSRBClearClient mwid) ∧
      ∀ other, other ≠ mwid → Untouched other store (store.storeSRBClearClient mwid) := by
  apply foldl_freePendingCall_clears _ well
  · intro adr member
    rcases List.mem_flatMap.mp (List.mem_of_mem_filter member) with ⟨bucket, -, inBucket⟩
    exact well.ok.alloced adr (Or.inl ⟨_, inBucket⟩)
  · simp_all

theorem map_eq_ok {Failure α β : Type} {computed : Except Failure α} {f : α → β} {value : β}
    (result : computed.map f = .ok value) : ∃ before, computed = .ok before ∧ f before = value := by
  cases computed with
  | error failure => cases result
  | ok before => exact ⟨before, rfl, Except.ok.inj result⟩

/-- A relation between two stores that holds across whatever the handlers of a connection ask of
the store. -/
structure AcrossStore (domain : Domain) (conn : Connection)
    (relation : CallStore → CallStore → Prop) : Prop where
  refl : ∀ store, relation store store
  trans : ∀ {store store' store''}, relation store store' → relation store' store'' →
    relation store store''
  call : ∀ store nethandle map datatotal service instanceName domainname flags,
    relation store (store.storeSRBCall domain (connGetinfo conn) nethandle map conn datatotal
      service instanceName domainname flags)
  data : ∀ {store store' nethandle data},
    store.storeSRBData domain (connGetinfo conn) nethandle data = .ok store' →
      relation store store'
  reply : ∀ {store store' nethandle rcode apprcode datatotal},
    store.storeSRBReply domain (connGetinfo conn) nethandle rcode apprcode datatotal = .ok store' →
      relation store store'
  close : ∀ store, relation store (tcpcloseconnection store conn)

section Across

variable {domain : Domain} {conn : Connection} {relation : CallStore → CallStore → Prop}
  (across : AcrossStore domain conn relation) {limit : Nat} {uninit : Uninit}
  {srbmsg : SRBmessage} {store store' : CallStore} {answers : List SRBmessage}
include across

theorem AcrossStore.storeRest {handle : UInt32}
    (result : storeRest domain store conn handle data = .ok store') : relation store store' := by
  rw [Gateway.storeRest] at result
  split_ifs at result
  · exact across.data result
  · simp_all [across.refl]

theorem AcrossStore.srbsvcdata
    (result : srbsvcdata domain store conn srbmsg = .ok (store', answers)) :
    relation store store' := by
  rw [Gateway.srbsvcdata] at result
  cases reading : readData conn srbmsg with
  | ended exchange =>
      simp_all [across.refl]
  | failed failure =>
      simp [reading] at result
  | complete request =>
      simp only [reading] at result
      rcases map_eq_ok result with ⟨after, stored, same⟩
      cases same
      exact across.data stored

theorem AcrossStore.srbcallReq
    (result : srbcallReq domain limit uninit store conn srbmsg = .ok (store', answers)) :
    relation store store' := by
  rw [Gateway.srbcallReq] at result
  split_ifs at result
  · simp_all [across.refl]
  · cases reading : readCall uninit conn srbmsg with
    | ended exchange =>
        simp_all [across.refl]
    | failed failure =>
        simp [reading] at result
    | complete request =>
        simp only [reading] at result
        rcases map_eq_ok result with ⟨after, stored, same⟩
        cases same
        exact across.trans (across.call _ _ _ _ _ _ _ _) (across.storeRest stored)

theorem AcrossStore.srbcallRpl
    (result : srbcallRpl domain limit uninit store conn srbmsg = .ok (store', answers)) :
    relation store store' := by
  rw [Gateway.srbcallRpl] at result
  split_ifs at result
  · simp_all [across.refl]
  · cases reading : readReply uninit conn srbmsg with
    | ended exchange =>
        simp_all [across.refl]
    | failed failure =>
        simp [reading] at result
    | complete request =>
        simp only [reading] at result
        cases replied : store.storeSRBReply domain (connGetinfo conn) request.handle
            request.returncode request.appreturncode request.datatotal with
        | error failure =>
            simp [replied] at result
        | ok between =>
            simp only [replied] at result
            rcases map_eq_ok result with ⟨after, stored, same⟩
            cases same
            exact across.trans (across.reply replied) (across.storeRest stored)

/-- Whatever the message is. -/
theorem AcrossStore.srbDoMessage
    (result : srbDoMessage domain limit uninit store conn srbmsg = .ok store') :
    relation store store' := by
  rw [Gateway.srbDoMessage] at result
  cases isCommand : command conn srbmsg with
  | svccall =>
      simp only [isCommand] at result
      rcases map_eq_ok result with ⟨⟨after, answers⟩, handled, rfl⟩
      exact across.srbcallReq handled
  | svcreply =>
      simp only [isCommand] at result
      rcases map_eq_ok result with ⟨⟨after, answers⟩, handled, rfl⟩
      exact across.srbcallRpl handled
  | svcdata =>
      simp only [isCommand] at result
      rcases map_eq_ok result with ⟨⟨after, answers⟩, handled, rfl⟩
      exact across.srbsvcdata handled
  | term =>
      simp only [isCommand] at result
      cases result
      exact across.close store
  | other =>
      simp_all [across.refl]

end Across

/-- What is done for one client: the store stays well formed, and the calls of the
others are as they were. -/
structure Serves (mwid : UInt32) (store store' : CallStore) : Prop where
  well : WellStore store'
  untouched : ∀ other, other ≠ mwid → Untouched other store store'

theorem WellStore.serves_refl {store : CallStore} (well : WellStore store) (mwid : UInt32) :
    Serves mwid store store := ⟨well, fun other _ => Untouched.refl other store⟩

theorem ActsOn.serves {store store' : CallStore} (acts : ActsOn owner adr store store') :
    Serves owner store store' :=
  ⟨acts.well, fun _ different => acts.untouched different⟩

section Handlers

variable {store : CallStore} (well : WellStore store)
include well

theorem storeSRBData_serves {store' : CallStore} (domain : Domain) (client : mwid ≠ 0)
    (result : store.storeSRBData domain mwid nethandle data = .ok store') :
    Serves mwid store store' := by
  rcases storeSRBData_acts well domain client result with rfl | ⟨adr, acts⟩
  · exact well.serves_refl mwid
  · exact acts.serves

theorem storeSRBReply_serves {store' : CallStore} (domain : Domain) (client : mwid ≠ 0)
    {rcode apprcode datatotal : Int}
    (result : store.storeSRBReply domain mwid nethandle rcode apprcode datatotal = .ok store') :
    Serves mwid store store' := by
  rcases storeSRBReply_acts well domain client result with rfl | ⟨adr, acts⟩
  · exact well.serves_refl mwid
  · exact acts.serves

theorem tcpcloseconnection_serves (conn : Connection) :
    Serves conn.cid store (tcpcloseconnection store conn) := by
  rw [tcpcloseconnection]
  split_ifs
  · exact ⟨(storeSRBClearClient_clears well conn.cid).1,
      (storeSRBClearClient_clears well conn.cid).2⟩
  · exact well.serves_refl _

end Handlers

/-- A store that is well formed stays so, and the calls of all but the peer are as they were. -/
def ServesPeer (conn : Connection) (store store' : CallStore) : Prop :=
  WellStore store → WellStore store' ∧ ∀ other, other ≠ connGetinfo conn → other ≠ conn.cid →
    Untouched other store store'

theorem Serves.peer {conn : Connection} {store store' : CallStore}
    (isPeer : mwid = connGetinfo conn ∨ mwid = conn.cid) (serves : Serves mwid store store') :
    WellStore store' ∧ ∀ other, other ≠ connGetinfo conn → other ≠ conn.cid →
      Untouched other store store' := by
  refine ⟨serves.well, ?_⟩
  intro other notInfo notCid
  apply serves.untouched
  rcases isPeer with rfl | rfl
  · exact notInfo
  · exact notCid

theorem servesPeer_across (domain : Domain) (conn : Connection) :
    AcrossStore domain conn (ServesPeer conn) where
  refl := fun store well => (well.serves_refl conn.cid).peer (Or.inr rfl)
  trans := by
    intro store store' store'' first second well
    rcases first well with ⟨well', untouched⟩
    rcases second well' with ⟨well'', untouched'⟩
    refine ⟨well'', ?_⟩
    intro other notInfo notCid
    exact (untouched other notInfo notCid).trans (untouched' other notInfo notCid)
  call := by
    intro store nethandle map datatotal service instanceName domainname flags well
    rcases storeSRBCall_acts well domain (connGetinfo conn) nethandle map conn datatotal service
      instanceName domainname flags with ⟨adr, opened⟩
    exact opened.serves.peer (Or.inl rfl)
  data := fun result well =>
    (storeSRBData_serves well domain (connGetinfo_ne_zero conn) result).peer (Or.inl rfl)
  reply := fun result well =>
    (storeSRBReply_serves well domain (connGetinfo_ne_zero conn) result).peer (Or.inl rfl)
  close := fun _ well => (tcpcloseconnection_serves well conn).peer (Or.inr rfl)

theorem srbDoMessage_serves {store store' : CallStore} (well : WellStore store)
    {domain : Domain} {limit : Nat} {uninit : Uninit} {conn : Connection} {srbmsg : SRBmessage}
    (result : srbDoMessage domain limit uninit store conn srbmsg = .ok store') :
    WellStore store' ∧ ∀ other, other ≠ connGetinfo conn → other ≠ conn.cid →
      Untouched other store store' :=
  (servesPeer_across domain conn).srbDoMessage result well

end MidWay.Gateway

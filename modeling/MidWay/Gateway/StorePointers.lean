import Mathlib.Data.List.Perm.Subperm
import MidWay.Gateway.StoreKeys
import MidWay.Lib.Chain
import MidWay.Lib.Runs

/-!
Contract: the call store with the pointers that hold its lists together.

Every struct has a `next` and a `root`; the heads are the buckets of the hash and the
free list. The operations are those of the store, written with `linkPendingCall` and
`unlinkPendingCall` on the pointers and with loops along `next`. They do what the
operations on lists do, and so the store keeps its structure over every run.

Owns: `PointerStore` and its operations, `Mirrors`, and `StructureOk` of every state
that is reached.
-/

namespace MidWay.Gateway

open MidWay.CLib MidWay.Url MidWay.Srb MidWay.Lib

inductive ListName where
  | free
  | bucket (index : UInt8)
deriving DecidableEq

structure PointerStore where
  pc : Nat → PendingCall
  links : Links ListName Nat
  alloced : Nat
  handle : Int
  sent : List (UInt32 × Call)

def PointerStore.setPc (store : PointerStore) (adr : Nat) (pc : PendingCall) : PointerStore :=
  { store with pc := fun other => if other = adr then pc else store.pc other }

def PointerStore.lookupPendingCall (store : PointerStore) (mwid hdl : UInt32) :
    Except StoreFailure (Option Nat) :=
  let head := store.links.target (.head (.bucket (mkhash mwid hdl)))
  match store.links.search (fun adr => (store.pc adr).hasTuple mwid hdl) store.alloced head with
  | none => .error .endlessLoop
  | some found => .ok found

def PointerStore.linkPendingCall (store : PointerStore) (adr : Nat) (ppc : Link ListName Nat) :
    PointerStore :=
  { store with links := store.links.link adr ppc }

def PointerStore.unlinkPendingCall (store : PointerStore) (adr : Nat) :
    Except StoreFailure PointerStore :=
  match store.links.unlink adr with
  | none => .error .nullPointer
  | some links => .ok { store with links := links }

/-- The `memset`, with the links. -/
def PointerStore.clearPendingCall (store : PointerStore) (adr : Nat) : PointerStore :=
  { store.setPc adr Gateway.clearPendingCall with
    links := (store.links.setRoot adr none).setTarget (.next adr) none }

def PointerStore.rehashPendingCall (store : PointerStore) (adr : Nat) (mwid hdl : UInt32) :
    Except StoreFailure PointerStore :=
  (store.unlinkPendingCall adr).map fun store =>
    store.linkPendingCall adr (.head (.bucket (mkhash mwid hdl)))

def PointerStore.takeStruct (store : PointerStore) : Except StoreFailure (Nat × PointerStore) :=
  match store.links.target (.head .free) with
  | none =>
      let adr := store.alloced
      .ok (adr, { store with alloced := adr + 1 }.clearPendingCall adr)
  | some adr => (store.unlinkPendingCall adr).map fun store => (adr, store)

def PointerStore.newPendingCall (store : PointerStore) (srcid srchdl : UInt32) :
    Except StoreFailure (Nat × PointerStore) :=
  store.takeStruct.map fun (adr, store) =>
    let store := store.setPc adr { store.pc adr with srcMwid := srcid, srchdl := srchdl }
    (adr, store.linkPendingCall adr (.head (.bucket (mkhash srcid srchdl))))

def PointerStore.freePendingCall (store : PointerStore) (adr : Nat) :
    Except StoreFailure PointerStore :=
  (store.unlinkPendingCall adr).map fun store =>
    (store.clearPendingCall adr).linkPendingCall adr (.head .free)

def PointerStore.ipcSendmessage (store : PointerStore) (id : UInt32) (call : Call) :
    PointerStore :=
  { store with sent := store.sent ++ [(id, call)] }

section

variable (domain : Domain)

def PointerStore.routeCall (store : PointerStore) (adr : Nat) :
    Except StoreFailure PointerStore :=
  let pc := store.pc adr
  let handle := mwNexthandle domain.irand store.handle
  let routed := pc.routed domain (UInt32.ofInt handle)
  let srvid := domain.providerByServiceid (domain.bestService pc.call.service pc.call.flags)
  let store := { store with handle := handle }.setPc adr routed
  (store.rehashPendingCall adr routed.dstMwid routed.dsthdl).map fun store =>
    store.ipcSendmessage srvid routed.call

def PointerStore.routeReply (store : PointerStore) (adr : Nat) :
    Except StoreFailure PointerStore :=
  let pc := store.pc adr
  let call := { pc.putbuffer with mtype := .svcreply, srvid := domain.myGatewayid }
  let store := (store.setPc adr { pc with call := call }).ipcSendmessage pc.srcMwid call
  if call.returncode ≠ mwMore then store.freePendingCall adr
  else
    .ok (store.setPc adr
      { pc with call := call, status := .replypending, data := [], bufsize := 0, datalen := 0 })

def PointerStore.checkIfComplete (store : PointerStore) (adr : Nat) :
    Except StoreFailure PointerStore :=
  let pc := store.pc adr
  match pc.status with
  | .calldatapending =>
      if pc.datarecv ≠ pc.datalen then .ok store else store.routeCall domain adr
  | .replydatapending =>
      if pc.datarecv ≠ pc.datalen then .ok store else store.routeReply domain adr
  | _ => .ok store

def PointerStore.storeSRBCall (store : PointerStore) (mwid nethandle : UInt32) (map : Urlmap)
    (conn : Connection) (datatotal : Int) (service : List Byte)
    (instanceName domainname : Option (List Byte)) (flags : UInt32) :
    Except StoreFailure PointerStore :=
  match store.newPendingCall mwid nethandle with
  | .error failure => .error failure
  | .ok (adr, store) =>
      let pc := store.pc adr
      let call := { pc.call with
        mtype := .svccall
        cltid := mwid
        srvid := unassigned
        gwid := domain.myGatewayid
        service := service.take mwMaxSvcName
        instanceName := (instanceName.getD pc.call.instanceName).take mwMaxNameLen
        domainname := (domainname.getD pc.call.domainname).take mwMaxNameLen
        flags := flags }
      let store := store.setPc adr
        { pc with
          srcconn := some conn
          status := .calldatapending
          callmsg := map
          datalen := datatotal
          call := call }
      store.checkIfComplete domain adr

def PointerStore.storeSRBData (store : PointerStore) (mwid nethandle : UInt32)
    (data : List Byte) : Except StoreFailure PointerStore :=
  match store.lookupPendingCall mwid nethandle with
  | .error failure => .error failure
  | .ok none => .ok store
  | .ok (some adr) =>
      let pc := store.pc adr
      let datalen := if pc.datalen < 0 then (data.length : Int) else pc.datalen
      let bufsize := if pc.bufsize = 0 ∧ domain.mwalloc datalen then datalen else pc.bufsize
      if datalen ≥ pc.datarecv + data.length then
        if data ≠ [] ∧ bufsize < pc.datarecv + data.length then .error .bufferOverrun
        else
          let store := store.setPc adr
            { pc with datalen := datalen, bufsize := bufsize, data := pc.data ++ data }
          store.checkIfComplete domain adr
      else .error .assertion

def PointerStore.storeSRBReply (store : PointerStore) (mwid nethandle : UInt32)
    (rcode apprcode datatotal : Int) : Except StoreFailure PointerStore :=
  match store.lookupPendingCall mwid nethandle with
  | .error failure => .error failure
  | .ok none => .ok store
  | .ok (some adr) =>
      let pc := store.pc adr
      if pc.status = .replypending then
        let store := store.setPc adr
          { pc with
            call := { pc.call with returncode := rcode, appreturncode := apprcode }
            status := .replydatapending
            datalen := datatotal }
        store.checkIfComplete domain adr
      else .error .assertion

def PointerStore.openIPCCall (store : PointerStore) (cmsg : Call) (conn : Connection) :
    Except StoreFailure (Nat × UInt32 × PointerStore) :=
  match store.newPendingCall cmsg.callerMwid cmsg.handle with
  | .error failure => .error failure
  | .ok (adr, store) =>
      let handle := mwNexthandle domain.irand store.handle
      let dsthdl := UInt32.ofInt handle
      let store := { store with handle := handle }.setPc adr
        { store.pc adr with dstMwid := conn.gwid, dstconn := some conn, dsthdl := dsthdl }
      (store.rehashPendingCall adr conn.gwid dsthdl).map fun store => (adr, dsthdl, store)

/-- The result, the store, and whether `callmutex` is still locked. -/
def PointerStore.storeIPCCall (outlet : Outlet) (store : PointerStore) (cmsg : Call)
    (conn : Connection) : Except StoreFailure (Int × PointerStore × Bool) :=
  match store.openIPCCall domain cmsg conn with
  | .error failure => .error failure
  | .ok (adr, dsthdl, store) =>
      match mwGetbufferFromCall outlet cmsg with
      | .error rc => (store.unlinkPendingCall adr).map fun store => (rc, store, true)
      | .ok data =>
          let rc := sendcallResult outlet.written (outlet.messages dsthdl cmsg data)
          if rc < 0 then (store.unlinkPendingCall adr).map fun store => (rc, store, true)
          else
            .ok (0, store.setPc adr
              { store.pc adr with call := cmsg, status := .replypending }, false)

end

/-- The loop along one bucket. The next struct is read before this one is released. -/
def PointerStore.clearFrom (mwid : UInt32) :
    Nat → PointerStore → Option Nat → Except StoreFailure PointerStore
  | _, store, none => .ok store
  | 0, _, some _ => .error .endlessLoop
  | turns + 1, store, some adr =>
      let next := store.links.target (.next adr)
      if (store.pc adr).srcMwid = mwid then
        match store.freePendingCall adr with
        | .error failure => .error failure
        | .ok store => PointerStore.clearFrom mwid turns store next
      else PointerStore.clearFrom mwid turns store next

def PointerStore.clearBuckets (mwid : UInt32) :
    List Nat → PointerStore → Except StoreFailure PointerStore
  | [], store => .ok store
  | index :: rest, store =>
      let head := store.links.target (.head (.bucket (UInt8.ofNat index)))
      match PointerStore.clearFrom mwid store.alloced store head with
      | .error failure => .error failure
      | .ok store => PointerStore.clearBuckets mwid rest store

def PointerStore.storeSRBClearClient (store : PointerStore) (mwid : UInt32) :
    Except StoreFailure PointerStore :=
  PointerStore.clearBuckets mwid (List.range 256) store

def PointerStore.storeIPCReply (store : PointerStore) (cmsg : Call) :
    Except StoreFailure (Option (Connection × Urlmap) × PointerStore) :=
  let mwid := cmsg.callerMwid
  match store.lookupPendingCall mwid cmsg.handle with
  | .error failure => .error failure
  | .ok none => .ok (none, store)
  | .ok (some adr) =>
      let pc := store.pc adr
      match pc.srcconn with
      | none => .error .nullPointer
      | some conn =>
          if conn.cid ≠ mwid ∧ conn.gwid ≠ mwid then .ok (none, store)
          else if cmsg.returncode = mwMore then .ok (some (conn, pc.callmsg), store)
          else (store.freePendingCall adr).map fun store => (some (conn, pc.callmsg), store)

def CallStore.lists (store : CallStore) : ListName → List Nat
  | .free => store.freelist
  | .bucket index => store.hash index

structure Mirrors (pointers : PointerStore) (store : CallStore) : Prop where
  pc : pointers.pc = store.pc
  threads : Threads pointers.links store.lists
  alloced : pointers.alloced = store.alloced
  handle : pointers.handle = store.handle
  sent : pointers.sent = store.sent

def Refines (concrete : Except StoreFailure PointerStore) (abstract : Except StoreFailure CallStore) :
    Prop :=
  match abstract with
  | .error failure => concrete = .error failure
  | .ok store => ∃ pointers, concrete = .ok pointers ∧ Mirrors pointers store

theorem Refines.result {concrete : Except StoreFailure PointerStore}
    {abstract : Except StoreFailure CallStore} (refines : Refines concrete abstract)
    {next : PointerStore} (ended : concrete = .ok next) :
    ∃ store, abstract = .ok store ∧ Mirrors next store := by
  cases abstract with
  | error failure =>
      rw [show concrete = .error failure from refines] at ended
      cases ended
  | ok store =>
      rcases refines with ⟨pointers, isResult, mirrors⟩
      simp_all

theorem CallStore.lists_unlinkPendingCall (store : CallStore) (adr : Nat) :
    (store.unlinkPendingCall adr).lists = fun name => (store.lists name).erase adr := by
  funext name
  cases name with
  | free => rfl
  | bucket index => rfl

theorem CallStore.lists_linkPendingCall (store : CallStore) (adr : Nat) (index : UInt8) :
    (store.linkPendingCall adr index).lists = consAt store.lists adr (.bucket index) := by
  funext name
  cases name with
  | free => simp [CallStore.lists, CallStore.linkPendingCall, consAt]
  | bucket other => simp [CallStore.lists, CallStore.linkPendingCall, consAt]

theorem CallStore.listed_iff (store : CallStore) (adr : Nat) :
    store.Listed adr ↔ ∃ name, adr ∈ store.lists name := by
  constructor
  · intro listed
    rcases listed with ⟨bucket, member⟩ | inFree
    · exact ⟨.bucket bucket, member⟩
    · exact ⟨.free, inFree⟩
  · intro listed
    rcases listed with ⟨name, member⟩
    cases name with
    | free => exact Or.inr member
    | bucket index => exact Or.inl ⟨index, member⟩

section Primitives

variable {pointers : PointerStore} {store : CallStore} (mirrors : Mirrors pointers store)
include mirrors

theorem Mirrors.setPc (adr : Nat) (pc : PendingCall) :
    Mirrors (pointers.setPc adr pc) (store.setPc adr pc) := by
  refine ⟨?_, ?_, mirrors.alloced, mirrors.handle, mirrors.sent⟩
  · rw [PointerStore.setPc, CallStore.setPc, mirrors.pc]
  · have same : (store.setPc adr pc).lists = store.lists := by
      funext name
      cases name with
      | free => rfl
      | bucket index => rfl
    rw [same]
    exact mirrors.threads

theorem Mirrors.setHandle (handle : Int) :
    Mirrors { pointers with handle := handle } { store with handle := handle } := by
  refine ⟨mirrors.pc, ?_, mirrors.alloced, rfl, mirrors.sent⟩
  have same : ({ store with handle := handle } : CallStore).lists = store.lists := by
    rfl
  rw [same]
  exact mirrors.threads

theorem Mirrors.ipcSendmessage (id : UInt32) (call : Call) :
    Mirrors (pointers.ipcSendmessage id call) (store.ipcSendmessage id call) := by
  refine ⟨mirrors.pc, ?_, mirrors.alloced, mirrors.handle, ?_⟩
  · have same : (store.ipcSendmessage id call).lists = store.lists := by
      funext name
      cases name with
      | free => rfl
      | bucket index => rfl
    rw [same]
    exact mirrors.threads
  · rw [PointerStore.ipcSendmessage, CallStore.ipcSendmessage, mirrors.sent]

theorem Mirrors.linkPendingCall {adr : Nat} (outside : ¬ store.Listed adr) (index : UInt8) :
    Mirrors (pointers.linkPendingCall adr (.head (.bucket index)))
      (store.linkPendingCall adr index) := by
  refine ⟨mirrors.pc, ?_, mirrors.alloced, mirrors.handle, mirrors.sent⟩
  rw [CallStore.lists_linkPendingCall]
  apply mirrors.threads.link
  intro name member
  exact outside ((store.listed_iff adr).mpr ⟨name, member⟩)

theorem Mirrors.unlinkPendingCall {adr : Nat} (listed : store.Listed adr) :
    ∃ after, pointers.unlinkPendingCall adr = .ok after ∧
      Mirrors after (store.unlinkPendingCall adr) := by
  rcases (store.listed_iff adr).mp listed with ⟨name, member⟩
  rcases mirrors.threads.unlink member with ⟨links, taken, threads⟩
  refine ⟨{ pointers with links := links }, ?_, mirrors.pc, ?_, mirrors.alloced, mirrors.handle,
    mirrors.sent⟩
  · rw [PointerStore.unlinkPendingCall, taken]
  · simp [CallStore.lists_unlinkPendingCall, threads]

theorem Mirrors.outside_unlinked (adr : Nat) : ¬ (store.unlinkPendingCall adr).Listed adr := by
  intro listed
  rcases (CallStore.listed_iff _ adr).mp listed with ⟨name, member⟩
  rw [CallStore.lists_unlinkPendingCall] at member
  exact absurd member (by simp [(mirrors.threads.nodup name).mem_erase_iff])

theorem Mirrors.rehashPendingCall {adr : Nat} (listed : store.Listed adr) (mwid hdl : UInt32) :
    Refines (pointers.rehashPendingCall adr mwid hdl)
      (.ok (store.rehashPendingCall adr mwid hdl)) := by
  rcases mirrors.unlinkPendingCall listed with ⟨after, unlinked, mirrored⟩
  refine ⟨after.linkPendingCall adr (.head (.bucket (mkhash mwid hdl))), ?_,
    mirrored.linkPendingCall (mirrors.outside_unlinked adr) _⟩
  rw [PointerStore.rehashPendingCall, unlinked]
  rfl

theorem Mirrors.clearPendingCall {adr : Nat} (outside : ¬ store.Listed adr) :
    Mirrors (pointers.clearPendingCall adr) (store.setPc adr Gateway.clearPendingCall) := by
  have changed := mirrors.setPc adr Gateway.clearPendingCall
  refine ⟨changed.pc, ?_, changed.alloced, changed.handle, changed.sent⟩
  apply changed.threads.clear
  intro name member
  exact outside ((CallStore.listed_iff _ adr).mpr ⟨name, member⟩)

theorem Mirrors.freePendingCall {adr : Nat} (listed : store.Listed adr) :
    Refines (pointers.freePendingCall adr) (.ok (store.freePendingCall adr)) := by
  rcases mirrors.unlinkPendingCall listed with ⟨after, unlinked, mirrored⟩
  have outside := mirrors.outside_unlinked adr
  have cleared := mirrored.clearPendingCall outside
  refine ⟨(after.clearPendingCall adr).linkPendingCall adr (.head .free), ?_, cleared.pc, ?_,
    cleared.alloced, cleared.handle, cleared.sent⟩
  · rw [PointerStore.freePendingCall, unlinked]
    rfl
  · have lists : (store.freePendingCall adr).lists =
        consAt ((store.unlinkPendingCall adr).setPc adr Gateway.clearPendingCall).lists adr
          .free := by
      funext name
      cases name with
      | free => simp [CallStore.lists, CallStore.freePendingCall, consAt]
      | bucket index => simp [CallStore.lists, CallStore.freePendingCall, consAt]
    rw [lists]
    apply cleared.threads.link
    intro name member
    exact outside ((CallStore.listed_iff _ adr).mpr ⟨name, member⟩)

variable (ok : StoreOk store)
include ok

theorem Mirrors.takeStruct :
    ∃ after, pointers.takeStruct = .ok (store.takeStruct.1, after) ∧
      Mirrors after store.takeStruct.2 := by
  have head : pointers.links.target (.head .free) = store.freelist.head? :=
    (mirrors.threads.chain .free).head
  cases isFree : store.freelist with
  | nil =>
      rw [isFree] at head
      have grown : Mirrors { pointers with alloced := pointers.alloced + 1 }
          { store with alloced := store.alloced + 1 } := by
        refine ⟨mirrors.pc, ?_, by rw [mirrors.alloced], mirrors.handle, mirrors.sent⟩
        have same : ({ store with alloced := store.alloced + 1 } : CallStore).lists =
            store.lists := by
          funext name
          cases name with
          | free => rfl
          | bucket index => rfl
        rw [same]
        exact mirrors.threads
      have outside : ¬ ({ store with alloced := store.alloced + 1 } : CallStore).Listed
          store.alloced := by
        intro listed
        exact Nat.lt_irrefl _ (ok.alloced store.alloced listed)
      refine ⟨PointerStore.clearPendingCall { pointers with alloced := pointers.alloced + 1 }
        store.alloced, ?_, ?_⟩
      · rw [PointerStore.takeStruct, head, CallStore.takeStruct, isFree]
        simp only [List.head?_nil, mirrors.alloced]
      · rw [CallStore.takeStruct]
        rw [isFree] at grown outside ⊢
        exact grown.clearPendingCall outside
  | cons adr rest =>
      rw [isFree] at head
      have listed : store.Listed adr := Or.inr (isFree ▸ List.mem_cons_self)
      rcases mirrors.unlinkPendingCall listed with ⟨after, unlinked, mirrored⟩
      refine ⟨after, ?_, ?_⟩
      · rw [PointerStore.takeStruct, head, CallStore.takeStruct, isFree]
        simp only [List.head?_cons, unlinked]
        rfl
      · rw [CallStore.takeStruct, isFree]
        exact mirrored

theorem Mirrors.newPendingCall (srcid srchdl : UInt32) :
    ∃ after, pointers.newPendingCall srcid srchdl =
        .ok ((store.newPendingCall srcid srchdl).1, after) ∧
      Mirrors after (store.newPendingCall srcid srchdl).2 := by
  rcases mirrors.takeStruct ok with ⟨after, taken, mirrored⟩
  have cleared := takeStruct_cleared ok
  rw [PointerStore.newPendingCall, taken, CallStore.newPendingCall]
  generalize store.takeStruct = result at mirrored cleared
  rcases result with ⟨adr, store'⟩
  have outside : ¬ store'.Listed adr := by
    intro listed
    rcases listed with ⟨bucket, member⟩ | inFree
    · exact cleared.fresh ⟨bucket, cleared.hash ▸ member⟩
    · exact cleared.notFree inFree
  refine ⟨_, rfl, ?_⟩
  simp only [mirrored.pc]
  exact (mirrored.setPc adr _).linkPendingCall outside _

theorem Mirrors.length_hash (bucket : UInt8) :
    (store.hash bucket).length ≤ pointers.alloced := by
  have inside : store.hash bucket ⊆ List.range store.alloced := by
    intro adr member
    exact List.mem_range.mpr (ok.alloced adr (Or.inl ⟨_, member⟩))
  have bounded := ((ok.nodup bucket).subperm inside).length_le
  simp_all [List.length_range, mirrors.alloced]

theorem Mirrors.lookupPendingCall (mwid hdl : UInt32) :
    pointers.lookupPendingCall mwid hdl = .ok (store.lookupPendingCall mwid hdl) := by
  have short := mirrors.length_hash ok (mkhash mwid hdl)
  have searched := (mirrors.threads.chain (.bucket (mkhash mwid hdl))).search
    (fun adr => (store.pc adr).hasTuple mwid hdl) short
  rw [PointerStore.lookupPendingCall, mirrors.pc]
  simp only [searched]
  rfl

end Primitives

section Operations

variable {pointers : PointerStore} {store : CallStore} (mirrors : Mirrors pointers store)
  (domain : Domain)
include mirrors

theorem Mirrors.routeCall {adr : Nat} (listed : store.Listed adr) :
    Refines (pointers.routeCall domain adr) (.ok (store.routeCall domain adr)) := by
  have changed := (mirrors.setHandle (mwNexthandle domain.irand store.handle)).setPc adr
    ((store.pc adr).routed domain (store.nextIpchdl domain))
  rcases changed.rehashPendingCall listed ((store.pc adr).putbuffer.cltid)
    (store.nextIpchdl domain) with ⟨after, rehashed, mirrored⟩
  refine ⟨_, ?_, mirrored.ipcSendmessage
    (domain.providerByServiceid
      (domain.bestService (store.pc adr).call.service (store.pc adr).call.flags))
    ((store.pc adr).routed domain (store.nextIpchdl domain)).call⟩
  have unfolded : pointers.routeCall domain adr = ((({ pointers with
      handle := mwNexthandle domain.irand store.handle }).setPc adr ((store.pc adr).routed domain
      (store.nextIpchdl domain))).rehashPendingCall adr (store.pc adr).putbuffer.cltid
      (store.nextIpchdl domain)).map fun (after : PointerStore) =>
      after.ipcSendmessage (domain.providerByServiceid (domain.bestService (store.pc adr).call.service (store.pc adr).call.flags))
      ((store.pc adr).routed domain (store.nextIpchdl domain)).call := by
    simp only [PointerStore.routeCall, mirrors.pc, mirrors.handle]
    rfl
  rw [unfolded, rehashed]
  rfl

theorem Mirrors.routeReply {adr : Nat} (listed : store.Listed adr) :
    Refines (pointers.routeReply domain adr) (.ok (store.routeReply domain adr)) := by
  rw [PointerStore.routeReply, CallStore.routeReply, mirrors.pc]
  generalize ({ (store.pc adr).putbuffer with
    mtype := .svcreply, srvid := domain.myGatewayid } : Call) = call
  have stored := (mirrors.setPc adr { store.pc adr with call := call }).ipcSendmessage
    (store.pc adr).srcMwid call
  by_cases more : call.returncode ≠ mwMore
  · simp only [if_pos more]
    exact stored.freePendingCall listed
  · simp only [if_neg more]
    exact ⟨_, rfl, stored.setPc adr _⟩

theorem Mirrors.checkIfComplete {adr : Nat} (listed : store.Listed adr) :
    Refines (pointers.checkIfComplete domain adr) (.ok (store.checkIfComplete domain adr)) := by
  rw [PointerStore.checkIfComplete, CallStore.checkIfComplete, mirrors.pc]
  cases status : (store.pc adr).status with
  | free => exact ⟨pointers, rfl, mirrors⟩
  | replypending => exact ⟨pointers, rfl, mirrors⟩
  | calldatapending =>
      simp only
      by_cases waits : (store.pc adr).datarecv ≠ (store.pc adr).datalen
      · simp only [if_pos waits]
        exact ⟨pointers, rfl, mirrors⟩
      · simp_all [mirrors.routeCall]
  | replydatapending =>
      simp only
      by_cases waits : (store.pc adr).datarecv ≠ (store.pc adr).datalen
      · simp only [if_pos waits]
        exact ⟨pointers, rfl, mirrors⟩
      · simp_all [mirrors.routeReply]

variable (ok : StoreOk store)
include ok

theorem Mirrors.storeSRBCall (mwid nethandle : UInt32) (map : Urlmap) (conn : Connection)
    (datatotal : Int) (service : List Byte) (instanceName domainname : Option (List Byte))
    (flags : UInt32) :
    Refines (pointers.storeSRBCall domain mwid nethandle map conn datatotal service instanceName
        domainname flags)
      (.ok (store.storeSRBCall domain mwid nethandle map conn datatotal service instanceName
        domainname flags)) := by
  rcases mirrors.newPendingCall ok mwid nethandle with ⟨after, opened, mirrored⟩
  have taken := newPendingCall_taken ok mwid nethandle
  rw [PointerStore.storeSRBCall, CallStore.storeSRBCall, opened]
  generalize store.newPendingCall mwid nethandle = result at mirrored taken
  rcases result with ⟨adr, store'⟩
  have listed : store'.Listed adr :=
    Or.inl ⟨_, (taken.placed.mem adr _).mpr (Or.inl ⟨rfl, rfl⟩)⟩
  simp only [mirrored.pc]
  exact (mirrored.setPc adr _).checkIfComplete domain listed

theorem Mirrors.storeSRBData (mwid nethandle : UInt32) (data : List Byte) :
    Refines (pointers.storeSRBData domain mwid nethandle data)
      (store.storeSRBData domain mwid nethandle data) := by
  rw [PointerStore.storeSRBData, CallStore.storeSRBData, mirrors.lookupPendingCall ok]
  cases found : store.lookupPendingCall mwid nethandle with
  | none => exact ⟨pointers, rfl, mirrors⟩
  | some adr =>
      have listed : store.Listed adr := Or.inl ⟨_, List.mem_of_find?_eq_some found⟩
      simp only [mirrors.pc]
      generalize (if (store.pc adr).datalen < 0 then (data.length : Int)
        else (store.pc adr).datalen) = datalen
      generalize (if (store.pc adr).bufsize = 0 ∧ domain.mwalloc datalen = true then datalen
        else (store.pc adr).bufsize) = bufsize
      split_ifs
      · exact rfl
      · exact (mirrors.setPc adr _).checkIfComplete domain listed
      · exact rfl

theorem Mirrors.storeSRBReply (mwid nethandle : UInt32) (rcode apprcode datatotal : Int) :
    Refines (pointers.storeSRBReply domain mwid nethandle rcode apprcode datatotal)
      (store.storeSRBReply domain mwid nethandle rcode apprcode datatotal) := by
  rw [PointerStore.storeSRBReply, CallStore.storeSRBReply, mirrors.lookupPendingCall ok]
  cases found : store.lookupPendingCall mwid nethandle with
  | none => exact ⟨pointers, rfl, mirrors⟩
  | some adr =>
      have listed : store.Listed adr := Or.inl ⟨_, List.mem_of_find?_eq_some found⟩
      simp only [mirrors.pc]
      split_ifs
      · exact (mirrors.setPc adr _).checkIfComplete domain listed
      · exact rfl

theorem Mirrors.openIPCCall (cmsg : Call) (conn : Connection) :
    ∃ after, pointers.openIPCCall domain cmsg conn =
        .ok ((store.openIPCCall domain cmsg conn).1, store.nextIpchdl domain, after) ∧
      Mirrors after (store.openIPCCall domain cmsg conn).2.2 := by
  rcases mirrors.newPendingCall ok cmsg.callerMwid cmsg.handle with ⟨opened, isOpened, mirrored⟩
  have taken := newPendingCall_taken ok cmsg.callerMwid cmsg.handle
  rw [PointerStore.openIPCCall, isOpened, CallStore.openIPCCall]
  generalize store.newPendingCall cmsg.callerMwid cmsg.handle = result at mirrored taken
  rcases result with ⟨adr, store'⟩
  have listed : store'.Listed adr :=
    Or.inl ⟨_, (taken.placed.mem adr _).mpr (Or.inl ⟨rfl, rfl⟩)⟩
  have sameHandle : store'.handle = store.handle := taken.rest.1
  have next : UInt32.ofInt (mwNexthandle domain.irand store'.handle) =
      store.nextIpchdl domain := by
    rw [sameHandle]
    rfl
  have changed := (mirrored.setHandle (mwNexthandle domain.irand store'.handle)).setPc adr
    { store'.pc adr with
      dstMwid := conn.gwid
      dstconn := some conn
      dsthdl := store.nextIpchdl domain }
  rcases changed.rehashPendingCall listed conn.gwid (store.nextIpchdl domain) with
    ⟨after, rehashed, mirroredAfter⟩
  rw [← mirrored.pc] at rehashed
  simp only [mirrored.handle, next]
  rw [rehashed]
  exact ⟨after, rfl, mirroredAfter⟩

theorem Mirrors.storeIPCCall (outlet : Outlet) (cmsg : Call) (conn : Connection) :
    ∃ after, pointers.storeIPCCall domain outlet cmsg conn =
        .ok ((store.storeIPCCall domain outlet cmsg conn).rc, after,
          (store.storeIPCCall domain outlet cmsg conn).locked) ∧
      Mirrors after (store.storeIPCCall domain outlet cmsg conn).store := by
  rcases mirrors.openIPCCall domain ok cmsg conn with ⟨after, isOpened, mirrored⟩
  have placed := (openIPCCall_opened ok domain cmsg conn).placed
  have listed : (store.openIPCCall domain cmsg conn).2.2.Listed
      (store.openIPCCall domain cmsg conn).1 :=
    Or.inl ⟨_, (placed.mem _ _).mpr (Or.inl ⟨rfl, rfl⟩)⟩
  rcases mirrored.unlinkPendingCall listed with ⟨undone, unlinked, mirroredUndone⟩
  rw [PointerStore.storeIPCCall, isOpened, CallStore.storeIPCCall]
  simp only [openIPCCall_dsthdl]
  cases mwGetbufferFromCall outlet cmsg with
  | error rc =>
      simp only [unlinked]
      exact ⟨undone, rfl, mirroredUndone⟩
  | ok data =>
      simp only [unlinked]
      split_ifs
      · exact ⟨undone, rfl, mirroredUndone⟩
      · simp [mirrored.pc, mirrored.setPc]

theorem Mirrors.storeIPCReply (cmsg : Call) :
    Refines ((pointers.storeIPCReply cmsg).map Prod.snd)
        ((store.storeIPCReply cmsg).map Prod.snd) ∧
      (pointers.storeIPCReply cmsg).map Prod.fst = (store.storeIPCReply cmsg).map Prod.fst := by
  rw [PointerStore.storeIPCReply, CallStore.storeIPCReply, mirrors.lookupPendingCall ok]
  cases found : store.lookupPendingCall cmsg.callerMwid cmsg.handle with
  | none => exact ⟨⟨pointers, rfl, mirrors⟩, rfl⟩
  | some adr =>
      have listed : store.Listed adr := Or.inl ⟨_, List.mem_of_find?_eq_some found⟩
      simp only [mirrors.pc]
      cases (store.pc adr).srcconn with
      | none => exact ⟨rfl, rfl⟩
      | some conn =>
          simp only
          split_ifs
          · exact ⟨⟨pointers, rfl, mirrors⟩, rfl⟩
          · exact ⟨⟨pointers, rfl, mirrors⟩, rfl⟩
          · rcases mirrors.freePendingCall listed with ⟨after, freed, mirrored⟩
            rw [freed]
            exact ⟨⟨after, rfl, mirrored⟩, rfl⟩

end Operations

/-- The calls released one after the other, and what they leave alone. -/
theorem foldl_freePendingCall_frame {store : CallStore} (ok : StoreOk store) {calls : List Nat}
    (below : ∀ adr ∈ calls, adr < store.alloced) :
    StoreOk (calls.foldl CallStore.freePendingCall store) ∧
      (∀ other ∉ calls, (calls.foldl CallStore.freePendingCall store).pc other = store.pc other) ∧
      (∀ bucket, (∀ adr ∈ calls, adr ∉ store.hash bucket) →
        (calls.foldl CallStore.freePendingCall store).hash bucket = store.hash bucket) := by
  induction calls generalizing store with
  | nil => exact ⟨ok, fun _ _ => rfl, fun _ _ => rfl⟩
  | cons adr rest ih =>
      have removed := freePendingCall_removed ok (below adr List.mem_cons_self)
      have restBelow : ∀ other ∈ rest, other < (store.freePendingCall adr).alloced :=
        fun other member => below other (List.mem_cons_of_mem adr member)
      rcases ih removed.ok restBelow with ⟨stillOk, samePc, sameHash⟩
      refine ⟨stillOk, ?_, ?_⟩
      · intro other absent
        rw [List.mem_cons, not_or] at absent
        exact (samePc other absent.2).trans (removed.others other absent.1)
      · intro bucket absent
        have here : (store.freePendingCall adr).hash bucket = store.hash bucket :=
          List.erase_of_not_mem (absent adr List.mem_cons_self)
        simp_all

theorem Mirrors.clearFrom (mwid : UInt32) {pointers : PointerStore} {store : CallStore}
    (mirrors : Mirrors pointers store) (ok : StoreOk store) {bucket : UInt8}
    {before rest : List Nat} (split : store.hash bucket = before ++ rest) {turns : Nat}
    (enough : rest.length ≤ turns) :
    Refines (PointerStore.clearFrom mwid turns pointers rest.head?)
      (.ok ((rest.filter fun adr => (store.pc adr).srcMwid == mwid).foldl
        CallStore.freePendingCall store)) := by
  induction rest generalizing pointers store before turns with
  | nil =>
      rw [List.head?_nil, PointerStore.clearFrom]
      exact ⟨pointers, rfl, mirrors⟩
  | cons adr rest ih =>
      cases turns with
      | zero => exact absurd enough (by simp)
      | succ turns =>
          have fewer : rest.length ≤ turns := Nat.le_of_succ_le_succ enough
          have member : adr ∈ store.hash bucket := by
            simp [split]
          have chain := mirrors.threads.chain (.bucket bucket)
          rw [show store.lists (.bucket bucket) = before ++ adr :: rest from split] at chain
          rw [List.head?_cons, PointerStore.clearFrom, chain.next_head, mirrors.pc]
          by_cases owned : (store.pc adr).srcMwid = mwid
          · rcases mirrors.freePendingCall (Or.inl ⟨bucket, member⟩) with ⟨after, freed, mirrored⟩
            have removed := freePendingCall_removed ok (ok.alloced adr (Or.inl ⟨bucket, member⟩))
            have distinct := ok.nodup bucket
            rw [split] at distinct
            have notBefore : adr ∉ before := by
              grind
            have notAfter : adr ∉ rest :=
              (List.nodup_cons.mp (List.nodup_append.mp distinct).2.1).1
            have splitAfter : (store.freePendingCall adr).hash bucket = before ++ rest := by
              change (store.hash bucket).erase adr = _
              rw [split, List.erase_append_right _ notBefore, List.erase_cons_head]
            have sameOwners : (rest.filter fun other => (store.pc other).srcMwid == mwid) =
                rest.filter fun other =>
                  ((store.freePendingCall adr).pc other).srcMwid == mwid := by
              apply List.filter_congr
              intro other inRest
              rw [removed.others other (fun same => notAfter (same ▸ inRest))]
            rw [if_pos owned, freed,
              List.filter_cons_of_pos (by simpa using owned), List.foldl_cons, sameOwners]
            exact ih mirrored removed.ok splitAfter fewer
          · rw [if_neg owned, List.filter_cons_of_neg (by simpa using owned)]
            have splitNext : store.hash bucket = (before ++ [adr]) ++ rest := by
              simp [split, List.append_assoc]
            exact ih mirrors ok splitNext fewer

theorem Mirrors.clearBuckets (mwid : UInt32) {pointers : PointerStore} {store : CallStore}
    (mirrors : Mirrors pointers store) (ok : StoreOk store) {indices : List Nat}
    (distinct : indices.Nodup) (small : ∀ index ∈ indices, index < 256) :
    Refines (PointerStore.clearBuckets mwid indices pointers)
      (.ok (((indices.flatMap fun index => store.hash (UInt8.ofNat index)).filter fun adr =>
        (store.pc adr).srcMwid == mwid).foldl CallStore.freePendingCall store)) := by
  induction indices generalizing pointers store with
  | nil => exact ⟨pointers, rfl, mirrors⟩
  | cons index rest ih =>
      rcases List.nodup_cons.mp distinct with ⟨notLater, restDistinct⟩
      have restSmall : ∀ other ∈ rest, other < 256 :=
        fun other member => small other (List.mem_cons_of_mem index member)
      have within := mirrors.length_hash ok (UInt8.ofNat index)
      have head := (mirrors.threads.chain (.bucket (UInt8.ofNat index))).head
      rcases mirrors.clearFrom mwid ok (List.nil_append _).symm within with
        ⟨after, cleared, mirrored⟩
      rw [PointerStore.clearBuckets, head]
      simp only [CallStore.lists, cleared]
      rw [List.flatMap_cons, List.filter_append, List.foldl_append]
      have inBucket : ∀ adr ∈ (store.hash (UInt8.ofNat index)).filter fun adr =>
          (store.pc adr).srcMwid == mwid, adr ∈ store.hash (UInt8.ofNat index) :=
        fun adr member => List.mem_of_mem_filter member
      generalize (store.hash (UInt8.ofNat index)).filter (fun adr =>
        (store.pc adr).srcMwid == mwid) = calls at cleared mirrored inBucket ⊢
      have below : ∀ adr ∈ calls, adr < store.alloced :=
        fun adr member => ok.alloced adr (Or.inl ⟨_, inBucket adr member⟩)
      rcases foldl_freePendingCall_frame ok below with ⟨okAfter, samePc, sameHash⟩
      -- The calls that were released are in none of the buckets that follow.
      have elsewhere : ∀ other ∈ rest, ∀ adr ∈ calls, adr ∉ store.hash (UInt8.ofNat other) := by
        intro other member adr released inOther
        have same := congrArg UInt8.toNat
          (ok.bucket adr _ _ (inBucket adr released) inOther)
        grind [UInt8.toNat_ofNat_of_lt']
      have sameBuckets : (rest.flatMap fun other => store.hash (UInt8.ofNat other)) =
          rest.flatMap fun other =>
            (calls.foldl CallStore.freePendingCall store).hash (UInt8.ofNat other) := by
        rw [List.flatMap_def, List.flatMap_def]
        congr 1
        apply List.map_congr_left
        intro other member
        exact (sameHash _ (elsewhere other member)).symm
      grind [List.filter_congr]

theorem Mirrors.storeSRBClearClient {pointers : PointerStore} {store : CallStore}
    (mirrors : Mirrors pointers store) (ok : StoreOk store) (mwid : UInt32) :
    Refines (pointers.storeSRBClearClient mwid) (.ok (store.storeSRBClearClient mwid)) :=
  mirrors.clearBuckets mwid ok List.nodup_range fun _ member => List.mem_range.mp member

/-- The public operations. The service table and the peers may differ from one to the
next. -/
inductive StoreOperation where
  | srbCall (domain : Domain) (mwid nethandle : UInt32) (map : Urlmap) (conn : Connection)
      (datatotal : Int) (service : List Byte) (instanceName domainname : Option (List Byte))
      (flags : UInt32)
  | srbData (domain : Domain) (mwid nethandle : UInt32) (data : List Byte)
  | srbReply (domain : Domain) (mwid nethandle : UInt32) (rcode apprcode datatotal : Int)
  | clearClient (mwid : UInt32)
  | ipcCall (domain : Domain) (outlet : Outlet) (cmsg : Call) (conn : Connection)
  | ipcReply (cmsg : Call)

def PointerStore.perform (store : PointerStore) :
    StoreOperation → Except StoreFailure PointerStore
  | .srbCall domain mwid nethandle map conn datatotal service instanceName domainname flags =>
      store.storeSRBCall domain mwid nethandle map conn datatotal service instanceName domainname
        flags
  | .srbData domain mwid nethandle data => store.storeSRBData domain mwid nethandle data
  | .srbReply domain mwid nethandle rcode apprcode datatotal =>
      store.storeSRBReply domain mwid nethandle rcode apprcode datatotal
  | .clearClient mwid => store.storeSRBClearClient mwid
  | .ipcCall domain outlet cmsg conn =>
      (store.storeIPCCall domain outlet cmsg conn).map fun result => result.2.1
  | .ipcReply cmsg => (store.storeIPCReply cmsg).map Prod.snd

/-- A `storeIPCCall` of the run is one that succeeds. -/
def PointerStore.Succeeds (store : PointerStore) : StoreOperation → Prop
  | .ipcCall domain outlet cmsg conn =>
      ∃ after, store.storeIPCCall domain outlet cmsg conn = .ok (0, after)
  | _ => True

def emptyPointers : PointerStore where
  pc := fun _ => clearPendingCall
  links := ⟨fun _ => none, fun _ => none⟩
  alloced := 0
  handle := -1
  sent := []

def pointerMachine : Machine PointerStore StoreOperation StoreFailure where
  start := fun store => store = emptyPointers
  enabled := PointerStore.Succeeds
  step := PointerStore.perform

theorem emptyPointers_mirrors : Mirrors emptyPointers emptyStore := by
  refine ⟨rfl, ⟨?_, ?_, ?_⟩, rfl, rfl, rfl⟩
  · intro name
    cases name with
    | free => rfl
    | bucket index => rfl
  · intro name
    cases name with
    | free => exact List.nodup_nil
    | bucket index => exact List.nodup_nil
  · intro name other adr member
    cases name with
    | free => exact absurd member List.not_mem_nil
    | bucket index => exact absurd member List.not_mem_nil

/-- One operation: the pointers still hold lists in which every struct has its
place. -/
theorem pointerMachine_preserves :
    pointerMachine.Preserves (fun _ _ => True) fun pointers =>
      ∃ store, Mirrors pointers store ∧ Keyed store := by
  intro pointers operation next represented succeeds _ performed
  rcases represented with ⟨store, mirrors, keyed⟩
  change pointers.perform operation = .ok next at performed
  rw [PointerStore.perform.eq_def] at performed
  cases operation with
  | srbCall domain mwid nethandle map conn datatotal service instanceName domainname flags =>
      rcases (mirrors.storeSRBCall domain keyed.ok mwid nethandle map conn datatotal service
        instanceName domainname flags).result performed with ⟨after, isAfter, mirrored⟩
      cases isAfter
      exact ⟨_, mirrored, keyed.storeSRBCall domain mwid nethandle map conn datatotal service
        instanceName domainname flags⟩
  | srbData domain mwid nethandle data =>
      rcases (mirrors.storeSRBData domain keyed.ok mwid nethandle data).result performed with
        ⟨after, isAfter, mirrored⟩
      exact ⟨after, mirrored, keyed.storeSRBData domain isAfter⟩
  | srbReply domain mwid nethandle rcode apprcode datatotal =>
      rcases (mirrors.storeSRBReply domain keyed.ok mwid nethandle rcode apprcode
        datatotal).result performed with ⟨after, isAfter, mirrored⟩
      exact ⟨after, mirrored, keyed.storeSRBReply domain isAfter⟩
  | clearClient mwid =>
      rcases (mirrors.storeSRBClearClient keyed.ok mwid).result performed with
        ⟨after, isAfter, mirrored⟩
      cases isAfter
      exact ⟨_, mirrored, keyed.storeSRBClearClient mwid⟩
  | ipcCall domain outlet cmsg conn =>
      rcases mirrors.storeIPCCall domain keyed.ok outlet cmsg conn with ⟨after, called, mirrored⟩
      simp only [called] at performed
      cases performed
      rcases succeeds with ⟨result, succeeded⟩
      rw [called] at succeeded
      have succeededRc : (store.storeIPCCall domain outlet cmsg conn).rc = 0 :=
        (Prod.mk.inj (Except.ok.inj succeeded)).1
      have passes : outlet.Passes (store.nextIpchdl domain) cmsg := by
        by_contra stopped
        have failed := (storeIPCCall_unsent conn stopped).1
        omega
      exact ⟨_, mirrored, keyed.storeIPCCall domain passes conn⟩
  | ipcReply cmsg =>
      rcases (mirrors.storeIPCReply keyed.ok cmsg).1.result performed with
        ⟨after, isAfter, mirrored⟩
      cases result : store.storeIPCReply cmsg with
      | error failure =>
          rw [result] at isAfter
          cases isAfter
      | ok answered =>
          rcases answered with ⟨answer, store'⟩
          rw [result] at isAfter
          cases isAfter
          exact ⟨_, mirrored, keyed.storeIPCReply result⟩

/-- The structure of the store: every struct that was ever allocated is in exactly one
list, the free list or the bucket of its key; along each list the root of every element
names the link that holds it; and a lookup ends, and finds nothing only if no element
has the key. -/
structure StructureOk (pointers : PointerStore) (lists : ListName → List Nat) : Prop where
  chain : ∀ name, Chain pointers.links (.head name) (lists name)
  once : ∀ name, (lists name).Nodup
  one : ∀ adr < pointers.alloced, ∃! name, adr ∈ lists name
  allocated : ∀ name, ∀ adr ∈ lists name, adr < pointers.alloced
  key : ∀ bucket, ∀ adr ∈ lists (.bucket bucket), bucket = (pointers.pc adr).keyBucket
  lookup : ∀ mwid hdl, ∃ found, pointers.lookupPendingCall mwid hdl = .ok found ∧
    (found = none → ∀ bucket, ∀ adr ∈ lists (.bucket bucket), (pointers.pc adr).key ≠ (mwid, hdl))

theorem Mirrors.structureOk {pointers : PointerStore} {store : CallStore}
    (mirrors : Mirrors pointers store) (keyed : Keyed store) :
    StructureOk pointers store.lists := by
  refine ⟨mirrors.threads.chain, mirrors.threads.nodup, ?_, ?_, ?_, ?_⟩
  · intro adr below
    rw [mirrors.alloced] at below
    rcases (store.listed_iff adr).mp (keyed.listed adr below) with ⟨name, member⟩
    exact ⟨name, member, fun other inOther => mirrors.threads.apart other name adr inOther member⟩
  · intro name adr member
    rw [mirrors.alloced]
    exact keyed.ok.alloced adr ((store.listed_iff adr).mpr ⟨name, member⟩)
  · intro bucket adr member
    rw [mirrors.pc]
    exact keyed.keys adr bucket member
  · intro mwid hdl
    refine ⟨_, mirrors.lookupPendingCall keyed.ok mwid hdl, ?_⟩
    intro nothing bucket adr member
    rw [mirrors.pc]
    exact keyed.lookup_none nothing member

/-- Over every run of the public operations the store keeps its structure. -/
theorem pointerStore_structure {pointers : PointerStore}
    (reachable : pointerMachine.Reachable (fun _ _ => True) pointers) :
    ∃ lists, StructureOk pointers lists := by
  have represented : ∃ store, Mirrors pointers store ∧ Keyed store := by
    apply reachable.holds _ pointerMachine_preserves
    intro start isStart
    rw [show start = emptyPointers from isStart]
    exact ⟨emptyStore, emptyPointers_mirrors, emptyStore_keyed⟩
  rcases represented with ⟨store, mirrors, keyed⟩
  exact ⟨store.lists, mirrors.structureOk keyed⟩

def firstCall : StoreOperation :=
  .srbCall peerDomain 0x02000001 7 [⟨[65], none⟩] ⟨5, 0x02000001, unassigned, true, true⟩ 0 [115]
    none none 0

theorem pointerStore_structure_first_call :
    ∃ pointers, emptyPointers.perform firstCall = .ok pointers ∧ pointers.alloced = 1 ∧
      ∃ lists, StructureOk pointers lists := by
  rcases emptyPointers_mirrors.storeSRBCall peerDomain emptyStore_ok 0x02000001 7
    [⟨[65], none⟩] ⟨5, 0x02000001, unassigned, true, true⟩ 0 [115] none none 0 with
    ⟨pointers, performed, mirrors⟩
  have reachable : pointerMachine.Reachable (fun _ _ => True) pointers :=
    .step (.start rfl) (show pointerMachine.enabled emptyPointers firstCall from trivial) trivial
      performed
  exact ⟨pointers, performed, mirrors.alloced, pointerStore_structure reachable⟩

end MidWay.Gateway

import Mathlib.Data.Finset.Card
import MidWay.Gateway.CallFate

/-!
Contract: when the call store is empty again.

A struct enters the store with every call, and leaves it with the last reply to the
call or when its client goes. Beside the store a run counts, for each caller, the calls
it made that expect a reply and are not answered yet. The store never holds more
structs for a caller than that, as long as every call expects a reply. A call that
expects none is stored as well, and nothing ever takes it out.

Owns: `CallStore.madeBy`, `Accounts`, `accountMachine`, and that an account that is
settled means an empty store.
-/

namespace MidWay.Gateway

open MidWay.CLib MidWay.Url MidWay.Srb MidWay.Lib

open Classical in
/-- The structs that wait in the store for a caller. -/
noncomputable def CallStore.madeBy (store : CallStore) (id : UInt32) : Finset Nat :=
  (Finset.range store.alloced).filter fun adr =>
    store.Pending adr ∧ (store.pc adr).srcMwid = id

theorem StoreOk.mem_madeBy {store : CallStore} (ok : StoreOk store) {id : UInt32} {adr : Nat} :
    adr ∈ store.madeBy id ↔ store.Pending adr ∧ (store.pc adr).srcMwid = id := by
  simp only [CallStore.madeBy, Finset.mem_filter, Finset.mem_range]
  constructor
  · simp
  · intro member
    exact ⟨ok.alloced adr (Or.inl member.1), member⟩

section Changes

variable {store store' : CallStore} (ok : StoreOk store) {adr : Nat} {pc : PendingCall}
  {bucket : UInt8}
include ok

/-- A call changes, but not its caller. -/
theorem Placed.madeBy_eq (placed : Placed store store' adr pc bucket)
    (pending : store.Pending adr) (sameCaller : pc.srcMwid = (store.pc adr).srcMwid)
    (id : UInt32) : store'.madeBy id = store.madeBy id := by
  ext other
  rw [placed.ok.mem_madeBy, ok.mem_madeBy]
  by_cases same : other = adr
  · rw [same, placed.pc, sameCaller]
    have stays : store'.Pending adr := ⟨bucket, (placed.mem adr bucket).mpr (Or.inl ⟨rfl, rfl⟩)⟩
    exact and_congr_left fun _ => iff_of_true stays pending
  · rw [placed.others other same]
    apply and_congr_left
    intro _
    constructor
    · intro isPending
      rcases isPending with ⟨place, member⟩
      rcases (placed.mem other place).mp member with here | before
      · exact absurd here.1 same
      · exact ⟨place, before.2⟩
    · intro isPending
      rcases isPending with ⟨place, member⟩
      exact ⟨place, (placed.mem other place).mpr (Or.inr ⟨same, member⟩)⟩

/-- A call of this caller is new. -/
theorem Placed.card_madeBy_le (placed : Placed store store' adr pc bucket) (id : UInt32) :
    (store'.madeBy id).card ≤ (store.madeBy id).card + if id = pc.srcMwid then 1 else 0 := by
  have within : store'.madeBy id ⊆
      if id = pc.srcMwid then insert adr (store.madeBy id) else store.madeBy id := by
    intro other member
    rcases placed.ok.mem_madeBy.mp member with ⟨⟨place, inPlace⟩, isCaller⟩
    by_cases same : other = adr
    · simp_all [placed.pc]
    · have before : other ∈ store.madeBy id := by
        rw [placed.others other same] at isCaller
        rcases (placed.mem other place).mp inPlace with here | before
        · exact absurd here.1 same
        · exact ok.mem_madeBy.mpr ⟨⟨place, before.2⟩, isCaller⟩
      grind
  apply (Finset.card_le_card within).trans
  split_ifs
  · exact Finset.card_insert_le _ _
  · exact Nat.le_refl _

theorem Removed.madeBy_eq (removed : Removed store store' adr) (id : UInt32) :
    store'.madeBy id = (store.madeBy id).erase adr := by
  ext other
  rw [Finset.mem_erase, removed.ok.mem_madeBy, ok.mem_madeBy]
  constructor
  · intro member
    rcases member with ⟨⟨place, inPlace⟩, isCaller⟩
    rcases (removed.mem other place).mp inPlace with ⟨different, before⟩
    rw [removed.others other different] at isCaller
    exact ⟨different, ⟨place, before⟩, isCaller⟩
  · intro member
    rcases member with ⟨different, ⟨place, before⟩, isCaller⟩
    rw [← removed.others other different] at isCaller
    exact ⟨⟨place, (removed.mem other place).mpr ⟨different, before⟩⟩, isCaller⟩

theorem Removed.card_madeBy (removed : Removed store store' adr) (pending : store.Pending adr)
    (id : UInt32) :
    (store'.madeBy id).card + (if id = (store.pc adr).srcMwid then 1 else 0) =
      (store.madeBy id).card := by
  rw [removed.madeBy_eq ok]
  split_ifs with isCaller
  · exact Finset.card_erase_add_one (ok.mem_madeBy.mpr ⟨pending, isCaller.symm⟩)
  · rw [Finset.erase_eq_of_notMem]
    · rfl
    · intro member
      exact isCaller (ok.mem_madeBy.mp member).2.symm

end Changes

def finals (posts : List (UInt32 × Call)) (id : UInt32) : Nat :=
  posts.countP fun post =>
    post.1 == id && post.2.mtype == .svcreply && post.2.returncode != mwMore

/-- The connection a call came on is that of its caller, and its message is no reply
before it was routed. -/
structure PendingCall.Answerable (pc : PendingCall) : Prop where
  conn : ∀ conn, pc.srcconn = some conn → connGetinfo conn = pc.srcMwid
  mtype : pc.status = .calldatapending → pc.call.mtype = .svccall

/-- What was done is on the account of every caller: the structs that wait, the last
replies sent to it, and these further answers, are covered by the structs that waited
before and by the calls that were made. -/
structure Accounts (store store' : CallStore) (made answered : UInt32 → Nat) : Prop where
  calls : AllCalls PendingCall.Answerable store'
  balance : ∃ posts, store'.sent = store.sent ++ posts ∧ ∀ id,
    (store'.madeBy id).card + finals posts id + answered id ≤ (store.madeBy id).card + made id

def noCall : UInt32 → Nat := fun _ => 0

def oneCall (caller : Option UInt32) (id : UInt32) : Nat := if caller = some id then 1 else 0

theorem oneCall_some (caller id : UInt32) :
    oneCall (some caller) id = if id = caller then 1 else 0 := by
  simp only [oneCall, Option.some.injEq, eq_comm]

theorem finals_append (posts more : List (UInt32 × Call)) (id : UInt32) :
    finals (posts ++ more) id = finals posts id + finals more id := List.countP_append

theorem Accounts.refl {store : CallStore} (calls : AllCalls PendingCall.Answerable store) :
    Accounts store store noCall noCall :=
  ⟨calls, [], (List.append_nil _).symm, fun _ => Nat.le_refl _⟩

theorem Accounts.trans {store between store' : CallStore} {made answered : UInt32 → Nat}
    (first : Accounts store between made noCall)
    (second : Accounts between store' noCall answered) : Accounts store store' made answered := by
  rcases first.balance with ⟨posts, sent, balance⟩
  rcases second.balance with ⟨more, moreSent, moreBalance⟩
  refine ⟨second.calls, posts ++ more, ?_, ?_⟩
  · rw [moreSent, sent, List.append_assoc]
  · grind [finals_append, noCall]

theorem PendingCall.Answerable.routed {pc : PendingCall} (answerable : pc.Answerable)
    (domain : Domain) (ipchdl : UInt32) : (pc.routed domain ipchdl).Answerable := by
  refine ⟨answerable.conn, ?_⟩
  intro impossible
  cases impossible

theorem PendingCall.Answerable.reset {pc : PendingCall} (answerable : pc.Answerable)
    (domain : Domain) : (pc.reset domain).Answerable := by
  refine ⟨answerable.conn, ?_⟩
  intro impossible
  cases impossible

theorem finals_call {call : Call} (isCall : call.mtype = .svccall) (dest id : UInt32) :
    finals [(dest, call)] id = 0 := by
  simp [finals, isCall]

theorem finals_more {call : Call} (more : call.returncode = mwMore) (dest id : UInt32) :
    finals [(dest, call)] id = 0 := by
  simp [finals, more]

theorem finals_last_le (dest : UInt32) (call : Call) (id : UInt32) :
    finals [(dest, call)] id ≤ if id = dest then 1 else 0 := by
  by_cases same : id = dest
  · rw [if_pos same]
    exact List.countP_le_length
  · grind [finals]

theorem PendingCall.routed_mtype (domain : Domain) (pc : PendingCall) (ipchdl : UInt32) :
    (pc.routed domain ipchdl).call.mtype = pc.call.mtype := by
  grind [PendingCall.routed, PendingCall.putbuffer]

/-- The caller whose call ends when this reply of a server goes out on this connection. -/
def finalFor (cmsg : Call) : Option (Connection × Urlmap) → Option UInt32
  | none => none
  | some (conn, _) =>
      if cmsg.returncode ≠ mwMore ∧ cmsg.flags &&& mwNoreply = 0 then some (connGetinfo conn)
      else none

def answeredBy (store : CallStore) (cmsg : Call) : Option UInt32 :=
  match store.storeIPCReply cmsg with
  | .ok (answer, _) => finalFor cmsg answer
  | .error _ => none

section Operations

variable {store : CallStore} (calls : AllCalls PendingCall.Answerable store)
include calls

theorem accounts_setPc {adr : Nat} {pc : PendingCall} (pending : store.Pending adr)
    (sameCaller : pc.srcMwid = (store.pc adr).srcMwid) (answerable : pc.Answerable) :
    Accounts store (store.setPc adr pc) noCall noCall := by
  refine ⟨calls.setPc pending answerable, [], (List.append_nil _).symm, ?_⟩
  intro id
  rcases pending with ⟨bucket, member⟩
  have placed := setPc_placed calls.ok member pc
  rw [placed.madeBy_eq calls.ok ⟨bucket, member⟩ sameCaller]
  exact Nat.le_refl _

theorem accounts_routeCall (domain : Domain) {adr : Nat} (pending : store.Pending adr)
    (collecting : (store.pc adr).status = .calldatapending) :
    Accounts store (store.routeCall domain adr) noCall noCall := by
  have placed := routeCall_placed calls.ok domain pending
  have answerable := calls.all adr pending
  have isCall : ((store.pc adr).routed domain (store.nextIpchdl domain)).call.mtype = .svccall := by
    simp_all [PendingCall.routed_mtype, answerable.mtype]
  refine ⟨calls.place placed (answerable.routed domain _),
    [(domain.providerByServiceid (domain.bestService (store.pc adr).call.service
      (store.pc adr).call.flags), ((store.pc adr).routed domain (store.nextIpchdl domain)).call)],
    rfl, ?_⟩
  intro id
  rw [placed.madeBy_eq calls.ok pending rfl, finals_call isCall]
  exact Nat.le_refl _

theorem accounts_routeReply (domain : Domain) {adr : Nat} (pending : store.Pending adr) :
    Accounts store (store.routeReply domain adr) noCall noCall := by
  have answerable := calls.all adr pending
  refine ⟨calls.routeReply domain pending fun _ => answerable.reset domain,
    [((store.pc adr).srcMwid, (store.pc adr).reply domain)], routeReply_sent store domain adr, ?_⟩
  intro id
  by_cases more : ((store.pc adr).reply domain).returncode = mwMore
  · rcases pending with ⟨bucket, member⟩
    have placed := routeReply_placed calls.ok domain member more
    rw [placed.madeBy_eq calls.ok ⟨bucket, member⟩ rfl, finals_more more]
    exact Nat.le_refl _
  · have removed := routeReply_removed calls.ok domain pending more
    have one := removed.card_madeBy calls.ok pending id
    grind [noCall, finals_last_le]

theorem accounts_checkIfComplete (domain : Domain) {adr : Nat} (pending : store.Pending adr) :
    Accounts store (store.checkIfComplete domain adr) noCall noCall := by
  rw [CallStore.checkIfComplete]
  grind [Accounts.refl, accounts_routeCall, accounts_routeReply]

theorem accounts_storeSRBData {store' : CallStore} (domain : Domain) {mwid nethandle : UInt32}
    {data : List Byte} (result : store.storeSRBData domain mwid nethandle data = .ok store') :
    Accounts store store' noCall noCall := by
  cases found : store.lookupPendingCall mwid nethandle with
  | none =>
      simp_all [CallStore.storeSRBData, Accounts.refl]
  | some adr =>
      have pending : store.Pending adr := ⟨_, List.mem_of_find?_eq_some found⟩
      have answerable := calls.all adr pending
      rcases storeSRBData_ok domain found result with ⟨fits, granted⟩
      rw [storeSRBData_found domain found fits granted] at result
      cases result
      have received : Accounts store (store.setPc adr ((store.pc adr).received domain data)) noCall
          noCall := accounts_setPc calls pending rfl ⟨answerable.conn, answerable.mtype⟩
      exact received.trans (accounts_checkIfComplete received.calls domain pending)

theorem accounts_storeSRBReply {store' : CallStore} (domain : Domain) {mwid nethandle : UInt32}
    {rcode apprcode datatotal : Int}
    (result : store.storeSRBReply domain mwid nethandle rcode apprcode datatotal = .ok store') :
    Accounts store store' noCall noCall := by
  rw [CallStore.storeSRBReply] at result
  cases found : store.lookupPendingCall mwid nethandle with
  | none =>
      simp_all [Accounts.refl]
  | some adr =>
      have pending : store.Pending adr := ⟨_, List.mem_of_find?_eq_some found⟩
      have answerable := calls.all adr pending
      simp only [found] at result
      split_ifs at result
      cases result
      have announced : Accounts store
          (store.setPc adr ((store.pc adr).announced rcode apprcode datatotal)) noCall noCall := by
        apply accounts_setPc calls pending
        · rfl
        · refine ⟨answerable.conn, ?_⟩
          intro impossible
          cases impossible
      exact announced.trans (accounts_checkIfComplete announced.calls domain pending)

theorem accounts_storeSRBCall (domain : Domain) (nethandle : UInt32) (map : Urlmap)
    (conn : Connection) (datatotal : Int) (service : List Byte)
    (instanceName domainname : Option (List Byte)) (flags : UInt32) :
    Accounts store (store.storeSRBCall domain (connGetinfo conn) nethandle map conn datatotal
      service instanceName domainname flags) (oneCall (some (connGetinfo conn))) noCall := by
  have opened : (openedCall domain (connGetinfo conn) nethandle map conn datatotal service
      instanceName domainname flags).Answerable := by
    refine ⟨?_, fun _ => rfl⟩
    intro other isConn
    cases isConn
    rfl
  have after := calls.storeSRBCall domain (connGetinfo conn) nethandle map conn datatotal service
    instanceName domainname flags opened fun _ => opened.routed domain _
  rcases storeSRBCall_checked calls.ok domain (connGetinfo conn) nethandle map conn datatotal
    service instanceName domainname flags with ⟨adr, -, checked⟩
  by_cases complete : datatotal = 0
  · rcases checked.complete complete.symm with ⟨placed, -, sent⟩
    have isCall : ((openedCall domain (connGetinfo conn) nethandle map conn datatotal service
        instanceName domainname flags).routed domain (store.nextIpchdl domain)).call.mtype =
        .svccall := by
      rw [PendingCall.routed_mtype]
      rfl
    refine ⟨after, _, sent, ?_⟩
    intro id
    rw [finals_call isCall, oneCall_some]
    exact placed.card_madeBy_le calls.ok id
  · rcases checked.waiting (Ne.symm complete) with ⟨placed, -, sent⟩
    refine ⟨after, [], sent.trans (List.append_nil _).symm, ?_⟩
    intro id
    rw [oneCall_some]
    exact placed.card_madeBy_le calls.ok id

theorem accounts_storeIPCCall {domain : Domain} {outlet : Outlet} {cmsg : Call}
    (passes : outlet.Passes (store.nextIpchdl domain) cmsg) (conn : Connection) :
    Accounts store (store.storeIPCCall domain outlet cmsg conn).store
      (oneCall (some cmsg.callerMwid)) noCall := by
  have opened := openIPCCall_opened calls.ok domain cmsg conn
  have bare : (unsentCall domain store cmsg conn).Answerable := by
    refine ⟨?_, fun _ => rfl⟩
    intro other isConn
    cases isConn
  have openAccounts : Accounts store (store.openIPCCall domain cmsg conn).2.2
      (oneCall (some cmsg.callerMwid)) noCall := by
    refine ⟨calls.place opened.placed bare, [], opened.sent.trans (List.append_nil _).symm, ?_⟩
    intro id
    rw [oneCall_some]
    exact opened.placed.card_madeBy_le calls.ok id
  have pending : (store.openIPCCall domain cmsg conn).2.2.Pending
      (store.openIPCCall domain cmsg conn).1 :=
    ⟨_, (opened.placed.mem _ _).mpr (Or.inl ⟨rfl, rfl⟩)⟩
  rw [storeIPCCall_sent passes]
  apply openAccounts.trans
  apply accounts_setPc openAccounts.calls pending
  · rfl
  · rw [opened.placed.pc]
    refine ⟨bare.conn, ?_⟩
    intro impossible
    cases impossible

theorem accounts_storeIPCReply {store' : CallStore} {cmsg : Call}
    {answer : Option (Connection × Urlmap)}
    (result : store.storeIPCReply cmsg = .ok (answer, store')) :
    Accounts store store' noCall (oneCall (answeredBy store cmsg)) := by
  have unanswered : Accounts store store (noCall) (oneCall none) := Accounts.refl calls
  rw [answeredBy, result]
  rw [CallStore.storeIPCReply] at result
  cases found : store.lookupPendingCall cmsg.callerMwid cmsg.handle with
  | none =>
      simp only [found] at result
      cases result
      exact unanswered
  | some adr =>
      have pending : store.Pending adr := ⟨_, List.mem_of_find?_eq_some found⟩
      simp only [found] at result
      cases hasConn : (store.pc adr).srcconn with
      | none =>
          simp [hasConn] at result
      | some conn =>
          simp only [hasConn] at result
          split_ifs at result with foreign more
          · cases result
            exact unanswered
          · cases result
            have notFinal : finalFor cmsg (some (conn, (store.pc adr).callmsg)) = none :=
              if_neg fun both => both.1 more
            simp only [notFinal]
            exact unanswered
          · cases result
            have removed := freePendingCall_removed calls.ok (calls.ok.alloced adr (Or.inl pending))
            have isCaller := (calls.all adr pending).conn conn hasConn
            refine ⟨calls.remove removed, [], (List.append_nil _).symm, ?_⟩
            intro id
            have one := removed.card_madeBy calls.ok pending id
            have atMost : oneCall (finalFor cmsg (some (conn, (store.pc adr).callmsg))) id ≤
                if id = (store.pc adr).srcMwid then 1 else 0 := by
              rw [finalFor]
              split_ifs with isFinal isId isId
              · exact Nat.le_of_eq (if_pos (by rw [isCaller, isId]))
              · rw [oneCall_some, if_neg (by rw [isCaller]; exact isId)]
              · exact Nat.zero_le _
              · exact Nat.le_refl _
            grind [noCall, finals]

end Operations

theorem mem_madeBy_foldl_free {store : CallStore} (ok : StoreOk store) {released : List Nat}
    (below : ∀ adr ∈ released, adr < store.alloced) {id : UInt32} {adr : Nat}
    (member : adr ∈ (released.foldl CallStore.freePendingCall store).madeBy id) :
    adr ∈ store.madeBy id ∧ adr ∉ released := by
  induction released generalizing store with
  | nil => exact ⟨member, List.not_mem_nil⟩
  | cons first rest ih =>
      have removed := freePendingCall_removed ok (below first List.mem_cons_self)
      rcases ih removed.ok
        (fun other inRest => below other (List.mem_cons_of_mem _ inRest)) member with
        ⟨before, notInRest⟩
      simp_all [removed.madeBy_eq]

section Clear

variable {store : CallStore} (ok : StoreOk store)
include ok

theorem mem_madeBy_storeSRBClearClient {mwid id : UInt32} {adr : Nat}
    (member : adr ∈ (store.storeSRBClearClient mwid).madeBy id) :
    adr ∈ store.madeBy id ∧ id ≠ mwid := by
  rcases mem_madeBy_foldl_free ok (fun other released => by
    rcases List.mem_flatMap.mp (List.mem_of_mem_filter released) with ⟨index, -, inBucket⟩
    exact ok.alloced other (Or.inl ⟨_, inBucket⟩)) member with ⟨before, kept⟩
  refine ⟨before, ?_⟩
  intro isClient
  rcases ok.mem_madeBy.mp before with ⟨⟨bucket, inBucket⟩, isCaller⟩
  apply kept
  apply List.mem_filter.mpr
  refine ⟨List.mem_flatMap.mpr ⟨bucket.toNat, List.mem_range.mpr bucket.toNat_lt, ?_⟩, ?_⟩
  · simp [UInt8.ofNat_toNat, inBucket]
  · simp [isCaller, isClient]

theorem card_madeBy_storeSRBClearClient (mwid id : UInt32) :
    ((store.storeSRBClearClient mwid).madeBy id).card ≤
      if id = mwid then 0 else (store.madeBy id).card := by
  split_ifs with isClient
  · rw [Nat.le_zero, Finset.card_eq_zero, Finset.eq_empty_iff_forall_notMem]
    intro adr member
    exact (mem_madeBy_storeSRBClearClient ok member).2 isClient
  · apply Finset.card_le_card
    grind [mem_madeBy_storeSRBClearClient]

end Clear

theorem storeSRBClearClient_sent (store : CallStore) (mwid : UInt32) :
    (store.storeSRBClearClient mwid).sent = store.sent := by
  rw [CallStore.storeSRBClearClient]
  generalize List.filter _ _ = released
  induction released generalizing store with
  | nil => rfl
  | cons first rest ih => exact ih (store.freePendingCall first)

def PeerEvent.caller : PeerEvent → Option UInt32
  | .gateway (.message _ uninit conn srbmsg) =>
      if command conn srbmsg = .svccall ∧ connGetinfo conn ≠ unassigned then
        match readCall uninit conn srbmsg with
        | .complete request =>
            if request.flags &&& mwNoreply = 0 then some (connGetinfo conn) else none
        | _ => none
      else none
  | .ipcCall _ _ cmsg _ => if cmsg.flags &&& mwNoreply = 0 then some cmsg.callerMwid else none
  | _ => none

def PeerEvent.answered (store : CallStore) : PeerEvent → Option UInt32
  | .gateway (.ipcReply cmsg) => answeredBy store cmsg
  | _ => none

def PeerEvent.cleared : PeerEvent → Option UInt32
  | .gateway (.closed conn) => if conn.cid ≠ unassigned then some conn.cid else none
  | .gateway (.message _ _ conn srbmsg) =>
      if command conn srbmsg = .term ∧ conn.cid ≠ unassigned then some conn.cid else none
  | _ => none

/-- The store, and for each caller the calls it made that expect a reply and have not had
their last one. -/
structure AccountState where
  store : CallStore
  outstanding : UInt32 → Nat

def AccountState.step (limit : Nat) (state : AccountState) (event : PeerEvent) :
    Except StoreFailure AccountState :=
  match event.handle limit state.store with
  | .error failure => .error failure
  | .ok next =>
      .ok ⟨next, fun id =>
        if event.cleared = some id then 0
        else state.outstanding id + oneCall event.caller id -
          (finals (next.sent.drop state.store.sent.length) id +
            oneCall (event.answered state.store) id)⟩

def accountMachine (limit : Nat) : Machine AccountState PeerEvent StoreFailure where
  start := fun state => state = ⟨emptyStore, fun _ => 0⟩
  enabled := fun state event => event.Enabled state.store
  step := AccountState.step limit

def PeerEvent.ExpectsReply : PeerEvent → Prop
  | .gateway (.message _ uninit conn srbmsg) =>
      command conn srbmsg = .svccall → ∀ request, readCall uninit conn srbmsg = .complete request →
        request.flags &&& mwNoreply = 0
  | .ipcCall _ _ cmsg _ => cmsg.flags &&& mwNoreply = 0
  | _ => True

theorem caller_eq_none {domain : Domain} {uninit : Uninit} {conn : Connection}
    {srbmsg : SRBmessage} (noCall : command conn srbmsg ≠ .svccall) :
    (PeerEvent.gateway (.message domain uninit conn srbmsg)).caller = none :=
  if_neg fun both => noCall both.1

theorem answered_eq_none {event : PeerEvent} {mwid : UInt32} (goes : event.cleared = some mwid)
    (store : CallStore) : event.answered store = none := by
  cases event with
  | ipcCall domain outlet cmsg conn => rfl
  | gateway event =>
      cases event with
      | ipcReply cmsg => cases goes
      | closed conn => rfl
      | message domain uninit conn srbmsg => rfl

section Events

variable {store store' : CallStore} (calls : AllCalls PendingCall.Answerable store)
  {domain : Domain} {conn : Connection} {srbmsg : SRBmessage}
include calls

theorem accounts_storeRest {handle : UInt32} {data : List Byte}
    (result : storeRest domain store conn handle data = .ok store') :
    Accounts store store' noCall noCall := by
  grind [storeRest, accounts_storeSRBData, Accounts.refl]

theorem accounts_srbsvcdata {answers : List SRBmessage}
    (result : srbsvcdata domain store conn srbmsg = .ok (store', answers)) :
    Accounts store store' noCall noCall := by
  rw [srbsvcdata] at result
  cases reading : readData conn srbmsg with
  | ended exchange =>
      simp_all [Accounts.refl]
  | failed failure =>
      simp [reading] at result
  | complete request =>
      rw [reading] at result
      rcases map_eq_ok result with ⟨after, stored, same⟩
      grind [accounts_storeSRBData]

theorem accounts_srbcallRpl {limit : Nat} {uninit : Uninit} {answers : List SRBmessage}
    (result : srbcallRpl domain limit uninit store conn srbmsg = .ok (store', answers)) :
    Accounts store store' noCall noCall := by
  rw [srbcallRpl] at result
  split_ifs at result
  · simp_all [Accounts.refl]
  · cases reading : readReply uninit conn srbmsg with
    | ended exchange =>
        simp_all [Accounts.refl]
    | failed failure =>
        simp [reading] at result
    | complete request =>
        simp only [reading] at result
        cases replied : store.storeSRBReply domain (connGetinfo conn) request.handle
          request.returncode request.appreturncode request.datatotal with
        | error failure =>
            simp [replied] at result
        | ok between =>
            rw [replied] at result
            rcases map_eq_ok result with ⟨after, stored, same⟩
            cases same
            have announced := accounts_storeSRBReply calls domain replied
            exact announced.trans (accounts_storeRest announced.calls stored)

/-- A request makes one call. -/
theorem accounts_srbcallReq {limit : Nat} {uninit : Uninit} {answers : List SRBmessage}
    (isCall : command conn srbmsg = .svccall)
    (expects : ∀ request, readCall uninit conn srbmsg = .complete request →
      request.flags &&& mwNoreply = 0)
    (result : srbcallReq domain limit uninit store conn srbmsg = .ok (store', answers)) :
    Accounts store store'
      (oneCall (PeerEvent.gateway (.message domain uninit conn srbmsg)).caller) noCall := by
  rw [srbcallReq] at result
  split_ifs at result with unattached
  · cases result
    rw [PeerEvent.caller, if_neg fun both => both.2 unattached]
    exact Accounts.refl calls
  · rw [PeerEvent.caller, if_pos ⟨isCall, unattached⟩]
    cases reading : readCall uninit conn srbmsg with
    | ended exchange =>
        rw [reading] at result
        cases result
        exact Accounts.refl calls
    | failed failure =>
        simp [reading] at result
    | complete request =>
        rw [reading] at result
        rcases map_eq_ok result with ⟨after, stored, same⟩
        cases same
        simp only [if_pos (expects request reading)]
        have opened := accounts_storeSRBCall calls domain request.handle
          request.exchange.srbmsg.map conn request.datatotal request.svcname request.instanceName
          request.domainname request.flags
        exact opened.trans (accounts_storeRest opened.calls stored)

theorem accounts_event {limit : Nat} {event : PeerEvent} (enabled : event.Enabled store)
    (expects : event.ExpectsReply) (nobodyGoes : event.cleared = none)
    (result : event.handle limit store = .ok store') :
    Accounts store store' (oneCall event.caller) (oneCall (event.answered store)) := by
  cases event with
  | ipcCall domain outlet cmsg conn =>
      cases result
      have wantsReply : cmsg.flags &&& mwNoreply = 0 := expects
      rw [PeerEvent.caller, if_pos wantsReply]
      exact accounts_storeIPCCall calls enabled conn
  | gateway event =>
      cases event with
      | closed conn =>
          cases result
          rw [tcpcloseconnection]
          split_ifs with isClient
          · simp_all [PeerEvent.cleared]
          · exact Accounts.refl calls
      | ipcReply cmsg =>
          rcases map_eq_ok result with ⟨⟨answer, after⟩, stored, same⟩
          cases same
          exact accounts_storeIPCReply calls stored
      | message domain uninit conn srbmsg =>
          change srbDoMessage domain limit uninit store conn srbmsg = .ok store' at result
          rw [srbDoMessage] at result
          cases isCommand : command conn srbmsg with
          | svccall =>
              rw [isCommand] at result
              rcases map_eq_ok result with ⟨⟨after, answers⟩, stored, same⟩
              cases same
              exact accounts_srbcallReq calls isCommand (expects isCommand) stored
          | svcreply =>
              rw [isCommand] at result
              rcases map_eq_ok result with ⟨⟨after, answers⟩, stored, same⟩
              cases same
              rw [caller_eq_none (by rw [isCommand]; decide)]
              exact accounts_srbcallRpl calls stored
          | svcdata =>
              rw [isCommand] at result
              rcases map_eq_ok result with ⟨⟨after, answers⟩, stored, same⟩
              cases same
              rw [caller_eq_none (by rw [isCommand]; decide)]
              exact accounts_srbsvcdata calls stored
          | term =>
              rw [isCommand] at result
              cases result
              rw [tcpcloseconnection]
              split_ifs with isClient
              · simp_all [PeerEvent.cleared]
              · rw [caller_eq_none (by rw [isCommand]; decide)]
                exact Accounts.refl calls
          | other =>
              rw [isCommand] at result
              cases result
              rw [caller_eq_none (by rw [isCommand]; decide)]
              exact Accounts.refl calls

end Events

/-- When a client goes, its calls are dropped, and that is all. -/
theorem handle_cleared {limit : Nat} {store store' : CallStore} {event : PeerEvent} {mwid : UInt32}
    (goes : event.cleared = some mwid) (result : event.handle limit store = .ok store') :
    store' = store.storeSRBClearClient mwid := by
  cases event with
  | ipcCall domain outlet cmsg conn => cases goes
  | gateway event =>
      cases event with
      | ipcReply cmsg => cases goes
      | closed conn =>
          rw [PeerEvent.cleared] at goes
          split_ifs at goes with isClient
          cases goes
          cases result
          exact if_pos isClient
      | message domain uninit conn srbmsg =>
          rw [PeerEvent.cleared] at goes
          split_ifs at goes with both
          cases goes
          change srbDoMessage domain limit uninit store conn srbmsg = .ok store' at result
          rw [srbDoMessage, both.1] at result
          cases result
          exact if_pos both.2

structure Covered (state : AccountState) : Prop where
  calls : AllCalls PendingCall.Answerable state.store
  covered : ∀ id, (state.store.madeBy id).card ≤ state.outstanding id

theorem accountMachine_preserves (limit : Nat) :
    (accountMachine limit).Preserves (fun _ event => event.ExpectsReply) Covered := by
  intro state event next covered enabled expects stepped
  change AccountState.step limit state event = .ok next at stepped
  rw [AccountState.step] at stepped
  cases handled : event.handle limit state.store with
  | error failure =>
      simp [handled] at stepped
  | ok store' =>
      rw [handled] at stepped
      cases stepped
      cases goes : event.cleared with
      | none =>
          have accounts := accounts_event covered.calls enabled expects goes handled
          rcases accounts.balance with ⟨posts, sent, balance⟩
          refine ⟨accounts.calls, ?_⟩
          intro id
          have before := covered.covered id
          grind
      | some mwid =>
          have cleared := handle_cleared goes handled
          refine ⟨?_, ?_⟩
          · simp [cleared, covered.calls.storeSRBClearClient]
          · intro id
            have fewer := card_madeBy_storeSRBClearClient covered.calls.ok mwid id
            have before := covered.covered id
            have nothingNew : store'.sent.drop state.store.sent.length = [] := by
              rw [cleared, storeSRBClearClient_sent, List.drop_length]
            rw [← cleared] at fewer
            change (store'.madeBy id).card ≤ _
            simp only [nothingNew, answered_eq_none goes, Option.some.injEq]
            by_cases isClient : mwid = id
            · simp_all
            · rw [if_neg (Ne.symm isClient)] at fewer
              rw [if_neg isClient]
              simp only [finals, oneCall, List.countP_nil, reduceCtorEq, if_false]
              omega

/-- In every run in which every call expects a reply: when none is outstanding, the store is
empty. -/
theorem callStore_no_leak (limit : Nat) {state : AccountState}
    (reachable : (accountMachine limit).Reachable (fun _ event => event.ExpectsReply) state)
    (settled : ∀ id, state.outstanding id = 0) : ∀ bucket, state.store.hash bucket = [] := by
  have covered : Covered state := by
    apply reachable.holds _ (accountMachine_preserves limit)
    intro start isStart
    rw [show start = _ from isStart]
    refine ⟨AllCalls.empty _, ?_⟩
    intro id
    exact Nat.le_of_eq rfl
  intro bucket
  apply List.eq_nil_iff_forall_not_mem.mpr
  intro adr member
  have waits := covered.calls.ok.mem_madeBy.mpr ⟨⟨bucket, member⟩, rfl⟩
  have none := covered.covered (state.store.pc adr).srcMwid
  rw [settled, Nat.le_zero, Finset.card_eq_zero] at none
  rw [none] at waits
  exact absurd waits (Finset.notMem_empty adr)

def lastReply : PeerEvent :=
  .gateway (.ipcReply ⟨.svcreply, 42, 0x02000001, 0x04000001, 0x01000001, 0x08000001, [115], [], 0, 0,
    [], [], 0⟩)

def notification : PeerEvent :=
  .gateway (.message roomyDomain ⟨0, 0⟩ politeConn
    ⟨srbSvccall, srbNotificationMarker,
      [⟨srbSvcname, some [115]⟩, ⟨srbHops, some (sprintfD 0)⟩]⟩)

/-- One call, and its reply. -/
theorem callStore_no_leak_answered :
    ∃ between state, AccountState.step 3000 ⟨emptyStore, fun _ => 0⟩ (announcement 1 [97]) =
        .ok between ∧
      between.outstanding 0x02000001 = 1 ∧ between.store.hash 10 = [0] ∧
      AccountState.step 3000 between lastReply = .ok state ∧
      ∀ bucket, state.store.hash bucket = [] := by
  have expects : (announcement 1 [97]).ExpectsReply := by
    intro _ request reading
    rw [readCall_callMessage 7 [97] ⟨0, 0⟩ politeConn (by decide) (by decide) (by decide)
      (by simp)] at reading
    cases reading
    rfl
  have opened : (accountMachine 3000).Reachable (fun _ event => event.ExpectsReply) _ :=
    .step (.start rfl)
      (show (accountMachine 3000).enabled _ (announcement 1 [97]) from trivial) expects rfl
  have closed : (accountMachine 3000).Reachable (fun _ event => event.ExpectsReply) _ :=
    .step opened (show (accountMachine 3000).enabled _ lastReply from trivial) trivial rfl
  refine ⟨_, _, rfl, ?_, rfl, rfl, callStore_no_leak 3000 closed ?_⟩
  · rfl
  · intro id
    change 0 + oneCall (some 0x02000001) id - (finals [(_, _)] id + oneCall none id) +
      oneCall none id - (finals [] id + oneCall (some 0x02000001) id) = 0
    have noFurther : oneCall none id = 0 := rfl
    rw [noFurther]
    generalize oneCall (some 0x02000001) id = one
    generalize finals [(_, _)] id = answered
    omega

/-- Nothing is outstanding after a notification, and its struct stays. -/
theorem callStore_no_leak_not_notification :
    ∃ state, (accountMachine 3000).Reachable (fun _ _ => True) state ∧
      (∀ id, state.outstanding id = 0) ∧ ∃ bucket, state.store.hash bucket ≠ [] := by
  have opened : (accountMachine 3000).Reachable (fun _ _ => True) _ :=
    .step (.start rfl)
      (show (accountMachine 3000).enabled _ notification from trivial) trivial rfl
  refine ⟨_, opened, ?_, 10, by decide⟩
  intro id
  change 0 + oneCall none id - _ = 0
  have noneExpected : oneCall none id = 0 := rfl
  omega

end MidWay.Gateway

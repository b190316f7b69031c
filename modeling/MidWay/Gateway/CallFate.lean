import MidWay.Gateway.IpcServer
import MidWay.Gateway.PeerReplies

/-!
Contract: what becomes of a call once it is complete.

A call should end up on the queue of a provider, or at a peer, and wait for its reply;
or its caller should be told that it failed. The gateway does not look whether there is
a provider, nor what became of the message, so a call without one stays in the store
for ever. A call of a local client that no peer provides comes back to it as a call.

Owns: `Arrival`, `NotDropped`, `Deliverable`, and that the one is the other.
-/

namespace MidWay.Gateway

open MidWay.CLib MidWay.Url MidWay.Srb MidWay.Lib

/-- The gateway and what it meets while it handles a call: the tables, the place where the
search starts, the import list, shared memory, and what the sends return. -/
structure GatewaySystem where
  tables : IpcTables
  start : Nat
  importlist : List Import
  myGatewayid : UInt32
  irand : Nat
  mwalloc : Int → Bool
  limit : Nat
  outlet : Outlet
  msgsnd : Nat → Option Errno

def GatewaySystem.domain (system : GatewaySystem) : Domain :=
  ⟨system.myGatewayid, system.tables.mwGetBestService system.start,
    system.tables.mwGetProviderByServiceid, system.irand, system.mwalloc⟩

/-- What completes a call: its first message, the last of its data, or a local client
makes it. -/
inductive Arrival where
  | srbCall (mwid nethandle : UInt32) (map : Urlmap) (conn : Connection) (datatotal : Int)
      (service : List Byte) (instanceName domainname : Option (List Byte)) (flags : UInt32)
  | srbData (mwid nethandle : UInt32) (data : List Byte)
  | ipcCall (cmsg : Call)

def Arrival.handle (system : GatewaySystem) (store : CallStore) :
    Arrival → Except StoreFailure Response
  | .srbCall mwid nethandle map conn datatotal service instanceName domainname flags =>
      .ok ⟨store.storeSRBCall system.domain mwid nethandle map conn datatotal service instanceName
        domainname flags, [], []⟩
  | .srbData mwid nethandle data =>
      (store.storeSRBData system.domain mwid nethandle data).map fun store => ⟨store, [], []⟩
  | .ipcCall cmsg =>
      doSvccall system.limit system.outlet store system.domain system.importlist cmsg

def Arrival.Complete (system : GatewaySystem) (store : CallStore) : Arrival → Prop
  | .srbCall _ _ _ _ datatotal _ _ _ _ => datatotal = 0
  | .srbData mwid nethandle data =>
      ∃ adr, store.lookupPendingCall mwid nethandle = some adr ∧
        (store.pc adr).status = .calldatapending ∧
        (store.pc adr).datarecv + data.length = (store.pc adr).total data ∧
        (store.pc adr).Granted system.domain data
  | .ipcCall cmsg => cmsg.mtype = .svccall

def Arrival.caller : Arrival → UInt32
  | .srbCall mwid _ _ _ _ _ _ _ _ => mwid
  | .srbData mwid _ _ => mwid
  | .ipcCall cmsg => cmsg.callerMwid

def Arrival.callHandle : Arrival → UInt32
  | .srbCall _ nethandle _ _ _ _ _ _ _ => nethandle
  | .srbData _ nethandle _ => nethandle
  | .ipcCall cmsg => cmsg.handle

def Arrival.IsCall : Arrival → Call → Prop
  | .ipcCall cmsg, call => call = cmsg
  | _, _ => True

section Fate

variable (system : GatewaySystem) (store : CallStore) (response : Response) (arrival : Arrival)

/-- The call is on the queue of a provider of the service, and waits for its reply. -/
def HandedOver : Prop :=
  ∃ id call adr, response.store.sent = store.sent ++ [(id, call)] ∧
    system.tables.ipcSendmessage system.msgsnd id = .onQueue ∧
    (∃ entry ∈ system.tables.svctbl, sameService entry.servicename call.service = true ∧
      (entry.server = id ∨ entry.gateway = id)) ∧
    response.store.Pending adr ∧ (response.store.pc adr).call = call

/-- The call went to a peer, all of its messages, and a new struct waits for its reply. -/
def PassedOn : Prop :=
  ∃ cmsg conn adr, arrival.IsCall cmsg ∧ response.written =
      (system.outlet.messages (store.nextIpchdl system.domain) cmsg
        (if cmsg.data = [] then none else some cmsg.data)).map (fun srbmsg => (conn, srbmsg)) ∧
    ¬ store.Pending adr ∧ response.store.Pending adr ∧ (response.store.pc adr).call = cmsg

/-- The caller is told that the call failed, by a SRB reply or by an IPC reply, and no
struct is kept for it. -/
structure Refused : Prop where
  told : (∃ conn srbmsg, (conn, srbmsg) ∈ response.written ∧
      (conn.cid = arrival.caller ∨ conn.gwid = arrival.caller) ∧ IsFailureReply srbmsg) ∨
    ∃ call, (arrival.caller, call) ∈ response.posts ∧ call.mtype = .svcreply ∧ call.returncode < 0
  nothingNew : ∀ adr, response.store.Pending adr → store.Pending adr
  released : ∀ adr, store.lookupPendingCall arrival.caller arrival.callHandle = some adr →
    ¬ response.store.Pending adr

def NotDropped : Prop :=
  HandedOver system store response ∨ PassedOn system store response arrival ∨
    Refused store response arrival

end Fate

section Conditions

variable (system : GatewaySystem) (store : CallStore)

/-- A local server provides the service, and its queue takes the message. -/
def GatewaySystem.Provides (service : List Byte) (flags : UInt32) : Prop :=
  system.tables.attached = true ∧
    ∃ place, system.tables.localEntry system.start service flags = some place ∧
      system.tables.Takes system.msgsnd place.2.provider

def AllGoOut (written : Nat → Int) (messages : List SRBmessage) : Prop :=
  ∀ turn srbmsg, messages[turn]? = some srbmsg → 0 ≤ mwSrbsendmessage (written turn) srbmsg

/-- The gateway made the call itself, for a client that wants a reply and waits for it on
a connection of its own, and the first message of the reply goes out. -/
structure Refusable (cmsg : Call) : Prop where
  own : cmsg.gwid = system.myGatewayid
  assigned : cmsg.gwid ≠ unassigned
  wantsReply : cmsg.flags &&& mwNoreply = 0
  waiting : ∃ adr conn, store.lookupPendingCall cmsg.callerMwid cmsg.handle = some adr ∧
    (store.pc adr).srcconn = some conn ∧
    (conn.cid = cmsg.callerMwid ∨ conn.gwid = cmsg.callerMwid) ∧
    ∀ first rest, replyMessages system.limit (store.pc adr).callmsg
      { cmsg with returncode := -Errno.ENOENT.code } = first :: rest →
      0 ≤ mwSrbsendmessage (system.outlet.written 0) first

def Arrival.Deliverable : Arrival → Prop
  | .srbCall _ _ _ _ _ service _ _ flags => system.Provides (service.take mwMaxSvcName) flags
  | .srbData mwid nethandle _ =>
      ∃ adr, store.lookupPendingCall mwid nethandle = some adr ∧
        system.Provides (store.pc adr).call.service (store.pc adr).call.flags
  | .ipcCall cmsg =>
      match impfindpeerconn system.importlist cmsg.service cmsg.svcid with
      | some _ =>
          system.outlet.Passes (store.nextIpchdl system.domain) cmsg ∧
            AllGoOut system.outlet.written
              (system.outlet.messages (store.nextIpchdl system.domain) cmsg
                (if cmsg.data = [] then none else some cmsg.data))
      | none => Refusable system store cmsg

end Conditions

theorem sentData_sublist (written : Nat → Int) (messages : List SRBmessage) :
    (sentData written messages).Sublist messages := by
  induction messages generalizing written with
  | nil => exact List.Sublist.refl _
  | cons srbmsg rest ih =>
      grind [sentData]

theorem sentMessages_sublist (written : Nat → Int) (messages : List SRBmessage) :
    (sentMessages written messages).Sublist messages := by
  cases messages with
  | nil => exact List.Sublist.refl _
  | cons srbmsg rest =>
      grind [sentMessages, sentData_sublist]

theorem allGoOut_cons {written : Nat → Int} {srbmsg : SRBmessage} {rest : List SRBmessage} :
    AllGoOut written (srbmsg :: rest) ↔ 0 ≤ mwSrbsendmessage (written 0) srbmsg ∧
      AllGoOut (fun turn => written (turn + 1)) rest := by
  constructor
  · intro all
    exact ⟨all 0 srbmsg rfl, fun turn other isOther => all (turn + 1) other isOther⟩
  · intro both turn other isOther
    cases turn with
    | zero =>
        simp_all
    | succ turn => exact both.2 turn other isOther

theorem sentData_eq_iff (written : Nat → Int) (messages : List SRBmessage) :
    sentData written messages = messages ↔ AllGoOut written messages := by
  induction messages generalizing written with
  | nil =>
      refine iff_of_true rfl ?_
      intro turn srbmsg isMessage
      cases isMessage
  | cons srbmsg rest ih =>
      rw [allGoOut_cons, ← ih]
      simp only [sentData]
      split_ifs with fails
      · refine iff_of_false ?_ (fun both => absurd fails (Int.not_lt.mpr both.1))
        grind [List.length_cons, sentData_sublist]
      · rw [List.cons_inj_right, and_iff_right (Int.not_lt.mp fails)]

theorem sentMessages_eq_iff (written : Nat → Int) (messages : List SRBmessage) :
    sentMessages written messages = messages ↔ AllGoOut written messages := by
  cases messages with
  | nil =>
      refine iff_of_true rfl ?_
      intro turn srbmsg isMessage
      cases isMessage
  | cons srbmsg rest =>
      rw [allGoOut_cons, ← sentData_eq_iff]
      simp only [sentMessages]
      grind

theorem mwSrbsendcall_ne_nil (limit : Nat) (secstolive : Option Int) (uninit : List Byte)
    (handle : UInt32) (svcname : List Byte) (data : Option (List Byte)) (flags : UInt32) :
    mwSrbsendcall limit secstolive uninit handle svcname data flags ≠ [] := by
  intro isNil
  cases isNil

theorem IpcTables.not_takes_unassigned (tables : IpcTables) (msgsnd : Nat → Option Errno) :
    ¬ tables.Takes msgsnd unassigned := by
  intro takes
  exact absurd tables.mwGetMqidByMwid_unassigned (Int.not_lt.mpr takes.1)

theorem Serviceentry.provider_or {entry : Serviceentry} (assigned : entry.provider ≠ unassigned) :
    entry.server = entry.provider ∨ entry.gateway = entry.provider := by
  rw [Serviceentry.provider] at assigned ⊢
  grind

theorem PendingCall.routed_service (domain : Domain) (pc : PendingCall) (ipchdl : UInt32) :
    (pc.routed domain ipchdl).call.service = pc.call.service := by
  grind [PendingCall.routed, PendingCall.putbuffer]

section SrbCalls

variable {system : GatewaySystem} {store store' : CallStore} {adr : Nat} {pc : PendingCall}
  {bucket : UInt8}

/-- A call that was routed is on a queue if and only if its service is provided. -/
theorem Placed.handedOver_iff {ipchdl : UInt32}
    (placed : Placed store store' adr (pc.routed system.domain ipchdl) bucket)
    (sent : store'.sent = store.sent ++
      [(system.domain.providerByServiceid (system.domain.bestService pc.call.service
        pc.call.flags), (pc.routed system.domain ipchdl).call)]) :
    HandedOver system store ⟨store', [], []⟩ ↔
      system.Provides pc.call.service pc.call.flags := by
  have provider := system.tables.provider_eq system.start pc.call.service pc.call.flags
  change system.domain.providerByServiceid (system.domain.bestService pc.call.service
    pc.call.flags) = _ at provider
  rw [provider] at sent
  constructor
  · intro handedOver
    rcases handedOver with ⟨id, call, other, isSent, onQueue, -⟩
    change store'.sent = _ at isSent
    rw [sent, List.append_cancel_left_eq] at isSent
    have sameId := (Prod.mk.inj (List.cons.inj isSent).1).1
    rw [← sameId, IpcTables.ipcSendmessage_onQueue] at onQueue
    cases isAttached : system.tables.attached with
    | false =>
        rw [isAttached] at onQueue
        exact absurd onQueue (system.tables.not_takes_unassigned _)
    | true =>
        rw [isAttached, if_pos rfl] at onQueue
        cases found : system.tables.localEntry system.start pc.call.service pc.call.flags with
        | none =>
            rw [found] at onQueue
            exact absurd onQueue (system.tables.not_takes_unassigned _)
        | some place =>
            rw [found] at onQueue
            exact ⟨isAttached, place, found, onQueue⟩
  · intro provides
    rcases provides with ⟨isAttached, ⟨index, entry⟩, found, takes⟩
    rw [isAttached, if_pos rfl, found] at sent
    have serves := List.find?_some found
    have isEntry := system.tables.mem_entriesFrom system.start (List.mem_of_find?_eq_some found)
    have assigned : entry.provider ≠ unassigned := by
      intro isUnassigned
      simp [isUnassigned, system.tables.not_takes_unassigned] at takes
    refine ⟨entry.provider, _, adr, sent, (system.tables.ipcSendmessage_onQueue _ _).mpr takes,
      ⟨entry, List.mem_of_getElem? isEntry, ?_, Serviceentry.provider_or assigned⟩,
      ⟨bucket, (placed.mem adr bucket).mpr (Or.inl ⟨rfl, rfl⟩)⟩, ?_⟩
    · rw [PendingCall.routed_service]
      exact (of_decide_eq_true serves).2.1
    · simp [placed.pc]

/-- Nothing is sent back to the client. -/
theorem notDropped_silent {arrival : Arrival} :
    NotDropped system store ⟨store', [], []⟩ arrival ↔ HandedOver system store ⟨store', [], []⟩ := by
  constructor
  · intro fate
    rcases fate with handedOver | passedOn | refused
    · exact handedOver
    · rcases passedOn with ⟨cmsg, conn, other, -, written, -⟩
      have none := List.map_eq_nil_iff.mp written.symm
      exact absurd none (mwSrbsendcall_ne_nil _ _ _ _ _ _ _)
    · rcases refused.told with ⟨conn, srbmsg, member, -⟩ | ⟨call, member, -⟩
      · exact absurd member List.not_mem_nil
      · exact absurd member List.not_mem_nil
  · intro handedOver
    exact Or.inl handedOver

end SrbCalls

section IpcCalls

variable {system : GatewaySystem} {store : CallStore} {cmsg : Call} {conn : Connection}

theorem storeIPCCall_posts_nothing (ok : StoreOk store) (domain : Domain) (outlet : Outlet)
    (cmsg : Call) (conn : Connection) :
    (store.storeIPCCall domain outlet cmsg conn).store.sent = store.sent := by
  have opened := openIPCCall_opened ok domain cmsg conn
  by_cases passes : outlet.Passes (store.nextIpchdl domain) cmsg
  · rw [storeIPCCall_sent passes]
    exact opened.sent
  · rw [(storeIPCCall_unsent conn passes).2.2]
    exact opened.sent

theorem storeIPCCall_unsent_pending (ok : StoreOk store) {domain : Domain} {outlet : Outlet}
    (stopped : ¬ outlet.Passes (store.nextIpchdl domain) cmsg) {adr : Nat}
    (pending : (store.storeIPCCall domain outlet cmsg conn).store.Pending adr) :
    store.Pending adr := by
  have opened := openIPCCall_opened ok domain cmsg conn
  rw [(storeIPCCall_unsent conn stopped).2.2, opened.placed.ok.pending_unlinked] at pending
  rcases pending with ⟨different, bucket, member⟩
  rcases (opened.placed.mem adr bucket).mp member with ⟨same, -⟩ | ⟨-, before⟩
  · exact absurd same different
  · exact ⟨bucket, before⟩

theorem mem_peerMessages {outlet : Outlet} {handle : UInt32} {srbmsg : SRBmessage}
    (member : srbmsg ∈ peerMessages outlet handle cmsg) : srbmsg.marker ≠ srbResponseMarker := by
  rw [peerMessages] at member
  split at member
  · exact absurd member List.not_mem_nil
  · exact mwSrbsendcall_marker ((sentMessages_sublist _ _).subset member)

/-- All messages of the call went out. -/
theorem peerMessages_eq_iff {outlet : Outlet} {handle : UInt32} :
    peerMessages outlet handle cmsg =
        outlet.messages handle cmsg (if cmsg.data = [] then none else some cmsg.data) ↔
      (cmsg.data ≠ [] → outlet.fault cmsg = none) ∧ AllGoOut outlet.written
        (outlet.messages handle cmsg (if cmsg.data = [] then none else some cmsg.data)) := by
  rw [peerMessages]
  by_cases readable : cmsg.data ≠ [] → outlet.fault cmsg = none
  · simp_all [mwGetbufferFromCall_ok, and_iff_right, sentMessages_eq_iff]
  · have unreadable := readable
    simp only [Classical.not_imp] at unreadable
    rcases Option.ne_none_iff_exists'.mp unreadable.2 with ⟨fault, isFault⟩
    have isError : mwGetbufferFromCall outlet cmsg = .error fault.rc := by
      rw [mwGetbufferFromCall, if_neg unreadable.1, isFault]
    rw [isError]
    refine iff_of_false ?_ (fun both => readable both.1)
    intro isNil
    exact mwSrbsendcall_ne_nil _ _ _ _ _ _ _ isNil.symm

/-- A call to a service of a peer. -/
theorem notDropped_peer (ok : StoreOk store) (conn : Connection) :
    NotDropped system store
        ⟨(store.storeIPCCall system.domain system.outlet cmsg conn).store,
          (peerMessages system.outlet (store.nextIpchdl system.domain) cmsg).map
            fun srbmsg => (conn, srbmsg), []⟩ (.ipcCall cmsg) ↔
      system.outlet.Passes (store.nextIpchdl system.domain) cmsg ∧
        AllGoOut system.outlet.written
          (system.outlet.messages (store.nextIpchdl system.domain) cmsg
            (if cmsg.data = [] then none else some cmsg.data)) := by
  constructor
  · intro fate
    rcases fate with handedOver | passedOn | refused
    · rcases handedOver with ⟨id, call, adr, sent, -⟩
      rw [storeIPCCall_posts_nothing ok] at sent
      simp at sent
    · rcases passedOn with ⟨call, peer, adr, isCall, written, fresh, pending, -⟩
      rw [show call = cmsg from isCall] at written
      have messages := congrArg (List.map Prod.snd) written
      rw [List.map_map, List.map_map] at messages
      have all := peerMessages_eq_iff.mp ((List.map_id _).symm.trans
        (messages.trans (List.map_id _)))
      refine ⟨?_, all.2⟩
      by_contra stopped
      exact fresh (storeIPCCall_unsent_pending ok stopped pending)
    · rcases refused.told with ⟨peer, srbmsg, member, -, failure⟩ | ⟨call, member, -⟩
      · rcases List.mem_map.mp member with ⟨other, isPeer, same⟩
        cases same
        exact absurd failure.marker (mem_peerMessages isPeer)
      · exact absurd member List.not_mem_nil
  · intro both
    rcases both with ⟨passes, all⟩
    have opened := openIPCCall_opened ok system.domain cmsg conn
    refine Or.inr (Or.inl ⟨cmsg, conn, (store.openIPCCall system.domain cmsg conn).1, rfl, ?_,
      opened.fresh, ?_, ?_⟩)
    · rw [peerMessages_eq_iff.mpr ⟨passes.buffer, all⟩]
    · rw [storeIPCCall_sent passes]
      exact ⟨_, (opened.placed.mem _ _).mpr (Or.inl ⟨rfl, rfl⟩)⟩
    · rw [storeIPCCall_sent passes]
      change (if _ = _ then _ else _ : PendingCall).call = _
      rw [if_pos rfl]

theorem storeIPCReply_last {adr : Nat}
    (found : store.lookupPendingCall cmsg.callerMwid cmsg.handle = some adr)
    (hasConn : (store.pc adr).srcconn = some conn)
    (own : conn.cid = cmsg.callerMwid ∨ conn.gwid = cmsg.callerMwid)
    (last : cmsg.returncode ≠ mwMore) :
    store.storeIPCReply cmsg =
      .ok (some (conn, (store.pc adr).callmsg), store.freePendingCall adr) := by
  have isOwn : ¬ (conn.cid ≠ cmsg.callerMwid ∧ conn.gwid ≠ cmsg.callerMwid) := by
    grind
  simp_all [CallStore.storeIPCReply, if_neg]

theorem storeIPCReply_some {map : Urlmap} {store' : CallStore}
    (result : store.storeIPCReply cmsg = .ok (some (conn, map), store')) :
    ∃ adr, store.lookupPendingCall cmsg.callerMwid cmsg.handle = some adr ∧
      (store.pc adr).srcconn = some conn ∧
      (conn.cid = cmsg.callerMwid ∨ conn.gwid = cmsg.callerMwid) ∧
      (store.pc adr).callmsg = map := by
  rw [CallStore.storeIPCReply] at result
  grind

theorem storeIPCReply_posts_nothing {answer : Option (Connection × Urlmap)} {store' : CallStore}
    (result : store.storeIPCReply cmsg = .ok (answer, store')) : store'.sent = store.sent := by
  rw [CallStore.storeIPCReply] at result
  cases found : store.lookupPendingCall cmsg.callerMwid cmsg.handle with
  | none =>
      simp_all
  | some adr =>
      simp only [found] at result
      cases hasConn : (store.pc adr).srcconn with
      | none =>
          simp [hasConn] at result
      | some other =>
          simp only [hasConn] at result
          split_ifs at result
          · simp_all
          · simp_all
          · cases result
            rfl

theorem not_handedOver {response : Response} (same : response.store.sent = store.sent) :
    ¬ HandedOver system store response := by
  intro handedOver
  rcases handedOver with ⟨id, call, adr, sent, -⟩
  rw [same] at sent
  simp at sent

theorem not_notDropped_returned {id : UInt32} {call : Call} {arrival : Arrival}
    (isCall : call.mtype = .svccall) :
    ¬ NotDropped system store ⟨store, [], [(id, call)]⟩ arrival := by
  intro fate
  rcases fate with handedOver | passedOn | refused
  · exact not_handedOver rfl handedOver
  · rcases passedOn with ⟨other, conn, adr, -, written, -⟩
    exact absurd (List.map_eq_nil_iff.mp written.symm) (mwSrbsendcall_ne_nil _ _ _ _ _ _ _)
  · rcases refused.told with ⟨conn, srbmsg, member, -⟩ | ⟨other, member, isReply, -⟩
    · exact absurd member List.not_mem_nil
    · simp_all

theorem sentMessages_first {written : Nat → Int} {first : SRBmessage} {rest : List SRBmessage}
    {srbmsg : SRBmessage} (member : srbmsg ∈ sentMessages written (first :: rest)) :
    0 ≤ mwSrbsendmessage (written 0) first ∧
      ∃ others, sentMessages written (first :: rest) = first :: others := by
  grind [sentMessages]

/-- A reply of messages that are replies was not a call passed on. -/
theorem not_passedOn_reply {response : Response} {arrival : Arrival}
    (replies : ∀ conn srbmsg rest, response.written = (conn, srbmsg) :: rest →
      srbmsg.marker = srbResponseMarker) : ¬ PassedOn system store response arrival := by
  intro passedOn
  rcases passedOn with ⟨call, conn, adr, -, written, -⟩
  cases messages : system.outlet.messages (store.nextIpchdl system.domain) call
    (if call.data = [] then none else some call.data) with
  | nil => exact mwSrbsendcall_ne_nil _ _ _ _ _ _ _ messages
  | cons first rest =>
      rw [messages] at written
      have isCall : first ∈ system.outlet.messages (store.nextIpchdl system.domain) call
          (if call.data = [] then none else some call.data) := by
        rw [messages]
        exact List.mem_cons_self
      exact mwSrbsendcall_marker isCall (replies conn first _ written)

/-- The gateway made the call itself: the reply to it goes to the client it was made for. -/
theorem notDropped_own (ok : StoreOk store) {failed : Call}
    (isFailed : failed = { cmsg with returncode := -Errno.ENOENT.code }) :
    (∃ response, doSvcreply system.limit system.outlet store failed = .ok response ∧
        NotDropped system store response (.ipcCall cmsg)) ↔
      cmsg.flags &&& mwNoreply = 0 ∧
        ∃ adr conn, store.lookupPendingCall cmsg.callerMwid cmsg.handle = some adr ∧
          (store.pc adr).srcconn = some conn ∧
          (conn.cid = cmsg.callerMwid ∨ conn.gwid = cmsg.callerMwid) ∧
          ∀ first rest, replyMessages system.limit (store.pc adr).callmsg failed = first :: rest →
            0 ≤ mwSrbsendmessage (system.outlet.written 0) first := by
  have sameCaller : failed.callerMwid = cmsg.callerMwid := by
    rw [isFailed]
    rfl
  have sameHandle : failed.handle = cmsg.handle := by rw [isFailed]
  have sameFlags : failed.flags = cmsg.flags := by rw [isFailed]
  have isError : failed.returncode = -Errno.ENOENT.code := by rw [isFailed]
  rw [doSvcreply, ← sameCaller, ← sameHandle, ← sameFlags]
  constructor
  · intro answered
    rcases answered with ⟨response, handled, fate⟩
    cases result : store.storeIPCReply failed with
    | error failure =>
        simp [result] at handled
    | ok found =>
        rcases found with ⟨answer, store'⟩
        have sameSent := storeIPCReply_posts_nothing result
        cases answer with
        | none =>
            simp only [result] at handled
            cases handled
            exact absurd (notDropped_silent.mp fate) (not_handedOver sameSent)
        | some found =>
            rcases found with ⟨conn, map⟩
            simp only [result] at handled
            split_ifs at handled with noreply
            · cases handled
              exact absurd (notDropped_silent.mp fate) (not_handedOver sameSent)
            · cases handled
              rcases storeIPCReply_some result with ⟨adr, isFound, hasConn, own, isMap⟩
              refine ⟨not_not.mp noreply, adr, conn, isFound, hasConn, own, ?_⟩
              intro first rest messages
              rw [isMap] at messages
              rcases replyMessages_failure system.limit map isError with
                ⟨_, _, again, isReply⟩
              rw [messages] at again
              cases again
              rw [messages] at fate
              rcases fate with handedOver | passedOn | refused
              · exact absurd handedOver (not_handedOver sameSent)
              · grind [List.mem_cons_self, not_passedOn_reply, sentMessages, sentMessages_first]
              · rcases refused.told with ⟨peer, srbmsg, member, -⟩ | ⟨call, member, -⟩
                · rcases List.mem_map.mp member with ⟨sent, inReply, -⟩
                  exact (sentMessages_first inReply).1
                · exact absurd member List.not_mem_nil
  · intro both
    rcases both with ⟨wantsReply, adr, conn, found, hasConn, own, goesOut⟩
    have last : failed.returncode ≠ mwMore := by
      rw [isError]
      decide
    rcases replyMessages_failure system.limit (store.pc adr).callmsg isError with
      ⟨first, rest, messages, failure⟩
    have sent : sentMessages system.outlet.written (first :: rest) =
        first :: sentData (fun turn => system.outlet.written (turn + 1)) rest :=
      if_neg (Int.not_lt.mpr (goesOut first rest messages))
    rw [storeIPCReply_last found hasConn own last]
    simp only [if_neg (not_not.mpr wantsReply)]
    refine ⟨_, rfl, Or.inr (Or.inr ⟨Or.inl ⟨conn, first, ?_, ?_, failure⟩, ?_, ?_⟩)⟩
    · simp [messages, sent]
    · change conn.cid = cmsg.callerMwid ∨ conn.gwid = cmsg.callerMwid
      rw [← sameCaller]
      exact own
    · intro other pending
      exact (ok.pending_unlinked.mp pending).2
    · intro other isFound pending
      change store.lookupPendingCall cmsg.callerMwid cmsg.handle = some other at isFound
      rw [← sameCaller, ← sameHandle, found] at isFound
      cases isFound
      exact (ok.pending_unlinked.mp pending).1 rfl

end IpcCalls

def oneService : Serviceentry := ⟨.callsvc, .gwlocal, 0x01000000, unassigned, [115]⟩

def oneServer (svctbl : List Serviceentry) (short : svctbl.length ≤ 16777216) : IpcTables :=
  ⟨true, svctbl, [some 17], [], [], 1, short, by decide⟩

theorem noServices_short : ([] : List Serviceentry).length ≤ 16777216 := Nat.zero_le _

def smallSystem (svctbl : List Serviceentry) (short : svctbl.length ≤ 16777216) :
    GatewaySystem :=
  ⟨oneServer svctbl short, 0, [], 0x04000001, 41, fun _ => true, 3000, openOutlet, fun _ => none⟩

/-- A call without data to the service `s`. -/
def smallArrival : Arrival :=
  .srbCall 0x02000001 7 [] politeConn 0 [115] none none 0

end MidWay.Gateway

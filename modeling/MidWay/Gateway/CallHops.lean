import MidWay.Gateway.CallFate
import MidWay.Gateway.StoreFrame

/-!
Contract: how far a call gets from gateway to gateway.

The hop counter of a call is read and never compared with `MAXHOPS`, and a call that is
passed on starts with none again. What ends the journey is the choice of the provider:
a gateway that has a call from a connection takes local services only, so it hands the
call to a server or to nobody. Only a call that a local client has put on the queue of
a gateway goes out to a peer.

Owns: `Travels`, and the number of links of a journey.
-/

namespace MidWay.Gateway

open MidWay.CLib MidWay.Url MidWay.Srb

/-- The default of `MAXHOPS`. -/
def defaultMaxhops : Nat := 30

/-- What a gateway has and finds while it handles one message: any tables, imports and links.
`gatewayOf` is the gateway that reads the queue of a gateway id, and `otherEnd` the gateway and the
connection at the other end of a link. A service that `mwd` marks as local has a server. -/
structure GatewayView extends GatewaySystem where
  uninit : Uninit
  gatewayOf : UInt32 → Option Nat
  otherEnd : Connection → Option (Nat × Connection)
  localServers : ∀ entry ∈ tables.svctbl, entry.type ≠ .unassigned → entry.location = .gwlocal →
    isNonNegative entry.server = true ∧ entry.server &&& mwServerMask ≠ 0

/-- The gateway on whose queue a message goes: ids of servers and of clients come first. -/
def GatewayView.readerOf (view : GatewayView) (id : UInt32) : Option Nat :=
  if id &&& mwServerMask ≠ 0 then none
  else if id &&& mwClientMask ≠ 0 then none
  else if id &&& mwGatewayMask ≠ 0 then view.gatewayOf id
  else none

/-- Where a call is: on the queue of a gateway, or in a message on its way to one. -/
inductive Whereabouts where
  | queue (gateway : Nat) (cmsg : Call)
  | wire (gateway : Nat) (conn : Connection) (srbmsg : SRBmessage)

/-- A call has got somewhere over a number of links. A step of the journey is what a gateway does
with the message, whatever its tables and its store are by then. -/
inductive Travels : Nat → Whereabouts → Prop
  /-- A local client has put the call on the queue. -/
  | ipcClient (gateway : Nat) (cmsg : Call) : Travels 0 (.queue gateway cmsg)
  /-- A message of a SRB client. -/
  | srbClient (gateway : Nat) (conn : Connection) (srbmsg : SRBmessage) :
      Travels 0 (.wire gateway conn srbmsg)
  /-- `do_svccall` writes a message to a peer. -/
  | passedOn {links gateway peer : Nat} {cmsg : Call} {view : GatewayView} {store : CallStore}
      {response : Response} {conn peerConn : Connection} {srbmsg : SRBmessage} :
      Travels links (.queue gateway cmsg) →
      doSvccall view.limit view.outlet store view.domain view.importlist cmsg = .ok response →
      (conn, srbmsg) ∈ response.written → view.otherEnd conn = some (peer, peerConn) →
      Travels (links + 1) (.wire peer peerConn srbmsg)
  /-- `do_svccall` puts the call on another queue. -/
  | returned {links gateway other : Nat} {cmsg : Call} {view : GatewayView} {store : CallStore}
      {response : Response} {id : UInt32} {call : Call} :
      Travels links (.queue gateway cmsg) →
      doSvccall view.limit view.outlet store view.domain view.importlist cmsg = .ok response →
      (id, call) ∈ response.posts → view.readerOf id = some other →
      Travels links (.queue other call)
  /-- The message completes a call, and `check_if_complete` puts it on a queue. -/
  | routed {links gateway other : Nat} {conn : Connection} {srbmsg : SRBmessage}
      {view : GatewayView} {store store' : CallStore} {messages : List (UInt32 × Call)}
      {id : UInt32} {call : Call} :
      Travels links (.wire gateway conn srbmsg) →
      srbDoMessage view.domain view.limit view.uninit store conn srbmsg = .ok store' →
      store'.sent = store.sent ++ messages → (id, call) ∈ messages → call.mtype = .svccall →
      view.readerOf id = some other → Travels links (.queue other call)

def SendsToProviders (domain : Domain) (store store' : CallStore) : Prop :=
  ∃ messages, store'.sent = store.sent ++ messages ∧ ∀ message ∈ messages,
    message.2.mtype = .svcreply ∨
      ∃ service flags, message.1 = domain.providerByServiceid (domain.bestService service flags)

section

variable {domain : Domain} {store store' : CallStore}

theorem sendsToProviders_of_eq (same : store'.sent = store.sent) :
    SendsToProviders domain store store' :=
  ⟨[], by rw [same, List.append_nil], List.forall_mem_nil _⟩

theorem SendsToProviders.trans {store'' : CallStore}
    (first : SendsToProviders domain store store')
    (second : SendsToProviders domain store' store'') : SendsToProviders domain store store'' := by
  rcases first with ⟨messages, grown, toProviders⟩
  rcases second with ⟨more, grownMore, toProvidersMore⟩
  refine ⟨messages ++ more, by rw [grownMore, grown, List.append_assoc], ?_⟩
  grind

theorem newPendingCall_sent (store : CallStore) (srcid srchdl : UInt32) :
    (store.newPendingCall srcid srchdl).2.sent = store.sent := by
  have taken : store.takeStruct.2.sent = store.sent := by
    unfold CallStore.takeStruct
    split
    · rfl
    · rfl
  exact taken

theorem routeCall_sendsToProviders (store : CallStore) (adr : Nat) :
    SendsToProviders domain store (store.routeCall domain adr) := by
  refine ⟨_, rfl, ?_⟩
  rw [List.forall_mem_singleton]
  exact Or.inr ⟨_, _, rfl⟩

theorem checkIfComplete_sendsToProviders (store : CallStore) (adr : Nat) :
    SendsToProviders domain store (store.checkIfComplete domain adr) := by
  unfold CallStore.checkIfComplete
  dsimp only
  split
  · grind [sendsToProviders_of_eq, routeCall_sendsToProviders]
  · split_ifs
    · exact sendsToProviders_of_eq rfl
    · refine ⟨_, routeReply_sent store domain adr, ?_⟩
      rw [List.forall_mem_singleton]
      exact Or.inl rfl
  · exact sendsToProviders_of_eq rfl

theorem storeSRBData_sendsToProviders {mwid nethandle : UInt32} {data : List Byte}
    (result : store.storeSRBData domain mwid nethandle data = .ok store') :
    SendsToProviders domain store store' := by
  cases found : store.lookupPendingCall mwid nethandle with
  | none =>
      simp_all [CallStore.storeSRBData, sendsToProviders_of_eq]
  | some adr =>
      rcases storeSRBData_ok domain found result with ⟨fits, granted⟩
      rw [storeSRBData_found domain found fits granted] at result
      cases result
      exact (sendsToProviders_of_eq rfl).trans (checkIfComplete_sendsToProviders _ adr)

theorem storeSRBReply_sendsToProviders {mwid nethandle : UInt32} {rcode apprcode datatotal : Int}
    (result : store.storeSRBReply domain mwid nethandle rcode apprcode datatotal = .ok store') :
    SendsToProviders domain store store' := by
  unfold CallStore.storeSRBReply at result
  cases found : store.lookupPendingCall mwid nethandle with
  | none =>
      simp_all [sendsToProviders_of_eq]
  | some adr =>
      simp only [found] at result
      split_ifs at result
      cases result
      exact (sendsToProviders_of_eq rfl).trans (checkIfComplete_sendsToProviders _ adr)

theorem storeSRBCall_sendsToProviders (store : CallStore) (mwid nethandle : UInt32) (map : Urlmap)
    (conn : Connection) (datatotal : Int) (service : List Byte)
    (instanceName domainname : Option (List Byte)) (flags : UInt32) :
    SendsToProviders domain store (store.storeSRBCall domain mwid nethandle map conn datatotal
      service instanceName domainname flags) := by
  have opened : SendsToProviders domain store (store.newPendingCall mwid nethandle).2 :=
    sendsToProviders_of_eq (newPendingCall_sent store mwid nethandle)
  apply opened.trans
  exact (sendsToProviders_of_eq rfl).trans (checkIfComplete_sendsToProviders _ _)

theorem tcpcloseconnection_sendsToProviders (store : CallStore) (conn : Connection) :
    SendsToProviders domain store (tcpcloseconnection store conn) := by
  have freed : ∀ (calls : List Nat) (store : CallStore),
      (calls.foldl CallStore.freePendingCall store).sent = store.sent := by
    intro calls
    induction calls with
    | nil => exact fun _ => rfl
    | cons adr calls ih =>
        intro store
        rw [List.foldl_cons, ih]
        rfl
  apply sendsToProviders_of_eq
  unfold tcpcloseconnection
  split_ifs
  · exact freed _ store
  · rfl

theorem sendsToProviders_across (domain : Domain) (conn : Connection) :
    AcrossStore domain conn (SendsToProviders domain) where
  refl := fun _ => sendsToProviders_of_eq rfl
  trans := SendsToProviders.trans
  call := fun store nethandle map datatotal =>
    storeSRBCall_sendsToProviders store (connGetinfo conn) nethandle map conn datatotal
  data := storeSRBData_sendsToProviders
  reply := storeSRBReply_sendsToProviders
  close := fun store => tcpcloseconnection_sendsToProviders store conn

end

/-- The provider of a service is a server, or nobody. -/
theorem GatewayView.provider_isServer (view : GatewayView) (service : List Byte)
    (flags : UInt32) :
    view.domain.providerByServiceid (view.domain.bestService service flags) &&& mwServerMask ≠
      0 := by
  have nobody : unassigned &&& mwServerMask ≠ 0 := by decide
  change view.tables.mwGetProviderByServiceid
    (view.tables.mwGetBestService view.start service flags) &&& mwServerMask ≠ 0
  rw [IpcTables.provider_eq]
  split_ifs
  · cases found : view.tables.localEntry view.start service flags with
    | none => exact nobody
    | some place =>
        have inTable := view.tables.mem_entriesFrom view.start (List.mem_of_find?_eq_some found)
        have serves : place.2.Serves service flags := by
          have chosen := List.find?_some found
          rwa [decide_eq_true_eq] at chosen
        have inUse : place.2.type ≠ .unassigned := by
          rw [serves.1]
          grind [wantedType]
        obtain ⟨nonNegative, isServer⟩ :=
          view.localServers place.2 (List.mem_of_getElem? inTable) inUse serves.2.2
        simp_all [Serviceentry.provider, if_pos, isServer]
  · exact nobody

/-- A call that came over a connection is on no queue of a gateway. -/
theorem srbDoMessage_noGateway {view : GatewayView} {store store' : CallStore}
    {conn : Connection} {srbmsg : SRBmessage} {messages : List (UInt32 × Call)} {id : UInt32}
    {call : Call}
    (result : srbDoMessage view.domain view.limit view.uninit store conn srbmsg = .ok store')
    (grown : store'.sent = store.sent ++ messages) (member : (id, call) ∈ messages)
    (isCall : call.mtype = .svccall) : view.readerOf id = none := by
  rcases (sendsToProviders_across view.domain conn).srbDoMessage result
    with ⟨others, grownOthers, toProviders⟩
  have same : others = messages := List.append_cancel_left (grownOthers.symm.trans grown)
  rw [same] at toProviders
  rcases toProviders _ member with isReply | ⟨service, flags, isProvider⟩
  · simp [isCall] at isReply
  · have isServer := view.provider_isServer service flags
    rw [← isProvider] at isServer
    exact if_pos isServer

/-- The call has crossed no link while it is on a queue, and at most one in all. -/
def Whereabouts.Near (links : Nat) : Whereabouts → Prop
  | .queue _ _ => links = 0
  | .wire _ _ _ => links ≤ 1

theorem travels_near {links : Nat} {place : Whereabouts} (travels : Travels links place) :
    place.Near links := by
  induction travels with
  | ipcClient gateway cmsg => exact rfl
  | srbClient gateway conn srbmsg => exact Nat.zero_le 1
  | passedOn _ _ _ _ ih =>
      have onQueue : _ = 0 := ih
      rw [onQueue]
      exact Nat.le_refl 1
  | returned _ _ _ _ ih => exact ih
  | routed _ result grown member isCall reads _ =>
      grind [srbDoMessage_noGateway]

/-- No call crosses more links than `MAXHOPS` allows, whatever the tables of the gateways are. -/
theorem travels_at_most_maxhops {links : Nat} {place : Whereabouts}
    (travels : Travels links place) : links ≤ defaultMaxhops := by
  have near := travels_near travels
  unfold defaultMaxhops
  cases place with
  | queue gateway cmsg =>
      have onQueue : links = 0 := near
      omega
  | wire gateway conn srbmsg =>
      have atMostOne : links ≤ 1 := near
      omega

/-- A gateway that imports `s` from a peer. -/
def importingView : GatewayView where
  toGatewaySystem :=
    { smallSystem [] noServices_short with importlist := [⟨[115], [⟨0x08000001, peerConn⟩]⟩] }
  uninit := ⟨0, 0⟩
  gatewayOf := fun _ => none
  otherEnd := fun _ => some (1, peerConn)
  localServers := List.forall_mem_nil _

/-- A local client calls `s`. -/
def importedCall : Call :=
  ⟨.svccall, 5, 0x02000001, unassigned, unassigned, 0x08000001, [115], [], 0, 0, [], [], 0⟩

/-- The call goes to the peer. -/
theorem travels_at_most_maxhops_peer :
    ∃ srbmsg, Travels 1 (.wire 1 peerConn srbmsg) ∧ 1 ≤ defaultMaxhops := by
  have goesOut : peerMessages importingView.outlet (emptyStore.nextIpchdl importingView.domain)
      importedCall ≠ [] := by decide
  rcases List.exists_mem_of_ne_nil _ goesOut with ⟨srbmsg, member⟩
  have result : ∃ response, doSvccall importingView.limit importingView.outlet emptyStore
      importingView.domain importingView.importlist importedCall = .ok response ∧
      (peerConn, srbmsg) ∈ response.written := ⟨_, rfl, List.mem_map_of_mem member⟩
  rcases result with ⟨response, result, written⟩
  have travels := (Travels.ipcClient 0 importedCall).passedOn result written rfl
  exact ⟨srbmsg, travels, travels_at_most_maxhops travels⟩

end MidWay.Gateway

import MidWay.Gateway.StoreLeaks

/-!
Contract: the connections that pending calls point to.

A connection is a slot of a table, found by its file descriptor, and the store keeps
pointers to slots. A pointer shows what is in the slot now, whoever that is, so every
step starts from the store with the connections as they are in the table. When a
client goes, its calls are dropped first. When a peer goes, nothing is dropped.

An id can reach a slot twice: the reply of `mwd` to an attach is put into the slot
without a look at who has it.

Owns: `ConnectionTable`, `tableMachine`, `NoDangling`, and that it holds as long as no
slot is taken from a call that points to it.
-/

namespace MidWay.Gateway

open MidWay.CLib MidWay.Url MidWay.Srb MidWay.Lib

/-- The property does not depend on what `check_if_complete`, data and replies change. -/
structure Enduring (property : PendingCall → Prop) : Prop where
  received : ∀ domain pc data, property pc → property (pc.received domain data)
  announced : ∀ pc rcode apprcode datatotal, property pc →
    property (pc.announced rcode apprcode datatotal)
  routed : ∀ domain pc ipchdl, pc.status = .calldatapending → property pc →
    property (pc.routed domain ipchdl)
  reset : ∀ domain pc, property pc → property (pc.reset domain)

def sentCall (domain : Domain) (store : CallStore) (cmsg : Call) (conn : Connection) :
    PendingCall :=
  { unsentCall domain store cmsg conn with call := cmsg, status := .replypending }

def PeerEvent.Makes (property : PendingCall → Prop) (store : CallStore) : PeerEvent → Prop
  | .gateway (.message domain _ conn _) => connGetinfo conn ≠ unassigned →
      ∀ nethandle map datatotal service instanceName domainname flags,
        property (openedCall domain (connGetinfo conn) nethandle map conn datatotal service
          instanceName domainname flags)
  | .gateway _ => True
  | .ipcCall domain _ cmsg conn =>
      property (unsentCall domain store cmsg conn) ∧ property (sentCall domain store cmsg conn)

variable {fd limit : Nat} {answers : List SRBmessage}

section Enduring

variable {property : PendingCall → Prop} (enduring : Enduring property)
  {store store' : CallStore} (calls : AllCalls property store) {domain : Domain}
  {conn : Connection} {srbmsg : SRBmessage}
include enduring calls

theorem Enduring.checkIfComplete {adr : Nat} (pending : store.Pending adr) :
    AllCalls property (store.checkIfComplete domain adr) := by
  apply calls.checkIfComplete domain pending
  · intro collects _
    exact enduring.routed domain _ _ collects (calls.all adr pending)
  · intro _ _
    exact enduring.reset domain _ (calls.all adr pending)

theorem Enduring.storeSRBData {mwid nethandle : UInt32} {data : List Byte}
    (result : store.storeSRBData domain mwid nethandle data = .ok store') :
    AllCalls property store' := by
  cases found : store.lookupPendingCall mwid nethandle with
  | none =>
      rw [CallStore.storeSRBData, found] at result
      cases result
      exact calls
  | some adr =>
      have pending : store.Pending adr := ⟨_, List.mem_of_find?_eq_some found⟩
      rcases storeSRBData_ok domain found result with ⟨fits, granted⟩
      rw [storeSRBData_found domain found fits granted] at result
      cases result
      have received := enduring.received domain _ data (calls.all adr pending)
      exact enduring.checkIfComplete (calls.setPc pending received) pending

theorem Enduring.storeSRBReply {mwid nethandle : UInt32} {rcode apprcode datatotal : Int}
    (result : store.storeSRBReply domain mwid nethandle rcode apprcode datatotal = .ok store') :
    AllCalls property store' := by
  rw [CallStore.storeSRBReply] at result
  cases found : store.lookupPendingCall mwid nethandle with
  | none =>
      simp_all
  | some adr =>
      have pending : store.Pending adr := ⟨_, List.mem_of_find?_eq_some found⟩
      simp only [found] at result
      split_ifs at result
      cases result
      have announced := enduring.announced _ rcode apprcode datatotal (calls.all adr pending)
      exact enduring.checkIfComplete (calls.setPc pending announced) pending

theorem Enduring.storeRest {handle : UInt32} {data : List Byte}
    (result : storeRest domain store conn handle data = .ok store') : AllCalls property store' := by
  rw [Gateway.storeRest] at result
  split_ifs at result
  · exact enduring.storeSRBData calls result
  · simp_all

theorem Enduring.srbsvcdata (result : srbsvcdata domain store conn srbmsg = .ok (store', answers)) :
    AllCalls property store' := by
  rw [Gateway.srbsvcdata] at result
  cases reading : readData conn srbmsg with
  | ended exchange =>
      simp_all
  | failed failure =>
      simp [reading] at result
  | complete request =>
      rw [reading] at result
      rcases map_eq_ok result with ⟨after, stored, same⟩
      cases same
      exact enduring.storeSRBData calls stored

theorem Enduring.srbcallRpl {uninit : Uninit}
    (result : srbcallRpl domain limit uninit store conn srbmsg = .ok (store', answers)) :
    AllCalls property store' := by
  rw [Gateway.srbcallRpl] at result
  split_ifs at result
  · simp_all
  · cases reading : readReply uninit conn srbmsg with
    | ended exchange =>
        simp_all
    | failed failure =>
        simp [reading] at result
    | complete request =>
        simp only [reading] at result
        cases replied : store.storeSRBReply domain (connGetinfo conn) request.handle
          request.returncode request.appreturncode request.datatotal with
        | error failure =>
            simp [replied] at result
        | ok between =>
            rw [replied] at result
            rcases map_eq_ok result with ⟨after, stored, same⟩
            cases same
            exact enduring.storeRest (enduring.storeSRBReply calls replied) stored

theorem Enduring.srbcallReq {limit : Nat} {uninit : Uninit} {answers : List SRBmessage}
    (makes : connGetinfo conn ≠ unassigned →
      ∀ nethandle map datatotal service instanceName domainname flags,
        property (openedCall domain (connGetinfo conn) nethandle map conn datatotal service
          instanceName domainname flags))
    (result : srbcallReq domain limit uninit store conn srbmsg = .ok (store', answers)) :
    AllCalls property store' := by
  rw [Gateway.srbcallReq] at result
  split_ifs at result with unattached
  · simp_all
  · cases reading : readCall uninit conn srbmsg with
    | ended exchange =>
        simp_all
    | failed failure =>
        simp [reading] at result
    | complete request =>
        rw [reading] at result
        rcases map_eq_ok result with ⟨after, stored, same⟩
        cases same
        have made := makes unattached request.handle request.exchange.srbmsg.map request.datatotal
          request.svcname request.instanceName request.domainname request.flags
        have opened := calls.storeSRBCall domain (connGetinfo conn) request.handle
          request.exchange.srbmsg.map conn request.datatotal request.svcname request.instanceName
          request.domainname request.flags made fun _ => enduring.routed domain _ _ rfl made
        exact enduring.storeRest opened stored

omit enduring in
theorem AllCalls.tcpcloseconnection (conn : Connection) :
    AllCalls property (tcpcloseconnection store conn) := by
  rw [Gateway.tcpcloseconnection]
  split_ifs
  · exact calls.storeSRBClearClient conn.cid
  · exact calls

/-- The calls that are pending after an event have the property. -/
theorem Enduring.handle {event : PeerEvent} (enabled : event.Enabled store)
    (makes : event.Makes property store) (result : event.handle limit store = .ok store') :
    AllCalls property store' := by
  cases event with
  | ipcCall domain outlet cmsg conn =>
      cases result
      have opened := openIPCCall_opened calls.ok domain cmsg conn
      have pending : (store.openIPCCall domain cmsg conn).2.2.Pending
          (store.openIPCCall domain cmsg conn).1 :=
        ⟨_, (opened.placed.mem _ _).mpr (Or.inl ⟨rfl, rfl⟩)⟩
      rw [storeIPCCall_sent enabled]
      apply (calls.place opened.placed makes.1).setPc pending
      rw [opened.placed.pc]
      exact makes.2
  | gateway event =>
      cases event with
      | closed conn =>
          cases result
          exact calls.tcpcloseconnection conn
      | ipcReply cmsg =>
          rcases map_eq_ok result with ⟨⟨answer, after⟩, stored, same⟩
          cases same
          exact calls.storeIPCReply stored
      | message domain uninit conn srbmsg =>
          change srbDoMessage domain limit uninit store conn srbmsg = .ok store' at result
          rw [srbDoMessage] at result
          cases isCommand : command conn srbmsg with
          | svccall =>
              rw [isCommand] at result
              rcases map_eq_ok result with ⟨⟨after, answers⟩, stored, same⟩
              cases same
              exact enduring.srbcallReq calls makes stored
          | svcreply =>
              rw [isCommand] at result
              rcases map_eq_ok result with ⟨⟨after, answers⟩, stored, same⟩
              cases same
              exact enduring.srbcallRpl calls stored
          | svcdata =>
              rw [isCommand] at result
              rcases map_eq_ok result with ⟨⟨after, answers⟩, stored, same⟩
              cases same
              exact enduring.srbsvcdata calls stored
          | term =>
              rw [isCommand] at result
              cases result
              exact calls.tcpcloseconnection conn
          | other =>
              simp_all

end Enduring

/-- A `Connection` in its slot; `peer` tells whether it has a `peerinfo`. -/
structure Slot where
  isOpen : Bool
  cid : UInt32
  gwid : UInt32
  up : Bool
  rejects : Bool
  peer : Bool
deriving DecidableEq, Repr

def Slot.connection (slot : Slot) (fd : Nat) : Connection :=
  ⟨fd, slot.cid, slot.gwid, slot.up, slot.rejects⟩

/-- The slot after `conn_clear`. -/
def clearSlot : Slot := ⟨false, unassigned, unassigned, false, false, false⟩

def ConnectionTable := Nat → Slot

def ConnectionTable.set (table : ConnectionTable) (fd : Nat) (slot : Slot) : ConnectionTable :=
  fun other => if other = fd then slot else table other

def ConnectionTable.connection (table : ConnectionTable) (fd : Nat) : Connection :=
  (table fd).connection fd

def ConnectionTable.member (table : ConnectionTable) (fd : Nat) : UInt32 :=
  connGetinfo (table.connection fd)

/-- `conn_setinfo`, with the id of a client. -/
def Slot.setinfo (slot : Slot) (cltid : UInt32) : Slot :=
  if cltid &&& mwClientMask ≠ 0 then
    { slot with cid := (cltid &&& 0x00FFFFFF) ||| mwClientMask }
  else slot

def PendingCall.loaded (table : ConnectionTable) (pc : PendingCall) : PendingCall :=
  { pc with
    srcconn := pc.srcconn.map fun conn => table.connection conn.fd
    dstconn := pc.dstconn.map fun conn => table.connection conn.fd }

structure TableState where
  store : CallStore
  table : ConnectionTable

def TableState.loaded (state : TableState) : CallStore :=
  { state.store with pc := fun adr => (state.store.pc adr).loaded state.table }

inductive TableAction where
  /-- `conn_add`. -/
  | opened (fd : Nat)
  /-- The connection is initiated. -/
  | initiated (fd : Nat)
  /-- The reply of `mwd` to an attach. -/
  | attached (fd : Nat) (cltid : UInt32)
  /-- `gw_peerconnected`, or a connect to a peer. -/
  | connected (fd : Nat) (gwid : UInt32)
  | message (domain : Domain) (uninit : Uninit) (fd : Nat) (srbmsg : SRBmessage)
  /-- `tcpcloseconnection`. -/
  | closed (fd : Nat)
  /-- `gw_closegateway`. -/
  | gatewayClosed (fd : Nat)
  | ipcCall (domain : Domain) (outlet : Outlet) (cmsg : Call) (fd : Nat)
  | ipcReply (cmsg : Call)

def TableAction.event (table : ConnectionTable) : TableAction → Option PeerEvent
  | .message domain uninit fd srbmsg =>
      some (.gateway (.message domain uninit (table.connection fd) srbmsg))
  | .closed fd => some (.gateway (.closed (table.connection fd)))
  | .ipcCall domain outlet cmsg fd => some (.ipcCall domain outlet cmsg (table.connection fd))
  | .ipcReply cmsg => some (.gateway (.ipcReply cmsg))
  | _ => none

def TableAction.slots (table : ConnectionTable) : TableAction → ConnectionTable
  | .opened fd => table.set fd { table fd with isOpen := true }
  | .initiated fd => table.set fd { table fd with up := true }
  | .attached fd cltid => table.set fd ((table fd).setinfo cltid)
  | .connected fd gwid => table.set fd { table fd with gwid := gwid, peer := true }
  | .message _ _ fd srbmsg =>
      if command (table.connection fd) srbmsg = .term then table.set fd clearSlot else table
  | .closed fd => table.set fd clearSlot
  | .gatewayClosed fd => table.set fd clearSlot
  | .ipcCall _ _ _ _ => table
  | .ipcReply _ => table

def TableState.step (limit : Nat) (state : TableState) (action : TableAction) :
    Except StoreFailure TableState :=
  let table := action.slots state.table
  match action.event state.table with
  | none => .ok ⟨state.loaded, table⟩
  | some event => (event.handle limit state.loaded).map fun store => ⟨store, table⟩

/-- The system opens a descriptor that is not open. A call goes to a connection of the import
list, which has those of the peers. -/
def TableState.enabled (state : TableState) : TableAction → Prop
  | .opened fd => (state.table fd).isOpen = false
  | .attached _ _ => True
  | .initiated fd => (state.table fd).isOpen = true
  | .connected fd _ => (state.table fd).isOpen = true
  | .message _ _ fd _ => (state.table fd).isOpen = true
  | .closed fd => (state.table fd).isOpen = true
  | .gatewayClosed fd => (state.table fd).isOpen = true
  | .ipcCall domain outlet cmsg fd => ((state.table fd).isOpen = true ∧ (state.table fd).peer = true) ∧
      outlet.Passes (state.loaded.nextIpchdl domain) cmsg
  | .ipcReply _ => True

def tableMachine (limit : Nat) : Machine TableState TableAction StoreFailure where
  start := fun state => state = ⟨emptyStore, fun _ => clearSlot⟩
  enabled := TableState.enabled
  step := TableState.step limit

def PendingCall.Refers (pc : PendingCall) (fd : Nat) : Prop :=
  (∃ conn, pc.srcconn = some conn ∧ conn.fd = fd) ∨ ∃ conn, pc.dstconn = some conn ∧ conn.fd = fd

/-- The connections of a call are open, and of the members that made it and serve it. -/
structure PendingCall.Linked (table : ConnectionTable) (pc : PendingCall) : Prop where
  source : ∀ conn, pc.srcconn = some conn →
    (table conn.fd).isOpen = true ∧ table.member conn.fd = pc.srcMwid ∧ pc.srcMwid ≠ unassigned
  target : ∀ conn, pc.dstconn = some conn →
    (table conn.fd).isOpen = true ∧ (table conn.fd).gwid = pc.dstMwid ∧
      (table conn.fd).peer = true
  collecting : pc.status = .calldatapending → pc.dstconn = none

def TableState.Unreferenced (state : TableState) (fd : Nat) : Prop :=
  ∀ adr, state.store.Pending adr → ¬(state.store.pc adr).Refers fd

def ConnectionTable.Identified (table : ConnectionTable) (fd : Nat) : Prop :=
  table.member fd ≠ unassigned ∨ (table fd).peer = true

def Slot.OfPeer (slot : Slot) : Prop := slot.peer = true ∨ slot.gwid ≠ unassigned

/-- No slot is closed as a peer's, and none that has an id gets another, while a pending call
points to it. -/
def TableState.Settled (state : TableState) : TableAction → Prop
  | .attached fd _ => state.table.Identified fd → state.Unreferenced fd
  | .connected fd _ => state.table.Identified fd → state.Unreferenced fd
  | .gatewayClosed fd => state.table.Identified fd → state.Unreferenced fd
  | .closed fd => (state.table fd).OfPeer → state.Unreferenced fd
  | .message _ _ fd srbmsg => command (state.table.connection fd) srbmsg = .term →
      (state.table fd).OfPeer → state.Unreferenced fd
  | _ => True

/-- The connections of every pending call are open and of its members. A reply that is sent goes
to such a connection. -/
structure NoDangling (state : TableState) : Prop where
  source : ∀ adr, state.store.Pending adr → ∀ conn, (state.store.pc adr).srcconn = some conn →
    (state.table conn.fd).isOpen = true ∧
      state.table.member conn.fd = (state.store.pc adr).srcMwid
  target : ∀ adr, state.store.Pending adr → ∀ conn, (state.store.pc adr).dstconn = some conn →
    (state.table conn.fd).isOpen = true ∧
      (state.table conn.fd).gwid = (state.store.pc adr).dstMwid
  reply : ∀ cmsg conn map store,
    state.loaded.storeIPCReply cmsg = .ok (some (conn, map), store) →
      (state.table conn.fd).isOpen = true ∧ conn = state.table.connection conn.fd ∧
        (conn.cid = cmsg.callerMwid ∨ conn.gwid = cmsg.callerMwid)

theorem linked_enduring (table : ConnectionTable) : Enduring (PendingCall.Linked table) := by
  refine ⟨?_, ?_, ?_, ?_⟩
  · intro domain pc data linked
    exact ⟨linked.source, linked.target, linked.collecting⟩
  · intro pc rcode apprcode datatotal linked
    refine ⟨linked.source, linked.target, ?_⟩
    intro impossible
    cases impossible
  · intro domain pc ipchdl collects linked
    refine ⟨linked.source, ?_, ?_⟩
    · intro conn isTarget
      have none : pc.dstconn = none := linked.collecting collects
      rw [show pc.dstconn = some conn from isTarget] at none
      cases none
    · intro impossible
      cases impossible
  · intro domain pc linked
    refine ⟨linked.source, linked.target, ?_⟩
    intro impossible
    cases impossible

/-- The slots a call points to may change in what it does not look at. -/
theorem PendingCall.Linked.retable {table table' : ConnectionTable} {pc : PendingCall}
    (linked : pc.Linked table)
    (same : ∀ fd, pc.Refers fd → (table' fd).isOpen = (table fd).isOpen ∧
      (table' fd).cid = (table fd).cid ∧ (table' fd).gwid = (table fd).gwid ∧
      (table' fd).peer = (table fd).peer) : pc.Linked table' := by
  refine ⟨?_, ?_, linked.collecting⟩
  · intro conn isSource
    rcases same conn.fd (Or.inl ⟨conn, isSource, rfl⟩) with ⟨sameOpen, sameCid, sameGwid, _⟩
    have sameMember : table'.member conn.fd = table.member conn.fd := by
      grind [ConnectionTable.member, ConnectionTable.connection, Slot.connection, connGetinfo]
    rw [sameOpen, sameMember]
    exact linked.source conn isSource
  · intro conn isTarget
    rcases same conn.fd (Or.inr ⟨conn, isTarget, rfl⟩) with ⟨sameOpen, _, sameGwid, samePeer⟩
    simp_all [linked.target]

variable {table : ConnectionTable} {pc : PendingCall}

theorem PendingCall.Refers.of_loaded (refers : (pc.loaded table).Refers fd) : pc.Refers fd := by
  rcases refers with ⟨conn, isSource, isFd⟩ | ⟨conn, isTarget, isFd⟩
  · rcases Option.map_eq_some_iff.mp isSource with ⟨before, wasSource, rfl⟩
    exact Or.inl ⟨before, wasSource, isFd⟩
  · rcases Option.map_eq_some_iff.mp isTarget with ⟨before, wasTarget, rfl⟩
    exact Or.inr ⟨before, wasTarget, isFd⟩

theorem PendingCall.Linked.loaded (linked : pc.Linked table) : (pc.loaded table).Linked table := by
  refine ⟨?_, ?_, ?_⟩
  · intro conn isSource
    rcases Option.map_eq_some_iff.mp isSource with ⟨before, wasSource, rfl⟩
    exact linked.source before wasSource
  · intro conn isTarget
    rcases Option.map_eq_some_iff.mp isTarget with ⟨before, wasTarget, rfl⟩
    exact linked.target before wasTarget
  · intro collects
    change pc.dstconn.map _ = none
    rw [linked.collecting collects]
    rfl

theorem AllCalls.loaded {property : PendingCall → Prop} {state : TableState}
    (calls : AllCalls property state.store)
    (kept : ∀ pc, property pc → property (pc.loaded state.table)) :
    AllCalls property state.loaded := by
  refine ⟨⟨calls.ok.nodup, calls.ok.bucket, calls.ok.freeNodup, ?_, calls.ok.alloced⟩, ?_⟩
  · intro adr member
    rcases calls.ok.free adr member with ⟨notPending, cleared⟩
    refine ⟨notPending, ?_⟩
    change (state.store.pc adr).loaded state.table = clearPendingCall
    rw [cleared]
    rfl
  · intro adr pending
    exact kept _ (calls.all adr pending)

section Sound

variable {state : TableState} (calls : AllCalls (PendingCall.Linked state.table) state.store)
include calls

theorem AllCalls.unreferenced_closed (isClosed : (state.table fd).isOpen = false) :
    state.Unreferenced fd := by
  intro adr pending refers
  rcases refers with ⟨conn, isSource, rfl⟩ | ⟨conn, isTarget, rfl⟩
  · have isOpen := ((calls.all adr pending).source conn isSource).1
    rw [isClosed] at isOpen
    cases isOpen
  · have isOpen := ((calls.all adr pending).target conn isTarget).1
    rw [isClosed] at isOpen
    cases isOpen

theorem AllCalls.unreferenced_unidentified (bare : ¬state.table.Identified fd) :
    state.Unreferenced fd := by
  intro adr pending refers
  apply bare
  rcases refers with ⟨conn, isSource, rfl⟩ | ⟨conn, isTarget, rfl⟩
  · rcases (calls.all adr pending).source conn isSource with ⟨_, isMember, assigned⟩
    rw [← isMember] at assigned
    exact Or.inl assigned
  · exact Or.inr ((calls.all adr pending).target conn isTarget).2.2

theorem AllCalls.reslot (unreferenced : state.Unreferenced fd) (slot : Slot) :
    AllCalls (PendingCall.Linked (state.table.set fd slot)) state.loaded := by
  have loaded := calls.loaded fun _ => PendingCall.Linked.loaded
  refine ⟨loaded.ok, ?_⟩
  intro adr pending
  apply (loaded.all adr pending).retable
  intro other refers
  have different : other ≠ fd := by
    intro same
    rw [same] at refers
    exact unreferenced adr pending refers.of_loaded
  simp only [ConnectionTable.set, if_neg different, and_self]

/-- The calls of a client are dropped before its slot is. -/
theorem AllCalls.clientClosed (noPeer : ¬(state.table fd).OfPeer) :
    AllCalls (PendingCall.Linked (state.table.set fd clearSlot))
      (Gateway.tcpcloseconnection state.loaded (state.table.connection fd)) := by
  have loaded := calls.loaded fun _ => PendingCall.Linked.loaded
  have kept := loaded.tcpcloseconnection (state.table.connection fd)
  refine ⟨kept.ok, ?_⟩
  intro adr pending
  have linked := kept.all adr pending
  apply linked.retable
  intro other refers
  have different : other ≠ fd := by
    intro same
    rw [same] at refers
    rcases not_or.mp noPeer with ⟨notPeer, noGwid⟩
    rcases refers with ⟨conn, isSource, rfl⟩ | ⟨conn, isTarget, rfl⟩
    · rcases linked.source conn isSource with ⟨_, isMember, assigned⟩
      have isClient : state.table.member conn.fd = (state.table conn.fd).cid := by
        rcases connGetinfo_or (isMember ▸ assigned) with byCid | byGwid
        · exact byCid.symm
        · have isUnassigned : state.table.member conn.fd = unassigned :=
            byGwid.symm.trans (not_not.mp noGwid)
          simp_all
      have isCid : (state.table conn.fd).cid ≠ unassigned := by
        simp_all
      have cleared : Gateway.tcpcloseconnection state.loaded (state.table.connection conn.fd) =
          state.loaded.storeSRBClearClient (state.table conn.fd).cid := if_pos isCid
      rw [cleared] at kept pending isSource isMember
      have member := (kept.ok.mem_madeBy).mpr ⟨pending, rfl⟩
      apply (mem_madeBy_storeSRBClearClient loaded.ok member).2
      exact isMember.symm.trans isClient
    · exact notPeer (linked.target conn isTarget).2.2
  simp only [ConnectionTable.set, if_neg different, and_self]

end Sound

/-- The calls an event makes point to the connection it is about. -/
theorem TableState.makes {state : TableState} {action : TableAction}
    (enabled : state.enabled action) {event : PeerEvent}
    (isEvent : action.event state.table = some event) :
    event.Enabled state.loaded ∧ event.Makes (PendingCall.Linked state.table) state.loaded := by
  cases action with
  | message domain uninit fd srbmsg =>
      cases isEvent
      refine ⟨trivial, ?_⟩
      intro attached nethandle map datatotal service instanceName domainname flags
      refine ⟨?_, ?_, fun _ => rfl⟩
      · intro conn isSource
        cases isSource
        exact ⟨enabled, rfl, attached⟩
      · intro conn isTarget
        cases isTarget
  | closed fd =>
      cases isEvent
      exact ⟨trivial, trivial⟩
  | ipcReply cmsg =>
      cases isEvent
      exact ⟨trivial, trivial⟩
  | ipcCall domain outlet cmsg fd =>
      cases isEvent
      have linked : (unsentCall domain state.loaded cmsg (state.table.connection fd)).Linked
          state.table := by
        refine ⟨?_, ?_, ?_⟩
        · intro conn isSource
          cases isSource
        · intro conn isTarget
          cases isTarget
          exact ⟨enabled.1.1, rfl, enabled.1.2⟩
        · intro impossible
          cases impossible
      refine ⟨enabled.2, linked, linked.source, linked.target, ?_⟩
      intro impossible
      cases impossible
  | opened fd => cases isEvent
  | initiated fd => cases isEvent
  | attached fd cltid => cases isEvent
  | connected fd gwid => cases isEvent
  | gatewayClosed fd => cases isEvent

theorem AllCalls.slotClosed {state : TableState}
    (calls : AllCalls (PendingCall.Linked state.table) state.store)
    (settled : (state.table fd).OfPeer → state.Unreferenced fd) :
    AllCalls (PendingCall.Linked (state.table.set fd clearSlot))
      (Gateway.tcpcloseconnection state.loaded (state.table.connection fd)) := by
  by_cases isPeer : (state.table fd).OfPeer
  · exact (calls.reslot (settled isPeer) clearSlot).tcpcloseconnection _
  · exact calls.clientClosed isPeer

theorem tableMachine_preserves (limit : Nat) :
    (tableMachine limit).Preserves TableState.Settled
      (fun state => AllCalls (PendingCall.Linked state.table) state.store) := by
  intro state action next calls enabled settled stepped
  have identified {fd : Nat} (unreferenced : state.table.Identified fd → state.Unreferenced fd) :
      state.Unreferenced fd := by
    by_cases isIdentified : state.table.Identified fd
    · exact unreferenced isIdentified
    · exact calls.unreferenced_unidentified isIdentified
  have loaded := calls.loaded fun _ => PendingCall.Linked.loaded
  change state.enabled action at enabled
  change TableState.step limit state action = .ok next at stepped
  unfold TableState.step at stepped
  cases action with
  | opened fd =>
      cases stepped
      exact calls.reslot (calls.unreferenced_closed enabled) _
  | attached fd cltid =>
      cases stepped
      exact calls.reslot (identified settled) _
  | connected fd gwid =>
      cases stepped
      exact calls.reslot (identified settled) _
  | gatewayClosed fd =>
      cases stepped
      exact calls.reslot (identified settled) _
  | initiated fd =>
      cases stepped
      refine ⟨loaded.ok, ?_⟩
      intro adr pending
      apply (loaded.all adr pending).retable
      intro other _
      simp only [TableAction.slots, ConnectionTable.set]
      grind
  | closed fd =>
      cases stepped
      exact calls.slotClosed settled
  | ipcReply cmsg =>
      rcases map_eq_ok stepped with ⟨store, handled, same⟩
      cases same
      rcases state.makes enabled rfl with ⟨isEnabled, makes⟩
      exact (linked_enduring state.table).handle loaded isEnabled makes handled
  | ipcCall domain outlet cmsg fd =>
      rcases map_eq_ok stepped with ⟨store, handled, same⟩
      cases same
      rcases state.makes enabled rfl with ⟨isEnabled, makes⟩
      exact (linked_enduring state.table).handle loaded isEnabled makes handled
  | message domain uninit fd srbmsg =>
      rcases map_eq_ok stepped with ⟨store, handled, same⟩
      cases same
      simp only [TableAction.slots]
      split_ifs with isTerm
      · change srbDoMessage domain limit uninit state.loaded (state.table.connection fd) srbmsg =
          .ok store at handled
        rw [srbDoMessage, isTerm] at handled
        cases handled
        exact calls.slotClosed (settled isTerm)
      · rcases state.makes enabled rfl with ⟨isEnabled, makes⟩
        exact (linked_enduring state.table).handle loaded isEnabled makes handled

/-- The connection a reply is sent to. -/
theorem storeIPCReply_conn {store store' : CallStore} {cmsg : Call} {conn : Connection}
    {map : Urlmap} (result : store.storeIPCReply cmsg = .ok (some (conn, map), store')) :
    ∃ adr, store.Pending adr ∧ (store.pc adr).srcconn = some conn ∧
      (conn.cid = cmsg.callerMwid ∨ conn.gwid = cmsg.callerMwid) := by
  rw [CallStore.storeIPCReply] at result
  cases found : store.lookupPendingCall cmsg.callerMwid cmsg.handle with
  | none =>
      simp [found] at result
  | some adr =>
      simp only [found] at result
      refine ⟨adr, ⟨_, List.mem_of_find?_eq_some found⟩, ?_⟩
      grind

theorem AllCalls.noDangling {state : TableState}
    (calls : AllCalls (PendingCall.Linked state.table) state.store) : NoDangling state := by
  refine ⟨?_, ?_, ?_⟩
  · intro adr pending conn isSource
    rcases (calls.all adr pending).source conn isSource with ⟨isOpen, isMember, _⟩
    exact ⟨isOpen, isMember⟩
  · intro adr pending conn isTarget
    rcases (calls.all adr pending).target conn isTarget with ⟨isOpen, isServer, _⟩
    exact ⟨isOpen, isServer⟩
  · intro cmsg conn map store result
    rcases storeIPCReply_conn result with ⟨adr, pending, isSource, own⟩
    rcases Option.map_eq_some_iff.mp isSource with ⟨before, wasSource, rfl⟩
    exact ⟨((calls.all adr pending).source before wasSource).1, rfl, own⟩

/-- In every run in which no slot is taken from a call that points to it, the connections of all
pending calls are open and of their members. -/
theorem tableMachine_no_dangling (limit : Nat) {state : TableState}
    (reachable : (tableMachine limit).Reachable TableState.Settled state) : NoDangling state := by
  have calls : AllCalls (PendingCall.Linked state.table) state.store := by
    apply reachable.holds _ (tableMachine_preserves limit)
    intro start isStart
    rw [show start = _ from isStart]
    exact AllCalls.empty _
  exact calls.noDangling

def openRequest (fd : Nat) : TableAction :=
  .message roomyDomain ⟨0, 0⟩ fd (callMessage (sprintfUpperX 7) [115] (some 2) [] none)

def bareTable : TableState := ⟨emptyStore, fun _ => clearSlot⟩

/-- The state an action leads to; it stays where it is when the gateway ends. -/
def TableState.next (state : TableState) (action : TableAction) : TableState :=
  match state.step 3000 action with
  | .error _ => state
  | .ok after => after

theorem TableState.reaches {condition : TableState → TableAction → Prop} {state : TableState}
    (reachable : (tableMachine 3000).Reachable condition state) {action : TableAction}
    (enabled : state.enabled action) (meets : condition state action)
    (goesOn : (state.step 3000 action).isOk = true) :
    (tableMachine 3000).Reachable condition (state.next action) := by
  cases stepped : state.step 3000 action with
  | error failure =>
      rw [stepped] at goesOn
      cases goesOn
  | ok after =>
      have same : state.next action = after := by rw [TableState.next, stepped]
      rw [same]
      exact reachable.step enabled meets stepped

def clientUp : TableState :=
  ((bareTable.next (.opened 5)).next (.attached 5 0x02000001)).next (.initiated 5)

def peerUp : TableState :=
  ((bareTable.next (.opened 5)).next (.connected 5 0x04000002)).next (.initiated 5)

/-- The call of a client waits for its data. -/
theorem tableMachine_no_dangling_client :
    (tableMachine 3000).Reachable TableState.Settled (clientUp.next (openRequest 5)) ∧
      (clientUp.next (openRequest 5)).store.Pending 0 ∧
      NoDangling (clientUp.next (openRequest 5)) := by
  have opened : (tableMachine 3000).Reachable TableState.Settled (bareTable.next (.opened 5)) :=
    TableState.reaches (.start rfl) rfl trivial rfl
  have attached : (tableMachine 3000).Reachable TableState.Settled
      ((bareTable.next (.opened 5)).next (.attached 5 0x02000001)) := by
    apply @TableState.reaches _ _ opened (.attached 5 0x02000001) trivial _ rfl
    intro _ adr pending
    exact absurd pending (emptyStore_not_pending adr)
  have up : (tableMachine 3000).Reachable TableState.Settled clientUp :=
    TableState.reaches attached rfl trivial rfl
  have called : (tableMachine 3000).Reachable TableState.Settled
      (clientUp.next (openRequest 5)) := by
    apply @TableState.reaches _ _ up (openRequest 5) rfl _ rfl
    intro isTerm
    cases isTerm
  refine ⟨called, ⟨mkhash 0x02000001 7, ?_⟩, tableMachine_no_dangling 3000 called⟩
  decide

/-- The peer made a call and is gone; the call is still there. -/
theorem tableMachine_no_dangling_not_peer :
    (tableMachine 3000).Reachable (fun _ _ => True) ((peerUp.next (openRequest 5)).next (.closed 5)) ∧
      ¬NoDangling ((peerUp.next (openRequest 5)).next (.closed 5)) := by
  have opened : (tableMachine 3000).Reachable (fun _ _ => True) (bareTable.next (.opened 5)) :=
    TableState.reaches (.start rfl) rfl trivial rfl
  have connected : (tableMachine 3000).Reachable (fun _ _ => True)
      ((bareTable.next (.opened 5)).next (.connected 5 0x04000002)) :=
    TableState.reaches opened rfl trivial rfl
  have up : (tableMachine 3000).Reachable (fun _ _ => True) peerUp :=
    TableState.reaches connected rfl trivial rfl
  have called : (tableMachine 3000).Reachable (fun _ _ => True) (peerUp.next (openRequest 5)) :=
    TableState.reaches up rfl trivial rfl
  refine ⟨TableState.reaches called rfl trivial rfl, ?_⟩
  intro noDangling
  have pending : ((peerUp.next (openRequest 5)).next (.closed 5)).store.Pending 0 :=
    ⟨mkhash 0x04000002 7, by decide⟩
  have isOpen := (noDangling.source 0 pending _ rfl).1
  cases isOpen

end MidWay.Gateway

import MidWay.Gateway.Peers
import MidWay.Lib.Matching
import MidWay.Lib.Runs
import MidWay.Mwd.Consistency
import MidWay.Url.Map

/-!
Contract: which connection the reply of `mwd` to an attach reaches.

The gateway asks `mwd` for a client id on behalf of a connection and notes the
connection on a list, under the name of the client. A reply is given to the newest
entry with its name, and goes to the descriptor of that entry, whoever has it by then.
The id of the connection is kept in the entry and compared with nothing. The message
holds only so much of a name, and a longer one comes back as another.

Owns: `storePushAttach` to the handling of `ATTACHRPL`, the machine of attaches under
way, and when a reply reaches the connection that asked.
-/

namespace MidWay.Gateway.AttachReplies

open MidWay.CLib MidWay.Lib MidWay.Lib.Matching MidWay.Url

/-- The last descriptor of `select` is not used. -/
def fdSetsize : Nat := 1024

/-- A slot of the connection table. `clients` is the bit of the role that lets clients in.
`serial` tells the connections that have the slot one after another apart, and has no
counterpart in the program. -/
structure Conn where
  fd : Int
  connectionid : Int
  cid : Int
  gwid : Int
  clients : Bool
  up : Bool
  serial : Nat
deriving DecidableEq, Repr

/-- `conn_clear`. -/
def Conn.clear (conn : Conn) : Conn :=
  ⟨Mwd.unassigned, Mwd.unassigned, Mwd.unassigned, Mwd.unassigned, true, false, conn.serial⟩

/-- `conn_setinfo`, with an id alone. -/
def Conn.setinfo (conn : Conn) (id : Int) : Conn :=
  { conn with
    cid := if Mwd.hasMask Mwd.mwClientMask id then Mwd.idx2cltid id else conn.cid
    gwid := if Mwd.hasMask Mwd.mwGatewayMask id then Mwd.idx2gwid id else conn.gwid }

structure PendingAttach where
  fd : Int
  connid : Int
  cname : List Byte
  mappedmsg : Urlmap
deriving DecidableEq, Repr

def storePushAttach (attachInProgress : List PendingAttach) (cname : List Byte)
    (connid fd : Int) (map : Urlmap) : List PendingAttach :=
  ⟨fd, connid, cname, map⟩ :: attachInProgress

def storePopAttach (attachInProgress : List PendingAttach) (cname : List Byte) :
    Option PendingAttach × List PendingAttach :=
  (attachInProgress.find? fun pa => pa.cname = cname,
    attachInProgress.eraseP fun pa => pa.cname = cname)

/-- The connection an `INIT` request came from, by its slot and its number. -/
structure Asker where
  fd : Nat
  serial : Nat
deriving DecidableEq, Repr

/-- An attach message, with the name its reader finds in it. `asker` is not in the message. -/
structure AttachMessage where
  attach : Mwd.Attach
  cltname : List Byte
  asker : Asker
deriving DecidableEq, Repr

/-- The slots and the queues. `accepted` counts the connections. -/
structure AttachState where
  conns : Nat → Conn
  lastconnectionid : Int
  accepted : Nat
  attachInProgress : List PendingAttach
  requests : List AttachMessage
  replies : List AttachMessage
  tables : Mwd.Tables

def AttachState.setConn (gateway : AttachState) (fd : Nat) (conn : Conn) : AttachState :=
  { gateway with conns := Function.update gateway.conns fd conn }

@[simp]
theorem AttachState.setConn_same (gateway : AttachState) (fd : Nat) (conn : Conn) :
    (gateway.setConn fd conn).conns fd = conn := by
  simp [AttachState.setConn, Function.update_self]

theorem AttachState.setConn_other {fd other : Nat} (different : other ≠ fd)
    (gateway : AttachState) (conn : Conn) :
    (gateway.setConn fd conn).conns other = gateway.conns other := by
  simp_all [AttachState.setConn, Function.update_of_ne]

def mwMaxNameLen : Nat := 65

/-- `strncpy` into the field for a name. A name that fills it is not terminated, and its reader
goes on into what stands behind the field. -/
def copyCltname (cname behind : List Byte) : List Byte :=
  if cname.length < mwMaxNameLen then cname else cname.take mwMaxNameLen ++ behind

/-- The ids by which the gateway is known to `mwd`. -/
structure Identity where
  gatewayid : Int
  ipcserverpid : Int
  mqid : Int

variable (self : Identity)

/-- What comes with an `INIT` request; `rc` and `errno` are those of `_mw_ipc_putmessage`. -/
structure InitRequest where
  name : List Byte
  map : Urlmap
  behind : List Byte
  rc : Int
  errno : Int

/-- The entry stays on the list when the message was not sent. -/
def AttachState.gwattachclient (gateway : AttachState) (fd : Nat) (init : InitRequest) : Int × AttachState :=
  let conn := gateway.conns fd
  let gateway := { gateway with
    attachInProgress := storePushAttach gateway.attachInProgress init.name conn.connectionid conn.fd
      init.map }
  let mesg : Mwd.Attach :=
    { ipcqid := self.mqid
      pid := self.ipcserverpid
      server := 0
      srvid := 0
      client := 1
      cltid := 0
      gwid := self.gatewayid
      returncode := 0 }
  if init.rc ≠ 0 then (-init.errno, gateway)
  else
    (0, { gateway with
      requests := gateway.requests ++
        [⟨mesg, copyCltname init.name init.behind, ⟨fd, conn.serial⟩⟩] })

/-- The connection is one whose `INIT` request is passed on to `mwd`. -/
def Conn.Attaches (conn : Conn) : Prop :=
  conn.up = false ∧ conn.clients = true ∧ conn.cid = Mwd.unassigned

instance (conn : Conn) : Decidable conn.Attaches :=
  inferInstanceAs (Decidable (_ ∧ _ ∧ _))

/-- `srbinit`, for a request of a client that is well formed. -/
def AttachState.srbinit (gateway : AttachState) (fd : Nat) (init : InitRequest) : AttachState :=
  if (gateway.conns fd).Attaches then
    let (rc, gateway) := gateway.gwattachclient self fd init
    if rc ≥ 0 then gateway.setConn fd { gateway.conns fd with clients := true, up := true }
    else gateway
  else gateway

/-- What was done about a reply: the slots that were given an id, and the ones an `INIT` reply
was sent on. -/
structure Handled where
  gateway : AttachState
  assigned : List Int
  answered : List (Int × Urlmap)

/-- A slot below the first one is not in the table. -/
def AttachState.connSetinfo (gateway : AttachState) (fd id : Int) : Except GatewayFailure AttachState :=
  if fd < 0 then .error .wildSlot
  else .ok (gateway.setConn fd.toNat ((gateway.conns fd.toNat).setinfo id))

/-- The entry of a client nobody waits for is handed back. -/
def AttachState.releaseClient (gateway : AttachState) (cltid : Int) : AttachState :=
  match Mwd.entryById Mwd.mwClientMask gateway.tables.clttblLength
      (fun idx => (gateway.tables.clttbl idx).status) cltid with
  | none => gateway
  | some idx =>
      { gateway with
        tables := gateway.tables.setClient idx
          { gateway.tables.clttbl idx with
            location := Mwd.unassigned
            type := Mwd.unassigned
            pid := Mwd.unassigned
            mqid := Mwd.unassigned
            status := Mwd.unassigned } }

/-- `ATTACHRPL` in `ipcmainloop`. Without an entry the descriptor is -1. -/
def AttachState.attachRpl (gateway : AttachState) (amsg : AttachMessage) : Except GatewayFailure Handled :=
  let popped := storePopAttach gateway.attachInProgress amsg.cltname
  let gateway := { gateway with attachInProgress := popped.2 }
  match popped.1 with
  | none =>
      let cltid := Mwd.orMask Mwd.mwClientMask amsg.attach.cltid
      ((gateway.releaseClient amsg.attach.cltid).connSetinfo Mwd.unassigned cltid).map fun gateway =>
        ⟨gateway, [Mwd.unassigned], []⟩
  | some pa =>
      (gateway.connSetinfo pa.fd amsg.attach.cltid).map fun gateway =>
        ⟨gateway, [pa.fd], [(pa.fd, pa.mappedmsg)]⟩

/-- `lastconnectionid++`, and back to 100 when that is not positive. -/
def nextConnectionid (last : Int) : Int :=
  if last + 1 ≤ 0 ∨ last + 1 ≥ 2147483648 then 100 else last + 1

/-- `conn_add`. The ids in a slot stay as they are, and a descriptor that `select` cannot watch
is closed at once. -/
def AttachState.connAdd (gateway : AttachState) (fd : Nat) (clients : Bool) : AttachState :=
  let last := nextConnectionid gateway.lastconnectionid
  let gateway := { gateway with lastconnectionid := last }
  if (gateway.conns fd).fd ≠ Mwd.unassigned then gateway
  else
    let conn := { gateway.conns fd with connectionid := last, fd := fd, serial := gateway.accepted }
    let polled := if fd + 1 ≥ fdSetsize then conn.clear else conn
    { gateway.setConn fd { polled with clients := clients } with accepted := gateway.accepted + 1 }

/-- What happens around attaches. `tables` is anything else that changes the tables of the
instance. -/
inductive AttachAction where
  /-- `conn_add`. -/
  | opened (fd : Nat) (clients : Bool)
  /-- `srbinit`, for a gateway. -/
  | peered (fd : Nat) (gwid : Int)
  /-- `conn_del`. -/
  | closed (fd : Nat)
  /-- `srbinit`, for a client. -/
  | init (fd : Nat) (request : InitRequest)
  /-- `do_attach`; the reply is lost when the queue of the gateway is full. -/
  | answer (status : Mwd.Status) (lost : Bool)
  | tables (tables : Mwd.Tables)
  /-- `ATTACHRPL`. -/
  | reply

def AttachState.answer (gateway : AttachState) (status : Mwd.Status) (lost : Bool) : AttachState :=
  match gateway.requests with
  | [] => gateway
  | areq :: requests =>
      let (attach, tables) := gateway.tables.doAttach status areq.attach
      { gateway with
        requests := requests
        tables := tables
        replies := if lost then gateway.replies
          else gateway.replies ++ [{ areq with attach := attach }] }

def AttachState.step (gateway : AttachState) : AttachAction → Except GatewayFailure AttachState
  | .opened fd clients => .ok (gateway.connAdd fd clients)
  | .peered fd gwid =>
      .ok (gateway.setConn fd { gateway.conns fd with gwid := gwid, clients := false, up := true })
  | .closed fd => .ok (gateway.setConn fd (gateway.conns fd).clear)
  | .init fd request => .ok (gateway.srbinit self fd request)
  | .answer status lost => .ok (gateway.answer status lost)
  | .tables tables => .ok { gateway with tables := tables }
  | .reply =>
      match gateway.replies with
      | [] => .ok gateway
      | amsg :: replies =>
          (gateway.attachRpl amsg).map fun handled => { handled.gateway with replies := replies }

/-- Only an open connection is read from or closed. -/
def AttachState.enabled (gateway : AttachState) : AttachAction → Prop
  | .peered fd _ => (gateway.conns fd).fd ≠ Mwd.unassigned
  | .closed fd => (gateway.conns fd).fd ≠ Mwd.unassigned
  | .init fd _ => (gateway.conns fd).fd ≠ Mwd.unassigned
  | _ => True

structure Initial (gateway : AttachState) : Prop where
  conns : ∀ fd, gateway.conns fd = (gateway.conns fd).clear
  attachInProgress : gateway.attachInProgress = []
  requests : gateway.requests = []
  replies : gateway.replies = []

def attachMachine : Machine AttachState AttachAction GatewayFailure where
  start := Initial
  enabled := AttachState.enabled
  step := AttachState.step self

def AttachState.Connected (gateway : AttachState) (asker : Asker) : Prop :=
  (gateway.conns asker.fd).fd ≠ Mwd.unassigned ∧ (gateway.conns asker.fd).serial = asker.serial

/-- The connection that asked gets the id and the `INIT` reply. If it is gone, nobody gets them
and the entry of the client is released. The ids of no other slot change. -/
structure Handled.Faithful (before : AttachState) (amsg : AttachMessage) (handled : Handled) : Prop where
  connected : before.Connected amsg.asker →
    handled.assigned = [(amsg.asker.fd : Int)] ∧
      handled.answered.map Prod.fst = [(amsg.asker.fd : Int)] ∧
      (handled.gateway.conns amsg.asker.fd).cid = Mwd.idx2cltid amsg.attach.cltid
  gone : ¬before.Connected amsg.asker →
    handled.assigned = [] ∧ handled.answered = [] ∧
      Mwd.entryById Mwd.mwClientMask handled.gateway.tables.clttblLength
        (fun idx => (handled.gateway.tables.clttbl idx).status) amsg.attach.cltid = none ∧
      handled.gateway.conns amsg.asker.fd = before.conns amsg.asker.fd
  others : ∀ fd, fd ≠ amsg.asker.fd → handled.gateway.conns fd = before.conns fd

def AttachState.Reaches (gateway : AttachState) (amsg : AttachMessage) : Prop :=
  ∃ handled, gateway.attachRpl amsg = .ok handled ∧ handled.Faithful gateway amsg

def AttachState.inFlight (gateway : AttachState) : List AttachMessage :=
  gateway.replies ++ gateway.requests

/-- A name that is passed on fits its field, and no attach of another descriptor is under way
with it. -/
def AttachState.NamesApart (gateway : AttachState) : AttachAction → Prop
  | .init fd request => (gateway.conns fd).Attaches →
      request.name.length < mwMaxNameLen ∧
        ∀ amsg ∈ gateway.inFlight, amsg.cltname = request.name → amsg.asker.fd = fd
  | _ => True

/-- The entries by their names, with the descriptors. -/
def AttachState.waiting (gateway : AttachState) : List (List Byte × Int) :=
  gateway.attachInProgress.map fun pa => (pa.cname, pa.fd)

/-- The messages by their names, with the descriptors of those who asked. -/
def AttachState.asked (gateway : AttachState) : List (List Byte × Int) :=
  gateway.inFlight.map fun amsg => (amsg.cltname, (amsg.asker.fd : Int))

/-- An open slot has its own descriptor, the entries match the messages, and every reply has the
mask of a client in its id, also one that refuses. -/
structure AttachState.Sound (gateway : AttachState) : Prop where
  slots : ∀ fd, (gateway.conns fd).fd = Mwd.unassigned ∨ (gateway.conns fd).fd = fd
  matched : Matched gateway.waiting gateway.asked
  requests : ∀ amsg ∈ gateway.requests, amsg.attach.server = 0 ∧ amsg.attach.client ≠ 0
  replies : ∀ amsg ∈ gateway.replies,
    Mwd.hasMask Mwd.mwClientMask amsg.attach.cltid = true

theorem hasMask_orMask {mask : Int} (isMask : Mwd.IsMask mask) (id : Int) :
    Mwd.hasMask mask (Mwd.orMask mask id) = true := by
  unfold Mwd.orMask
  by_cases has : Mwd.hasMask mask id = true
  · simp [has]
  · rw [if_neg has]
    rcases isMask with rfl | rfl | rfl | rfl <;>
      simp only [Mwd.hasMask, Mwd.mwServerMask, Mwd.mwClientMask, Mwd.mwGatewayMask,
        Mwd.mwServiceMask, beq_iff_eq] at * <;> omega

theorem addclient_id (tables : Mwd.Tables) (type mqid pid gwid : Int) :
    (tables.addclient type mqid pid gwid).1 < 0 ∨
      Mwd.hasMask Mwd.mwClientMask (tables.addclient type mqid pid gwid).1 = true := by
  unfold Mwd.Tables.addclient
  split
  · exact Or.inl (rcOf_neg .ENOSPC)
  · dsimp only
    split_ifs
    · exact Or.inr (hasMask_orMask Mwd.isMask_client _)
    · exact Or.inr (hasMask_orMask Mwd.isMask_client _)
    · exact Or.inl (rcOf_neg .ENOSYS)

theorem attachClient_cltid {tables : Mwd.Tables} {areq : Mwd.Attach} (client : areq.client ≠ 0) :
    Mwd.hasMask Mwd.mwClientMask (tables.attachClient areq).1.cltid = true := by
  unfold Mwd.Tables.attachClient
  rw [if_neg client]
  dsimp only
  generalize (if areq.gwid ≠ -1 then Mwd.mwNetClient
    else if areq.srvid > 0 then Mwd.mwIpcServer else Mwd.mwIpcClient) = type
  generalize (if areq.gwid ≠ -1 then areq.gwid
    else if areq.srvid > 0 then areq.srvid else areq.cltid) = id
  have added := addclient_id tables type areq.ipcqid areq.pid id
  split_ifs with refused
  · rfl
  · exact added.resolve_left refused

theorem doAttach_cltid {tables : Mwd.Tables} {areq : Mwd.Attach} (status : Mwd.Status)
    (server : areq.server = 0) (client : areq.client ≠ 0) :
    Mwd.hasMask Mwd.mwClientMask (tables.doAttach status areq).1.cltid = true := by
  unfold Mwd.Tables.doAttach
  dsimp only
  rw [if_pos server]
  split_ifs
  · rfl
  · rfl
  · exact attachClient_cltid client

theorem storePopAttach_waiting (attachInProgress : List PendingAttach) (cname : List Byte) :
    (storePopAttach attachInProgress cname).2.map (fun pa => (pa.cname, pa.fd)) =
      takeOff cname (attachInProgress.map fun pa => (pa.cname, pa.fd)) := by
  unfold storePopAttach takeOff
  rw [List.eraseP_map]
  rfl

theorem storePopAttach_found {attachInProgress : List PendingAttach} {cname : List Byte} {fd : Int}
    (found : (attachInProgress.map fun pa => (pa.cname, pa.fd)).find?
      (fun entry => entry.1 = cname) = some (cname, fd)) :
    ∃ pa, (storePopAttach attachInProgress cname).1 = some pa ∧ pa.fd = fd := by
  rw [List.find?_map] at found
  rcases Option.map_eq_some_iff.mp found with ⟨pa, isFirst, same⟩
  exact ⟨pa, isFirst, congrArg Prod.snd same⟩

section Steps

variable {gateway : AttachState} (sound : gateway.Sound)
include sound

theorem AttachState.Sound.setConn (fd : Nat) (conn : Conn)
    (itsOwn : conn.fd = Mwd.unassigned ∨ conn.fd = fd) : (gateway.setConn fd conn).Sound := by
  refine ⟨?_, sound.matched, sound.requests, sound.replies⟩
  intro other
  by_cases same : other = fd
  · simp_all [AttachState.setConn_same]
  · simp_all [AttachState.setConn_other, sound.slots]

theorem AttachState.Sound.connAdd (fd : Nat) (clients : Bool) :
    (gateway.connAdd fd clients).Sound := by
  have counted : { gateway with
      lastconnectionid := nextConnectionid gateway.lastconnectionid }.Sound :=
    ⟨sound.slots, sound.matched, sound.requests, sound.replies⟩
  unfold AttachState.connAdd
  dsimp only
  split_ifs with taken unwatched
  · exact counted
  · have placed := counted.setConn fd
      { (gateway.conns fd).clear with serial := gateway.accepted, clients := clients } (Or.inl rfl)
    exact ⟨placed.slots, placed.matched, placed.requests, placed.replies⟩
  · have placed := counted.setConn fd
      { gateway.conns fd with
        connectionid := nextConnectionid gateway.lastconnectionid
        fd := fd
        serial := gateway.accepted
        clients := clients }
      (Or.inr rfl)
    exact ⟨placed.slots, placed.matched, placed.requests, placed.replies⟩

theorem AttachState.Sound.gwattachclient (self : Identity) {fd : Nat} {init : InitRequest}
    (isOpen : (gateway.conns fd).fd ≠ Mwd.unassigned) (fits : init.name.length < mwMaxNameLen)
    (apart : ∀ amsg ∈ gateway.inFlight, amsg.cltname = init.name → amsg.asker.fd = fd) :
    (gateway.gwattachclient self fd init).2.Sound := by
  have itsFd : (gateway.conns fd).fd = fd := (sound.slots fd).resolve_left isOpen
  have its : ∀ other ∈ owners init.name gateway.asked, other = (fd : Int) := by
    intro other otherOf
    rcases List.mem_map.mp (mem_owners.mp otherOf) with ⟨amsg, underWay, same⟩
    grind
  unfold AttachState.gwattachclient storePushAttach
  dsimp only
  rw [itsFd]
  split_ifs with failed
  · exact ⟨sound.slots, sound.matched.wait its, sound.requests, sound.replies⟩
  · refine ⟨sound.slots, ?_, ?_, sound.replies⟩
    · have asked := sound.matched.ask its
      rw [copyCltname, if_pos fits]
      unfold AttachState.asked AttachState.inFlight at asked ⊢
      rw [← List.append_assoc, List.map_append]
      exact asked
    · intro amsg member
      rcases List.mem_append.mp member with older | newest
      · exact sound.requests amsg older
      · simp_all

theorem AttachState.Sound.srbinit {self : Identity} {fd : Nat} {init : InitRequest}
    (isOpen : (gateway.conns fd).fd ≠ Mwd.unassigned)
    (apart : gateway.NamesApart (.init fd init)) : (gateway.srbinit self fd init).Sound := by
  unfold AttachState.srbinit
  split_ifs with attaches
  · rcases apart attaches with ⟨fits, others⟩
    have attached := sound.gwattachclient self isOpen fits others
    dsimp only
    split_ifs with accepted
    · exact attached.setConn fd _ (attached.slots fd)
    · exact attached
  · exact sound

theorem AttachState.Sound.answer (status : Mwd.Status) (lost : Bool) :
    (gateway.answer status lost).Sound := by
  unfold AttachState.answer
  cases queued : gateway.requests with
  | nil => exact sound
  | cons areq requests =>
      have its := sound.requests areq (by rw [queued]; exact List.mem_cons_self)
      have rest : ∀ amsg ∈ requests, amsg.attach.server = 0 ∧ amsg.attach.client ≠ 0 :=
        fun amsg member => sound.requests amsg (by rw [queued]; exact List.mem_cons_of_mem _ member)
      have matched := sound.matched
      unfold AttachState.asked AttachState.inFlight at matched
      rw [queued] at matched
      cases lost with
      | true =>
          have fewer : (gateway.replies ++ requests).Sublist (gateway.replies ++ areq :: requests) :=
            (List.sublist_cons_self areq requests).append_left gateway.replies
          exact ⟨sound.slots, matched.drop (fewer.map _), rest, sound.replies⟩
      | false =>
          refine ⟨sound.slots, ?_, rest, ?_⟩
          · unfold AttachState.asked AttachState.inFlight
            rw [List.map_append, List.map_cons] at matched
            simp only [Bool.false_eq_true, if_false, List.map_append, List.map_cons, List.append_assoc,
              List.singleton_append]
            exact matched
          · intro amsg member
            rcases List.mem_append.mp member with older | newest
            · exact sound.replies amsg older
            · simp_all [doAttach_cltid]

/-- The reply goes to the descriptor that asked, whoever has it now. -/
theorem AttachState.Sound.attachRpl {amsg : AttachMessage} {later : List AttachMessage}
    (first : gateway.replies = amsg :: later) :
    ∃ pa : PendingAttach, pa.fd = amsg.asker.fd ∧
      gateway.attachRpl amsg = .ok
        ⟨{ gateway with
            attachInProgress := (storePopAttach gateway.attachInProgress amsg.cltname).2 }.setConn
            amsg.asker.fd ((gateway.conns amsg.asker.fd).setinfo amsg.attach.cltid),
          [(amsg.asker.fd : Int)], [((amsg.asker.fd : Int), pa.mappedmsg)]⟩ := by
  have matched := sound.matched
  unfold AttachState.asked AttachState.inFlight at matched
  rw [first, List.cons_append, List.map_cons] at matched
  rcases storePopAttach_found matched.found with ⟨pa, popped, itsFd⟩
  refine ⟨pa, itsFd, ?_⟩
  have inTable : ¬(amsg.asker.fd : Int) < 0 := by omega
  unfold AttachState.attachRpl
  simp only [popped, itsFd, AttachState.connSetinfo, if_neg inTable, Int.toNat_natCast]
  rfl

theorem AttachState.Sound.reply {amsg : AttachMessage} {later : List AttachMessage}
    {handled : Handled} (first : gateway.replies = amsg :: later)
    (result : gateway.attachRpl amsg = .ok handled) :
    { handled.gateway with replies := later }.Sound := by
  rcases sound.attachRpl first with ⟨pa, _, handling⟩
  rw [handling] at result
  cases result
  have matched := sound.matched
  unfold AttachState.asked AttachState.inFlight at matched
  rw [first, List.cons_append, List.map_cons] at matched
  have popped : { gateway with
      attachInProgress := (storePopAttach gateway.attachInProgress amsg.cltname).2
      replies := later }.Sound := by
    refine ⟨sound.slots, ?_, sound.requests, ?_⟩
    · unfold AttachState.waiting
      rw [storePopAttach_waiting]
      exact matched.answer
    · simp_all [sound.replies]
  exact popped.setConn amsg.asker.fd _ (sound.slots amsg.asker.fd)

end Steps

theorem Initial.sound {gateway : AttachState} (initial : Initial gateway) : gateway.Sound := by
  refine ⟨?_, ?_, ?_, ?_⟩
  · intro fd
    rw [initial.conns fd]
    exact Or.inl rfl
  · unfold AttachState.waiting AttachState.asked AttachState.inFlight
    simp [initial.attachInProgress, initial.replies, initial.requests, Matched.nil]
  · simp [initial.requests]
  · simp [initial.replies]

theorem attachMachine_preserves (self : Identity) :
    (attachMachine self).Preserves AttachState.NamesApart AttachState.Sound := by
  intro gateway action next sound isEnabled apart stepped
  cases action with
  | opened fd clients =>
      cases stepped
      exact sound.connAdd fd clients
  | peered fd gwid =>
      cases stepped
      exact sound.setConn fd _ (sound.slots fd)
  | closed fd =>
      cases stepped
      exact sound.setConn fd _ (Or.inl rfl)
  | init fd request =>
      cases stepped
      exact sound.srbinit isEnabled apart
  | answer status lost =>
      cases stepped
      exact sound.answer status lost
  | tables tables =>
      cases stepped
      exact ⟨sound.slots, sound.matched, sound.requests, sound.replies⟩
  | reply =>
      change AttachState.step self gateway .reply = .ok next at stepped
      unfold AttachState.step at stepped
      cases queued : gateway.replies with
      | nil =>
          simp_all
      | cons amsg later =>
          cases result : gateway.attachRpl amsg with
          | error failure =>
              rw [queued] at stepped
              simp only [result] at stepped
              cases stepped
          | ok handled =>
              rw [queued] at stepped
              simp only [result] at stepped
              cases stepped
              exact sound.reply queued result

/-- Where names keep attaches apart, a reply does what it should exactly when the connection that
asked is still there. A connection that is gone is not noticed. -/
theorem attachRpl_reaches_iff (self : Identity) {gateway : AttachState}
    (reachable : (attachMachine self).Reachable AttachState.NamesApart gateway)
    {amsg : AttachMessage} {later : List AttachMessage} (first : gateway.replies = amsg :: later) :
    gateway.Reaches amsg ↔ gateway.Connected amsg.asker := by
  have sound : gateway.Sound :=
    reachable.holds (fun _ => Initial.sound) (attachMachine_preserves self)
  rcases sound.attachRpl first with ⟨pa, itsFd, handling⟩
  constructor
  · rintro ⟨handled, result, faithful⟩
    rw [handling] at result
    cases result
    by_contra isGone
    exact absurd (faithful.gone isGone).1 (List.cons_ne_nil _ _)
  · intro connected
    refine ⟨_, handling, ?_, ?_, ?_⟩
    · intro _
      refine ⟨rfl, rfl, ?_⟩
      have masked : Mwd.hasMask Mwd.mwClientMask amsg.attach.cltid = true :=
        sound.replies amsg (by rw [first]; exact List.mem_cons_self)
      rw [AttachState.setConn_same, Conn.setinfo, if_pos masked]
    · simp [connected]
    · simp_all [AttachState.setConn_other]

def idleGateway : AttachState :=
  ⟨fun _ => ⟨Mwd.unassigned, Mwd.unassigned, Mwd.unassigned, Mwd.unassigned, true, false, 0⟩, 100, 0,
    [], [], [], Mwd.emptyTables⟩

theorem idleGateway_initial : Initial idleGateway :=
  ⟨fun _ => rfl, rfl, rfl, rfl⟩

def firstGateway : Identity := ⟨Mwd.mwGatewayMask, 7, 3⟩

/-- A request of a client with the name `a`. -/
def namedA : InitRequest := ⟨[97], [], [], 0, 0⟩

def oneAttach : AttachState :=
  [.opened 5 true, .init 5 namedA, .answer .ready false].foldl (attachMachine firstGateway).next
    idleGateway

theorem oneAttach_reachable :
    (attachMachine firstGateway).Reachable AttachState.NamesApart oneAttach := by
  apply (Machine.Reachable.start idleGateway_initial).runs
  refine ⟨trivial, trivial, rfl, ?_, ?_, rfl, trivial, trivial, rfl, trivial⟩
  · exact show (5 : Int) ≠ -1 by decide
  · intro _
    exact ⟨show 1 < 65 by decide, List.forall_mem_nil _⟩

theorem attachRpl_reaches_iff_once :
    ∃ amsg, oneAttach.replies = [amsg] ∧ oneAttach.Connected amsg.asker ∧
      (oneAttach.Reaches amsg ↔ oneAttach.Connected amsg.asker) := by
  refine ⟨_, rfl, ⟨?_, rfl⟩, attachRpl_reaches_iff firstGateway oneAttach_reachable rfl⟩
  exact show (5 : Int) ≠ -1 by decide

/-- Two clients with the same name ask, and `mwd` answers both in order. -/
def twoAttaches : AttachState :=
  [.opened 5 true, .opened 6 true, .init 5 namedA, .init 6 namedA, .answer .ready false,
    .answer .ready false].foldl (attachMachine firstGateway).next idleGateway

theorem twoAttaches_reachable :
    (attachMachine firstGateway).Reachable (fun _ _ => True) twoAttaches := by
  apply (Machine.Reachable.start idleGateway_initial).runs
  refine ⟨trivial, trivial, rfl, trivial, trivial, rfl, ?_, trivial, rfl, ?_, trivial, rfl, trivial,
    trivial, rfl, trivial, trivial, rfl, trivial⟩
  · exact show (5 : Int) ≠ -1 by decide
  · exact show (6 : Int) ≠ -1 by decide

/-- The id of the first client goes to the second. -/
theorem identities_swapped :
    ∃ gateway amsg later, (attachMachine firstGateway).Reachable (fun _ _ => True) gateway ∧
      gateway.replies = amsg :: later ∧ gateway.Connected amsg.asker ∧ ¬gateway.Reaches amsg := by
  refine ⟨twoAttaches, _, _, twoAttaches_reachable, rfl, ⟨?_, rfl⟩, ?_⟩
  · exact show (5 : Int) ≠ -1 by decide
  · rintro ⟨handled, result, faithful⟩
    have connected : twoAttaches.Connected ⟨5, 0⟩ := ⟨show (5 : Int) ≠ -1 by decide, rfl⟩
    have assigned : handled.assigned = [5] := (faithful.connected connected).1
    cases result
    exact absurd assigned (show ¬[(6 : Int)] = [5] by decide)

end MidWay.Gateway.AttachReplies

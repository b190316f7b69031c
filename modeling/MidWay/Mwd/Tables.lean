import Mathlib.Logic.Function.Basic
import MidWay.CLib.Bytes
import MidWay.CLib.Errno

/-!
Contract: the client, server, service and gateway tables of an instance, and how
`mwd` changes them.

A table is its length and its entries by index; an index outside the table names
memory that is not the table's. An id is an index with a mask of one bit, so the
bit tests of the macros are written as divisions. `used` lists the entries that
are reached through an index computed from an id, oldest first; it has no
counterpart in the program. Statistics, times, names of clients and the
event queue behind `event_clear_id` are left out.

Owns: the lookups of `ipctables.c` by id, `addserver` to `check_tables` of
`tables.c`, and `do_attach`, `do_detach`, `do_provide` and `do_unprovide`.
-/

namespace MidWay.Mwd

open MidWay.CLib

def unassigned : Int := -1

def mwServerMask : Int := 16777216
def mwClientMask : Int := 33554432
def mwGatewayMask : Int := 67108864
def mwServiceMask : Int := 134217728

/-- `id & mask`, for a mask of one bit. -/
def hasMask (mask id : Int) : Bool := id / mask % 2 == 1

/-- `id & MWINDEXMASK`. -/
def indexOf (id : Int) : Int := id % 16777216

/-- `id | mask`. -/
def orMask (mask id : Int) : Int := if hasMask mask id then id else id + mask

def id2idx (mask id : Int) : Int :=
  if id ≠ unassigned then (if hasMask mask id then indexOf id else unassigned) else unassigned

def cltid2idx : Int → Int := id2idx mwClientMask
def srvid2idx : Int → Int := id2idx mwServerMask
def svcid2idx : Int → Int := id2idx mwServiceMask
def gwid2idx : Int → Int := id2idx mwGatewayMask

def filterId (mask id : Int) : Int := if hasMask mask id then id else unassigned

def srvidOf : Int → Int := filterId mwServerMask
def svcidOf : Int → Int := filterId mwServiceMask
def gwidOf : Int → Int := filterId mwGatewayMask

def idx2id (mask idx : Int) : Int := orMask mask (indexOf idx)

def idx2cltid : Int → Int := idx2id mwClientMask
def idx2srvid : Int → Int := idx2id mwServerMask
def idx2svcid : Int → Int := idx2id mwServiceMask
def idx2gwid : Int → Int := idx2id mwGatewayMask

def mwMaxSvcName : Nat := 33

/-- `strncpy` of a service name. -/
def copySvcname (name : List Byte) : List Byte := (cstr name).take mwMaxSvcName

def mwIpcClient : Int := 1
def mwIpcServer : Int := 2
def mwNetClient : Int := 16

def gwLocal : Int := 0
def gwClient : Int := 3

def mwCallSvc : Int := 1
def mwConvSvc : Int := 2

structure Cliententry where
  type : Int
  location : Int
  status : Int
  pid : Int
  mqid : Int
  gwid : Int
deriving DecidableEq, Repr

structure Serverentry where
  mqid : Int
  pid : Int
  status : Int
  nowserving : Int
deriving DecidableEq, Repr

structure Serviceentry where
  type : Int
  location : Int
  server : Int
  gateway : Int
  cost : Int
  servicename : List Byte
deriving DecidableEq, Repr

structure Gatewayentry where
  location : Int
  srbrole : Int
  mqid : Int
  pid : Int
  status : Int
deriving DecidableEq, Repr

inductive EventKind where
  | provide
  | unprovide
deriving DecidableEq, Repr

/-- A `.mwprovide` or `.mwunprovide` event with its data. -/
structure ServiceEvent where
  kind : EventKind
  svcid : Int
  name : List Byte
  provider : Int
deriving DecidableEq, Repr

inductive TableName where
  | client
  | server
  | service
  | gateway
deriving DecidableEq, Repr

structure Use where
  table : TableName
  index : Int
  write : Bool
deriving DecidableEq, Repr

/-- The tables, where the next search for a free entry starts, and the service events that
were enqueued, oldest first. The index of each entry fits in `MWINDEXMASK`. -/
structure Tables where
  clttblLength : Nat
  srvtblLength : Nat
  svctblLength : Nat
  gwtblLength : Nat
  clttblFits : clttblLength ≤ 16777216
  srvtblFits : srvtblLength ≤ 16777216
  svctblFits : svctblLength ≤ 16777216
  svctblNonempty : 0 < svctblLength
  gwtblFits : gwtblLength ≤ 16777216
  clttbl : Int → Cliententry
  srvtbl : Int → Serverentry
  svctbl : Int → Serviceentry
  gwtbl : Int → Gatewayentry
  nextClient : Fin (clttblLength + 1)
  nextServer : Fin (srvtblLength + 1)
  nextService : Nat
  events : List ServiceEvent
  used : List Use

def Tables.use (tables : Tables) (table : TableName) (index : Int) (write : Bool) : Tables :=
  { tables with used := tables.used ++ [⟨table, index, write⟩] }

def Tables.setServer (tables : Tables) (idx : Int) (entry : Serverentry) : Tables :=
  { tables.use .server idx true with srvtbl := Function.update tables.srvtbl idx entry }

def Tables.setClient (tables : Tables) (idx : Int) (entry : Cliententry) : Tables :=
  { tables.use .client idx true with clttbl := Function.update tables.clttbl idx entry }

def Tables.setService (tables : Tables) (idx : Int) (entry : Serviceentry) : Tables :=
  { tables.use .service idx true with svctbl := Function.update tables.svctbl idx entry }

def Tables.setGateway (tables : Tables) (idx : Int) (entry : Gatewayentry) : Tables :=
  { tables.use .gateway idx true with gwtbl := Function.update tables.gwtbl idx entry }

/-- The entry an id names, for `_mw_getcliententry` and its like: zero names the first entry,
and the length of the table is not refused. -/
def getEntry (mask : Int) (length : Nat) (id : Int) : Option Int :=
  if id ≠ 0 then
    let idx := id2idx mask id
    if idx = unassigned then none
    else if idx > length then none else some idx
  else some 0

def Tables.getcliententry (tables : Tables) : Int → Option Int :=
  getEntry mwClientMask tables.clttblLength

def Tables.getserverentry (tables : Tables) : Int → Option Int :=
  getEntry mwServerMask tables.srvtblLength

def Tables.getserviceentry (tables : Tables) : Int → Option Int :=
  getEntry mwServiceMask tables.svctblLength

def Tables.getgatewayentry (tables : Tables) : Int → Option Int :=
  getEntry mwGatewayMask tables.gwtblLength

/-- The index of an entry in use, for `_mw_get_server_byid` and its like. -/
def entryById (mask : Int) (length : Nat) (status : Int → Int) (id : Int) : Option Int :=
  if hasMask mask id = false then none
  else if indexOf id ≥ length then none
  else if status (indexOf id) = unassigned then none else some (indexOf id)

def Tables.getServerById (tables : Tables) : Int → Option Int :=
  entryById mwServerMask tables.srvtblLength fun idx => (tables.srvtbl idx).status

def Tables.getGatewayById (tables : Tables) : Int → Option Int :=
  entryById mwGatewayMask tables.gwtblLength fun idx => (tables.gwtbl idx).status

/-- The first free index of `count` from `start` on. -/
def firstFree (free : Int → Bool) : Int → Nat → Option Int
  | _, 0 => none
  | start, count + 1 => if free start then some start else firstFree free (start + 1) count

/-- The search from `nextidx` to the end, and then before `nextidx`. -/
def searchFrom (free : Int → Bool) (nextidx length : Nat) : Option Int :=
  (firstFree free nextidx (length - nextidx)).or (firstFree free 0 nextidx)

def Tables.addserver (tables : Tables) (mqid pid : Int) : Int × Tables :=
  match searchFrom (fun idx => (tables.srvtbl idx).status == unassigned) tables.nextServer
    tables.srvtblLength with
  | none => (rcOf .ENOSPC, tables)
  | some srvidx =>
      (orMask mwServerMask srvidx,
        { tables.setServer srvidx ⟨mqid, pid, 0, unassigned⟩ with
          nextServer := Fin.ofNat (tables.srvtblLength + 1) (srvidx.toNat + 1) })

def Tables.delserver (tables : Tables) (sid : Int) : Tables :=
  tables.setServer (srvid2idx sid)
    { tables.srvtbl (srvid2idx sid) with
      status := unassigned
      mqid := unassigned
      pid := unassigned }

def Tables.addclient (tables : Tables) (type mqid pid gwid : Int) : Int × Tables :=
  match searchFrom (fun idx => (tables.clttbl idx).status == unassigned) tables.nextClient
    tables.clttblLength with
  | none => (rcOf .ENOSPC, tables)
  | some cltidx =>
      let next := { tables with nextClient := Fin.ofNat (tables.clttblLength + 1) (cltidx.toNat + 1) }
      if type = mwIpcClient ∨ type = mwIpcServer then
        (orMask mwClientMask cltidx, next.setClient cltidx ⟨type, gwLocal, 0, pid, mqid, unassigned⟩)
      else if type = mwNetClient then
        (orMask mwClientMask cltidx, next.setClient cltidx ⟨type, gwClient, 0, pid, mqid, gwid⟩)
      else (rcOf .ENOSYS, next)

def Tables.delclient (tables : Tables) (cid : Int) : Int × Tables :=
  match tables.getcliententry cid with
  | none => (rcOf .EINVAL, tables)
  | some idx =>
      (0, tables.setClient idx
        { tables.clttbl idx with
          type := unassigned
          mqid := unassigned
          pid := unassigned
          status := unassigned })

/-- The search starts behind the entry that was taken last, and goes round. -/
def Tables.addservice (tables : Tables) (name : List Byte) (type : Int) : Int × Tables :=
  let round (step : Int) : Int := (tables.nextService + step) % tables.svctblLength
  match firstFree (fun step => (tables.svctbl (round step)).type == unassigned) 0
    tables.svctblLength with
  | none => (rcOf .ENOSPC, tables)
  | some step =>
      let svcidx := round step
      (svcidx,
        { tables.setService svcidx
            { tables.svctbl svcidx with servicename := copySvcname name, type := type } with
          nextService := svcidx.toNat + 1 })

def Tables.enqueue (tables : Tables) (event : ServiceEvent) : Tables :=
  { tables with events := tables.events ++ [event] }

def Tables.addlocalservice (tables : Tables) (srvid : Int) (name : List Byte) (type : Int) :
    Int × Tables :=
  if srvidOf srvid = unassigned then (unassigned, tables)
  else
    match tables.getserverentry srvid with
    | none => (unassigned, tables)
    | some srvidx =>
        let tables := tables.use .server srvidx false
        if (tables.srvtbl srvidx).status = unassigned then (rcOf .EINVAL, tables)
        else
          let (svcidx, tables) := tables.addservice name type
          if svcidx < 0 then (svcidx, tables)
          else
            let tables := tables.setService svcidx
              { tables.svctbl svcidx with server := srvid, location := gwLocal }
            (idx2svcid svcidx,
              tables.enqueue ⟨.provide, idx2svcid svcidx, copySvcname name, srvid⟩)

inductive TableFailure where
  | nullPointer
deriving DecidableEq, Repr

def Tables.addremoteservice (tables : Tables) (gwid : Int) (name : List Byte) (cost type : Int) :
    Except TableFailure (Int × Tables) :=
  if gwidOf gwid = unassigned then .ok (unassigned, tables)
  else
    match tables.getgatewayentry gwid with
    | none => .error .nullPointer
    | some gwidx =>
        let tables := tables.use .gateway gwidx false
        if (tables.gwtbl gwidx).status = unassigned then .ok (rcOf .EINVAL, tables)
        else
          let (svcidx, tables) := tables.addservice name type
          if svcidx < 0 then .ok (svcidx, tables)
          else
            let tables := tables.setService svcidx
              { tables.svctbl svcidx with
                gateway := gwid
                location := (tables.gwtbl gwidx).location
                cost := cost }
            .ok (idx2svcid svcidx,
              tables.enqueue ⟨.provide, idx2svcid svcidx, copySvcname name, gwid⟩)

/-- The provider in the event of a deleted service. -/
def Serviceentry.provider (entry : Serviceentry) : Int :=
  if entry.server ≠ unassigned then entry.server
  else if entry.gateway ≠ 0 then entry.gateway else unassigned

/-- The event has the index where that of `addlocalservice` has the id. -/
def Tables.delservice (tables : Tables) (svcid : Int) : Int × Tables :=
  if svcidOf svcid = unassigned then (unassigned, tables)
  else
    let idx := svcid2idx svcid
    let entry := tables.svctbl idx
    let tables := tables.enqueue ⟨.unprovide, idx, copySvcname entry.servicename, entry.provider⟩
    (0, tables.setService idx
      { entry with
        type := unassigned
        server := unassigned
        gateway := unassigned
        servicename := [] })

/-- One turn of the loop in `delallservices`. -/
def Tables.delserviceOf (srvid : Int) (tables : Tables) (idx : Nat) : Tables :=
  if (tables.svctbl idx).server = srvid then (tables.delservice (idx2svcid idx)).2 else tables

def Tables.delallservices (tables : Tables) (srvid : Int) : Tables :=
  (List.range tables.svctblLength).foldl (Tables.delserviceOf srvid) tables

inductive Status where
  | ready
  | shutdown
  | booting
  | busy
  | dead
  | blocked
deriving DecidableEq, Repr

structure Attach where
  ipcqid : Int
  pid : Int
  server : Int
  srvid : Int
  client : Int
  cltid : Int
  gwid : Int
  returncode : Int
deriving DecidableEq, Repr

/-- The part of `do_attach` for a client. -/
def Tables.attachClient (tables : Tables) (areq : Attach) : Attach × Tables :=
  if areq.client = 0 then (areq, tables)
  else
    let type := if areq.gwid ≠ -1 then mwNetClient
      else if areq.srvid > 0 then mwIpcServer else mwIpcClient
    let id := if areq.gwid ≠ -1 then areq.gwid
      else if areq.srvid > 0 then areq.srvid else areq.cltid
    let (cltid, tables) := tables.addclient type areq.ipcqid areq.pid id
    if cltid < 0 then ({ areq with returncode := cltid, cltid := unassigned }, tables)
    else ({ areq with cltid := cltid }, tables)

def Tables.doAttach (status : Status) (areq : Attach) (tables : Tables) : Attach × Tables :=
  let areq : Attach := { areq with srvid := unassigned, cltid := unassigned }
  if status = .dead then ({ areq with returncode := rcOf .ESHUTDOWN }, tables)
  else if status = .shutdown ∧ areq.server = 1 then
    ({ areq with returncode := rcOf .ESHUTDOWN }, tables)
  else
    let areq : Attach := { areq with returncode := 0 }
    if areq.server = 0 then tables.attachClient areq
    else if areq.gwid ≠ -1 then ({ areq with returncode := rcOf .EUCLEAN }, tables)
    else
      let (srvid, tables) := tables.addserver areq.ipcqid areq.pid
      if srvid < 0 then ({ areq with returncode := srvid, srvid := unassigned }, tables)
      else tables.attachClient { areq with srvid := srvid }

def Tables.doDetach (dm : Attach) (tables : Tables) : Tables :=
  let tables := if dm.server = 0 then tables
    else (tables.delserver dm.srvid).delallservices dm.srvid
  if dm.client = 0 then tables else (tables.delclient dm.cltid).2

/-- A provide or unprovide message; `conv` is the `MWCONV` flag. -/
structure Provide where
  srvid : Int
  svcid : Int
  gwid : Int
  svcname : List Byte
  cost : Int
  conv : Bool
  returncode : Int
deriving DecidableEq, Repr

/-- The reply to a provide with the id of the new service, or with the error. -/
def Provide.answer (pmesg : Provide) (svcid : Int) : Provide :=
  if svcid < 0 then { pmesg with returncode := svcid, svcid := unassigned }
  else { pmesg with returncode := 0, svcid := svcid }

/-- The reply, and the tables. During shutdown the reply is sent to the queue of a server that
was not looked up. -/
def Tables.doProvide (status : Status) (pmesg : Provide) (tables : Tables) :
    Except TableFailure (Provide × Tables) :=
  if status = .shutdown then .error .nullPointer
  else
    let type := if pmesg.conv then mwConvSvc else mwCallSvc
    let refused (errno : Errno) := { pmesg with returncode := rcOf errno, svcid := unassigned }
    if pmesg.srvid ≠ -1 then
      match tables.getServerById pmesg.srvid with
      | none => .ok (refused .ENOENT, tables)
      | some srvidx =>
          let tables := tables.use .server srvidx false
          let (svcid, tables) := tables.addlocalservice pmesg.srvid pmesg.svcname type
          .ok (pmesg.answer svcid, tables)
    else if pmesg.gwid ≠ -1 then
      match tables.getGatewayById pmesg.gwid with
      | none => .ok (refused .ENOENT, tables)
      | some gwidx =>
          let tables := tables.use .gateway gwidx false
          match tables.addremoteservice pmesg.gwid pmesg.svcname pmesg.cost type with
          | .error failure => .error failure
          | .ok (svcid, tables) => .ok (pmesg.answer svcid, tables)
    else .ok (refused .EINVAL, tables)

/-- The queue of the provider, which the reply goes to. -/
def Tables.useProvider (tables : Tables) (entry : Serviceentry) : Tables :=
  if entry.server ≠ unassigned then
    match tables.getserverentry entry.server with
    | none => tables
    | some srvidx => tables.use .server srvidx false
  else
    match tables.getgatewayentry entry.gateway with
    | none => tables
    | some gwidx => tables.use .gateway gwidx false

/-- Ids that do not belong to the service are only warned about. -/
def Tables.doUnprovide (pmesg : Provide) (tables : Tables) : Provide × Tables :=
  match tables.getserviceentry (svcidOf pmesg.svcid) with
  | none => (pmesg, tables)
  | some idx =>
      let tables := (tables.use .service idx false).useProvider (tables.svctbl idx)
      let (returncode, tables) := tables.delservice pmesg.svcid
      ({ pmesg with returncode := returncode }, tables)

def Tables.checkClient (dead : Int → Bool) (tables : Tables) (idx : Nat) : Tables :=
  if (tables.clttbl idx).pid > 1 ∧ dead (tables.clttbl idx).pid then
    (tables.delclient (orMask mwClientMask idx)).2
  else tables

def Tables.checkServer (dead : Int → Bool) (tables : Tables) (idx : Nat) : Tables :=
  if (tables.srvtbl idx).pid > 1 ∧ dead (tables.srvtbl idx).pid then
    (tables.delserver (orMask mwServerMask idx)).delallservices (idx2srvid idx)
  else tables

def Tables.delclientOf (gwid : Int) (tables : Tables) (idx : Nat) : Tables :=
  if (tables.clttbl idx).gwid = gwid then (tables.delclient (idx2cltid idx)).2 else tables

def Tables.checkGateway (dead : Int → Bool) (tables : Tables) (idx : Nat) : Tables :=
  if (tables.gwtbl idx).pid > 1 ∧ dead (tables.gwtbl idx).pid then
    let tables := (List.range tables.clttblLength).foldl (Tables.delclientOf (idx2gwid idx)) tables
    tables.setGateway idx ⟨unassigned, unassigned, unassigned, unassigned, unassigned⟩
  else tables

/-- The type of a service is compared with a location. -/
def Tables.checkService (tables : Tables) (idx : Nat) : Tables :=
  let entry := tables.svctbl idx
  if entry.type = unassigned then tables
  else if entry.type = gwLocal ∧ entry.server > 0 then
    let tables := tables.use .server (srvid2idx entry.server) false
    if (tables.srvtbl (srvid2idx entry.server)).pid = unassigned then
      (tables.delservice (idx2svcid idx)).2
    else tables
  else if entry.gateway > 0 then
    let tables := tables.use .gateway (gwid2idx entry.gateway) false
    if (tables.gwtbl (gwid2idx entry.gateway)).pid = unassigned then
      (tables.delservice (idx2svcid idx)).2
    else tables
  else tables

/-- `dead` are the processes that are gone. -/
def Tables.checkTables (dead : Int → Bool) (tables : Tables) : Tables :=
  let tables := (List.range tables.clttblLength).foldl (Tables.checkClient dead) tables
  let tables := (List.range tables.srvtblLength).foldl (Tables.checkServer dead) tables
  let tables := (List.range tables.gwtblLength).foldl (Tables.checkGateway dead) tables
  (List.range tables.svctblLength).foldl Tables.checkService tables

end MidWay.Mwd

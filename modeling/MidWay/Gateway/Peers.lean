import MidWay.Gateway.ServiceTable

/-!
Contract: what a gateway knows about its peers: the peers themselves, the services it
imports from them and those it exports to them, as `gateway.c` and `impexp.c` keep
them.

A pointer to a `gwpeerinfo` is its index in the table of known peers, which only
grows. What the gateway asks of `mwd` about services is kept in the order it was
sent. The addresses of peers, their passwords and the table of gateways in shared
memory are left out; `allocgwid` is a parameter.

Owns: `PeerTables`, `importservice`, `unimportservice`, `impsetsvcid`,
`exportservicetopeer`, what is cleaned up after a peer, and `gwPeerconnected`.
-/

namespace MidWay.Gateway

open MidWay.CLib MidWay.Url MidWay.Srb

/-- A `gwpeerinfo`; `conn` is the descriptor of its connection. -/
structure Gwpeerinfo where
  instanceName : List Byte
  domainid : Int
  gwid : UInt32
  conn : Option Nat
deriving DecidableEq, Repr

/-- A `peerlink` of an import. -/
structure ImportLink where
  peer : Nat
  svcid : UInt32
deriving DecidableEq, Repr

structure ImportEntry where
  servicename : List Byte
  peerlist : List ImportLink
deriving DecidableEq, Repr

/-- The peers of `peerlist` were sent a `PROVIDE`. -/
structure ExportEntry where
  servicename : List Byte
  cost : Int
  peerlist : List Nat
deriving DecidableEq, Repr

/-- A request about a service to `mwd`, in the name of a gateway. -/
inductive ServiceRequest where
  | provide (gwid : UInt32) (service : List Byte) (cost : Int)
  | unprovide (gwid : UInt32) (service : List Byte) (svcid : UInt32)
deriving DecidableEq, Repr

/-- The lists of the gateway, and what it asked of `mwd`. The service table of `mwd` follows
from the requests. -/
structure PeerTables where
  peers : List Gwpeerinfo
  importlist : List ImportEntry
  exportlist : List ExportEntry
  requests : List ServiceRequest
deriving DecidableEq, Repr

inductive GatewayFailure where
  | store (failure : StoreFailure)
  /-- The `peerinfo` of the connection is null where it is followed. -/
  | missingPeer
  /-- `Fatal`, or an assertion. -/
  | fatal
  /-- A slot of the connection table that does not exist. -/
  | wildSlot
deriving DecidableEq, Repr

/-- What the gateway is, and what it finds in shared memory while it handles a message: the
names in the service table that are no imports from its own domain, the cost of a service, the
gateways of the gateway table, the result of `allocgwid`, and those of the messages to `mwd`. -/
structure Surroundings where
  myinstance : List Byte
  mydomain : List Byte
  svcnames : List (List Byte)
  costofservice : List Byte → Int
  gateways : List UInt32
  allocgwid : UInt32
  inet : Bool
  attachRc : Int
  provideRc : Int
  eventAlloc : Bool
  myMwid : UInt32

def PeerTables.impfind (tables : PeerTables) (service : List Byte) : Option Nat :=
  tables.importlist.findIdx? fun imp => cstr imp.servicename == cstr service

/-- The import of the service, at the top of the list if it is new. -/
def PeerTables.condnewimport (tables : PeerTables) (service : List Byte) : Nat × PeerTables :=
  match tables.impfind service with
  | some index => (index, tables)
  | none =>
      (0, { tables with
        importlist := ⟨(cstr service).take mwMaxSvcName, []⟩ :: tables.importlist })

def PeerTables.gwidOf (tables : PeerTables) (peer : Nat) : UInt32 :=
  (tables.peers[peer]?.map Gwpeerinfo.gwid).getD unassigned

def PeerTables.setLinks (tables : PeerTables) (index : Nat) (links : List ImportLink) :
    PeerTables :=
  { tables with
    importlist := tables.importlist.modify index fun imp => { imp with peerlist := links } }

/-- The loop that takes an import out of the list also drops those in front of it. -/
def PeerTables.dropImport (tables : PeerTables) (index : Nat) : PeerTables :=
  { tables with importlist := tables.importlist.drop (index + 1) }

def PeerTables.unimportservice (tables : PeerTables) (service : List Byte) (pi : Option Nat) :
    PeerTables :=
  match pi, tables.impfind service with
  | none, _ => tables
  | some _, none => tables
  | some peer, some index =>
      let links := (tables.importlist[index]?.map ImportEntry.peerlist).getD []
      match links.find? fun pl => pl.peer == peer with
      | none => tables
      | some pl =>
          let tables := if pl.svcid ≠ unassigned then
              { tables with
                requests := tables.requests ++
                  [.unprovide (tables.gwidOf peer) (cstr service) pl.svcid] }
            else tables
          let links := links.erase pl
          if links ≠ [] then tables.setLinks index links
          else (tables.setLinks index links).dropImport index

/-- The import is in the list before the peer is looked at. -/
def PeerTables.importservice (tables : PeerTables) (around : Surroundings) (service : List Byte)
    (cost : Int) (peerinfo : Option Nat) : Except GatewayFailure PeerTables :=
  let (index, tables) := tables.condnewimport service
  let links := (tables.importlist[index]?.map ImportEntry.peerlist).getD []
  match peerinfo with
  | none => .error .missingPeer
  | some peer =>
      if links.any fun pl => pl.peer == peer then .ok tables
      else
        let tables := tables.setLinks index (links ++ [⟨peer, unassigned⟩])
        if around.provideRc < 0 then .ok (tables.unimportservice service peerinfo)
        else
          .ok { tables with
            requests := tables.requests ++ [.provide (tables.gwidOf peer) (cstr service) cost] }

/-- The reply of `mwd` to a provide. Without a link to the peer the service is unprovided. -/
def PeerTables.impsetsvcid (tables : PeerTables) (service : List Byte) (svcid gwid : UInt32) :
    PeerTables :=
  let missed :=
    { tables with requests := tables.requests ++ [.unprovide gwid (cstr service) 0] }
  match tables.impfind service with
  | none => missed
  | some index =>
      let links := (tables.importlist[index]?.map ImportEntry.peerlist).getD []
      match links.findIdx? fun pl => tables.gwidOf pl.peer == gwid with
      | none => missed
      | some place =>
          tables.setLinks index (links.modify place fun pl => { pl with svcid := svcid })

/-- An import without links goes, and is unprovided if `mwd` gave it an id. -/
def PeerTables.cleanImport (tables : PeerTables) (peer : Nat) (imp : ImportEntry) :
    Option ImportEntry × List ServiceRequest :=
  match imp.peerlist.find? fun pl => pl.peer == peer with
  | none => (some imp, [])
  | some pl =>
      if imp.peerlist.erase pl ≠ [] then
        (some { imp with peerlist := imp.peerlist.erase pl }, [])
      else if pl.svcid ≠ unassigned then
        (none, [.unprovide (tables.gwidOf peer) imp.servicename pl.svcid])
      else (none, [])

def PeerTables.impcleanuppeer (tables : PeerTables) (peer : Nat) : PeerTables :=
  let cleaned := tables.importlist.map (tables.cleanImport peer)
  { tables with
    importlist := cleaned.filterMap Prod.fst
    requests := tables.requests ++ cleaned.flatMap Prod.snd }

def srbProvide : List Byte := ascii "PROVIDE".toList
def srbCost : List Byte := ascii "COST".toList

/-- The export of the service, at the end of the list if it is new. -/
def PeerTables.condnewexport (tables : PeerTables) (service : List Byte) : Nat × PeerTables :=
  match tables.exportlist.findIdx? fun exp => cstr exp.servicename == cstr service with
  | some index => (index, tables)
  | none =>
      (tables.exportlist.length, { tables with
        exportlist := tables.exportlist ++ [⟨(cstr service).take mwMaxSvcName, -1, []⟩] })

def mwSrbsendprovide (around : Surroundings) (service : List Byte) (cost : Int) :
    List SRBmessage :=
  let cost := if cost < 0 then around.costofservice service else cost
  if cost < 0 then []
  else
    let cost := if cost > 999999 then 999999 else cost
    [mwSrbSetfield (mwSrbSetfield (mwSrbInit srbProvide srbNotificationMarker) srbSvcname service)
      srbCost (sprintfD cost)]

def PeerTables.exportservicetopeer (tables : PeerTables) (around : Surroundings)
    (service : List Byte) (peer : Nat) : PeerTables × List SRBmessage :=
  if (tables.peers[peer]?.map Gwpeerinfo.domainid).getD 0 ≠ 0 ∨ service.head? = some 46 then
    (tables, [])
  else
    let (index, tables) := tables.condnewexport service
    match tables.exportlist[index]? with
    | none => (tables, [])
    | some exp =>
        let cost := if exp.cost = -1 then around.costofservice service else exp.cost
        if peer ∈ exp.peerlist then
          ({ tables with exportlist := tables.exportlist.set index { exp with cost := cost } }, [])
        else
          ({ tables with
              exportlist := tables.exportlist.set index
                { exp with cost := cost, peerlist := exp.peerlist ++ [peer] } },
            mwSrbsendprovide around service cost)

def PeerTables.provideservicesToPeer (tables : PeerTables) (around : Surroundings)
    (gwid : UInt32) : Except GatewayFailure (PeerTables × List SRBmessage) :=
  match tables.peers.findIdx? fun pi => pi.gwid == gwid with
  | none => .error .fatal
  | some peer =>
      .ok (around.svcnames.dedup.foldl (fun done service =>
        let (tables, sent) := done.1.exportservicetopeer around service peer
        (tables, done.2 ++ sent)) (tables, []))

def PeerTables.expcleanuppeer (tables : PeerTables) (peer : Nat) : PeerTables :=
  { tables with
    exportlist := tables.exportlist.map fun exp =>
      { exp with peerlist := exp.peerlist.erase peer } }

def PeerTables.impexpCleanuppeer (tables : PeerTables) (peer : Nat) : PeerTables :=
  (tables.expcleanuppeer peer).impcleanuppeer peer

def PeerTables.setPeer (tables : PeerTables) (peer : Nat) (gwid : UInt32) (conn : Option Nat) :
    PeerTables :=
  { tables with peers := tables.peers.modify peer fun pi => { pi with gwid := gwid, conn := conn } }

def PeerTables.getKnownPeerByInstance (tables : PeerTables) (name : List Byte) : Option Nat :=
  tables.peers.findIdx? fun pi => pi.instanceName == cstr name

/-- `remdom_getid`. -/
def remdomGetid (around : Surroundings) (domain : List Byte) : Int :=
  if cstr domain = around.mydomain then 0 else -Errno.ENOENT.code

def PeerTables.gwAddknownpeer (tables : PeerTables) (around : Surroundings)
    (name domain : List Byte) : Option Nat × PeerTables :=
  if around.inet = false ∨ remdomGetid around domain < 0 then (none, tables)
  else
    let name := (cstr name).take mwMaxNameLen
    match tables.getKnownPeerByInstance name with
    | some peer => (some peer, tables)
    | none =>
        (some tables.peers.length, { tables with
          peers := tables.peers ++ [⟨name, remdomGetid around domain, unassigned, none⟩] })

/-- The peer of a gateway that asks to be let in, none when it is refused, and the tables. -/
def PeerTables.gwPeerconnected (tables : PeerTables) (around : Surroundings) (fd : Nat)
    (name peerdomain : List Byte) : Option Nat × PeerTables :=
  if remdomGetid around peerdomain < 0 then (none, tables)
  else
    let (pi, tables) :=
      match tables.getKnownPeerByInstance name with
      | some peer => (some peer, tables)
      | none => tables.gwAddknownpeer around name peerdomain
    match pi with
    | none => (none, tables)
    | some peer =>
        if ((tables.peers[peer]?).bind Gwpeerinfo.conn).isSome then (none, tables)
        else
          (some peer, { tables with
            peers := tables.peers.modify peer fun pi =>
              { pi with
                domainid := remdomGetid around peerdomain
                gwid := around.allocgwid
                conn := some fd } })

end MidWay.Gateway

import MidWay.Gateway.Sessions

/-!
Contract: what a gateway tells its peers about the services of its instance, as
`impexp.c` and `gateway.c` do it.

The list of exports has the cost of a service and the peers that were told about it.
A service is told to all peers when `mwd` says that it is new, and to one peer when it
is connected; it is withdrawn when `mwd` says that it is gone.

`doprovideevent` reads the cost of an export that it has just freed. What is there by
then is a parameter.

Owns: `doprovideevent`, `dounprovideevent`, what they send, and `exported`, the list of
exports seen as a function.
-/

namespace MidWay.Gateway

open MidWay.CLib MidWay.Url MidWay.Srb

def mwSrbsendunprovide (service : List Byte) : SRBmessage :=
  mwSrbSetfield (mwSrbInit srbUnprovide srbNotificationMarker) srbSvcname service

abbrev Told := PeerTables × List (Nat × SRBmessage)

def PeerTables.unexportservice (tables : PeerTables) (service : List Byte) : Told :=
  match tables.exportlist.findIdx? fun exp => cstr exp.servicename == cstr service with
  | none => (tables, [])
  | some index =>
      ({ tables with exportlist := tables.exportlist.eraseIdx index },
        ((tables.exportlist[index]?.map ExportEntry.peerlist).getD []).map fun peer =>
          (peer, mwSrbsendunprovide service))

def Told.export (told : Told) (around : Surroundings) (service : List Byte) (peer : Nat) : Told :=
  let (tables, sent) := told.1.exportservicetopeer around service peer
  (tables, told.2 ++ sent.map fun srbmsg => (peer, srbmsg))

/-- `up` are the peers with a connection in state `UP`. -/
def PeerTables.gwProvideserviceToPeers (tables : PeerTables) (around : Surroundings)
    (up : Nat → Bool) (service : List Byte) : Told :=
  ((List.range tables.peers.length).filter up).foldl
    (fun told peer => told.export around service peer) (tables, [])

/-- `stale` is what is read from the export after it is freed. -/
def PeerTables.doprovideevent (tables : PeerTables) (around : Surroundings) (up : Nat → Bool)
    (stale : Int) (service : List Byte) : Told :=
  let (index, tables) := tables.condnewexport service
  let cost := around.costofservice service
  let exported := (tables.exportlist[index]?.map ExportEntry.cost).getD (-1)
  if cost = -1 then
    let (tables, withdrawn) := tables.unexportservice service
    if cost ≠ stale then
      let (tables, sent) := tables.gwProvideserviceToPeers around up service
      (tables, withdrawn ++ sent)
    else (tables, withdrawn)
  else if cost ≠ exported then
    { tables with
      exportlist := tables.exportlist.modify index fun exp => { exp with cost := cost }
    }.gwProvideserviceToPeers around up service
  else (tables, [])

/-- A service of that name in the table keeps it exported, wherever it is from. -/
def PeerTables.dounprovideevent (tables : PeerTables) (stillProvided : Bool)
    (service : List Byte) : Told :=
  if stillProvided then (tables, []) else tables.unexportservice service

/-- The cost a service is exported with, and the peers that were told. -/
def exportedIn (exports : List ExportEntry) (service : List Byte) : Int × List Nat :=
  match exports.find? fun exp => cstr exp.servicename == cstr service with
  | none => (-1, [])
  | some exp => (exp.cost, exp.peerlist)

def PeerTables.exported (tables : PeerTables) : List Byte → Int × List Nat :=
  exportedIn tables.exportlist

/-- A text that fits the arrays for the name of a service, with the NUL behind it. -/
structure IsName (service : List Byte) : Prop where
  text : cstr service = service
  fits : service.length < mwMaxSvcName

def Distinct (exports : List ExportEntry) : Prop :=
  (exports.map fun exp => cstr exp.servicename).Nodup

section

variable {exports : List ExportEntry} {service other : List Byte} {exp new : ExportEntry}

theorem exportedIn_cons_self (isName : cstr exp.servicename = cstr service) :
    exportedIn (exp :: exports) service = (exp.cost, exp.peerlist) := by
  rw [exportedIn, List.find?_cons_of_pos (by simpa using isName)]

theorem exportedIn_cons_ne (isOther : cstr exp.servicename ≠ cstr service) :
    exportedIn (exp :: exports) service = exportedIn exports service := by
  simp_all [exportedIn]

theorem exportedIn_absent (absent : ∀ exp ∈ exports, cstr exp.servicename ≠ cstr service) :
    exportedIn exports service = (-1, []) := by
  induction exports with
  | nil => rfl
  | cons exp exports ih =>
      simp_all [exportedIn_cons_ne]

theorem Distinct.cons (distinct : Distinct (exp :: exports)) :
    (∀ other ∈ exports, cstr other.servicename ≠ cstr exp.servicename) ∧ Distinct exports := by
  rcases List.nodup_cons.mp distinct with ⟨isNew, rest⟩
  refine ⟨?_, rest⟩
  simp_all [isNew]

theorem exportedIn_append_new (new : ExportEntry) (cost : new.cost = -1) (peers : new.peerlist = []) :
    exportedIn (exports ++ [new]) service = exportedIn exports service := by
  induction exports with
  | nil =>
      by_cases isName : cstr new.servicename = cstr service
      · rw [List.nil_append, exportedIn_cons_self isName, cost, peers]
        rfl
      · rw [List.nil_append, exportedIn_cons_ne isName]
  | cons exp exports ih =>
      rw [List.cons_append]
      by_cases isName : cstr exp.servicename = cstr service
      · rw [exportedIn_cons_self isName, exportedIn_cons_self isName]
      · rw [exportedIn_cons_ne isName, exportedIn_cons_ne isName, ih]

theorem Distinct.append (distinct : Distinct exports)
    (absent : ∀ exp ∈ exports, cstr exp.servicename ≠ cstr new.servicename) :
    Distinct (exports ++ [new]) := by
  simp_all [List.map_append, List.nodup_append, Distinct]

theorem exportedIn_at {index : Nat} (distinct : Distinct exports)
    (isAt : exports[index]? = some exp) (isName : cstr exp.servicename = cstr service) :
    exportedIn exports service = (exp.cost, exp.peerlist) := by
  induction exports generalizing index with
  | nil => cases isAt
  | cons first exports ih =>
      rcases distinct.cons with ⟨isOther, rest⟩
      grind [exportedIn_cons_self, exportedIn_cons_ne]

/-- One export is changed, and keeps its name. -/
theorem exportedIn_set {index : Nat} (distinct : Distinct exports)
    (isAt : exports[index]? = some exp) (sameName : new.servicename = exp.servicename) :
    exportedIn (exports.set index new) service =
      if cstr exp.servicename = cstr service then (new.cost, new.peerlist)
      else exportedIn exports service := by
  induction exports generalizing index with
  | nil => cases isAt
  | cons first exports ih =>
      rcases distinct.cons with ⟨isOther, rest⟩
      cases index with
      | zero =>
          grind [exportedIn_cons_ne, exportedIn_cons_self]
      | succ index =>
          rw [List.getElem?_cons_succ] at isAt
          rw [List.set_cons_succ]
          by_cases isFirst : cstr first.servicename = cstr service
          · have isNot := isOther exp (List.mem_of_getElem? isAt)
            simp_all [isFirst, exportedIn_cons_self, if_neg]
          · simp_all [exportedIn_cons_ne]

theorem Distinct.set {index : Nat} (distinct : Distinct exports)
    (isAt : exports[index]? = some exp) (sameName : new.servicename = exp.servicename) :
    Distinct (exports.set index new) := by
  have same : (exports.set index new).map (fun exp => cstr exp.servicename) =
      exports.map fun exp => cstr exp.servicename := by
    rcases List.getElem?_eq_some_iff.mp isAt with ⟨inside, _⟩
    apply List.ext_getElem?
    intro i
    rw [List.getElem?_map, List.getElem?_map, List.getElem?_set]
    split_ifs with isIndex
    · rw [← isIndex, isAt, Option.map_some, Option.map_some, sameName]
    · rfl
  unfold Distinct
  rw [same]
  exact distinct

theorem exportedIn_erase (distinct : Distinct exports) {index : Nat}
    (isAt : exports[index]? = some exp) :
    exportedIn (exports.eraseIdx index) service =
      if cstr exp.servicename = cstr service then (-1, []) else exportedIn exports service := by
  induction exports generalizing index with
  | nil => cases isAt
  | cons first exports ih =>
      rcases distinct.cons with ⟨isOther, rest⟩
      cases index with
      | zero =>
          grind [List.eraseIdx_cons_zero, exportedIn_cons_ne, exportedIn_absent]
      | succ index =>
          rw [List.getElem?_cons_succ] at isAt
          rw [List.eraseIdx_cons_succ]
          by_cases isFirst : cstr first.servicename = cstr service
          · have isNot := isOther exp (List.mem_of_getElem? isAt)
            simp_all [isFirst, exportedIn_cons_self, if_neg]
          · simp_all [exportedIn_cons_ne]

theorem exportedIn_map_erase (peer : Nat) :
    exportedIn (exports.map fun exp => { exp with peerlist := exp.peerlist.erase peer }) service =
      ((exportedIn exports service).1, (exportedIn exports service).2.erase peer) := by
  induction exports with
  | nil => rfl
  | cons exp exports ih =>
      rw [List.map_cons]
      by_cases isName : cstr exp.servicename = cstr service
      · simp_all [exportedIn_cons_self]
      · simp_all [exportedIn_cons_ne]

end

/-- The export of a service is at an index of the list, and nothing else has changed. -/
structure HasExport (before after : PeerTables) (service : List Byte) (index : Nat) : Prop where
  distinct : Distinct after.exportlist
  rest : after = { before with exportlist := after.exportlist }
  exported : after.exported = before.exported
  isThere : ∃ exp, after.exportlist[index]? = some exp ∧ cstr exp.servicename = cstr service

/-- The export has another cost and other peers, and nothing else has changed. -/
structure Reexported (before after : PeerTables) (service : List Byte) (cost : Int)
    (told : List Nat) : Prop where
  distinct : Distinct after.exportlist
  rest : after = { before with exportlist := after.exportlist }
  exported : ∀ other, after.exported other =
    if cstr service = cstr other then (cost, told) else before.exported other

def OnlyExports (before after : PeerTables) : Prop :=
  after = { before with exportlist := after.exportlist }

theorem OnlyExports.trans {before between after : PeerTables} (first : OnlyExports before between)
    (second : OnlyExports between after) : OnlyExports before after := by
  grind [OnlyExports]

theorem OnlyExports.peers {before after : PeerTables} (only : OnlyExports before after) :
    after.peers = before.peers := by
  rw [only]

theorem OnlyExports.importlist {before after : PeerTables} (only : OnlyExports before after) :
    after.importlist = before.importlist := by
  rw [only]

theorem condnewexport_only (tables : PeerTables) (service : List Byte) :
    OnlyExports tables (tables.condnewexport service).2 := by
  unfold PeerTables.condnewexport
  split
  · rfl
  · rfl

theorem exportservicetopeer_only (tables : PeerTables) (around : Surroundings)
    (service : List Byte) (peer : Nat) :
    OnlyExports tables (tables.exportservicetopeer around service peer).1 := by
  rw [PeerTables.exportservicetopeer]
  split
  · rfl
  · have only := condnewexport_only tables service
    generalize tables.condnewexport service = found at only
    rcases found with ⟨index, exporting⟩
    dsimp only
    split
    · exact only
    · split
      · exact only.trans rfl
      · exact only.trans rfl

theorem foldl_only
    {turn : PeerTables × List SRBmessage → List Byte → PeerTables × List SRBmessage}
    (only : ∀ done service, OnlyExports done.1 (turn done service).1)
    (services : List (List Byte)) (done : PeerTables × List SRBmessage) :
    OnlyExports done.1 (services.foldl turn done).1 := by
  induction services generalizing done with
  | nil => rfl
  | cons service services ih =>
      rw [List.foldl_cons]
      exact (only done service).trans (ih (turn done service))

theorem provideservicesToPeer_only {tables after : PeerTables} {around : Surroundings}
    {gwid : UInt32} {sent : List SRBmessage}
    (result : tables.provideservicesToPeer around gwid = .ok (after, sent)) :
    OnlyExports tables after := by
  unfold PeerTables.provideservicesToPeer at result
  split at result
  · cases result
  · next peer _ =>
    have same := congrArg Prod.fst (Except.ok.inj result)
    dsimp only at same
    rw [← same]
    apply foldl_only
    simp [exportservicetopeer_only]

/-- A service may be exported to the peers of the own domain, unless its name has a dot in
front. -/
structure PeerTables.MayExport (tables : PeerTables) (service : List Byte) (peer : Nat) : Prop where
  domain : (tables.peers[peer]?.map Gwpeerinfo.domainid).getD 0 = 0
  noDot : service.head? ≠ some 46

section

variable {before after tables : PeerTables} {around : Surroundings} {service : List Byte}
  {index peer : Nat} {cost : Int} {told : List Nat}

theorem condnewexport_spec (distinct : Distinct tables.exportlist) (isName : IsName service) :
    HasExport tables (tables.condnewexport service).2 service (tables.condnewexport service).1 := by
  have short : (cstr service).take mwMaxSvcName = service := by
    simp [isName.text, List.take_of_length_le, Nat.le_of_lt, isName.fits]
  rw [PeerTables.condnewexport]
  cases found : tables.exportlist.findIdx? fun exp => cstr exp.servicename == cstr service with
  | some index =>
      rcases List.findIdx?_eq_some_iff_getElem.mp found with ⟨inside, isName, _⟩
      refine ⟨distinct, rfl, rfl, tables.exportlist[index], List.getElem?_eq_getElem inside, ?_⟩
      simpa using isName
  | none =>
      have absent : ∀ exp ∈ tables.exportlist, cstr exp.servicename ≠ cstr service := by
        simp_all
      refine ⟨distinct.append ?_, rfl, ?_, _, List.getElem?_concat_length, ?_⟩
      · simp_all
      · funext other
        exact exportedIn_append_new _ rfl rfl
      · rw [short]

theorem HasExport.reexported (has : HasExport before after service index) {exp : ExportEntry}
    (isAt : after.exportlist[index]? = some exp) :
    Reexported before
      { after with exportlist := after.exportlist.set index { exp with cost := cost, peerlist := told } }
      service cost told := by
  rcases has.isThere with ⟨there, isThere, isName⟩
  cases Option.some.inj (isAt.symm.trans isThere)
  refine ⟨has.distinct.set isAt rfl, ?_, ?_⟩
  · rw [has.rest]
  · intro other
    rw [← isName, ← has.exported]
    exact exportedIn_set has.distinct isAt rfl

def PeerTables.exportCost (tables : PeerTables) (around : Surroundings) (service : List Byte) :
    Int :=
  if (tables.exported service).1 = -1 then around.costofservice service
  else (tables.exported service).1

theorem exportservicetopeer_refused (refused : ¬tables.MayExport service peer) :
    tables.exportservicetopeer around service peer = (tables, []) := by
  rw [PeerTables.exportservicetopeer, if_pos]
  by_contra neither
  rw [not_or, not_not] at neither
  exact refused ⟨neither.1, neither.2⟩

theorem exportservicetopeer_spec (distinct : Distinct tables.exportlist) (isName : IsName service)
    (may : tables.MayExport service peer) :
    Reexported tables (tables.exportservicetopeer around service peer).1 service
        (tables.exportCost around service)
        (if peer ∈ (tables.exported service).2 then (tables.exported service).2
          else (tables.exported service).2 ++ [peer]) ∧
      (tables.exportservicetopeer around service peer).2 =
        if peer ∈ (tables.exported service).2 then []
        else mwSrbsendprovide around service (tables.exportCost around service) := by
  have has := condnewexport_spec distinct isName
  have goesOn : ¬((tables.peers[peer]?.map Gwpeerinfo.domainid).getD 0 ≠ 0 ∨
      service.head? = some 46) := by
    rw [not_or, not_not]
    exact ⟨may.domain, may.noDot⟩
  rcases has.isThere with ⟨exp, isAt, sameName⟩
  have isExported := exportedIn_at has.distinct isAt sameName
  change (tables.condnewexport service).2.exported service = (exp.cost, exp.peerlist) at isExported
  rw [has.exported] at isExported
  rw [PeerTables.exportCost, PeerTables.exportservicetopeer, if_neg goesOn, isExported]
  dsimp only
  rw [isAt]
  dsimp only
  by_cases isTold : peer ∈ exp.peerlist
  · simp [isTold, has.reexported, isAt]
  · simp [isTold, has.reexported, isAt]

theorem unexportservice_spec (distinct : Distinct tables.exportlist) :
    Reexported tables (tables.unexportservice service).1 service (-1) [] ∧
      (tables.unexportservice service).2 =
        (tables.exported service).2.map fun peer => (peer, mwSrbsendunprovide service) := by
  rw [PeerTables.unexportservice]
  cases found : tables.exportlist.findIdx? fun exp => cstr exp.servicename == cstr service with
  | none =>
      have absent : tables.exported service = (-1, []) := by
        apply exportedIn_absent
        simp_all
      refine ⟨⟨distinct, rfl, ?_⟩, ?_⟩
      · intro other
        split_ifs with isName
        · rw [← absent, PeerTables.exported, exportedIn, exportedIn, isName]
        · rfl
      · simp [absent]
  | some index =>
      rcases List.findIdx?_eq_some_iff_getElem.mp found with ⟨inside, sameName, _⟩
      have isAt := List.getElem?_eq_getElem inside
      have isName : cstr tables.exportlist[index].servicename = cstr service := by
        simpa using sameName
      refine ⟨⟨distinct.sublist ?_, rfl, ?_⟩, ?_⟩
      · exact (List.eraseIdx_sublist _ _).map _
      · simp_all [PeerTables.exported, exportedIn_erase]
      · dsimp only
        rw [PeerTables.exported, exportedIn_at distinct isAt isName, isAt]
        rfl

end

end MidWay.Gateway

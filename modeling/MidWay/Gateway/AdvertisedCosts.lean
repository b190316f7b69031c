import MidWay.Gateway.Instance

/-!
Contract: when the costs that a gateway has told its peers are the costs its services
have, and when it keeps up with the costs its peers tell.

An export has one cost and the peers that were told, and a peer in its list is not told
again, so a new cost reaches nobody who knows the service. On the other side, a
`PROVIDE` of a service that is already imported from the peer is taken for a repeat.
A provide event for a service that is gone reads an export after it is freed, and a
conversational service, which has no cost, is marked as told without a message.

Owns: `CostsKept`, the steps in which none of this happens, and what holds in runs of
such steps.
-/

namespace MidWay.Gateway

open MidWay.CLib MidWay.Url MidWay.Srb MidWay.Lib

def PeerTables.ImportsFrom (tables : PeerTables) (peer : Nat) (service : List Byte) : Prop :=
  ∃ index imp, tables.impfind service = some index ∧ tables.importlist[index]? = some imp ∧
    ∃ pl ∈ imp.peerlist, pl.peer = peer

def ServiceRequest.isAbout (gwid : UInt32) (service : List Byte) : ServiceRequest → Bool
  | .provide id name _ => id == gwid && name == cstr service
  | .unprovide id name _ => id == gwid && name == cstr service

def ServiceRequest.cost : ServiceRequest → Option Int
  | .provide _ _ cost => some cost
  | .unprovide _ _ _ => none

/-- The cost of the service that `mwd` was told last, for a gateway. -/
def PeerTables.registered (tables : PeerTables) (gwid : UInt32) (service : List Byte) :
    Option Int :=
  (tables.requests.filter (ServiceRequest.isAbout gwid service)).getLast?.bind ServiceRequest.cost

section

variable {tables : PeerTables} {around : Surroundings} {service : List Byte} {peer : Nat}

theorem importservice_again (imports : tables.ImportsFrom peer service) (cost : Int) :
    tables.importservice around service cost (some peer) = .ok tables := by
  rcases imports with ⟨index, imp, isFound, isAt, pl, member, isPeer⟩
  rw [PeerTables.importservice, PeerTables.condnewimport, isFound]
  grind

end

/-- The service has a cost. If it is that of the export, all peers have been told, and if it is
not, none has. -/
structure InstanceState.CostReaches (state : InstanceState) (service : List Byte) : Prop where
  hasCost : gwGetcostofservice state.mwd service ≠ -1
  same : gwGetcostofservice state.mwd service = (state.tables.exported service).1 →
    ∀ peer, state.MayHear service peer → peer ∈ (state.tables.exported service).2
  changed : gwGetcostofservice state.mwd service ≠ (state.tables.exported service).1 →
    (state.tables.exported service).2 = []

/-- An event is handled when its cost reaches the peers, a peer comes up when all services have a
cost, and a repeated `PROVIDE` has the cost of the first. -/
def InstanceState.CostsKept (myGatewayid : Int) (state : InstanceState) : InstanceAction → Prop
  | .request request => NameFits request
  | .event index _ => ∀ event, state.pending[index]? = some event → ∀ service,
      newsOf state.mwd myGatewayid event = some (.provided service) → state.CostReaches service
  | .peerUp _ _ _ => ∀ service ∈ svcnamelist state.mwd, service.head? ≠ some 46 →
      gwGetcostofservice state.mwd service ≠ -1
  | .provide peer service cost => state.tables.ImportsFrom peer service →
      state.tables.registered (state.tables.gwidOf peer) service = some cost
  | .known _ _ | .peerDown _ | .unprovide _ _ | .provideReply _ _ _ => True

def costMessage (service : List Byte) (cost : Int) : SRBmessage :=
  if cost = -1 then mwSrbsendunprovide service else provideMessage service cost

section

variable {around : Surroundings} {myGatewayid : Int} {state : InstanceState}

theorem CostsKept.regular {action : InstanceAction} (kept : state.CostsKept myGatewayid action) :
    state.Regular myGatewayid True action := by
  cases action with
  | event index stale =>
      intro event isAt service news
      have reaches := kept event isAt service news
      exact ⟨reaches.hasCost, fun _ => reaches.changed⟩
  | request request => exact kept
  | peerUp peer gwid fd => exact kept
  | _ => trivial

theorem costs_sound {allowed : Mwd.Tables → Mwd.Request → Prop}
    (fits : ∀ tables request, allowed tables request → NameFits request)
    (reachable : (instanceMachine around myGatewayid allowed).Reachable
      (fun state => state.CostsKept myGatewayid) state) : state.Sound True := by
  refine reachable.holds (fun _ isStart => start_sound fits isStart) ?_
  intro before action after sound isEnabled kept stepped
  exact step_sound sound isEnabled (CostsKept.regular kept) stepped

/-- Every peer that is up and may hear of the service is told of its cost, or was. -/
theorem Heard.hears_cost {tables : PeerTables} {sent : Nat → List SRBmessage} {service : List Byte}
    (heard : Heard True tables sent) (isName : IsName service) (up : Nat → Bool) (stale : Int)
    (hasCost : 0 ≤ around.costofservice service)
    (same : around.costofservice service = (tables.exported service).1 →
      ∀ peer, peer < tables.peers.length → up peer = true → tables.MayExport service peer →
        peer ∈ (tables.exported service).2)
    (changed : around.costofservice service ≠ (tables.exported service).1 →
      (tables.exported service).2 = [])
    {peer : Nat} (inside : peer < tables.peers.length) (isUp : up peer = true)
    (may : tables.MayExport service peer) :
    lastAbout service (hear sent (tables.doprovideevent around up stale service).2 peer) =
      some (provideMessage service (around.costofservice service)) := by
  have notNone : around.costofservice service ≠ -1 := by omega
  have after := heard.provided isName hasCost (fun _ => changed) up stale
  have spec := doprovideevent_provided heard.distinct isName notNone up stale
  have told : peer ∈ ((tables.doprovideevent around up stale service).1.exported service).2 := by
    by_cases isSame : around.costofservice service = (tables.exported service).1
    · exact spec.kept peer (same isSame peer inside isUp may)
    · exact spec.told isSame peer inside isUp may
  rcases (after.told service isName peer told).2 with ⟨cost, isCost, isLast⟩
  rw [isLast, isCost trivial, spec.isCost]

end

/-- After a provide event every peer has last heard the cost of the service, and a repeated
`PROVIDE` leaves its own cost registered. -/
theorem advertised_costs_current {around : Surroundings} {myGatewayid : Int} {state : InstanceState}
    (reachable : (instanceMachine around myGatewayid fun _ => NameFits).Reachable
      (fun state => state.CostsKept myGatewayid) state) :
    (∀ index stale event service, state.pending[index]? = some event →
      newsOf state.mwd myGatewayid event = some (.provided service) →
      state.CostsKept myGatewayid (.event index stale) → ∀ peer, state.MayHear service peer →
      lastAbout service ((state.handleEvent around myGatewayid index stale).sent peer) =
        some (costMessage service (gwGetcostofservice state.mwd service))) ∧
    ∀ peer service cost, state.tables.ImportsFrom peer service →
      state.CostsKept myGatewayid (.provide peer service cost) →
      ∃ next, state.importFrom around peer service cost = .ok next ∧
        next.tables.registered (next.tables.gwidOf peer) service = some cost := by
  have sound := costs_sound (fun _ _ fits => fits) reachable
  refine ⟨?_, ?_⟩
  · intro index stale event service isAt news kept peer hears
    have reaches := kept event isAt service news
    have isName := sound.pending event (List.mem_of_getElem? isAt)
    rw [newsOf_name (Or.inl news)] at isName
    rw [costMessage, if_neg reaches.hasCost, InstanceState.handleEvent, isAt]
    dsimp only
    rw [news]
    exact Heard.hears_cost sound.heard isName state.up stale
      (gwGetcostofservice_nonneg reaches.hasCost)
      (fun same peer inside isUp may => reaches.same same peer ⟨inside, isUp, may⟩)
      reaches.changed hears.inside hears.isUp hears.may
  · intro peer service cost imports kept
    refine ⟨state, ?_, kept imports⟩
    rw [InstanceState.importFrom, importservice_again imports]

abbrev costsMachine := instanceMachine someSurroundings 0x04000000 fun _ => NameFits

def providedInstance : InstanceState :=
  costsMachine.next
    (costsMachine.next (knowsOne Mwd.oneServerTables) (.peerUp 0 0x04000001 7))
    (.request (.provide .ready Mwd.oneProvide))

def costsInstance : InstanceState := costsMachine.next providedInstance (.provide 0 [84] 5)

theorem providedInstance_reachable :
    costsMachine.Reachable (fun state => state.CostsKept 0x04000000) providedInstance := by
  have server : Mwd.mwd.Reachable (fun _ => NameFits) Mwd.oneServerTables :=
    .step (.start Mwd.emptyTables_initial)
      (show Mwd.mwd.enabled Mwd.emptyTables (.attach .ready Mwd.oneServerAttach) from trivial)
      trivial rfl
  have noNames : svcnamelist Mwd.oneServerTables = [] := by decide
  refine Machine.Reachable.next (Machine.Reachable.next
    (Machine.Reachable.start (knowsOne_start server)) (knowsOne_peerUp _ _ _ _) ?_ rfl) ?_ ?_ rfl
  · intro service member
    grind [knowsOne, Mwd.oneServerTables]
  · exact fun _ => ⟨0, by decide, by decide, by decide⟩
  · change (cstr Mwd.oneProvide.svcname).length < mwMaxSvcName
    decide

theorem costsInstance_reachable :
    costsMachine.Reachable (fun state => state.CostsKept 0x04000000) costsInstance := by
  have noImports : providedInstance.tables.impfind [84] = none := by decide
  have isUp : costsMachine.enabled providedInstance (.provide 0 [84] 5) := by
    rfl
  refine providedInstance_reachable.next isUp ?_ rfl
  rintro ⟨index, imp, isFound, _⟩
  cases noImports.symm.trans isFound

theorem advertised_costs_current_first :
    lastAbout [83] ((costsInstance.handleEvent someSurroundings 0x04000000 0 0).sent 0) =
        some (costMessage [83] 0) ∧
      ∃ next, costsInstance.importFrom someSurroundings 0 [84] 5 = .ok next ∧
        next.tables.registered (next.tables.gwidOf 0) [84] = some 5 := by
  have holds := advertised_costs_current costsInstance_reachable
  have noCost : gwGetcostofservice costsInstance.mwd [83] = 0 := by decide
  have unexported : costsInstance.tables.exported [83] = (-1, []) := by decide
  have reaches : costsInstance.CostReaches [83] := by
    refine ⟨?_, ?_, ?_⟩
    · rw [noCost]
      decide
    · rw [noCost, unexported]
      exact nofun
    · rw [unexported]
      exact fun _ => rfl
  refine ⟨?_, ?_⟩
  · rw [← noCost]
    refine holds.1 0 0 ⟨.provide, 134217728, [83], 16777216⟩ [83] (by decide) (by decide) ?_ 0
      ⟨by decide, by decide, by decide, by decide⟩
    intro event isAt service news
    cases isAt
    cases news
    exact reaches
  · exact holds.2 0 [84] 5 ⟨0, ⟨[84], [⟨0, unassigned⟩]⟩, by decide, by decide, _,
      List.mem_singleton.mpr rfl, rfl⟩ (fun _ => by decide)

/-- A peer that tells of a service again with a new cost is not heard. -/
theorem advertised_costs_not_updated :
    ∃ state next, costsMachine.Reachable (fun state => state.CostsKept 0x04000000) state ∧
      state.tables.ImportsFrom 0 [84] ∧ state.importFrom someSurroundings 0 [84] 9 = .ok next ∧
      next.tables.registered (next.tables.gwidOf 0) [84] = some 5 := by
  refine ⟨costsInstance, costsInstance, costsInstance_reachable, ?_, ?_, by decide⟩
  · exact ⟨0, ⟨[84], [⟨0, unassigned⟩]⟩, by decide, by decide, _, List.mem_singleton.mpr rfl, rfl⟩
  · rfl

end MidWay.Gateway

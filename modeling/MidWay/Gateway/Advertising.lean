import MidWay.Gateway.Exports

/-!
Contract: what the peers have heard about a service against what the list of exports
says they were told.

A peer of the list was last sent a `PROVIDE`, the others were not. Where the cost of an
export never changes while a peer is in its list, that `PROVIDE` has the cost of the
export.

Owns: `lastAbout`, `Heard`, and that the operations on exports keep it.
-/

namespace MidWay.Gateway

open MidWay.CLib MidWay.Url MidWay.Srb

def provideMessage (service : List Byte) (cost : Int) : SRBmessage :=
  mwSrbSetfield (mwSrbSetfield (mwSrbInit srbProvide srbNotificationMarker) srbSvcname service)
    srbCost (sprintfD (if cost > 999999 then 999999 else cost))

def aboutService (service : List Byte) (srbmsg : SRBmessage) : Bool :=
  urlmapgetvalue srbmsg.map srbSvcname == some service

def lastAbout (service : List Byte) (sent : List SRBmessage) : Option SRBmessage :=
  (sent.filter (aboutService service)).getLast?

def sentTo (sent : List (Nat × SRBmessage)) (peer : Nat) : List SRBmessage :=
  (sent.filter fun message => message.1 == peer).map Prod.snd

section

variable {service other : List Byte} {sent : List SRBmessage} {srbmsg : SRBmessage} {cost : Int}

theorem mwSrbsendprovide_cost {around : Surroundings} (isCost : 0 ≤ cost) :
    mwSrbsendprovide around service cost = [provideMessage service cost] := by
  unfold mwSrbsendprovide
  dsimp only
  rw [if_neg (Int.not_lt.mpr isCost), if_neg (Int.not_lt.mpr isCost)]
  rfl

theorem aboutService_provide :
    aboutService other (provideMessage service cost) = decide (service = other) := by
  have field : urlmapgetvalue (provideMessage service cost).map srbSvcname = some service := rfl
  grind [aboutService]

theorem aboutService_unprovide :
    aboutService other (mwSrbsendunprovide service) = decide (service = other) := by
  have field : urlmapgetvalue (mwSrbsendunprovide service).map srbSvcname = some service := rfl
  grind [aboutService]

theorem lastAbout_self (isAbout : aboutService service srbmsg = true) :
    lastAbout service (sent ++ [srbmsg]) = some srbmsg := by
  simp_all [lastAbout, List.filter_append, List.filter_cons_of_pos, List.filter_nil]

theorem lastAbout_other (isOther : aboutService service srbmsg = false) :
    lastAbout service (sent ++ [srbmsg]) = lastAbout service sent := by
  simp_all [lastAbout, List.filter_append, List.filter_cons_of_neg]

theorem unprovide_ne_provide : mwSrbsendunprovide service ≠ provideMessage other cost := by
  intro same
  have command : srbUnprovide = srbProvide := congrArg SRBmessage.command same
  exact absurd command (by decide)

end

section

variable {peer other : Nat} {srbmsg : SRBmessage}

theorem sentTo_append (messages more : List (Nat × SRBmessage)) (peer : Nat) :
    sentTo (messages ++ more) peer = sentTo messages peer ++ sentTo more peer := by
  rw [sentTo, List.filter_append, List.map_append, sentTo, sentTo]

theorem sentTo_self (sent : List SRBmessage) :
    sentTo (sent.map fun srbmsg => (peer, srbmsg)) peer = sent := by
  induction sent with
  | nil => rfl
  | cons srbmsg rest ih =>
      simp_all [List.map_cons, List.filter_cons_of_pos, sentTo]

theorem sentTo_other (isOther : other ≠ peer) (sent : List SRBmessage) :
    sentTo (sent.map fun srbmsg => (peer, srbmsg)) other = [] := by
  simp [sentTo, isOther.symm]

/-- Each peer of a list is sent the same message. -/
theorem sentTo_each {peers : List Nat} (nodup : peers.Nodup) :
    sentTo (peers.map fun peer => (peer, srbmsg)) other = if other ∈ peers then [srbmsg] else [] := by
  induction peers with
  | nil => rfl
  | cons first peers ih =>
      rcases List.nodup_cons.mp nodup with ⟨isNew, rest⟩
      rw [List.map_cons, ← List.singleton_append, sentTo_append, ih rest]
      by_cases isFirst : other = first
      · rw [isFirst, if_neg isNew, if_pos List.mem_cons_self, List.append_nil]
        exact sentTo_self [srbmsg]
      · have isIn : other ∈ first :: peers ↔ other ∈ peers := by
          rw [List.mem_cons, or_iff_right isFirst]
        have nothing : sentTo [(first, srbmsg)] other = [] := sentTo_other isFirst [srbmsg]
        simp_all [nothing, List.nil_append, if_congr]

end

/-- The peers of an export were last sent a `PROVIDE`, the others not. With `precise` it has the
cost of the export. -/
structure Heard (precise : Prop) (tables : PeerTables) (sent : Nat → List SRBmessage) : Prop where
  distinct : Distinct tables.exportlist
  nodup : ∀ service, (tables.exported service).2.Nodup
  isCost : ∀ service, (tables.exported service).1 ≠ -1 → 0 ≤ (tables.exported service).1
  told : ∀ service, IsName service → ∀ peer ∈ (tables.exported service).2,
    0 ≤ (tables.exported service).1 ∧ ∃ cost, (precise → cost = (tables.exported service).1) ∧
      lastAbout service (sent peer) = some (provideMessage service cost)
  notTold : ∀ service, IsName service → ∀ peer ∉ (tables.exported service).2, ∀ cost,
    lastAbout service (sent peer) ≠ some (provideMessage service cost)

def hear (sent : Nat → List SRBmessage) (messages : List (Nat × SRBmessage)) :
    Nat → List SRBmessage :=
  fun peer => sent peer ++ sentTo messages peer

theorem hear_append (sent : Nat → List SRBmessage) (messages more : List (Nat × SRBmessage)) :
    hear sent (messages ++ more) = hear (hear sent messages) more := by
  grind [sentTo_append, List.append_assoc, hear]

theorem hear_self (sent : Nat → List SRBmessage) (peer : Nat) (srbmsg : SRBmessage) :
    hear sent [(peer, srbmsg)] peer = sent peer ++ [srbmsg] :=
  congrArg (sent peer ++ ·) (sentTo_self [srbmsg])

theorem hear_other (sent : Nat → List SRBmessage) {peer other : Nat} (isOther : other ≠ peer)
    (srbmsg : SRBmessage) : hear sent [(peer, srbmsg)] other = sent other :=
  (congrArg (sent other ++ ·) (sentTo_other isOther [srbmsg])).trans (List.append_nil _)

theorem hear_nil (sent : Nat → List SRBmessage) : hear sent [] = sent := by
  funext peer
  exact List.append_nil _

section

variable {precise : Prop} {before after tables : PeerTables} {sent sent' : Nat → List SRBmessage}
  {service : List Byte} {cost : Int} {told : List Nat}

theorem Heard.of_same (heard : Heard precise before sent) (distinct : Distinct after.exportlist)
    (same : after.exported = before.exported) : Heard precise after sent := by
  refine ⟨distinct, ?_, ?_, ?_, ?_⟩ <;> rw [same]
  · exact heard.nodup
  · exact heard.isCost
  · exact heard.told
  · exact heard.notTold

/-- One export changes, and the peers hear about no other service. -/
theorem Heard.reexported (heard : Heard precise before sent)
    (re : Reexported before after service cost told) (isName : IsName service)
    (nodup : told.Nodup) (isCost : cost ≠ -1 → 0 ≤ cost)
    (others : ∀ other peer, service ≠ other →
      lastAbout other (sent' peer) = lastAbout other (sent peer))
    (isTold : ∀ peer ∈ told, 0 ≤ cost ∧ ∃ price, (precise → price = cost) ∧
      lastAbout service (sent' peer) = some (provideMessage service price))
    (notTold : ∀ peer ∉ told, ∀ price,
      lastAbout service (sent' peer) ≠ some (provideMessage service price)) :
    Heard precise after sent' := by
  have same {other : List Byte} (isOther : IsName other) :
      cstr service = cstr other ↔ service = other := by
    rw [isName.text, isOther.text]
  refine ⟨re.distinct, ?_, ?_, ?_, ?_⟩
  · intro other
    rw [re.exported]
    split_ifs
    · exact nodup
    · exact heard.nodup other
  · intro other
    rw [re.exported]
    split_ifs
    · exact isCost
    · exact heard.isCost other
  · intro other isOther peer
    rw [re.exported]
    split_ifs with isService
    · grind
    · rw [others other peer (fun equal => isService ((same isOther).mpr equal))]
      exact heard.told other isOther peer
  · intro other isOther peer
    rw [re.exported]
    split_ifs with isService
    · grind
    · simp_all [heard.notTold]

/-- One more peer is told of a service, and the cost stays while others have been told. -/
theorem Heard.tell {peer : Nat} (heard : Heard precise before sent)
    (re : Reexported before after service cost ((before.exported service).2 ++ [peer]))
    (isName : IsName service) (isCost : 0 ≤ cost) (isNew : peer ∉ (before.exported service).2)
    (stays : (before.exported service).2 ≠ [] → cost = (before.exported service).1) :
    Heard precise after (hear sent [(peer, provideMessage service cost)]) := by
  refine heard.reexported re isName ?_ (fun _ => isCost) ?_ ?_ ?_
  · refine List.nodup_append.mpr ⟨heard.nodup service, List.nodup_singleton peer, ?_⟩
    grind
  · grind [hear_self, lastAbout_other, aboutService_provide, hear_other, decide_eq_false]
  · intro who member
    refine ⟨isCost, ?_⟩
    by_cases isPeer : who = peer
    · refine ⟨cost, fun _ => rfl, ?_⟩
      simp [isPeer, hear_self, lastAbout_self, aboutService_provide, decide_eq_true]
    · have wasTold : who ∈ (before.exported service).2 := by
        rcases List.mem_append.mp member with old | new
        · exact old
        · exact absurd (List.mem_singleton.mp new) isPeer
      rw [hear_other sent isPeer, stays (List.ne_nil_of_mem wasTold)]
      exact (heard.told service isName who wasTold).2
  · simp_all [List.mem_append, not_or, hear_other, heard.notTold]

theorem Heard.exportCost_told (heard : Heard precise tables sent) (isName : IsName service)
    (around : Surroundings) (someTold : (tables.exported service).2 ≠ []) :
    tables.exportCost around service = (tables.exported service).1 := by
  rcases List.exists_mem_of_ne_nil _ someTold with ⟨peer, member⟩
  have cost := (heard.told service isName peer member).1
  rw [PeerTables.exportCost, if_neg (by omega)]

theorem Told.export_eq (start : Told) (around : Surroundings) (service : List Byte) (peer : Nat) :
    start.export around service peer =
      ((start.1.exportservicetopeer around service peer).1,
        start.2 ++ (start.1.exportservicetopeer around service peer).2.map
          fun srbmsg => (peer, srbmsg)) := rfl

/-- A service is exported to a peer, with a cost. -/
theorem Heard.export {around : Surroundings} {start : Told} {peer : Nat}
    (heard : Heard precise start.1 (hear sent start.2)) (isName : IsName service)
    (isCost : start.1.MayExport service peer → 0 ≤ start.1.exportCost around service) :
    Heard precise (start.export around service peer).1
      (hear sent (start.export around service peer).2) := by
  rw [Told.export_eq]
  by_cases may : start.1.MayExport service peer
  · rcases exportservicetopeer_spec heard.distinct isName may with ⟨re, isSent⟩
    rw [isSent]
    dsimp only
    by_cases isTold : peer ∈ (start.1.exported service).2
    · have same := heard.exportCost_told isName around (List.ne_nil_of_mem isTold)
      rw [if_pos isTold, List.map_nil, List.append_nil]
      rw [if_pos isTold, same] at re
      refine heard.reexported re isName (heard.nodup service) (heard.isCost service) ?_ ?_ ?_
      · simp
      · exact heard.told service isName
      · exact heard.notTold service isName
    · rw [if_neg isTold, mwSrbsendprovide_cost (isCost may), List.map_singleton, hear_append]
      rw [if_neg isTold] at re
      exact heard.tell re isName (isCost may) isTold (heard.exportCost_told isName around)
  · simp_all [exportservicetopeer_refused, List.map_nil, List.append_nil]

/-- A service is withdrawn from all who were told. -/
theorem Heard.unexport (heard : Heard precise tables sent) (isName : IsName service) :
    Heard precise (tables.unexportservice service).1
      (hear sent (tables.unexportservice service).2) := by
  rcases unexportservice_spec heard.distinct with ⟨re, isSent⟩
  rw [isSent]
  have isHeard (peer : Nat) : hear sent ((tables.exported service).2.map fun peer =>
      (peer, mwSrbsendunprovide service)) peer =
        sent peer ++ if peer ∈ (tables.exported service).2 then [mwSrbsendunprovide service] else [] :=
    congrArg (sent peer ++ ·) (sentTo_each (heard.nodup service))
  refine heard.reexported re isName List.nodup_nil (fun isNot => absurd rfl isNot) ?_ ?_ ?_
  · grind [lastAbout_other, aboutService_unprovide, decide_eq_false]
  · exact List.forall_mem_nil _
  · intro peer _ cost
    rw [isHeard]
    split_ifs with wasTold
    · rw [lastAbout_self (by rw [aboutService_unprovide]; exact decide_eq_true rfl)]
      exact fun same => unprovide_ne_provide (Option.some.inj same)
    · simp_all [List.append_nil, heard.notTold]

theorem Heard.setCost (heard : Heard precise before sent)
    (re : Reexported before after service cost (before.exported service).2) (isName : IsName service)
    (isCost : 0 ≤ cost) (unseen : precise → (before.exported service).2 = []) :
    Heard precise after sent := by
  refine heard.reexported re isName (heard.nodup service) (fun _ => isCost) (fun _ _ _ => rfl) ?_
    (heard.notTold service isName)
  intro peer member
  rcases (heard.told service isName peer member).2 with ⟨price, _, isLast⟩
  grind

/-- A peer is gone, and so is what was sent to it. -/
theorem Heard.cleaned (heard : Heard precise tables sent) (peer : Nat) :
    Heard precise (tables.expcleanuppeer peer) (Function.update sent peer []) := by
  have exported (service : List Byte) : (tables.expcleanuppeer peer).exported service =
      ((tables.exported service).1, (tables.exported service).2.erase peer) :=
    exportedIn_map_erase peer
  have members (service : List Byte) (who : Nat) :
      who ∈ (tables.exported service).2.erase peer ↔ who ≠ peer ∧ who ∈ (tables.exported service).2 :=
    (heard.nodup service).mem_erase_iff
  refine ⟨?_, ?_, ?_, ?_, ?_⟩
  · have same : (tables.expcleanuppeer peer).exportlist.map (fun exp => cstr exp.servicename) =
        tables.exportlist.map fun exp => cstr exp.servicename := by
      rw [PeerTables.expcleanuppeer, List.map_map]
      rfl
    unfold Distinct
    rw [same]
    exact heard.distinct
  · intro service
    rw [exported]
    exact (heard.nodup service).erase peer
  · simp_all [heard.isCost]
  · intro service isName who member
    rw [exported] at member ⊢
    rcases (members service who).mp member with ⟨isOther, wasTold⟩
    rw [Function.update_of_ne isOther]
    exact heard.told service isName who wasTold
  · intro service isName who notMember cost
    rw [exported, members, not_and] at notMember
    by_cases isPeer : who = peer
    · rw [isPeer, Function.update_self]
      exact nofun
    · rw [Function.update_of_ne isPeer]
      exact heard.notTold service isName who (notMember isPeer) cost

end

/-- A service is told to some peers, and nothing else changes. -/
structure Spread (before after : PeerTables) (service : List Byte) (among : List Nat) : Prop where
  distinct : Distinct after.exportlist
  rest : after = { before with exportlist := after.exportlist }
  cost : (after.exported service).1 = (before.exported service).1
  told : ∀ peer, peer ∈ (after.exported service).2 ↔
    peer ∈ (before.exported service).2 ∨ (peer ∈ among ∧ before.MayExport service peer)
  others : ∀ other, cstr service ≠ cstr other → after.exported other = before.exported other

/-- Some services are told to a peer, and nothing else changes. -/
structure Reached (before after : PeerTables) (around : Surroundings) (names : List (List Byte))
    (peer : Nat) : Prop where
  rest : after = { before with exportlist := after.exportlist }
  told : ∀ service ∈ names, IsName service → before.MayExport service peer →
    (after.exported service).1 = before.exportCost around service ∧
      ∀ who, who ∈ (after.exported service).2 ↔ who = peer ∨ who ∈ (before.exported service).2
  others : ∀ service, IsName service → (service ∉ names ∨ ¬before.MayExport service peer) →
    after.exported service = before.exported service

section

variable {precise : Prop} {tables : PeerTables} {sent : Nat → List SRBmessage}
  {around : Surroundings} {service : List Byte}

theorem mayExport_rest {before after : PeerTables} {peer : Nat}
    (rest : after = { before with exportlist := after.exportlist }) :
    after.MayExport service peer ↔ before.MayExport service peer := by
  have peers : after.peers = before.peers := by rw [rest]
  constructor
  · intro may
    exact ⟨by rw [← peers]; exact may.domain, may.noDot⟩
  · intro may
    exact ⟨by rw [peers]; exact may.domain, may.noDot⟩

theorem export_spread {start : Told} (distinct : Distinct start.1.exportlist)
    (isName : IsName service) (hasCost : (start.1.exported service).1 ≠ -1) (peer : Nat) :
    Spread start.1 (start.export around service peer).1 service [peer] := by
  rw [Told.export_eq]
  by_cases may : start.1.MayExport service peer
  · have re := (@exportservicetopeer_spec start.1 around service peer distinct isName may).1
    rw [PeerTables.exportCost, if_neg hasCost] at re
    have here := re.exported service
    rw [if_pos rfl] at here
    refine ⟨re.distinct, re.rest, ?_, ?_, ?_⟩
    · rw [here]
    · grind
    · simp_all [re.exported]
  · rw [exportservicetopeer_refused may]
    refine ⟨distinct, rfl, rfl, ?_, fun _ _ => rfl⟩
    simp_all [List.mem_singleton, Or.inl]

theorem Spread.trans {first second third : PeerTables} {some more : List Nat}
    (before : Spread first second service some) (after : Spread second third service more) :
    Spread first third service (some ++ more) := by
  refine ⟨after.distinct, ?_, after.cost.trans before.cost, ?_, ?_⟩
  · rw [after.rest, before.rest]
  · intro peer
    rw [after.told, before.told, mayExport_rest before.rest, List.mem_append, or_assoc, ← or_and_right]
  · simp_all [after.others, before.others]

/-- The loop over the peers. -/
theorem foldl_export_spread (isName : IsName service) (peers : List Nat) {start : Told}
    (distinct : Distinct start.1.exportlist) (hasCost : (start.1.exported service).1 ≠ -1) :
    Spread start.1 (peers.foldl (fun told peer => told.export around service peer) start).1
      service peers := by
  induction peers generalizing start with
  | nil =>
      refine ⟨distinct, rfl, rfl, ?_, fun _ _ => rfl⟩
      simp
  | cons peer peers ih =>
      have one := @export_spread around service start distinct isName hasCost peer
      rw [List.foldl_cons]
      refine one.trans (ih one.distinct ?_)
      rw [one.cost]
      exact hasCost

theorem Heard.exportCost (heard : Heard precise tables sent)
    (isCost : 0 ≤ around.costofservice service) : 0 ≤ tables.exportCost around service := by
  rw [PeerTables.exportCost]
  split_ifs with noCost
  · exact isCost
  · exact heard.isCost service noCost

theorem Heard.provide_to_peers (heard : Heard precise tables sent) (isName : IsName service)
    (hasCost : (tables.exported service).1 ≠ -1) (up : Nat → Bool) :
    Heard precise (tables.gwProvideserviceToPeers around up service).1
      (hear sent (tables.gwProvideserviceToPeers around up service).2) := by
  have kept : ∀ (peers : List Nat) (start : Told),
      Heard precise start.1 (hear sent start.2) → (start.1.exported service).1 ≠ -1 →
      Heard precise (peers.foldl (fun told peer => told.export around service peer) start).1
        (hear sent (peers.foldl (fun told peer => told.export around service peer) start).2) := by
    intro peers
    induction peers with
    | nil => exact fun _ held _ => held
    | cons peer peers ih =>
        intro start held cost
        have one := @export_spread around service start held.distinct isName cost peer
        refine ih _ (held.export isName ?_) ?_
        · simp_all [PeerTables.exportCost, held.isCost]
        · simp [one.cost, cost]
  refine kept _ (tables, []) ?_ hasCost
  rw [hear_nil]
  exact heard

theorem Reached.refl (tables : PeerTables) (around : Surroundings) (peer : Nat) :
    Reached tables tables around [] peer :=
  ⟨rfl, nofun, fun _ _ _ => rfl⟩

/-- One more service for the peer. -/
theorem export_reached {start : Told} {peer : Nat} (distinct : Distinct start.1.exportlist)
    (isName : IsName service) :
    Reached start.1 (start.export around service peer).1 around [service] peer := by
  rw [Told.export_eq]
  by_cases may : start.1.MayExport service peer
  · have re := (@exportservicetopeer_spec start.1 around service peer distinct isName may).1
    refine ⟨re.rest, ?_, ?_⟩
    · intro other member _ _
      rw [List.mem_singleton.mp member, re.exported, if_pos rfl]
      grind
    · intro other isOther untouched
      rw [re.exported, if_neg]
      rw [isName.text, isOther.text]
      grind
  · rw [exportservicetopeer_refused may]
    refine ⟨rfl, ?_, fun _ _ _ => rfl⟩
    simp_all

theorem Reached.cons {first second third : PeerTables} {peer : Nat} {names : List (List Byte)}
    (before : Reached first second around [service] peer)
    (after : Reached second third around names peer)
    (hasCost : first.MayExport service peer → first.exportCost around service ≠ -1) :
    Reached first third around (service :: names) peer := by
  have same (other : List Byte) := @mayExport_rest other first second peer before.rest
  refine ⟨?_, ?_, ?_⟩
  · rw [after.rest, before.rest]
  · intro other member isOther may
    by_cases isHead : other = service
    · subst isHead
      rcases before.told other (List.mem_singleton.mpr rfl) isOther may with ⟨cost, told⟩
      by_cases again : other ∈ names
      · rcases after.told other again isOther ((same other).mpr may) with ⟨cost', told'⟩
        simp_all [cost, cost', PeerTables.exportCost, if_neg, told', told]
      · simp_all [after.others]
    · have inNames : other ∈ names := (List.mem_cons.mp member).resolve_left isHead
      have unseen := before.others other isOther (Or.inl fun isIn => isHead (List.mem_singleton.mp isIn))
      rcases after.told other inNames isOther ((same other).mpr may) with ⟨cost, told⟩
      simp [cost, PeerTables.exportCost, unseen, told]
  · intro other isOther untouched
    have later : other ∉ names ∨ ¬second.MayExport other peer := by
      simp_all [untouched.imp]
    have here : other ∉ [service] ∨ ¬first.MayExport other peer := by
      simp_all [untouched.imp_left]
    rw [after.others other isOther later, before.others other isOther here]

/-- The loop over the names. -/
theorem foldl_names_reached {peer : Nat} (names : List (List Byte)) {start : Told}
    (heard : Heard precise start.1 (hear sent start.2)) (areNames : ∀ name ∈ names, IsName name)
    (costs : ∀ name ∈ names, name.head? ≠ some 46 → 0 ≤ around.costofservice name) :
    Heard precise (names.foldl (fun told name => told.export around name peer) start).1
        (hear sent (names.foldl (fun told name => told.export around name peer) start).2) ∧
      Reached start.1 (names.foldl (fun told name => told.export around name peer) start).1 around
        names peer := by
  induction names generalizing start with
  | nil => exact ⟨heard, Reached.refl start.1 around peer⟩
  | cons name names ih =>
      rw [List.forall_mem_cons] at areNames costs
      have isCost (may : start.1.MayExport name peer) : 0 ≤ start.1.exportCost around name :=
        heard.exportCost (costs.1 may.noDot)
      rcases ih (heard.export areNames.1 isCost) areNames.2 costs.2 with
        ⟨kept, reached⟩
      refine ⟨kept, (export_reached heard.distinct areNames.1).cons reached ?_⟩
      intro may
      have cost := isCost may
      omega

/-- What a new peer is sent, as the loop over the names. -/
theorem foldl_names_sent {peer : Nat} (names : List (List Byte)) (start : PeerTables)
    (messages : List SRBmessage) :
    names.foldl (fun told name => Told.export told around name peer)
        (start, messages.map fun srbmsg => (peer, srbmsg)) =
      ((names.foldl (fun done name =>
          ((done.1.exportservicetopeer around name peer).1,
            done.2 ++ (done.1.exportservicetopeer around name peer).2)) (start, messages)).1,
        (names.foldl (fun done name =>
          ((done.1.exportservicetopeer around name peer).1,
            done.2 ++ (done.1.exportservicetopeer around name peer).2)) (start, messages)).2.map
          fun srbmsg => (peer, srbmsg)) := by
  induction names generalizing start messages with
  | nil => rfl
  | cons name names ih =>
      rw [List.foldl_cons, List.foldl_cons, Told.export_eq, ← ih, List.map_append]

end

section

variable {tables : PeerTables} {around : Surroundings} {service : List Byte} {stale : Int}
  {up : Nat → Bool}

theorem modify_eq_set {α : Type} {list : List α} {index : Nat} {value : α}
    (isAt : list[index]? = some value) (f : α → α) : list.modify index f = list.set index (f value) := by
  apply List.ext_getElem?
  grind

/-- With the cost it was exported with, nobody is told. -/
theorem doprovideevent_same (distinct : Distinct tables.exportlist) (isName : IsName service)
    (hasCost : around.costofservice service ≠ -1)
    (same : around.costofservice service = (tables.exported service).1) :
    ∃ after index, HasExport tables after service index ∧
      tables.doprovideevent around up stale service = (after, []) := by
  have has := condnewexport_spec distinct isName
  rcases has.isThere with ⟨exp, isAt, sameName⟩
  have isExported := exportedIn_at has.distinct isAt sameName
  change (tables.condnewexport service).2.exported service = (exp.cost, exp.peerlist) at isExported
  rw [has.exported] at isExported
  rw [isExported] at same
  refine ⟨_, _, has, ?_⟩
  simp_all [PeerTables.doprovideevent, if_neg, isAt]

/-- With another cost, all peers that were not told are. -/
theorem doprovideevent_changed (distinct : Distinct tables.exportlist) (isName : IsName service)
    (hasCost : around.costofservice service ≠ -1)
    (changed : around.costofservice service ≠ (tables.exported service).1) :
    ∃ middle, Reexported tables middle service (around.costofservice service)
        (tables.exported service).2 ∧
      tables.doprovideevent around up stale service =
        middle.gwProvideserviceToPeers around up service := by
  have has := condnewexport_spec distinct isName
  rcases has.isThere with ⟨exp, isAt, sameName⟩
  have isExported := exportedIn_at has.distinct isAt sameName
  change (tables.condnewexport service).2.exported service = (exp.cost, exp.peerlist) at isExported
  rw [has.exported] at isExported
  rw [isExported] at changed ⊢
  refine ⟨_, has.reexported isAt, ?_⟩
  simp_all [PeerTables.doprovideevent, if_neg, isAt, modify_eq_set, if_pos]

/-- After the event the service is exported with its cost, and if the cost was another, to every
peer that is up. -/
structure ProvidedTo (before after : PeerTables) (up : Nat → Bool) (service : List Byte) (cost : Int) :
    Prop where
  rest : after = { before with exportlist := after.exportlist }
  isCost : (after.exported service).1 = cost
  kept : ∀ peer ∈ (before.exported service).2, peer ∈ (after.exported service).2
  told : cost ≠ (before.exported service).1 → ∀ peer, peer < before.peers.length → up peer = true →
    before.MayExport service peer → peer ∈ (after.exported service).2
  others : ∀ other, cstr service ≠ cstr other → after.exported other = before.exported other

theorem doprovideevent_provided (distinct : Distinct tables.exportlist) (isName : IsName service)
    (hasCost : around.costofservice service ≠ -1) (up : Nat → Bool) (stale : Int) :
    ProvidedTo tables (tables.doprovideevent around up stale service).1 up service
      (around.costofservice service) := by
  by_cases isSame : around.costofservice service = (tables.exported service).1
  · rcases @doprovideevent_same tables around service stale up distinct isName hasCost isSame with
      ⟨next, index, has, done⟩
    rw [done]
    refine ⟨has.rest, ?_, ?_, fun changed => absurd isSame changed, ?_⟩
    · rw [has.exported, isSame]
    · simp [has.exported]
    · simp [has.exported]
  · rcases @doprovideevent_changed tables around service stale up distinct isName hasCost isSame with
      ⟨middle, re, done⟩
    have here := re.exported service
    rw [if_pos rfl] at here
    have spread := @foldl_export_spread around service isName
      ((List.range middle.peers.length).filter up) (middle, []) re.distinct
      (by rw [here]; exact hasCost)
    have peers : middle.peers = tables.peers := by rw [re.rest]
    rw [done]
    refine ⟨?_, ?_, ?_, ?_, ?_⟩
    · have rest : (middle.gwProvideserviceToPeers around up service).1 = { middle with
          exportlist := (middle.gwProvideserviceToPeers around up service).1.exportlist } :=
        spread.rest
      rw [rest, re.rest]
    · exact spread.cost.trans (by rw [here])
    · intro peer member
      refine (spread.told peer).mpr (Or.inl ?_)
      rw [here]
      exact member
    · intro _ peer inside isUp may
      refine (spread.told peer).mpr (Or.inr ⟨?_, (mayExport_rest re.rest).mpr may⟩)
      simp_all [List.mem_filter, List.mem_range, peers, inside]
    · intro other isOther
      rw [show (middle.gwProvideserviceToPeers around up service).1.exported other = _ from
        spread.others other isOther, re.exported, if_neg isOther]

end

end MidWay.Gateway

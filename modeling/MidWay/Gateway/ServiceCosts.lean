import Mathlib.Order.Bounds.Basic
import MidWay.Gateway.Instance

/-!
Contract: whether the cost that a gateway tells its peers is the cost of the service.

The cost of a service is read from its entries. Only an import writes the cost of an
entry, and a deletion leaves it there, so a local service has the cost of whatever was
imported into its entry last. The search is for call services, so a conversational
service has no cost.

Owns: the machine of the service table with a record of what was added, and the runs
in which every cost is right.
-/

namespace MidWay.Gateway

open MidWay.CLib MidWay.Lib

/-- A service that was added; `cost` is that of an import, and `none` for a local one. -/
structure Provision where
  name : List Byte
  cost : Option Int

/-- `given` is what was added under the id of each entry, and not deleted since. It has no
counterpart in the program. -/
structure CostState where
  tables : Mwd.Tables
  given : Int → Option Provision

inductive CostAction where
  | addlocalservice (srvid : Int) (name : List Byte) (type : Int)
  | addremoteservice (gwid : Int) (name : List Byte) (cost type : Int)
  | delservice (svcid : Int)
  /-- Anything that leaves the services as they are, such as a server that attaches. -/
  | other (after : Mwd.Tables)

def CostState.add (state : CostState) (result : Int × Mwd.Tables) (provision : Provision) :
    CostState :=
  ⟨result.2,
    if result.1 < 0 then state.given
    else Function.update state.given (Mwd.svcid2idx result.1) (some provision)⟩

def CostState.step (state : CostState) : CostAction → Except Mwd.TableFailure CostState
  | .addlocalservice srvid name type =>
      .ok (state.add (state.tables.addlocalservice srvid name type) ⟨name, none⟩)
  | .addremoteservice gwid name cost type =>
      match state.tables.addremoteservice gwid name cost type with
      | .error failure => .error failure
      | .ok result => .ok (state.add result ⟨name, some cost⟩)
  | .delservice svcid =>
      .ok ⟨(state.tables.delservice svcid).2,
        if (state.tables.delservice svcid).1 = 0 then
          Function.update state.given (Mwd.svcid2idx svcid) none
        else state.given⟩
  | .other after => .ok { state with tables := after }

def CostState.enabled (state : CostState) : CostAction → Prop
  | .addlocalservice _ _ type => Mwd.IsSvcType type
  | .addremoteservice _ _ cost type => 0 ≤ cost ∧ cost ≤ intMax ∧ Mwd.IsSvcType type
  | .delservice _ => True
  | .other after =>
      after.svctblLength = state.tables.svctblLength ∧ after.svctbl = state.tables.svctbl

def serviceCosts : Machine CostState CostAction Mwd.TableFailure where
  start state := (∀ idx, (state.tables.svctbl idx).type = Mwd.unassigned) ∧
    ∀ idx, state.given idx = none
  enabled state := state.enabled
  step state := state.step

def CostState.provisions (state : CostState) (service : List Byte) : Set Provision :=
  { provision | ∃ idx, state.given idx = some provision ∧
    Mwd.sameSvcname provision.name service = true }

structure CostState.RightCost (state : CostState) (service : List Byte) (cost : Int) : Prop where
  unknown : state.provisions service = ∅ → cost = -1
  isLocal : (∃ provision ∈ state.provisions service, provision.cost = none) → cost = 0
  least : (state.provisions service).Nonempty →
    (∀ provision ∈ state.provisions service, provision.cost ≠ none) →
    IsLeast { imported | ∃ provision ∈ state.provisions service, provision.cost = some imported }
      cost

def freeEntry (tables : Mwd.Tables) : Option Int :=
  (Mwd.firstFree (fun step =>
      (tables.svctbl ((tables.nextService + step) % tables.svctblLength)).type == Mwd.unassigned) 0
    tables.svctblLength).map fun step => (tables.nextService + step) % tables.svctblLength

def MayProvide (tables : Mwd.Tables) (srvid : Int) : Prop :=
  Mwd.srvidOf srvid ≠ Mwd.unassigned ∧ ∃ srvidx, tables.getserverentry srvid = some srvidx ∧
    (tables.srvtbl srvidx).status ≠ Mwd.unassigned

def MayImport (tables : Mwd.Tables) (gwid : Int) : Prop :=
  Mwd.gwidOf gwid ≠ Mwd.unassigned ∧ ∃ gwidx, tables.getgatewayentry gwid = some gwidx ∧
    (tables.gwtbl gwidx).status ≠ Mwd.unassigned

/-- A service is a call service, and a local one gets an entry whose last import, if there was
one, had no cost. -/
def CostState.CostWritten (state : CostState) : CostAction → Prop
  | .addlocalservice srvid _ type => MayProvide state.tables srvid →
      ∀ idx, freeEntry state.tables = some idx →
        type = Mwd.mwCallSvc ∧ (state.tables.svctbl idx).cost = 0
  | .addremoteservice gwid _ _ type => MayImport state.tables gwid →
      ∀ idx, freeEntry state.tables = some idx → type = Mwd.mwCallSvc
  | .delservice _ | .other _ => True

/-- The outcome of `addservice`, the entry it takes included. -/
theorem addservice_freeEntry (tables : Mwd.Tables) (name : List Byte) (type : Int) :
    (tables.addservice name type = (rcOf .ENOSPC, tables)) ∨
      ∃ idx after, freeEntry tables = some idx ∧ tables.addservice name type = (idx, after) ∧
        0 ≤ idx ∧ idx < tables.svctblLength ∧ after.svctblLength = tables.svctblLength ∧
        after.gwtbl = tables.gwtbl ∧ after.svctbl = Function.update tables.svctbl idx
          { tables.svctbl idx with servicename := Mwd.copySvcname name, type := type } := by
  have positive : (0 : Int) < tables.svctblLength := Int.natCast_pos.mpr tables.svctblNonempty
  rw [Mwd.Tables.addservice, freeEntry]
  dsimp only
  cases Mwd.firstFree (fun step =>
      (tables.svctbl ((tables.nextService + step) % tables.svctblLength)).type == Mwd.unassigned) 0
      tables.svctblLength with
  | none => exact Or.inl rfl
  | some step =>
      exact Or.inr ⟨_, _, rfl, rfl, Int.emod_nonneg _ (Int.ne_of_gt positive),
        Int.emod_lt_of_pos _ positive, rfl, rfl, rfl⟩

section

variable {tables : Mwd.Tables} {name : List Byte} {type : Int}

theorem addservice_full (full : (tables.addservice name type).1 < 0) :
    tables.addservice name type = (rcOf .ENOSPC, tables) := by
  obtain refused | ⟨idx, after, _, added, lower, _⟩ := addservice_freeEntry tables name type
  · exact refused
  · rw [added] at full
    exact absurd full (Int.not_lt.mpr lower)

theorem addservice_entry (room : ¬(tables.addservice name type).1 < 0) :
    ∃ idx after, freeEntry tables = some idx ∧ tables.addservice name type = (idx, after) ∧
      0 ≤ idx ∧ idx < tables.svctblLength ∧ after.svctblLength = tables.svctblLength ∧
      after.gwtbl = tables.gwtbl ∧ after.svctbl = Function.update tables.svctbl idx
        { tables.svctbl idx with servicename := Mwd.copySvcname name, type := type } := by
  grind [absurd, addservice_freeEntry, rcOf_neg]

end

inductive Adds (tables : Mwd.Tables) (entry : Int → Mwd.Serviceentry) (result : Int × Mwd.Tables) :
    Prop
  | refused (error : result.1 < 0) (length : result.2.svctblLength = tables.svctblLength)
      (svctbl : result.2.svctbl = tables.svctbl)
  | added (idx : Int) (found : freeEntry tables = some idx) (lower : 0 ≤ idx)
      (upper : idx < tables.svctblLength) (id : result.1 = Mwd.idx2svcid idx)
      (length : result.2.svctblLength = tables.svctblLength)
      (svctbl : result.2.svctbl = Function.update tables.svctbl idx (entry idx))

theorem unassigned_neg : Mwd.unassigned < 0 := by decide

/-- Only a server that is attached adds a service. -/
theorem addlocalservice_adds (tables : Mwd.Tables) (srvid : Int) (name : List Byte) (type : Int) :
    ((tables.addlocalservice srvid name type).1 < 0 ∨ MayProvide tables srvid) ∧
      Adds tables (fun idx => (tables.svctbl idx).provided srvid name type)
        (tables.addlocalservice srvid name type) := by
  rw [Mwd.Tables.addlocalservice]
  split_ifs with noServer
  · exact ⟨Or.inl unassigned_neg, .refused unassigned_neg rfl rfl⟩
  cases entry : tables.getserverentry srvid with
  | none => exact ⟨Or.inl unassigned_neg, .refused unassigned_neg rfl rfl⟩
  | some srvidx =>
      dsimp only
      split_ifs with notAttached full
      · exact ⟨Or.inl (rcOf_neg .EINVAL), .refused (rcOf_neg .EINVAL) rfl rfl⟩
      all_goals
        have may : MayProvide tables srvid := ⟨noServer, srvidx, entry, notAttached⟩
        refine ⟨Or.inr may, ?_⟩
      · rw [addservice_full full]
        exact .refused (rcOf_neg .ENOSPC) rfl rfl
      · obtain ⟨idx, after, found, added, lower, upper, length, _, svctbl⟩ := addservice_entry full
        rw [added]
        refine .added idx found lower upper rfl length ?_
        change Function.update after.svctbl idx _ = _
        rw [svctbl, Function.update_self, Function.update_idem]
        rfl

/-- Only a gateway that is attached imports a service. -/
theorem addremoteservice_adds {tables : Mwd.Tables} {gwid : Int} {name : List Byte}
    {cost type : Int} {result : Int × Mwd.Tables}
    (done : tables.addremoteservice gwid name cost type = .ok result) :
    (result.1 < 0 ∨ MayImport tables gwid) ∧
      ∃ location, Adds tables
        (fun idx => (tables.svctbl idx).imported gwid name location cost type) result := by
  rw [Mwd.Tables.addremoteservice] at done
  split_ifs at done with noGateway
  · cases done
    exact ⟨Or.inl unassigned_neg, 0, .refused unassigned_neg rfl rfl⟩
  cases entry : tables.getgatewayentry gwid with
  | none =>
      simp [entry] at done
  | some gwidx =>
      rw [entry] at done
      dsimp only at done
      split_ifs at done with notAttached full
      · cases done
        exact ⟨Or.inl (rcOf_neg .EINVAL), 0, .refused (rcOf_neg .EINVAL) rfl rfl⟩
      all_goals
        cases done
        have may : MayImport tables gwid := ⟨noGateway, gwidx, entry, notAttached⟩
        refine ⟨Or.inr may, (tables.gwtbl gwidx).location, ?_⟩
      · rw [addservice_full full]
        exact .refused (rcOf_neg .ENOSPC) rfl rfl
      · obtain ⟨idx, after, found, added, lower, upper, length, gwtbl, svctbl⟩ :=
          addservice_entry full
        rw [added]
        refine .added idx found lower upper rfl length ?_
        change Function.update after.svctbl idx _ = _
        rw [svctbl, Function.update_self, Function.update_idem, gwtbl]
        rfl

theorem copySvcname_copy (name : List Byte) :
    Mwd.copySvcname (Mwd.copySvcname name) = Mwd.copySvcname name := by
  grind [Mwd.copySvcname, Nat.min_self, cstr_eq_self, nul_notMem_cstr]

/-- The entry of a service, which has the cost of an import and no cost without one. -/
structure Recorded (entry : Mwd.Serviceentry) (provision : Provision) : Prop where
  isCall : entry.type = Mwd.mwCallSvc
  named : entry.servicename = Mwd.copySvcname provision.name
  cost : entry.cost = provision.cost.getD 0
  lower : 0 ≤ entry.cost
  upper : entry.cost ≤ intMax

def RecordedAs (entry : Mwd.Serviceentry) : Option Provision → Prop
  | none => entry.type = Mwd.unassigned
  | some provision => Recorded entry provision

structure CostState.Recorded (state : CostState) : Prop where
  inside : ∀ idx provision, state.given idx = some provision →
    0 ≤ idx ∧ idx < state.tables.svctblLength
  entries : ∀ idx, RecordedAs (state.tables.svctbl idx) (state.given idx)

section

variable {state : CostState}

theorem CostState.Recorded.given (recorded : state.Recorded) {idx : Int} {provision : Provision}
    (isGiven : state.given idx = some provision) :
    Gateway.Recorded (state.tables.svctbl idx) provision := by
  have entry := recorded.entries idx
  rw [isGiven] at entry
  exact entry

theorem CostState.Recorded.of_same (recorded : state.Recorded) {after : Mwd.Tables}
    (length : after.svctblLength = state.tables.svctblLength)
    (svctbl : after.svctbl = state.tables.svctbl) :
    CostState.Recorded { state with tables := after } := by
  constructor
  · simp_all [recorded.inside]
  · simp [svctbl, recorded.entries]

/-- One entry changes, and what is recorded of it. -/
theorem CostState.Recorded.update (recorded : state.Recorded) {after : Mwd.Tables} {idx : Int}
    {entry : Mwd.Serviceentry} {given : Option Provision}
    (length : after.svctblLength = state.tables.svctblLength)
    (svctbl : after.svctbl = Function.update state.tables.svctbl idx entry)
    (inside : given ≠ none → 0 ≤ idx ∧ idx < state.tables.svctblLength)
    (isEntry : RecordedAs entry given) :
    CostState.Recorded ⟨after, Function.update state.given idx given⟩ := by
  constructor
  · intro other provision isGiven
    change 0 ≤ other ∧ other < (after.svctblLength : Int)
    rw [length]
    change Function.update state.given idx given other = some provision at isGiven
    obtain rfl | different := eq_or_ne other idx
    · simp_all [Function.update_self]
    · simp_all [Function.update_of_ne, recorded.inside]
  · intro other
    change RecordedAs (after.svctbl other) (Function.update state.given idx given other)
    rw [svctbl]
    obtain rfl | different := eq_or_ne other idx
    · simp [Function.update_self, isEntry]
    · simp_all [Function.update_of_ne, recorded.entries]

theorem CostState.Recorded.add (recorded : state.Recorded) {entry : Int → Mwd.Serviceentry}
    {result : Int × Mwd.Tables} (adds : Adds state.tables entry result) {provision : Provision}
    (isEntry : 0 ≤ result.1 → ∀ idx, freeEntry state.tables = some idx →
      Gateway.Recorded (entry idx) provision) :
    (state.add result provision).Recorded := by
  unfold CostState.add
  cases adds with
  | refused error length svctbl =>
      simp_all [recorded.of_same]
  | added idx found lower upper id length svctbl =>
      have fits := state.tables.svctblFits
      have idEq : result.1 = idx + Mwd.mwServiceMask := id.trans (Mwd.idx2svcid_eq lower upper)
      have index : Mwd.svcid2idx result.1 = idx := by
        rw [idEq]
        exact Mwd.id2idx_add Mwd.isMask_service lower (by omega)
      have isId : 0 ≤ result.1 := by
        grind [Mwd.mwServiceMask]
      rw [if_neg (Int.not_lt.mpr isId), index]
      exact recorded.update length svctbl (fun _ => ⟨lower, upper⟩) (isEntry isId idx found)

end

theorem recorded_kept :
    serviceCosts.Preserves (fun state => state.CostWritten) CostState.Recorded := by
  intro state action next recorded isEnabled written stepped
  cases action with
  | addlocalservice srvid name type =>
      cases stepped
      obtain ⟨may, adds⟩ := addlocalservice_adds state.tables srvid name type
      apply recorded.add adds
      intro isId idx found
      obtain ⟨isCall, noCost⟩ := written (may.resolve_left (Int.not_lt.mpr isId)) idx found
      exact ⟨isCall, rfl, noCost, Int.le_of_eq noCost.symm, by
        change (state.tables.svctbl idx).cost ≤ intMax
        rw [noCost]
        decide⟩
  | addremoteservice gwid name cost type =>
      obtain ⟨lower, upper, _⟩ := isEnabled
      change (match state.tables.addremoteservice gwid name cost type with
        | .error failure => .error failure
        | .ok result => .ok (state.add result ⟨name, some cost⟩)) = Except.ok next at stepped
      cases done : state.tables.addremoteservice gwid name cost type with
      | error failure =>
          simp [done] at stepped
      | ok result =>
          rw [done] at stepped
          cases stepped
          obtain ⟨may, location, adds⟩ := addremoteservice_adds done
          apply recorded.add adds
          intro isId idx found
          exact ⟨written (may.resolve_left (Int.not_lt.mpr isId)) idx found, rfl, rfl, lower, upper⟩
  | delservice svcid =>
      cases stepped
      by_cases isService : Mwd.svcidOf svcid = Mwd.unassigned
      · have same : state.tables.delservice svcid = (Mwd.unassigned, state.tables) := by
          rw [Mwd.Tables.delservice, if_pos isService]
        have notDeleted : ¬(state.tables.delservice svcid).1 = 0 := by
          rw [same]
          exact unassigned_neg.ne
        rw [if_neg notDeleted, same]
        exact recorded
      · have deleted : (state.tables.delservice svcid).1 = 0 := by
          rw [Mwd.Tables.delservice, if_neg isService]
        have svctbl := (Mwd.delservice_deleted isService state.tables).1
        rw [← Mwd.svcid2idx_of_ne isService] at svctbl
        rw [if_pos deleted]
        exact recorded.update (Mwd.delservice_sameMembers state.tables svcid).svctblLength svctbl
          (fun isGiven => absurd rfl isGiven) rfl
  | other after =>
      cases stepped
      exact recorded.of_same isEnabled.1 isEnabled.2

theorem leastCost_isLeast (entries : List Mwd.Serviceentry) {cost : Int} (isCost : 0 ≤ cost)
    (areCosts : ∀ entry ∈ entries, 0 ≤ entry.cost) :
    IsLeast (insert cost { least | ∃ entry ∈ entries, entry.cost = least })
      (leastCost cost entries) := by
  induction entries generalizing cost with
  | nil =>
      refine ⟨Or.inl rfl, ?_⟩
      intro other member
      obtain rfl | ⟨entry, inList, _⟩ := member
      · exact Int.le_refl _
      · cases inList
  | cons entry rest ih =>
      have entryCost := areCosts entry List.mem_cons_self
      have restCosts : ∀ entry ∈ rest, 0 ≤ entry.cost := fun other member =>
        areCosts other (List.mem_cons_of_mem _ member)
      rw [leastCost]
      split_ifs with isLocal isLess
      · refine ⟨Or.inr ⟨entry, List.mem_cons_self, isLocal⟩, ?_⟩
        intro other member
        obtain rfl | ⟨some, inList, rfl⟩ := member
        · exact isCost
        · exact areCosts some inList
      · obtain ⟨member, lower⟩ := ih entryCost restCosts
        constructor
        · grind
        · have below := lower (Or.inl rfl)
          intro value member
          obtain rfl | ⟨other, inList, rfl⟩ := member
          · exact below.trans (Int.le_of_lt isLess.2)
          · obtain rfl | inRest := List.mem_cons.mp inList
            · exact below
            · exact lower (Or.inr ⟨other, inRest, rfl⟩)
      · obtain ⟨member, lower⟩ := ih isCost restCosts
        constructor
        · grind
        · have below := lower (Or.inl rfl)
          intro value member
          obtain rfl | ⟨other, inList, rfl⟩ := member
          · exact below
          · obtain rfl | inRest := List.mem_cons.mp inList
            · exact below.trans (by omega)
            · exact lower (Or.inr ⟨other, inRest, rfl⟩)

theorem gwGetcostofservice_isLeast {tables : Mwd.Tables} {service : List Byte}
    (isFound : mwGetServicesByname tables service ≠ [])
    (areCosts : ∀ entry ∈ mwGetServicesByname tables service,
      0 ≤ entry.cost ∧ entry.cost ≤ intMax) :
    IsLeast { cost | ∃ entry ∈ mwGetServicesByname tables service, entry.cost = cost }
      (gwGetcostofservice tables service) := by
  rw [gwGetcostofservice, if_neg isFound]
  obtain ⟨member, lower⟩ := leastCost_isLeast (mwGetServicesByname tables service)
    (by decide : (0 : Int) ≤ intMax) fun entry member => (areCosts entry member).1
  constructor
  · obtain isMax | isEntry := member
    · obtain ⟨entry, inList⟩ := List.exists_mem_of_ne_nil _ isFound
      have below := lower (Or.inr ⟨entry, inList, rfl⟩)
      grind
    · exact isEntry
  · simp_all

section

variable {state : CostState}

/-- The search finds the entries of what was added under the name. -/
theorem CostState.Recorded.mem_byname (recorded : state.Recorded) (service : List Byte)
    (entry : Mwd.Serviceentry) :
    entry ∈ mwGetServicesByname state.tables service ↔
      ∃ idx provision, state.given idx = some provision ∧
        Mwd.sameSvcname provision.name service = true ∧ state.tables.svctbl idx = entry := by
  have sameName {idx : Int} {provision : Provision} (isGiven : state.given idx = some provision) :
      Mwd.sameSvcname (state.tables.svctbl idx).servicename service =
        Mwd.sameSvcname provision.name service := by
    rw [Mwd.sameSvcname, Mwd.sameSvcname, (recorded.given isGiven).named,
      copySvcname_copy]
  rw [mwGetServicesByname, List.mem_filter, List.mem_map]
  constructor
  · intro given
    obtain ⟨⟨idx, _, isEntry⟩, matched⟩ := given
    obtain ⟨isCall, named⟩ := Bool.and_eq_true_iff.mp matched
    cases isGiven : state.given idx with
    | none =>
        have isFree := recorded.entries idx
        rw [isGiven, isEntry] at isFree
        exact absurd (isFree.symm.trans (eq_of_beq isCall)) (by decide)
    | some provision =>
        grind
  · intro given
    obtain ⟨idx, provision, isGiven, named, isEntry⟩ := given
    obtain ⟨lower, upper⟩ := recorded.inside idx provision isGiven
    refine ⟨⟨idx.toNat, List.mem_range.mpr (by omega), ?_⟩, ?_⟩
    · simp_all
    · rw [← isEntry, sameName isGiven, named, (recorded.given isGiven).isCall]
      rfl

/-- The costs the search finds are those that were given. -/
theorem CostState.Recorded.costs (recorded : state.Recorded) (service : List Byte) :
    { cost | ∃ entry ∈ mwGetServicesByname state.tables service, entry.cost = cost } =
      { cost | ∃ provision ∈ state.provisions service, provision.cost.getD 0 = cost } := by
  ext cost
  constructor
  · intro given
    obtain ⟨entry, member, isCost⟩ := given
    obtain ⟨idx, provision, isGiven, named, rfl⟩ := (recorded.mem_byname service entry).mp member
    exact ⟨provision, ⟨idx, isGiven, named⟩,
      (recorded.given isGiven).cost.symm.trans isCost⟩
  · intro given
    obtain ⟨provision, ⟨idx, isGiven, named⟩, isCost⟩ := given
    exact ⟨state.tables.svctbl idx,
      (recorded.mem_byname service _).mpr ⟨idx, provision, isGiven, named, rfl⟩,
      (recorded.given isGiven).cost.trans isCost⟩

theorem CostState.Recorded.isLeast (recorded : state.Recorded) {service : List Byte}
    (known : (state.provisions service).Nonempty) :
    IsLeast { cost | ∃ provision ∈ state.provisions service, provision.cost.getD 0 = cost }
      (gwGetcostofservice state.tables service) := by
  rw [← recorded.costs service]
  apply gwGetcostofservice_isLeast
  · obtain ⟨provision, idx, isGiven, named⟩ := known
    exact List.ne_nil_of_mem
      ((recorded.mem_byname service _).mpr ⟨idx, provision, isGiven, named, rfl⟩)
  · intro entry member
    obtain ⟨idx, provision, isGiven, _, rfl⟩ := (recorded.mem_byname service entry).mp member
    exact ⟨(recorded.given isGiven).lower, (recorded.given isGiven).upper⟩

/-- Where the entries are as they were given, the cost of every service is right. -/
theorem CostState.Recorded.rightCost (recorded : state.Recorded) (service : List Byte) :
    state.RightCost service (gwGetcostofservice state.tables service) := by
  constructor
  · intro unknown
    have noEntry : mwGetServicesByname state.tables service = [] := by
      apply List.eq_nil_iff_forall_not_mem.mpr
      intro entry member
      obtain ⟨idx, provision, isGiven, named, _⟩ := (recorded.mem_byname service entry).mp member
      have isKnown : provision ∈ state.provisions service := ⟨idx, isGiven, named⟩
      rw [unknown] at isKnown
      exact isKnown
    rw [gwGetcostofservice, if_pos noEntry]
  · intro given
    obtain ⟨provision, member, isLocal⟩ := given
    have least := recorded.isLeast ⟨provision, member⟩
    apply Int.le_antisymm
    · exact least.2 ⟨provision, member, by rw [isLocal, Option.getD_none]⟩
    · obtain ⟨other, ⟨idx, isGiven, _⟩, isCost⟩ := least.1
      rw [← isCost, ← (recorded.given isGiven).cost]
      exact (recorded.given isGiven).lower
  · intro known allRemote
    have least := recorded.isLeast known
    have same : { cost | ∃ provision ∈ state.provisions service, provision.cost.getD 0 = cost } =
        { cost | ∃ provision ∈ state.provisions service, provision.cost = some cost } := by
      ext cost
      apply exists_congr
      intro provision
      apply and_congr_right
      intro member
      obtain ⟨imported, isCost⟩ := Option.ne_none_iff_exists'.mp (allRemote provision member)
      rw [isCost, Option.getD_some, Option.some_inj]
    rw [same] at least
    exact least

end

/-- The cost of every service is right as long as every cost is written. -/
theorem gwGetcostofservice_right {state : CostState}
    (reachable : serviceCosts.Reachable (fun state => state.CostWritten) state)
    (service : List Byte) :
    state.RightCost service (gwGetcostofservice state.tables service) := by
  have recorded : state.Recorded := by
    apply reachable.holds ?_ recorded_kept
    intro start isStart
    constructor
    · intro idx provision isGiven
      rw [isStart.2 idx] at isGiven
      cases isGiven
    · intro idx
      rw [isStart.2 idx]
      exact isStart.1 idx
  exact recorded.rightCost service

def membersOnly : CostState where
  tables := { Mwd.emptyTables with
    srvtbl := fun idx => ⟨5, 100 + idx, 0, Mwd.unassigned⟩
    gwtbl := fun idx => ⟨gwPeer, 0, 5, 200 + idx, 0⟩ }
  given := fun _ => none

theorem membersOnly_start : serviceCosts.start membersOnly := ⟨fun _ => rfl, fun _ => rfl⟩

/-- Two gateways import the service `S`. -/
def importTwice : List CostAction :=
  [.addremoteservice Mwd.mwGatewayMask [83] 5 Mwd.mwCallSvc,
    .addremoteservice (Mwd.mwGatewayMask + 1) [83] 3 Mwd.mwCallSvc]

theorem gwGetcostofservice_right_importTwice :
    gwGetcostofservice (importTwice.foldl serviceCosts.next membersOnly).tables [83] = 3 ∧
      (importTwice.foldl serviceCosts.next membersOnly).RightCost [83] 3 := by
  have cost : gwGetcostofservice (importTwice.foldl serviceCosts.next membersOnly).tables [83] = 3 :=
    by decide
  have right := @gwGetcostofservice_right (importTwice.foldl serviceCosts.next membersOnly)
    ((Machine.Reachable.start membersOnly_start).runs
      ⟨⟨by decide, by decide, Or.inl rfl⟩, fun _ _ _ => rfl, rfl,
        ⟨by decide, by decide, Or.inl rfl⟩, fun _ _ _ => rfl, rfl, trivial⟩) [83]
  rw [cost] at right
  exact ⟨cost, right⟩

/-- The first import is gone, and a server provides the service in its entry. -/
def importThenProvide : List CostAction :=
  importTwice ++ [.delservice Mwd.mwServiceMask, .delservice (Mwd.mwServiceMask + 1),
    .addlocalservice Mwd.mwServerMask [83] Mwd.mwCallSvc]

/-- The local service has the cost of the import that was in its entry. -/
theorem local_service_costs :
    ¬∀ state, serviceCosts.Reachable (fun _ _ => True) state → ∀ service,
      state.RightCost service (gwGetcostofservice state.tables service) := by
  intro right
  have reachable : serviceCosts.Reachable (fun _ _ => True)
      (importThenProvide.foldl serviceCosts.next membersOnly) := by
    apply (Machine.Reachable.start membersOnly_start).runs
    exact ⟨⟨by decide, by decide, Or.inl rfl⟩, trivial, rfl, ⟨by decide, by decide, Or.inl rfl⟩,
      trivial, rfl, trivial, trivial, rfl, trivial, trivial, rfl, Or.inl rfl, trivial, rfl, trivial⟩
  have free := (right _ reachable [83]).isLocal ⟨⟨[83], none⟩, ⟨0, rfl, by decide⟩, rfl⟩
  exact absurd free (by decide)

end MidWay.Gateway

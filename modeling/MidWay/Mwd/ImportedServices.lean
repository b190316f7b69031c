import MidWay.Mwd.Unprovide

/-!
Contract: what `mwd` does with the requests of a gateway about the services it imports.

Owns: `Registered`, the entries of an imported service, that a provide takes a free entry
when there is one, and that an unprovide with the id of an entry frees it.
-/

namespace MidWay.Mwd

open MidWay.CLib

structure Registered (tables : Tables) (gwid : Int) (name : List Byte) (idx : Int) : Prop where
  lower : 0 ≤ idx
  upper : idx < tables.svctblLength
  inUse : (tables.svctbl idx).type ≠ unassigned
  gateway : (tables.svctbl idx).gateway = gwid
  isName : (tables.svctbl idx).servicename = name

def Tables.Room (tables : Tables) : Prop :=
  ∃ idx : Int, 0 ≤ idx ∧ idx < tables.svctblLength ∧ (tables.svctbl idx).type = unassigned

/-- The message of `_mw_ipcsend_provide_for_id` in the name of a gateway. -/
def importMessage (gwid : Int) (name : List Byte) (cost : Int) : Provide :=
  ⟨-1, unassigned, gwid, name, cost, false, 0⟩

/-- The message of `_mw_ipcsend_unprovide_for_id` in the name of a gateway. -/
def unimportMessage (gwid : Int) (name : List Byte) (svcid : Int) : Provide :=
  ⟨-1, svcid, gwid, name, 0, false, 0⟩

section

variable {tables : Tables} {gwid gwidx idx : Int} {name : List Byte}

theorem addservice_room (room : tables.Room) (name : List Byte) (type : Int) :
    ∃ idx after, tables.addservice name type = (idx, after) ∧ 0 ≤ idx ∧
      idx < tables.svctblLength ∧ (tables.svctbl idx).type = unassigned ∧
      SameMembers tables after ∧ after.events = tables.events ∧
      after.svctbl = Function.update tables.svctbl idx
        { tables.svctbl idx with servicename := copySvcname name, type := type } := by
  rcases addservice_spec tables name type with refused | added
  · rcases room with ⟨idx, lower, upper, free⟩
    have positive : (0 : Int) < tables.svctblLength := Int.natCast_pos.mpr tables.svctblNonempty
    rw [Tables.addservice] at refused
    dsimp only at refused
    cases found : firstFree (fun step =>
        (tables.svctbl ((tables.nextService + step) % tables.svctblLength)).type == unassigned) 0
        tables.svctblLength with
    | none =>
        -- the search goes round, so it comes to the free entry
        have notFree := firstFree_none found
          (Int.emod_nonneg (idx - tables.nextService) (Int.ne_of_gt positive))
          (by rw [Int.zero_add]; exact Int.emod_lt_of_pos _ positive)
        grind [Int.add_emod_emod, Int.emod_eq_of_lt]
    | some step =>
        rw [found] at refused
        have isNegative : (tables.nextService + step) % tables.svctblLength = rcOf .ENOSPC :=
          congrArg Prod.fst refused
        have notNegative := Int.emod_nonneg (tables.nextService + step) (Int.ne_of_gt positive)
        grind [absurd, rcOf_neg]
  · exact added

/-- A gateway that is attached has an entry. -/
theorem getgatewayentry_of_byId (isId : gwid ≠ unassigned)
    (isGateway : tables.getGatewayById gwid = some gwidx) :
    gwidOf gwid ≠ unassigned ∧ tables.getgatewayentry gwid = some gwidx ∧
      (tables.gwtbl gwidx).status ≠ unassigned := by
  unfold Tables.getGatewayById entryById at isGateway
  split_ifs at isGateway with noMask outside notUsed
  have hasBit : hasMask mwGatewayMask gwid = true := by
    simp [noMask]
  have notZero : gwid ≠ 0 := by
    rintro rfl
    exact absurd hasBit (by decide)
  have isIndex := Option.some.inj isGateway
  have nonneg := indexOf_nonneg gwid
  refine ⟨?_, ?_, ?_⟩
  · simp_all [gwidOf, filterId]
  · unfold Tables.getgatewayentry getEntry id2idx
    rw [if_pos notZero, if_pos isId, if_pos hasBit]
    dsimp only
    rw [if_neg (by rw [unassigned]; omega), if_neg (by omega), isIndex]
  · simp_all

theorem addremoteservice_room (isMask : gwidOf gwid ≠ unassigned)
    (isEntry : tables.getgatewayentry gwid = some gwidx)
    (attached : (tables.gwtbl gwidx).status ≠ unassigned) (room : tables.Room) (name : List Byte)
    (cost : Int) {type : Int} (isType : IsSvcType type) :
    ∃ idx entry after,
      tables.addremoteservice gwid name cost type = .ok (idx + mwServiceMask, after) ∧
        Added gwid tables after idx entry ∧ entry.gateway = gwid ∧
        entry.servicename = copySvcname name := by
  have stillAttached : ¬((tables.use .gateway gwidx false).gwtbl gwidx).status = unassigned := attached
  have stillRoom : (tables.use .gateway gwidx false).Room := room
  rcases addservice_room stillRoom name type with
    ⟨idx, after, added, lower, upper, free, members, events, svctbl⟩
  have notNegative : ¬idx < 0 := Int.not_lt.mpr lower
  have inside : idx < tables.svctblLength := upper
  unfold Tables.addremoteservice
  rw [if_neg isMask, isEntry]
  dsimp only
  rw [if_neg stillAttached, added]
  dsimp only
  rw [if_neg notNegative, idx2svcid_eq lower inside]
  refine ⟨idx, (tables.svctbl idx).imported gwid name (after.gwtbl gwidx).location cost type, _, rfl,
    ⟨⟨members.clttblLength, members.srvtblLength, members.svctblLength, members.gwtblLength,
      members.clttbl, members.srvtbl, members.gwtbl⟩, lower, inside, free, isType, ?_, ?_⟩, rfl, rfl⟩
  · change Function.update after.svctbl idx _ = _
    rw [svctbl, Function.update_self, Function.update_idem]
    rfl
  · change after.events ++ [_] = _
    rw [events]
    rfl

/-- A provide of a gateway that is attached takes a free entry. -/
theorem doProvide_imports {status : Status} (notDown : status ≠ .shutdown) (isId : gwid ≠ unassigned)
    (isGateway : tables.getGatewayById gwid = some gwidx) (room : tables.Room) (name : List Byte)
    (cost : Int) :
    ∃ idx entry after, tables.doProvide status (importMessage gwid name cost) =
        .ok ({ importMessage gwid name cost with svcid := idx + mwServiceMask }, after) ∧
      Added gwid tables after idx entry ∧ entry.gateway = gwid ∧
      entry.servicename = copySvcname name := by
  rcases getgatewayentry_of_byId isId isGateway with ⟨isMask, isEntry, attached⟩
  have stillEntry : (tables.use .gateway gwidx false).getgatewayentry gwid = some gwidx := isEntry
  have isType : IsSvcType mwCallSvc := Or.inl rfl
  rcases addremoteservice_room isMask stillEntry attached room name cost isType with
    ⟨idx, entry, after, isRemote, added, gateway, isName⟩
  have notNegative : ¬idx + mwServiceMask < 0 := by
    have lower := added.lower
    rw [mwServiceMask]
    omega
  have noServer : ¬(-1 : Int) ≠ -1 := not_not.mpr rfl
  refine ⟨idx, entry, after, ?_, added.of_use, gateway, isName⟩
  unfold Tables.doProvide
  rw [if_neg notDown]
  refine (if_neg noServer).trans ((if_pos isId).trans ?_)
  simp_all [importMessage, isGateway, Bool.false_eq_true, isRemote, Provide.answer, if_neg]

theorem doUnprovide_sameMembers (tables : Tables) (pmesg : Provide) :
    SameMembers tables (tables.doUnprovide pmesg).2 := by
  unfold Tables.doUnprovide
  cases tables.getserviceentry (svcidOf pmesg.svcid) with
  | none => exact SameMembers.refl tables
  | some idx =>
      exact ((use_unchanged tables _ _ _).members.trans (useProvider_unchanged _ _).members).trans
        (delservice_sameMembers _ _)

end

section

variable {tables after : Tables} {gwid other idx index : Int} {name any : List Byte}
  {entry : Serviceentry}

theorem SameMembers.getGatewayById (members : SameMembers tables after) (gwid : Int) :
    after.getGatewayById gwid = tables.getGatewayById gwid := by
  unfold Tables.getGatewayById
  rw [members.gwtblLength, members.gwtbl]

theorem registered_iff (length : after.svctblLength = tables.svctblLength)
    (stays : after.svctbl index = tables.svctbl index) :
    Registered after other any index ↔ Registered tables other any index := by
  constructor
  · rintro ⟨lower, upper, inUse, isGateway, isService⟩
    rw [stays] at inUse isGateway isService
    rw [length] at upper
    exact ⟨lower, upper, inUse, isGateway, isService⟩
  · rintro ⟨lower, upper, inUse, isGateway, isService⟩
    rw [← stays] at inUse isGateway isService
    rw [← length] at upper
    exact ⟨lower, upper, inUse, isGateway, isService⟩

/-- A new entry is registered for its service, and the others stay. -/
theorem Added.registered (added : Added gwid tables after idx entry) (gateway : entry.gateway = gwid)
    (isName : entry.servicename = name) :
    Registered after other any index ↔
      Registered tables other any index ∨ (index = idx ∧ other = gwid ∧ any = name) := by
  by_cases same : index = idx
  · subst same
    have isEntry : after.svctbl index = entry := by
      rw [added.svctbl, Function.update_self]
    constructor
    · rintro ⟨_, _, _, isGateway, isService⟩
      simp_all [isEntry, isGateway, gateway, isService, isName, Or.inr]
    · rintro (before | ⟨_, rfl, rfl⟩)
      · exact absurd added.free before.inUse
      · have upper : index < after.svctblLength := by
          rw [added.members.svctblLength]
          exact added.upper
        refine ⟨added.lower, upper, ?_, ?_, ?_⟩
        · simp [isEntry, added.isType.ne_unassigned]
        · rw [isEntry, gateway]
        · rw [isEntry, isName]
  · have stays : after.svctbl index = tables.svctbl index := by
      rw [added.svctbl, Function.update_of_ne same]
    rw [registered_iff added.members.svctblLength stays]
    exact ⟨Or.inl, fun either => either.resolve_right fun isNew => same isNew.1⟩

/-- An unprovide with the id of an entry takes that entry. -/
theorem doUnprovide_registered (registered : Registered tables gwid name idx) (sender : Int)
    (service : List Byte) :
    Registered (tables.doUnprovide (unimportMessage sender service (idx + mwServiceMask))).2 other any
        index ↔ Registered tables other any index ∧ index ≠ idx := by
  have lower := registered.lower
  have upper := registered.upper
  have fits := tables.svctblFits
  have isNat : ((idx.toNat : Nat) : Int) = idx := Int.toNat_of_nonneg lower
  have inside : idx.toNat < tables.svctblLength := by omega
  have names : (unimportMessage sender service (idx + mwServiceMask)).svcid =
      orMask mwServiceMask idx.toNat := by
    rw [isNat, orMask_index isMask_service lower (by omega)]
    rfl
  have cleared := doUnprovide_clears inside names
  have members := doUnprovide_sameMembers tables
    (unimportMessage sender service (idx + mwServiceMask))
  rw [isNat] at cleared
  generalize (tables.doUnprovide (unimportMessage sender service (idx + mwServiceMask))).2 = after at *
  by_cases same : index = idx
  · subst same
    refine ⟨fun isIn => absurd ?_ isIn.inUse, fun both => absurd rfl both.2⟩
    rw [cleared, Function.update_self]
    rfl
  · have stays : after.svctbl index = tables.svctbl index := by
      rw [cleared, Function.update_of_ne same]
    rw [registered_iff members.svctblLength stays]
    exact (and_iff_left same).symm

end

end MidWay.Mwd

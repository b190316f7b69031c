import MidWay.Gateway.Imports

/-!
Contract: what is left of the list of imports when one import is withdrawn, and what
`unimportservice` returns.

The loop that takes an import out of the list moves the head of the list instead of the
pointer it searches with, so the imports in front of it are lost. The variable that is
returned is set only where the loop does not find the import, which does not happen.

Owns: `unimportserviceRc`, the list as it should be, and when it is so.
-/

namespace MidWay.Gateway

open MidWay.CLib

/-- The loop over the list, which is what is behind the import afterwards; `none` where the end
is reached. -/
def unlinkImport : Nat → List ImportEntry → Option (List ImportEntry)
  | _, [] => none
  | 0, _ :: next => some next
  | index + 1, _ :: next => unlinkImport index next

/-- `error` is what the variable held at the start. -/
def PeerTables.unimportserviceRc (tables : PeerTables) (service : List Byte) (pi : Option Nat)
    (error : Int) : Int × PeerTables :=
  match pi with
  | none => (rcOf .EINVAL, tables)
  | some peer =>
      match tables.impfind service with
      | none => (error, tables)
      | some index =>
          let links := (tables.importlist[index]?.map ImportEntry.peerlist).getD []
          match links.find? fun pl => pl.peer == peer with
          | none => (error, tables)
          | some pl =>
              let tables := if pl.svcid ≠ unassigned then
                  { tables with
                    requests := tables.requests ++
                      [.unprovide (tables.gwidOf peer) (cstr service) pl.svcid] }
                else tables
              let tables := tables.setLinks index (links.erase pl)
              if links.erase pl ≠ [] then (error, tables)
              else
                match unlinkImport index tables.importlist with
                | none => (rcOf .EFAULT, { tables with importlist := [] })
                | some next => (error, { tables with importlist := next })

def ImportEntry.isOf (imp : ImportEntry) (service : List Byte) : Bool :=
  cstr imp.servicename == cstr service

def importLinks (service : List Byte) (imports : List ImportEntry) : List ImportLink :=
  ((imports.find? fun imp => imp.isOf service).map ImportEntry.peerlist).getD []

def withdraw (service : List Byte) (peer : Nat) : List ImportEntry → List ImportEntry
  | [] => []
  | imp :: rest =>
      if imp.isOf service then
        let links := imp.peerlist.eraseP fun pl => pl.peer == peer
        if links = [] ∧ imp.peerlist ≠ [] then rest
        else { imp with peerlist := links } :: rest
      else imp :: withdraw service peer rest

/-- What the call promises: the list is as it should be, and a link that was there is removed with
the result 0. -/
structure Withdrawn (service : List Byte) (peer : Nat) (before : PeerTables)
    (result : Int × PeerTables) : Prop where
  importlist : result.2.importlist = withdraw service peer before.importlist
  rc : (∃ pl ∈ importLinks service before.importlist, pl.peer = peer) → result.1 = 0

theorem unlinkImport_eq_drop (index : Nat) (imports : List ImportEntry)
    (inside : index < imports.length) :
    unlinkImport index imports = some (imports.drop (index + 1)) := by
  induction imports generalizing index with
  | nil => exact absurd inside (Nat.not_lt_zero index)
  | cons imp next ih =>
      cases index with
      | zero => rfl
      | succ index => exact ih index (Nat.lt_of_succ_lt_succ inside)

section

variable {tables : PeerTables} {service : List Byte} {peer : Nat} {error : Int}

/-- The loop always finds the import. -/
theorem unimportserviceRc_eq (tables : PeerTables) (service : List Byte) (peer : Nat)
    (error : Int) :
    tables.unimportserviceRc service (some peer) error =
      (error, tables.unimportservice service (some peer)) := by
  unfold PeerTables.unimportserviceRc PeerTables.unimportservice
  cases isFound : tables.impfind service with
  | none => rfl
  | some index =>
      have inside : index < tables.importlist.length :=
        (List.findIdx?_eq_some_iff_getElem.mp isFound).1
      dsimp only
      cases (List.find? (fun pl : ImportLink => pl.peer == peer)
          ((tables.importlist[index]?.map ImportEntry.peerlist).getD [])) with
      | none => rfl
      | some pl =>
          dsimp only
          have unlinked (asked : PeerTables) (same : asked.importlist = tables.importlist)
              (links : List ImportLink) :
              unlinkImport index (asked.setLinks index links).importlist =
                some ((asked.setLinks index links).importlist.drop (index + 1)) := by
            apply unlinkImport_eq_drop
            rw [PeerTables.setLinks, List.length_modify, same]
            exact inside
          by_cases more : ((tables.importlist[index]?.map ImportEntry.peerlist).getD []).erase pl ≠ []
          · rw [if_pos more, if_pos more]
          · rw [if_neg more, if_neg more, unlinked]
            · rfl
            · grind

theorem importLinks_eq_nil (absent : tables.impfind service = none) :
    importLinks service tables.importlist = [] := by
  have notFound : tables.importlist.find? (fun imp => imp.isOf service) = none :=
    List.find?_eq_none.mpr fun imp member =>
      Bool.eq_false_iff.mp (List.findIdx?_eq_none_iff.mp absent imp member)
  rw [importLinks, notFound]
  rfl

theorem withdraw_absent (imports : List ImportEntry)
    (absent : ∀ imp ∈ imports, imp.isOf service = false) : withdraw service peer imports = imports := by
  induction imports with
  | nil => rfl
  | cons imp rest ih =>
      simp_all [withdraw]

theorem withdraw_append (front back : List ImportEntry)
    (isOther : ∀ imp ∈ front, imp.isOf service = false) :
    withdraw service peer (front ++ back) = front ++ withdraw service peer back := by
  induction front with
  | nil => rfl
  | cons imp rest ih =>
      simp_all [List.cons_append, withdraw]

theorem erase_found {Entry : Type} [BEq Entry] [LawfulBEq Entry] {property : Entry → Bool}
    {entries : List Entry} {entry : Entry} (isFirst : entries.find? property = some entry) :
    entries.erase entry = entries.eraseP property := by
  induction entries with
  | nil => cases isFirst
  | cons first rest ih =>
      grind

/-- Where the import of the service is. -/
theorem impfind_split {index : Nat} (isFound : tables.impfind service = some index) :
    ∃ front imp back, tables.importlist = front ++ imp :: back ∧ front.length = index ∧
      imp.isOf service = true ∧ (∀ other ∈ front, other.isOf service = false) ∧
      importLinks service tables.importlist = imp.peerlist := by
  obtain ⟨inside, isName, isFirst⟩ := List.findIdx?_eq_some_iff_getElem.mp isFound
  have split : tables.importlist = tables.importlist.take index ++
      tables.importlist[index] :: tables.importlist.drop (index + 1) := by
    rw [← List.drop_eq_getElem_cons, List.take_append_drop]
  have isOther : ∀ other ∈ tables.importlist.take index, other.isOf service = false := by
    intro other member
    obtain ⟨place, before, rfl⟩ := List.mem_take_iff_getElem.mp member
    exact Bool.eq_false_iff.mpr (isFirst place (by omega))
  generalize tables.importlist[index] = imp at split isName
  change imp.isOf service = true at isName
  grind [List.length_take, Nat.min_eq_left, Nat.le_of_lt, importLinks]

def Imports (tables : PeerTables) (service : List Byte) (peer : Nat) : Prop :=
  ∃ pl ∈ importLinks service tables.importlist, pl.peer = peer

/-- Either nothing is to be removed, or the variable that is returned holds 0, and the import keeps
another link or is at the head of the list. -/
def Withdrawable (tables : PeerTables) (service : List Byte) (peer : Nat) (error : Int) : Prop :=
  Imports tables service peer → error = 0 ∧
    (1 < (importLinks service tables.importlist).length ∨ tables.impfind service = some 0)

theorem unimportservice_unlinked (noLink : ¬Imports tables service peer) :
    tables.unimportservice service (some peer) = tables ∧
      withdraw service peer tables.importlist = tables.importlist := by
  cases isFound : tables.impfind service with
  | none =>
      constructor
      · simp [isFound, PeerTables.unimportservice]
      · apply withdraw_absent
        exact fun imp member => List.findIdx?_eq_none_iff.mp isFound imp member
  | some index =>
      obtain ⟨front, imp, back, split, rfl, isName, isOther, links⟩ := impfind_split isFound
      have noPeer : ∀ pl ∈ imp.peerlist, ¬(pl.peer == peer) = true := by
        intro pl member isPeer
        rw [← links] at member
        exact noLink ⟨pl, member, eq_of_beq isPeer⟩
      constructor
      · unfold PeerTables.unimportservice
        grind
      · simp_all [withdraw_append, withdraw, List.eraseP_of_forall_not]

/-- A link goes, and with the last one the import, and those in front of it. -/
theorem unimportservice_linked (isLink : Imports tables service peer) :
    ∃ front imp back, tables.importlist = front ++ imp :: back ∧
      tables.impfind service = some front.length ∧
      importLinks service tables.importlist = imp.peerlist ∧
      if 1 < imp.peerlist.length then
        (tables.unimportservice service (some peer)).importlist =
          withdraw service peer tables.importlist
      else
        (tables.unimportservice service (some peer)).importlist = back ∧
          withdraw service peer tables.importlist = front ++ back := by
  obtain ⟨pl, member, isPeer⟩ := isLink
  cases isFound : tables.impfind service with
  | none =>
      simp_all [importLinks_eq_nil]
  | some index =>
      obtain ⟨front, imp, back, split, rfl, isName, isOther, links⟩ := impfind_split isFound
      rw [links] at member
      obtain ⟨link, isFirst⟩ := Option.isSome_iff_exists.mp
        (List.find?_isSome.mpr ⟨pl, member, beq_iff_eq.mpr isPeer⟩ :
          (imp.peerlist.find? fun pl => pl.peer == peer).isSome)
      have isIn := List.mem_of_find?_eq_some isFirst
      have shorter := List.length_erase_of_mem isIn
      have list : (tables.unimportservice service (some peer)).importlist =
          if imp.peerlist.erase link ≠ [] then
            front ++ { imp with peerlist := imp.peerlist.erase link } :: back
          else back := by
        rw [unimportservice_split split isFound isFirst]
      have spec : withdraw service peer tables.importlist =
          front ++ if imp.peerlist.erase link ≠ [] then
            { imp with peerlist := imp.peerlist.erase link } :: back else back := by
        rw [split, withdraw_append front _ isOther, withdraw, if_pos isName, erase_found isFirst]
        dsimp only
        by_cases last : (imp.peerlist.eraseP fun pl => pl.peer == peer) = []
        · rw [if_pos ⟨last, List.ne_nil_of_mem isIn⟩, if_neg (not_not.mpr last)]
        · rw [if_neg fun both => last both.1, if_pos last]
      grind

/-- One import is withdrawn and the others are left alone, in exactly these cases. -/
theorem unimportservice_withdrawn_iff (tables : PeerTables) (service : List Byte) (peer : Nat)
    (error : Int) :
    Withdrawn service peer tables (tables.unimportserviceRc service (some peer) error) ↔
      Withdrawable tables service peer error := by
  rw [unimportserviceRc_eq]
  by_cases isLink : Imports tables service peer
  · obtain ⟨front, imp, back, split, isFound, links, outcome⟩ := unimportservice_linked isLink
    unfold Withdrawable
    rw [links, isFound]
    split_ifs at outcome with more
    · constructor
      · intro withdrawn _
        exact ⟨withdrawn.rc isLink, Or.inl more⟩
      · intro able
        exact ⟨outcome, fun _ => (able isLink).1⟩
    · constructor
      · intro withdrawn _
        have same : back = front ++ back :=
          outcome.1.symm.trans (withdrawn.importlist.trans outcome.2)
        have noFront : front = [] := List.self_eq_append_left.mp same
        exact ⟨withdrawn.rc isLink, Or.inr (by rw [noFront, List.length_nil])⟩
      · intro able
        obtain ⟨isZero, other | isHead⟩ := able isLink
        · exact absurd other more
        · have noFront : front = [] := List.length_eq_zero_iff.mp (Option.some.inj isHead)
          refine ⟨?_, fun _ => isZero⟩
          rw [outcome.2, noFront]
          exact outcome.1
  · obtain ⟨same, spec⟩ := unimportservice_unlinked isLink
    constructor
    · intro _ linked
      exact absurd linked isLink
    · intro _
      refine ⟨?_, fun linked => absurd linked isLink⟩
      rw [same, spec]

end

/-- A peer that provides `B` and `A`. -/
def twoImports : PeerTables :=
  ⟨[⟨[80], 0, 0x04000001, some 5⟩],
    [⟨[66], [⟨0, unassigned⟩]⟩, ⟨[65], [⟨0, unassigned⟩]⟩], [], []⟩

/-- With `A` goes `B`, and the result is whatever the variable held. -/
theorem unimportservice_drops_front :
    ¬Withdrawn [65] 0 twoImports (twoImports.unimportserviceRc [65] (some 0) 0) ∧
      ¬Withdrawn [66] 0 twoImports (twoImports.unimportserviceRc [66] (some 0) 7) := by
  constructor
  · intro withdrawn
    exact absurd withdrawn.importlist (by decide)
  · intro withdrawn
    exact absurd (withdrawn.rc ⟨⟨0, unassigned⟩, by decide, rfl⟩) (by decide)

end MidWay.Gateway

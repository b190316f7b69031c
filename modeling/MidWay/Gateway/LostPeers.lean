import MidWay.Gateway.Peers
import MidWay.Lib.Holders

/-!
Contract: what is left of a peer in the lists of a gateway when it is lost.

No import and no export is to have a link to the peer, imports without links go, and
`mwd` is told about every service that was provided in the name of the peer. The code
tells `mwd` only when the peer was the last one with the service.

Owns: `PeerTables.without`, and the tables for which `impexp_cleanuppeer` leaves that.
-/

namespace MidWay.Gateway

open MidWay.CLib MidWay.Lib

variable {pl : ImportLink} {front back : List ImportLink}

def ImportEntry.linksTo (imp : ImportEntry) (peer : Nat) : List ImportLink :=
  imp.peerlist.filter fun pl => pl.peer = peer

def ImportEntry.otherLinks (imp : ImportEntry) (peer : Nat) : List ImportLink :=
  imp.peerlist.filter fun pl => pl.peer ≠ peer

/-- An import stays with its other links, and goes when it has none. -/
def ImportEntry.without (peer : Nat) (imp : ImportEntry) : Option ImportEntry :=
  if imp.otherLinks peer = [] then none else some { imp with peerlist := imp.otherLinks peer }

/-- What `mwd` is to be asked: each link that has an id is unprovided. -/
def PeerTables.unprovides (tables : PeerTables) (peer : Nat) (imp : ImportEntry) :
    List ServiceRequest :=
  ((imp.linksTo peer).filter fun pl => pl.svcid ≠ unassigned).map fun pl =>
    .unprovide (tables.gwidOf peer) imp.servicename pl.svcid

/-- The tables with nothing of the peer in the lists, and everything else as it was. -/
def PeerTables.without (tables : PeerTables) (peer : Nat) : PeerTables :=
  { tables with
    importlist := tables.importlist.filterMap (ImportEntry.without peer)
    exportlist := tables.exportlist.map fun exp =>
      { exp with peerlist := exp.peerlist.filter fun other => other ≠ peer }
    requests := tables.requests ++ tables.importlist.flatMap (tables.unprovides peer) }

/-- The import has links, at most one of them to the peer, and that one has no id or is the only
link. -/
structure ImportEntry.Sole (imp : ImportEntry) (peer : Nat) : Prop where
  linked : imp.peerlist ≠ []
  once : (imp.linksTo peer).length ≤ 1
  alone : ∀ pl ∈ imp.linksTo peer, pl.svcid ≠ unassigned → imp.peerlist = [pl]

theorem erase_middle {peer : Nat} (isPeer : pl.peer = peer)
    (others : ∀ other ∈ front, other.peer ≠ peer) :
    (front ++ pl :: back).erase pl = front ++ back := by
  grind

theorem eq_singleton_of_erase {links : List ImportLink} (member : pl ∈ links)
    (empty : links.erase pl = []) : links = [pl] := by
  have sizes := List.length_erase_of_mem member
  rw [empty, List.length_nil] at sizes
  have positive := List.length_pos_of_mem member
  obtain ⟨only, single⟩ := List.length_eq_one_iff.mp (show links.length = 1 by omega)
  rw [single, List.mem_singleton] at member
  rw [single, member]

section

variable (tables : PeerTables) (peer : Nat) (imp : ImportEntry)

theorem linksTo_split (isPeer : pl.peer = peer) (others : ∀ other ∈ front, other.peer ≠ peer)
    (split : imp.peerlist = front ++ pl :: back) :
    imp.linksTo peer = pl :: back.filter (fun pl => pl.peer = peer) ∧
      imp.otherLinks peer = front ++ back.filter fun pl => pl.peer ≠ peer := by
  have noPeer : front.filter (fun pl => pl.peer = peer) = [] := by
    simp_all [List.filter_eq_nil_iff]
  have allOther : front.filter (fun pl => pl.peer ≠ peer) = front := by
    simp_all [List.filter_eq_self]
  unfold ImportEntry.linksTo ImportEntry.otherLinks
  rw [split, List.filter_append, List.filter_append, noPeer, allOther,
    List.filter_cons_of_pos (by simpa using isPeer),
    List.filter_cons_of_neg (by simpa using isPeer)]
  exact ⟨rfl, rfl⟩

/-- Without a link to the peer only an import that has none at all is to go. -/
theorem sole_of_noLink (noLink : imp.linksTo peer = []) :
    (some imp = imp.without peer ∧ [] = tables.unprovides peer imp) ↔ imp.Sole peer := by
  have noPeer : ∀ pl ∈ imp.peerlist, pl.peer ≠ peer := by
    simp_all [ImportEntry.linksTo]
  have allOther : imp.otherLinks peer = imp.peerlist := by
    simp_all [List.filter_eq_self, ImportEntry.otherLinks]
  have nothing : tables.unprovides peer imp = [] := by
    rw [PeerTables.unprovides, noLink, List.filter_nil, List.map_nil]
  constructor
  · rintro ⟨kept, -⟩
    refine ⟨fun empty => ?_, by simp [noLink], by simp [noLink]⟩
    simp_all [ImportEntry.without, if_pos, kept]
  · intro sole
    simp [ImportEntry.without, allOther, if_neg, sole.linked, nothing.symm]

/-- The only link goes, and the import with it. -/
theorem sole_of_single (isPeer : pl.peer = peer) (single : imp.peerlist = [pl]) :
    imp.Sole peer ∧ imp.without peer = none ∧
      tables.unprovides peer imp =
        if pl.svcid ≠ unassigned then
          [.unprovide (tables.gwidOf peer) imp.servicename pl.svcid]
        else [] := by
  have split : imp.peerlist = [] ++ pl :: [] := single
  obtain ⟨links, others⟩ := linksTo_split peer imp isPeer (List.forall_mem_nil _) split
  rw [List.filter_nil] at links others
  have sole : imp.Sole peer := by
    refine ⟨by simp [single], by simp [links], ?_⟩
    simp [links, List.mem_singleton, single]
  refine ⟨sole, if_pos others, ?_⟩
  grind [PeerTables.unprovides]

/-- With other links the import stays, and `mwd` is told nothing. -/
theorem sole_of_more (isPeer : pl.peer = peer) (others : ∀ other ∈ front, other.peer ≠ peer)
    (split : imp.peerlist = front ++ pl :: back) (more : front ++ back ≠ []) :
    (some { imp with peerlist := front ++ back } = imp.without peer ∧
        [] = tables.unprovides peer imp) ↔ imp.Sole peer := by
  obtain ⟨links, rest⟩ := linksTo_split peer imp isPeer others split
  constructor
  · rintro ⟨kept, told⟩
    have same : imp.otherLinks peer = front ++ back := by
      grind [Option.some.injEq, ImportEntry.mk.injEq, ImportEntry.without]
    have onlyOthers : back.filter (fun pl => pl.peer ≠ peer) = back :=
      List.append_cancel_left (rest.symm.trans same)
    have noPeer : back.filter (fun pl => pl.peer = peer) = [] := by
      grind [List.filter_eq_nil_iff]
    rw [noPeer] at links
    have noId : pl.svcid = unassigned := by
      grind [PeerTables.unprovides, List.filter_cons_of_pos]
    refine ⟨by simp [split], by simp [links], ?_⟩
    simp [links, List.mem_singleton, absurd, noId]
  · intro sole
    have noPeer : back.filter (fun pl => pl.peer = peer) = [] := by
      have once := sole.once
      simp_all [links, List.length_cons]
    have onlyOthers : back.filter (fun pl => pl.peer ≠ peer) = back := by
      simp_all [List.filter_eq_self]
    rw [onlyOthers] at rest
    rw [noPeer] at links
    have noId : pl.svcid = unassigned := by
      by_contra assigned
      have alone := sole.alone pl (by simp [links]) assigned
      rw [split] at alone
      have sizes := congrArg List.length alone
      rw [List.length_append, List.length_cons, List.length_singleton] at sizes
      have empty : (front ++ back).length = 0 := by
        grind
      exact more (List.length_eq_zero_iff.mp empty)
    refine ⟨?_, ?_⟩
    · rw [ImportEntry.without, rest, if_neg more]
    · simp_all [PeerTables.unprovides, List.filter_cons_of_neg]

/-- One import. -/
theorem cleanImport_iff :
    ((tables.cleanImport peer imp).1 = imp.without peer ∧
        (tables.cleanImport peer imp).2 = tables.unprovides peer imp) ↔ imp.Sole peer := by
  unfold PeerTables.cleanImport
  cases found : imp.peerlist.find? fun pl => pl.peer == peer with
  | none =>
      grind [List.filter_eq_nil_iff, ImportEntry.linksTo, sole_of_noLink]
  | some pl =>
      obtain ⟨isPeer, front, back, split, others⟩ := List.find?_eq_some_iff_append.mp found
      have isPeer : pl.peer = peer := beq_iff_eq.mp isPeer
      have others : ∀ other ∈ front, other.peer ≠ peer := by
        simp_all
      have erased : imp.peerlist.erase pl = front ++ back := by
        rw [split, erase_middle isPeer others]
      dsimp only
      rw [erased]
      by_cases more : front ++ back ≠ []
      · rw [if_pos more]
        exact sole_of_more tables peer imp isPeer others split more
      · rw [if_neg more]
        obtain ⟨noFront, noBack⟩ := List.append_eq_nil_iff.mp (not_not.mp more)
        rw [noFront, noBack, List.nil_append] at split
        obtain ⟨sole, gone, told⟩ := sole_of_single tables peer imp isPeer split
        grind

/-- The code keeps no fewer imports than it should, and sends no more. -/
theorem cleanImport_bounds :
    (imp.without peer).toList.length ≤ (tables.cleanImport peer imp).1.toList.length ∧
      (tables.cleanImport peer imp).2.length ≤ (tables.unprovides peer imp).length := by
  have atMostOne : (imp.without peer).toList.length ≤ 1 := Option.length_toList_le
  unfold PeerTables.cleanImport
  cases found : imp.peerlist.find? fun pl => pl.peer == peer with
  | none => exact ⟨atMostOne, Nat.zero_le _⟩
  | some pl =>
      dsimp only
      by_cases more : imp.peerlist.erase pl ≠ []
      · simp_all
      · rw [if_neg more]
        have isPeer := List.find?_some found
        rw [beq_iff_eq] at isPeer
        have single : imp.peerlist = [pl] :=
          eq_singleton_of_erase (List.mem_of_find?_eq_some found) (not_not.mp more)
        obtain ⟨-, gone, told⟩ := sole_of_single tables peer imp isPeer single
        grind

end

/-- Two lists made piece by piece, one of them of pieces that are never longer, are the same only
piece by piece. -/
theorem forall_eq_of_flatMap_eq {α β : Type} {shorter longer : α → List β}
    (bound : ∀ a, (shorter a).length ≤ (longer a).length) {as : List α}
    (same : as.flatMap shorter = as.flatMap longer) : ∀ a ∈ as, shorter a = longer a := by
  have total : ∀ as : List α, (as.flatMap shorter).length ≤ (as.flatMap longer).length := by
    intro as
    induction as with
    | nil => exact Nat.le_refl _
    | cons a as ih =>
        simp_all [List.flatMap_cons, List.length_append, Nat.add_le_add]
  induction as with
  | nil => exact List.forall_mem_nil _
  | cons a as ih =>
      rw [List.flatMap_cons, List.flatMap_cons] at same
      have sizes := congrArg List.length same
      rw [List.length_append, List.length_append] at sizes
      have first := bound a
      have rest := total as
      obtain ⟨head, tail⟩ := List.append_inj same (by omega)
      rw [List.forall_mem_cons]
      exact ⟨head, ih tail⟩

theorem toList_injective {α : Type} {first second : Option α}
    (same : first.toList = second.toList) : first = second := by
  cases first <;> cases second <;> simp_all

theorem imports_iff (tables : PeerTables) (peer : Nat) (imports : List ImportEntry) :
    ((imports.map (tables.cleanImport peer)).filterMap Prod.fst =
          imports.filterMap (ImportEntry.without peer) ∧
        (imports.map (tables.cleanImport peer)).flatMap Prod.snd =
          imports.flatMap (tables.unprovides peer)) ↔ ∀ imp ∈ imports, imp.Sole peer := by
  rw [List.filterMap_map, List.flatMap_map, List.filterMap_eq_flatMap_toList,
    List.filterMap_eq_flatMap_toList]
  constructor
  · rintro ⟨kept, told⟩ imp member
    have kept := forall_eq_of_flatMap_eq
      (fun imp => (cleanImport_bounds tables peer imp).1) kept.symm imp member
    have told := forall_eq_of_flatMap_eq
      (fun imp => (cleanImport_bounds tables peer imp).2) told imp member
    exact (cleanImport_iff tables peer imp).mp ⟨(toList_injective kept).symm, told⟩
  · intro sole
    constructor
    · apply List.flatMap_congr
      intro imp member
      exact congrArg Option.toList ((cleanImport_iff tables peer imp).mpr (sole imp member)).1
    · grind [List.flatMap_congr, cleanImport_iff]

theorem erase_eq_filter_iff (peer : Nat) (peerlist : List Nat) :
    peerlist.erase peer = (peerlist.filter fun other => other ≠ peer) ↔
      peerlist.count peer ≤ 1 := by
  constructor
  · intro same
    have counts := congrArg (List.count peer) same
    have none : (peerlist.filter fun other => other ≠ peer).count peer = 0 := by
      simp [List.count_eq_zero]
    rw [List.count_erase_self, none] at counts
    omega
  · grind [filter_ne_eq_erase]

/-- What `impexp_cleanuppeer` leaves is what is to be left for just these lists. -/
theorem impexpCleanuppeer_without_iff (tables : PeerTables) (peer : Nat) :
    tables.impexpCleanuppeer peer = tables.without peer ↔
      (∀ imp ∈ tables.importlist, imp.Sole peer) ∧
        ∀ exp ∈ tables.exportlist, exp.peerlist.count peer ≤ 1 := by
  have exports :
      (tables.exportlist.map fun exp => { exp with peerlist := exp.peerlist.erase peer }) =
          (tables.exportlist.map fun exp =>
            { exp with peerlist := exp.peerlist.filter fun other => other ≠ peer }) ↔
        ∀ exp ∈ tables.exportlist, exp.peerlist.count peer ≤ 1 := by
    rw [List.map_inj_left]
    apply forall₂_congr
    intro exp member
    rw [ExportEntry.mk.injEq, eq_self, eq_self, true_and, true_and]
    exact erase_eq_filter_iff peer exp.peerlist
  unfold PeerTables.impexpCleanuppeer PeerTables.impcleanuppeer PeerTables.expcleanuppeer
    PeerTables.without
  rw [PeerTables.mk.injEq, eq_self, true_and, List.append_cancel_left_eq, exports,
    ← imports_iff tables peer tables.importlist]
  constructor
  · rintro ⟨kept, once, told⟩
    exact ⟨⟨kept, told⟩, once⟩
  · rintro ⟨⟨kept, told⟩, once⟩
    exact ⟨kept, once, told⟩

/-- Two peers with one service, both of them with an id from `mwd`. -/
def sharedService : PeerTables where
  peers := [⟨[97], 0, 0x04000001, some 5⟩, ⟨[98], 0, 0x04000002, some 6⟩]
  importlist := [⟨[116], [⟨0, 0x08000001⟩, ⟨1, 0x08000002⟩]⟩]
  exportlist := []
  requests := []

/-- The entry of the lost peer stays in the service table of `mwd`. -/
theorem impexpCleanuppeer_not_told :
    sharedService.impexpCleanuppeer 0 ≠ sharedService.without 0 ∧
      (sharedService.impexpCleanuppeer 0).requests = [] ∧
      (sharedService.without 0).requests = [.unprovide 0x04000001 [116] 0x08000001] := by
  decide

end MidWay.Gateway

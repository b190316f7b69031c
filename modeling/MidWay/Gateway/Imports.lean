import MidWay.Gateway.Exports
import MidWay.Gateway.LostPeers

/-!
Contract: the list of imports of a gateway as a relation between services, peers and the
ids that `mwd` gave.

Every step of the list changes the relation at one service and one peer, or at one peer
for all services, when the names fit, a link that goes has its id, and the import of a
last link is the first of the list.

Owns: `linksIn`, `PeerTables.Linked`, `ImportsOk`, and what `importservice`,
`unimportservice`, `impsetsvcid` and `impcleanuppeer` do to them.
-/

namespace MidWay.Gateway

open MidWay.CLib MidWay.Srb

variable {links : List ImportLink} {pl : ImportLink}

def linksIn (imports : List ImportEntry) (name : List Byte) : List ImportLink :=
  ((imports.find? fun imp => imp.servicename == name).map ImportEntry.peerlist).getD []

def PeerTables.Linked (tables : PeerTables) (name : List Byte) (peer : Nat) (svcid : UInt32) :
    Prop :=
  ⟨peer, svcid⟩ ∈ linksIn tables.importlist name

structure ImportOk (imp : ImportEntry) : Prop where
  isName : IsName imp.servicename
  linked : imp.peerlist ≠ []
  once : (imp.peerlist.map ImportLink.peer).Nodup

structure ImportsOk (imports : List ImportEntry) : Prop where
  distinct : (imports.map ImportEntry.servicename).Nodup
  each : ∀ imp ∈ imports, ImportOk imp

section

variable {imports front back : List ImportEntry} {imp : ImportEntry} {name : List Byte}

theorem linksIn_cons :
    linksIn (imp :: imports) name =
      if imp.servicename = name then imp.peerlist else linksIn imports name := by
  grind [linksIn]

theorem linksIn_absent (absent : ∀ imp ∈ imports, imp.servicename ≠ name) :
    linksIn imports name = [] := by
  rw [linksIn, List.find?_eq_none.mpr]
  · rfl
  · simp_all

theorem linksIn_split (isOther : ∀ other ∈ front, other.servicename ≠ imp.servicename) :
    linksIn (front ++ imp :: back) name =
      if imp.servicename = name then imp.peerlist else linksIn (front ++ back) name := by
  induction front with
  | nil => exact linksIn_cons
  | cons first front ih =>
      rw [List.forall_mem_cons] at isOther
      rw [List.cons_append, List.cons_append, linksIn_cons, linksIn_cons,
        ih isOther.2]
      grind

theorem linksIn_replaced (isOther : ∀ other ∈ front, other.servicename ≠ imp.servicename)
    (links : List ImportLink) :
    linksIn (front ++ { imp with peerlist := links } :: back) name =
      if imp.servicename = name then links else linksIn (front ++ back) name :=
  linksIn_split isOther

theorem mem_linksIn (member : pl ∈ linksIn imports name) :
    ∃ imp ∈ imports, imp.servicename = name ∧ pl ∈ imp.peerlist := by
  rw [linksIn] at member
  cases found : imports.find? fun imp => imp.servicename == name with
  | none =>
      simp [found] at member
  | some imp =>
      grind

theorem ImportsOk.split (ok : ImportsOk (front ++ imp :: back)) :
    (∀ other ∈ front ++ back, other.servicename ≠ imp.servicename) ∧ ImportOk imp ∧
      ImportsOk (front ++ back) := by
  have perm : (front ++ imp :: back).Perm (imp :: (front ++ back)) := List.perm_middle
  have distinct := (perm.map ImportEntry.servicename).nodup_iff.mp ok.distinct
  rw [List.map_cons, List.nodup_cons] at distinct
  refine ⟨?_, ok.each imp (perm.mem_iff.mpr List.mem_cons_self), distinct.2, ?_⟩
  · grind
  · intro other member
    exact ok.each other (perm.mem_iff.mpr (List.mem_cons_of_mem _ member))

theorem ImportsOk.insert (ok : ImportsOk (front ++ back)) (impOk : ImportOk imp)
    (isOther : ∀ other ∈ front ++ back, other.servicename ≠ imp.servicename) :
    ImportsOk (front ++ imp :: back) := by
  have perm : (front ++ imp :: back).Perm (imp :: (front ++ back)) := List.perm_middle
  refine ⟨(perm.map ImportEntry.servicename).nodup_iff.mpr ?_, ?_⟩
  · rw [List.map_cons, List.nodup_cons]
    refine ⟨?_, ok.distinct⟩
    simp_all
  · intro other member
    rcases List.mem_cons.mp (perm.mem_iff.mp member) with rfl | isIn
    · exact impOk
    · exact ok.each other isIn

theorem ImportsOk.linksIn_of_mem (ok : ImportsOk imports) (member : imp ∈ imports) :
    linksIn imports imp.servicename = imp.peerlist := by
  obtain ⟨front, back, rfl⟩ := List.append_of_mem member
  rw [linksIn_split fun other isIn => ok.split.1 other (List.mem_append_left _ isIn), if_pos rfl]

theorem modify_split {Entry : Type} {front back : List Entry} {entry : Entry}
    {change : Entry → Entry} :
    (front ++ entry :: back).modify front.length change = front ++ change entry :: back := by
  induction front with
  | nil => rfl
  | cons first front ih =>
      simp [List.cons_append, List.length_cons, List.modify_succ_cons, ih]

end

section

variable {tables after : PeerTables} {around : Surroundings} {service name : List Byte} {peer : Nat}

/-- Where the import of a service is, if there is one. -/
theorem impfind_cases (ok : ImportsOk tables.importlist) (service : List Byte) :
    (tables.impfind service = none ∧ ∀ imp ∈ tables.importlist, imp.servicename ≠ cstr service) ∨
      ∃ front imp back, tables.importlist = front ++ imp :: back ∧
        imp.servicename = cstr service ∧ tables.impfind service = some front.length := by
  cases found : tables.impfind service with
  | none =>
      refine Or.inl ⟨rfl, ?_⟩
      intro imp member same
      have differs := List.findIdx?_eq_none_iff.mp found imp member
      rw [(ok.each imp member).isName.text, same] at differs
      simp at differs
  | some index =>
      obtain ⟨inside, isName, _⟩ := List.findIdx?_eq_some_iff_getElem.mp found
      have member := List.getElem_mem inside
      rw [(ok.each _ member).isName.text] at isName
      refine Or.inr ⟨tables.importlist.take index, tables.importlist[index],
        tables.importlist.drop (index + 1), ?_, eq_of_beq isName, ?_⟩
      · rw [← List.drop_eq_getElem_cons, List.take_append_drop]
      · rw [List.length_take, Nat.min_eq_left (Nat.le_of_lt inside)]

theorem ImportsOk.impfind_split (ok : ImportsOk tables.importlist) {front back : List ImportEntry}
    {imp : ImportEntry} (split : tables.importlist = front ++ imp :: back)
    (isName : imp.servicename = cstr service) : tables.impfind service = some front.length := by
  have listOk := ok
  rw [split] at listOk
  have absent : front.findIdx? (fun imp => cstr imp.servicename == cstr service) = none := by
    rw [List.findIdx?_eq_none_iff]
    intro other member
    have isIn : other ∈ front ++ imp :: back := List.mem_append_left _ member
    rw [(listOk.each other isIn).isName.text, ← isName, beq_eq_false_iff_ne]
    exact listOk.split.1 other (List.mem_append_left _ member)
  have here : (cstr imp.servicename == cstr service) = true := by
    rw [listOk.split.2.1.isName.text, isName, beq_self_eq_true]
  grind [PeerTables.impfind, List.findIdx]

theorem links_split {front back : List ImportEntry} {imp : ImportEntry} :
    (((front ++ imp :: back)[front.length]?).map ImportEntry.peerlist).getD [] = imp.peerlist := by
  simp

theorem setLinks_split {front back : List ImportEntry} {imp : ImportEntry}
    (split : tables.importlist = front ++ imp :: back) (links : List ImportLink) :
    tables.setLinks front.length links =
      { tables with importlist := front ++ { imp with peerlist := links } :: back } := by
  rw [PeerTables.setLinks, split, modify_split]

/-- The first link to a peer goes, and its import with the last link. -/
theorem unimportservice_split {front back : List ImportEntry} {imp : ImportEntry}
    (split : tables.importlist = front ++ imp :: back)
    (found : tables.impfind service = some front.length)
    (isFirst : imp.peerlist.find? (fun pl => pl.peer == peer) = some pl) :
    tables.unimportservice service (some peer) =
      { tables with
        importlist := if imp.peerlist.erase pl ≠ [] then
          front ++ { imp with peerlist := imp.peerlist.erase pl } :: back else back
        requests := tables.requests ++ if pl.svcid ≠ unassigned then
          [.unprovide (tables.gwidOf peer) (cstr service) pl.svcid] else [] } := by
  have drops (imp : ImportEntry) : (front ++ imp :: back).drop (front.length + 1) = back := by
    simp
  have links : (tables.importlist[front.length]?.map ImportEntry.peerlist).getD [] =
      imp.peerlist := by
    rw [split, links_split]
  have goes (asked : PeerTables) (same : asked.importlist = front ++ imp :: back) :
      (if imp.peerlist.erase pl ≠ [] then asked.setLinks front.length (imp.peerlist.erase pl)
        else (asked.setLinks front.length (imp.peerlist.erase pl)).dropImport front.length) =
        { asked with
          importlist := if imp.peerlist.erase pl ≠ [] then
            front ++ { imp with peerlist := imp.peerlist.erase pl } :: back else back } := by
    rw [setLinks_split same]
    split_ifs
    · rfl
    · rw [PeerTables.dropImport, drops]
  unfold PeerTables.unimportservice
  grind

theorem find_link (once : (links.map ImportLink.peer).Nodup) (member : pl ∈ links) :
    links.find? (fun other => other.peer == pl.peer) = some pl := by
  cases found : links.find? fun other => other.peer == pl.peer with
  | none =>
      grind
  | some other =>
      have samePeer : other.peer = pl.peer := by
        grind
      rw [List.inj_on_of_nodup_map once (List.mem_of_find?_eq_some found) member samePeer]

theorem mem_erase_link (once : (links.map ImportLink.peer).Nodup) (member : pl ∈ links)
    (other : ImportLink) :
    other ∈ links.erase pl ↔ other ∈ links ∧ other.peer ≠ pl.peer := by
  rw [(List.Nodup.of_map _ once).mem_erase_iff]
  constructor
  · grind [List.inj_on_of_nodup_map]
  · grind

theorem ImportOk.replace {imp : ImportEntry} (impOk : ImportOk imp) (linked : links ≠ [])
    (once : (links.map ImportLink.peer).Nodup) :
    ImportOk { imp with peerlist := links } :=
  ⟨impOk.isName, linked, once⟩

structure Unlinked (tables after : PeerTables) (name : List Byte) (peer : Nat) (svcid : UInt32) :
    Prop where
  was : tables.Linked name peer svcid
  ok : ImportsOk after.importlist
  peers : after.peers = tables.peers
  requests : after.requests = tables.requests ++
    if svcid ≠ unassigned then [.unprovide (tables.gwidOf peer) name svcid] else []
  linked : ∀ other any id, after.Linked other any id ↔
    tables.Linked other any id ∧ ¬(other = name ∧ any = peer)

/-- A service is unimported, when the import of a last link is the first of the list. -/
theorem unimportservice_spec (ok : ImportsOk tables.importlist)
    (isFirst : ∀ svcid, linksIn tables.importlist (cstr service) = [⟨peer, svcid⟩] →
      tables.impfind service = some 0) :
    (tables.unimportservice service (some peer) = tables ∧
        ∀ svcid, ¬tables.Linked (cstr service) peer svcid) ∨
      ∃ svcid, Unlinked tables (tables.unimportservice service (some peer)) (cstr service) peer
        svcid := by
  rcases impfind_cases ok service with ⟨notFound, absent⟩ | ⟨front, imp, back, split, isName, found⟩
  · simp_all [PeerTables.Linked, linksIn_absent, PeerTables.unimportservice, Or.inl]
  · have listOk := ok
    rw [split] at listOk
    rcases listOk.split with ⟨isOther, impOk, restOk⟩
    have inFront : ∀ other ∈ front, other.servicename ≠ imp.servicename :=
      fun other member => isOther other (List.mem_append_left _ member)
    have links (name : List Byte) : linksIn tables.importlist name =
        if imp.servicename = name then imp.peerlist else linksIn (front ++ back) name := by
      rw [split, linksIn_split inFront]
    have ownLinks : linksIn tables.importlist (cstr service) = imp.peerlist := by
      rw [links, if_pos isName]
    cases isLink : imp.peerlist.find? fun pl => pl.peer == peer with
    | none =>
        refine Or.inl ⟨?_, ?_⟩
        · simp [found, split, isLink, PeerTables.unimportservice]
        · grind [PeerTables.Linked]
    | some pl =>
        have member := List.mem_of_find?_eq_some isLink
        have isPeer : pl.peer = peer := by
          grind
        have after := unimportservice_split split found isLink
        have stays (name : List Byte) : linksIn (if imp.peerlist.erase pl ≠ [] then
            front ++ { imp with peerlist := imp.peerlist.erase pl } :: back else back) name =
              if imp.servicename = name then imp.peerlist.erase pl
              else linksIn (front ++ back) name := by
          split_ifs with more same same
          · rw [linksIn_replaced inFront, if_pos same]
          · rw [linksIn_replaced inFront, if_neg same]
          · rw [not_not] at more
            simp_all [linksIn_absent]
          · rw [not_not] at more
            have alone : linksIn tables.importlist (cstr service) = [⟨peer, pl.svcid⟩] := by
              rw [ownLinks, eq_singleton_of_erase member more, ← isPeer]
            simp_all [List.nil_append]
        refine Or.inr ⟨pl.svcid, ?_, ?_, ?_, ?_, ?_⟩
        · rw [PeerTables.Linked, ownLinks, ← isPeer]
          exact member
        · rw [after]
          dsimp only
          split_ifs with more
          · refine ImportsOk.insert restOk (impOk.replace more ?_) isOther
            exact impOk.once.sublist (List.Sublist.map _ List.erase_sublist)
          · refine ⟨?_, fun other isIn => restOk.each other (List.mem_append_right _ isIn)⟩
            have distinct := restOk.distinct
            grind
        · rw [after]
        · rw [after]
        · intro other any id
          rw [after, PeerTables.Linked, PeerTables.Linked]
          dsimp only
          rw [stays, links]
          split_ifs with same
          · rw [mem_erase_link impOk.once member, isPeer, ← isName, same]
            simp
          · grind

structure Asked (tables after : PeerTables) (name : List Byte) (peer : Nat) (cost : Int) : Prop where
  isName : IsName name
  new : ∀ svcid, ¬tables.Linked name peer svcid
  ok : ImportsOk after.importlist
  peers : after.peers = tables.peers
  requests : after.requests = tables.requests ++ [.provide (tables.gwidOf peer) name cost]
  linked : ∀ other any id, after.Linked other any id ↔
    tables.Linked other any id ∨ (other = name ∧ any = peer ∧ id = unassigned)

theorem singleton_ok {name : List Byte} (isName : IsName name) (pl : ImportLink) :
    ImportOk ⟨name, [pl]⟩ :=
  ⟨isName, List.cons_ne_nil _ _, List.nodup_singleton _⟩

/-- A link that was added last and has no id goes without a trace. -/
theorem unimportservice_last (ok : ImportsOk tables.importlist) {front back : List ImportEntry}
    (split : tables.importlist = front ++ ⟨cstr service, links ++ [⟨peer, unassigned⟩]⟩ :: back) :
    tables.unimportservice service (some peer) =
      { tables with
        importlist := if links ≠ [] then front ++ ⟨cstr service, links⟩ :: back else back } := by
  have impOk : ImportOk ⟨cstr service, links ++ [⟨peer, unassigned⟩]⟩ := by
    simp [split, ok.each]
  have once : ((links ++ [(⟨peer, unassigned⟩ : ImportLink)]).map ImportLink.peer).Nodup :=
    impOk.once
  have member : (⟨peer, unassigned⟩ : ImportLink) ∈ links ++ [⟨peer, unassigned⟩] :=
    List.mem_append_right _ (List.mem_singleton.mpr rfl)
  have absent : ⟨peer, unassigned⟩ ∉ links := by
    grind
  have erased : (links ++ [(⟨peer, unassigned⟩ : ImportLink)]).erase ⟨peer, unassigned⟩ = links := by
    rw [List.erase_append_right _ absent, List.erase_cons_head, List.append_nil]
  rw [unimportservice_split split (ok.impfind_split split rfl) (find_link once member)]
  simp [erased, List.append_nil]

/-- The new link is the last of the import, and goes again when `mwd` cannot be asked. -/
theorem importservice_split (around : Surroundings) (ok : ImportsOk tables.importlist)
    {front back : List ImportEntry}
    (split : tables.importlist = front ++ ⟨cstr service, links⟩ :: back) (cost : Int)
    (isNew : ∀ pl ∈ links, pl.peer ≠ peer) :
    ImportsOk (front ++ ⟨cstr service, links ++ [⟨peer, unassigned⟩]⟩ :: back) ∧
      tables.importservice around service cost (some peer) =
        .ok (if around.provideRc < 0 then tables else
          { tables with
            importlist := front ++ ⟨cstr service, links ++ [⟨peer, unassigned⟩]⟩ :: back
            requests := tables.requests ++
              [.provide (tables.gwidOf peer) (cstr service) cost] }) := by
  have found := ok.impfind_split split rfl
  have listOk := ok
  rw [split] at listOk
  rcases listOk.split with ⟨isOther, impOk, restOk⟩
  have newOk : ImportsOk (front ++ ⟨cstr service, links ++ [⟨peer, unassigned⟩]⟩ :: back) := by
    refine restOk.insert (impOk.replace (by simp) ?_) isOther
    rw [List.map_append, List.nodup_append]
    refine ⟨impOk.once, List.nodup_singleton _, ?_⟩
    simp_all
  refine ⟨newOk, ?_⟩
  have found_links : (tables.importlist[front.length]?.map ImportEntry.peerlist).getD [] = links := by
    rw [split, links_split]
  have noLink : ¬(links.any fun pl => pl.peer == peer) = true := by
    simp_all [List.any_eq_true]
  unfold PeerTables.importservice PeerTables.condnewimport
  rw [found]
  dsimp only
  rw [found_links, if_neg noLink, setLinks_split split]
  split_ifs with refused
  · rw [unimportservice_last newOk rfl, if_pos impOk.linked]
    dsimp only
    rw [← split]
  · rfl

/-- The import of a new service is the first of the list. -/
theorem importservice_first (around : Surroundings) (peer : Nat) (ok : ImportsOk tables.importlist)
    (isName : IsName (cstr service))
    (absent : ∀ imp ∈ tables.importlist, imp.servicename ≠ cstr service) (cost : Int)
    (notFound : tables.impfind service = none) :
    ImportsOk (⟨cstr service, [⟨peer, unassigned⟩]⟩ :: tables.importlist) ∧
      tables.importservice around service cost (some peer) =
        .ok (if around.provideRc < 0 then tables else
          { tables with
            importlist := ⟨cstr service, [⟨peer, unassigned⟩]⟩ :: tables.importlist
            requests := tables.requests ++
              [.provide (tables.gwidOf peer) (cstr service) cost] }) := by
  have split : (⟨cstr service, [⟨peer, unassigned⟩]⟩ : ImportEntry) :: tables.importlist =
      [] ++ ⟨cstr service, [] ++ [⟨peer, unassigned⟩]⟩ :: tables.importlist := rfl
  have newOk : ImportsOk (⟨cstr service, [⟨peer, unassigned⟩]⟩ :: tables.importlist) := by
    grind [ImportsOk.insert, singleton_ok]
  have fits : (cstr service).take mwMaxSvcName = cstr service :=
    List.take_of_length_le (Nat.le_of_lt isName.fits)
  refine ⟨newOk, ?_⟩
  unfold PeerTables.importservice PeerTables.condnewimport
  rw [notFound]
  dsimp only
  rw [fits]
  dsimp only [List.getElem?_cons_zero, Option.map_some, Option.getD_some, List.any_nil,
    PeerTables.setLinks, List.modify_zero_cons, List.nil_append]
  simp only [Bool.false_eq_true, ↓reduceIte]
  split_ifs with refused
  · rw [unimportservice_last newOk split, if_neg (not_not.mpr rfl)]
  · rfl

/-- A service is imported: the list is as it was, or has one more link and `mwd` is asked. -/
theorem importservice_spec (ok : ImportsOk tables.importlist) (isName : IsName (cstr service))
    {cost : Int} (done : tables.importservice around service cost (some peer) = .ok after) :
    after = tables ∨ Asked tables after (cstr service) peer cost := by
  rcases impfind_cases ok service with
    ⟨notFound, absent⟩ | ⟨front, ⟨name, links⟩, back, split, sameName, found⟩
  · rcases importservice_first around peer ok isName absent cost notFound with ⟨newOk, imported⟩
    rw [imported] at done
    split_ifs at done
    · exact Or.inl (Except.ok.inj done).symm
    · obtain rfl := Except.ok.inj done
      have noLinks : linksIn tables.importlist (cstr service) = [] := linksIn_absent absent
      refine Or.inr ⟨isName, ?_, newOk, rfl, rfl, ?_⟩
      · simp [PeerTables.Linked, noLinks]
      · grind [PeerTables.Linked, linksIn_cons]
  · obtain rfl : name = cstr service := sameName
    by_cases isNew : ∀ pl ∈ links, pl.peer ≠ peer
    · rcases importservice_split around ok split cost isNew with ⟨newOk, imported⟩
      have listOk := ok
      rw [split] at listOk
      rcases listOk.split with ⟨isOther, _, _⟩
      have inFront : ∀ other ∈ front, other.servicename ≠ cstr service :=
        fun other member => isOther other (List.mem_append_left _ member)
      rw [imported] at done
      split_ifs at done
      · exact Or.inl (Except.ok.inj done).symm
      · obtain rfl := Except.ok.inj done
        refine Or.inr ⟨isName, ?_, newOk, rfl, rfl, ?_⟩
        · intro svcid linked
          rw [PeerTables.Linked, split, linksIn_split inFront, if_pos rfl] at linked
          exact isNew _ linked rfl
        · grind [PeerTables.Linked, linksIn_split, List.mem_singleton]
    · -- the loop finds the link and leaves the list as it is
      refine Or.inl ?_
      push Not at isNew
      rcases isNew with ⟨pl, member, isPeer⟩
      have found_links : (tables.importlist[front.length]?.map ImportEntry.peerlist).getD [] =
          links := by
        rw [split, links_split]
      unfold PeerTables.importservice PeerTables.condnewimport at done
      rw [found] at done
      dsimp only at done
      rw [found_links, if_pos] at done
      · exact (Except.ok.inj done).symm
      · rw [List.any_eq_true]
        exact ⟨pl, member, beq_iff_eq.mpr isPeer⟩

/-- A link takes the id of the reply. -/
theorem impsetsvcid_spec (ok : ImportsOk tables.importlist) {old : UInt32}
    (linked : tables.Linked (cstr service) peer old)
    (isOnly : ∀ other, tables.gwidOf other = tables.gwidOf peer → other = peer) (svcid : UInt32) :
    ImportsOk (tables.impsetsvcid service svcid (tables.gwidOf peer)).importlist ∧
      (tables.impsetsvcid service svcid (tables.gwidOf peer)).peers = tables.peers ∧
      (tables.impsetsvcid service svcid (tables.gwidOf peer)).requests = tables.requests ∧
      ∀ other any id, (tables.impsetsvcid service svcid (tables.gwidOf peer)).Linked other any id ↔
        if other = cstr service ∧ any = peer then id = svcid else tables.Linked other any id := by
  rcases impfind_cases ok service with
    ⟨_, absent⟩ | ⟨front, ⟨name, peerlist⟩, back, split, sameName, found⟩
  · simp_all [PeerTables.Linked, linksIn_absent]
  · obtain rfl : name = cstr service := sameName
    have listOk := ok
    rw [split] at listOk
    rcases listOk.split with ⟨isOther, impOk, restOk⟩
    have inFront : ∀ other ∈ front, other.servicename ≠ cstr service :=
      fun other member => isOther other (List.mem_append_left _ member)
    rw [PeerTables.Linked, split, linksIn_split inFront, if_pos rfl] at linked
    obtain ⟨before, behind, isLinks⟩ := List.append_of_mem linked
    have isPeerlist : peerlist = before ++ ⟨peer, old⟩ :: behind := isLinks
    have once : ((before ++ ⟨peer, old⟩ :: behind).map ImportLink.peer).Nodup := by
      rw [← isPeerlist]
      exact impOk.once
    have others : ∀ pl ∈ before ++ behind, pl.peer ≠ peer := by
      grind
    have place : peerlist.findIdx? (fun pl => tables.gwidOf pl.peer == tables.gwidOf peer) =
        some before.length := by
      have notBefore : before.findIdx?
          (fun pl => tables.gwidOf pl.peer == tables.gwidOf peer) = none := by
        rw [List.findIdx?_eq_none_iff]
        intro pl member
        rw [beq_eq_false_iff_ne]
        exact fun same => others pl (List.mem_append_left _ member) (isOnly pl.peer same)
      rw [isPeerlist, List.findIdx?_append, notBefore, List.findIdx?_cons, beq_self_eq_true]
      simp
    have found_links : (tables.importlist[front.length]?.map ImportEntry.peerlist).getD [] =
        peerlist := by
      rw [split, links_split]
    have after : tables.impsetsvcid service svcid (tables.gwidOf peer) =
        { tables with
          importlist := front ++ ⟨cstr service, before ++ ⟨peer, svcid⟩ :: behind⟩ :: back } := by
      rw [PeerTables.impsetsvcid, found]
      dsimp only
      rw [found_links, place]
      dsimp only
      rw [setLinks_split split, isPeerlist, modify_split]
    rw [after]
    refine ⟨restOk.insert (impOk.replace (by simp) ?_) isOther, rfl, rfl, ?_⟩
    · simp_all [List.map_append, List.map_cons]
    · intro other any id
      rw [PeerTables.Linked, PeerTables.Linked]
      dsimp only
      rw [split, linksIn_split inFront, linksIn_split inFront]
      dsimp only
      by_cases same : cstr service = other
      · grind
      · grind

end

inductive Ask where
  | provide
  | unprovide (svcid : UInt32)
deriving DecidableEq, Repr

def ServiceRequest.ask (gwid : UInt32) (name : List Byte) : ServiceRequest → Option Ask
  | .provide id service _ => if id = gwid ∧ service = name then some .provide else none
  | .unprovide id service svcid =>
      if id = gwid ∧ service = name then some (.unprovide svcid) else none

def asks (gwid : UInt32) (name : List Byte) (requests : List ServiceRequest) : List Ask :=
  requests.filterMap (ServiceRequest.ask gwid name)

def PeerTables.SoleProvider (tables : PeerTables) (peer : Nat) : Prop :=
  ∀ imp ∈ tables.importlist, ∀ pl ∈ imp.peerlist, pl.peer = peer →
    pl.svcid ≠ unassigned ∧ imp.peerlist = [pl]

structure Cleaned (tables after : PeerTables) (peer : Nat) : Prop where
  ok : ImportsOk after.importlist
  peers : after.peers = tables.peers
  requests : ∃ extra, after.requests = tables.requests ++ extra ∧
    (∀ request ∈ extra, ∃ name svcid, request = .unprovide (tables.gwidOf peer) name svcid) ∧
    ∀ gwid name, asks gwid name extra = if gwid = tables.gwidOf peer then
      ((linksIn tables.importlist name).filter fun pl => pl.peer = peer).map fun pl =>
        .unprovide pl.svcid else []
  linked : ∀ name any id, after.Linked name any id ↔ tables.Linked name any id ∧ any ≠ peer

section

variable {tables : PeerTables} {peer : Nat} {imports : List ImportEntry} {imp : ImportEntry}

theorem asks_append (gwid : UInt32) (name : List Byte) (first second : List ServiceRequest) :
    asks gwid name (first ++ second) = asks gwid name first ++ asks gwid name second :=
  List.filterMap_append ..

/-- An import with no other peer goes, and is unprovided. -/
theorem cleanImport_cases (tables : PeerTables)
    (sole : ∀ pl ∈ imp.peerlist, pl.peer = peer → pl.svcid ≠ unassigned ∧ imp.peerlist = [pl]) :
    ((∀ pl ∈ imp.peerlist, pl.peer ≠ peer) ∧ tables.cleanImport peer imp = (some imp, [])) ∨
      ∃ pl, pl.peer = peer ∧ imp.peerlist = [pl] ∧ tables.cleanImport peer imp =
        (none, [.unprovide (tables.gwidOf peer) imp.servicename pl.svcid]) := by
  cases found : imp.peerlist.find? fun pl => pl.peer == peer with
  | none =>
      refine Or.inl ⟨?_, ?_⟩
      · simp_all
      · rw [PeerTables.cleanImport, found]
  | some pl =>
      have isPeer : pl.peer = peer := by
        grind
      rcases sole pl (List.mem_of_find?_eq_some found) isPeer with ⟨assigned, single⟩
      simp_all [List.erase_cons_head, PeerTables.cleanImport, Or.inr]

theorem mem_cleaned (sole : ∀ imp ∈ imports, ∀ pl ∈ imp.peerlist, pl.peer = peer →
      pl.svcid ≠ unassigned ∧ imp.peerlist = [pl]) :
    (imports.map (tables.cleanImport peer)).filterMap Prod.fst =
      imports.filter fun imp => decide (∀ pl ∈ imp.peerlist, pl.peer ≠ peer) := by
  induction imports with
  | nil => rfl
  | cons imp imports ih =>
      rw [List.forall_mem_cons] at sole
      grind [cleanImport_cases]

theorem asks_cleaned (ok : ImportsOk imports) (sole : ∀ imp ∈ imports, ∀ pl ∈ imp.peerlist,
      pl.peer = peer → pl.svcid ≠ unassigned ∧ imp.peerlist = [pl]) (gwid : UInt32)
    (name : List Byte) :
    asks gwid name ((imports.map (tables.cleanImport peer)).flatMap Prod.snd) =
      if gwid = tables.gwidOf peer then
        ((linksIn imports name).filter fun pl => pl.peer = peer).map fun pl => .unprovide pl.svcid
      else [] := by
  induction imports with
  | nil => exact (ite_self []).symm
  | cons imp imports ih =>
      have split : ImportsOk ([] ++ imp :: imports) := ok
      rcases split.split with ⟨isOther, impOk, restOk⟩
      rw [List.forall_mem_cons] at sole
      rw [List.map_cons, List.flatMap_cons, asks_append, ih restOk sole.2,
        linksIn_cons]
      rcases cleanImport_cases tables sole.1 with ⟨noLink, stays⟩ | ⟨pl, isPeer, single, goes⟩
      · rw [stays]
        by_cases isName : imp.servicename = name
        · have none : imp.peerlist.filter (fun pl => pl.peer = peer) = [] := by
            rw [List.filter_eq_nil_iff]
            intro pl member
            rw [decide_eq_true_eq]
            exact noLink pl member
          have absent : linksIn imports name = [] := by
            simp_all [linksIn_absent]
          rw [if_pos isName, none, absent]
          rfl
        · rw [if_neg isName]
          rfl
      · rw [goes]
        by_cases isName : imp.servicename = name
        · have absent : linksIn imports name = [] := by
            apply linksIn_absent
            rw [← isName]
            exact isOther
          rw [if_pos isName, absent, single]
          by_cases isGateway : gwid = tables.gwidOf peer
          · simp [asks, ServiceRequest.ask, isGateway, isName, isPeer]
          · simp [asks, ServiceRequest.ask, Ne.symm isGateway, isGateway]
        · simp [asks, ServiceRequest.ask, isName]

theorem impcleanuppeer_spec (ok : ImportsOk tables.importlist) (sole : tables.SoleProvider peer) :
    Cleaned tables (tables.impcleanuppeer peer) peer := by
  have remain : (tables.impcleanuppeer peer).importlist =
      tables.importlist.filter fun imp => decide (∀ pl ∈ imp.peerlist, pl.peer ≠ peer) :=
    mem_cleaned sole
  have afterOk : ImportsOk (tables.impcleanuppeer peer).importlist := by
    rw [remain]
    refine ⟨ok.distinct.sublist (List.Sublist.map _ List.filter_sublist), ?_⟩
    exact fun imp member => ok.each imp (List.mem_of_mem_filter member)
  refine ⟨afterOk, rfl, ⟨_, rfl, ?_, asks_cleaned ok sole⟩, ?_⟩
  · intro request member
    rcases List.mem_flatMap.mp member with ⟨result, isResult, isIn⟩
    rcases List.mem_map.mp isResult with ⟨imp, isImport, rfl⟩
    rcases cleanImport_cases tables (sole imp isImport) with ⟨_, stays⟩ | ⟨pl, _, _, goes⟩
    · simp [stays] at isIn
    · simp_all
  · intro name any id
    constructor
    · intro linked
      rcases mem_linksIn linked with ⟨imp, member, rfl, isLink⟩
      rw [remain, List.mem_filter, decide_eq_true_eq] at member
      refine ⟨?_, member.2 _ isLink⟩
      simp_all [PeerTables.Linked, ok.linksIn_of_mem]
    · rintro ⟨linked, isOther⟩
      rcases mem_linksIn linked with ⟨imp, member, rfl, isLink⟩
      have stays : imp ∈ (tables.impcleanuppeer peer).importlist := by
        rw [remain, List.mem_filter, decide_eq_true_eq]
        refine ⟨member, ?_⟩
        intro pl isIn isPeer
        rw [(sole imp member pl isIn isPeer).2, List.mem_singleton] at isLink
        rw [← isLink] at isPeer
        exact isOther isPeer
      rw [PeerTables.Linked, afterOk.linksIn_of_mem stays]
      exact isLink

end

end MidWay.Gateway

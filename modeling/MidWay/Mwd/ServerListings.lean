import MidWay.CLib.Format
import MidWay.Mwd.ServerManager
import MidWay.Url.MapBounds

/-!
Contract: the listing of the servers that the service `.mwsrvmgr` sends.

There is a reply for each server and, if the full list is asked for, for each instance, and
no other one. Which of them is the last is found out before it is sent, from the place of
the server in its group and of the group among all. A reply is the encoded map and a line
end behind it.

Owns: `oc_list`, and the exact condition under which a listing is complete and ends once.
-/

namespace MidWay.Mwd.ServerListings

open MidWay.CLib MidWay.Lib MidWay.Url MidWay.Mwd.ServerManager

structure ServerGroup where
  name : List Byte
  serverlist : List Server

/-- What a reply is about: a server in its group, or one of the instances of a server. -/
inductive Item where
  | server (group : List Byte) (S : Server)
  | active (group : List Byte) (S : Server) (i : Nat) (AS : ActiveServer)

def statusText : ActiveStatus → List Byte
  | .down => ascii "DOWN".toList
  | .booting => ascii "BOOTING".toList
  | .running => ascii "UP".toList
  | .failed => ascii "FAILED".toList
  | .shutwait => ascii "UNKNOWN".toList

def Item.pairs : Item → List (List Byte × List Byte)
  | .server group S =>
      [(ascii "opcode".toList, ascii "list".toList),
        (ascii "group".toList, group),
        (ascii "server".toList, S.name),
        (ascii "active".toList, sprintfD S.active),
        (ascii "booted".toList, sprintfD (if S.booted then 1 else 0))]
  | .active group S i AS =>
      [(ascii "opcode".toList, ascii "list".toList),
        (ascii "group".toList, group),
        (ascii "server".toList, S.name),
        (ascii "instance".toList, sprintfD (i + 1)),
        (ascii "pid".toList, sprintfD AS.pid),
        (ascii "status".toList, statusText AS.status)]

/-- A call of `mwreply`, and whether more is said to follow. -/
structure Call where
  item : Item
  moreflag : Bool

structure Flags where
  lastserver : Bool
  moreflag : Bool

/-- The loop over the instances from number `i` on. -/
def listInstances (group : List Byte) (S : Server) :
    Flags → Nat → List ActiveServer → List Call × Flags
  | flags, _, [] => ([], flags)
  | flags, i, AS :: rest =>
      let flags :=
        if flags.lastserver ∧ (S.active : Int) - 1 = i then { flags with moreflag := false }
        else flags
      let later := listInstances group S flags (i + 1) rest
      (⟨.active group S i AS, flags.moreflag⟩ :: later.1, later.2)

/-- The loop over the servers of a group. `ends` says that the group was not asked for, or is the
last one. -/
def listServers (full ends : Bool) (group : List Byte) : Flags → List Server → List Call × Flags
  | flags, [] => ([], flags)
  | flags, S :: next =>
      let lastserver := flags.lastserver || (next.isEmpty && ends)
      let moreflag :=
        if lastserver && (!full || S.active == 0) then false else flags.moreflag
      let instances :=
        if full then listInstances group S ⟨lastserver, moreflag⟩ 0 S.activelist
        else ([], ⟨lastserver, moreflag⟩)
      let later := listServers full ends group instances.2 next
      (⟨.server group S, moreflag⟩ :: (instances.1 ++ later.1), later.2)

def ServerGroup.isMatch (group : Option (List Byte)) (SG : ServerGroup) : Bool :=
  group.all fun name => name == SG.name

def listGroups (group : Option (List Byte)) (full : Bool) : Flags → List ServerGroup → List Call
  | _, [] => []
  | flags, SG :: next =>
      if SG.isMatch group then
        let calls := listServers full (group.isNone || next.isEmpty) SG.name flags SG.serverlist
        calls.1 ++ listGroups group full calls.2 next
      else listGroups group full flags next

inductive ReturnCode where
  | mwsuccess
  | mwmore
deriving DecidableEq

structure Reply where
  data : List Byte
  returncode : ReturnCode
deriving DecidableEq

inductive Fault where
  | outside
deriving DecidableEq

def crlf : List Byte := [13, 10]

/-- The block of an empty value has one byte, which is not written; `left` is what stands from there
on. The encoder looks for its terminator. -/
def stored (left value : List Byte) : List Byte := if value = [] then cstr left else value

def Item.map (left : List Byte → List Byte) (item : Item) : Urlmap :=
  item.pairs.map fun pair => ⟨pair.1, some (stored (left pair.1) pair.2)⟩

def Item.values (item : Item) : Urlmap := item.pairs.map fun pair => ⟨pair.1, some pair.2⟩

def replyBlock (map : Urlmap) : Writing Byte := (urlmapencodeStores map).field crlf

/-- `mwreply` sends nothing when the last reply was final. `left` gives the blocks of each reply. -/
def mwreplies (left : Nat → List Byte → List Byte) : Nat → Bool → List Call →
    Except Fault (List Reply)
  | _, _, [] => .ok []
  | n, pending, call :: rest =>
      if (replyBlock (call.item.map (left n))).Inside then
        (mwreplies left (n + 1) (pending && call.moreflag) rest).map fun later =>
          if pending then
            ⟨(replyBlock (call.item.map (left n))).text,
              if call.moreflag then .mwmore else .mwsuccess⟩ :: later
          else later
      else .error .outside

def requestGroup (reqmap : Urlmap) : Option (List Byte) :=
  (urlmapgetvalue reqmap (ascii "group".toList)).map cstr

def requestFull (reqmap : Urlmap) : Bool :=
  ((urlmapgetvalue reqmap (ascii "full".toList)).map cstr).any fun full =>
    !strcaseeq (ascii "no".toList) full

def ocList (left : Nat → List Byte → List Byte) (grouproot : List ServerGroup)
    (reqmap : Urlmap) : Except Fault (List Reply) :=
  mwreplies left 0 true
    (listGroups (requestGroup reqmap) (requestFull reqmap) ⟨false, true⟩ grouproot)

/-- A reply for each server of the groups that match, and for its instances if they are asked for. -/
def wanted (group : Option (List Byte)) (full : Bool) (grouproot : List ServerGroup) : List Item :=
  (grouproot.filter (ServerGroup.isMatch group)).flatMap fun SG =>
    SG.serverlist.flatMap fun S =>
      .server SG.name S ::
        if full then S.activelist.zipIdx.map fun entry => .active SG.name S entry.2 entry.1 else []

def Carries (item : Item) (reply : Reply) : Prop :=
  ∃ text, reply.data = text ++ crlf ∧
    ∀ uninit behind, (urlmapdecode uninit (text ++ 0 :: behind)).map = some item.values

def Listing : List Item → List Reply → Prop
  | [], [] => True
  | item :: items, reply :: replies =>
      Carries item reply ∧ (reply.returncode = .mwsuccess ↔ items = []) ∧ Listing items replies
  | [], _ :: _ | _ :: _, [] => False

/-- Of all groups at most one has servers; or a group is asked for that has none, or that is the
last of all. -/
def EndsInTime (grouproot : List ServerGroup) : Option (List Byte) → Prop
  | none => (grouproot.filter fun SG => !SG.serverlist.isEmpty).length ≤ 1
  | some name =>
      (∀ SG ∈ grouproot, name = SG.name → SG.serverlist = []) ∨
        ∃ SG, grouproot.getLast? = some SG ∧ name = SG.name ∧ SG.serverlist ≠ []

/-- What `malloc` left in the block of an empty value is its terminator, and the block of the reply
has room for the encoded values and the line end. -/
structure Item.Fits (left : List Byte → List Byte) (item : Item) : Prop where
  empty : ∀ pair ∈ item.pairs, pair.2 = [] → cstr (left pair.1) = []
  reserved : FitsReserved ⟨0, 65, 64⟩ item.values
  room : (roomBehind ⟨0, 65, 64⟩ item.values).listlen + 2 <
    (roomBehind ⟨0, 65, 64⟩ item.values).size

def Ends : List Call → Prop
  | [] => True
  | call :: rest => (call.moreflag = false ↔ rest = []) ∧ Ends rest

def AllMore (calls : List Call) : Prop := ∀ call ∈ calls, call.moreflag = true

theorem ends_append_more {first : List Call} (more : AllMore first) (second : List Call) :
    Ends (first ++ second) ↔ (second = [] → first = []) ∧ Ends second := by
  induction first with
  | nil => exact (and_iff_right fun _ => rfl).symm
  | cons call rest ih =>
      have isMore : call.moreflag = true := more call List.mem_cons_self
      have later := ih fun other member =>
        more other (List.mem_cons_of_mem _ member)
      grind [List.cons_append, Ends, List.append_eq_nil_iff]

theorem ends_append_ended {first : List Call} (ends : Ends first) (nonempty : first ≠ [])
    (second : List Call) : Ends (first ++ second) ↔ second = [] := by
  induction first with
  | nil => exact absurd rfl nonempty
  | cons call rest ih =>
      rw [List.cons_append, Ends, List.append_eq_nil_iff]
      by_cases atEnd : rest = []
      · subst atEnd
        rw [List.nil_append, ends.1.mpr rfl]
        constructor
        · simp_all
        · rintro rfl
          exact ⟨iff_of_true rfl ⟨rfl, rfl⟩, trivial⟩
      · rw [ih ends.2 atEnd]
        refine and_iff_right (iff_of_false ?_ fun both => atEnd both.1)
        exact fun isFinal => atEnd (ends.1.mp isFinal)

section

variable {full : Bool} {name : List Byte}

theorem listInstances_items (S : Server) (flags : Flags) (i : Nat) (entries : List ActiveServer) :
    (listInstances name S flags i entries).1.map Call.item =
      (entries.zipIdx i).map fun entry => Item.active name S entry.2 entry.1 := by
  induction entries generalizing flags i with
  | nil => rfl
  | cons AS rest ih =>
      simp [listInstances, List.map_cons, ih]

theorem listServers_items (ends : Bool) (flags : Flags) (servers : List Server) :
    (listServers full ends name flags servers).1.map Call.item =
      servers.flatMap fun S => .server name S ::
        if full then S.activelist.zipIdx.map fun entry => .active name S entry.2 entry.1
        else [] := by
  induction servers generalizing flags with
  | nil => rfl
  | cons S next ih =>
      rw [listServers, List.map_cons, List.map_append, ih, List.flatMap_cons,
        List.cons_append]
      cases full with
      | false => rfl
      | true =>
          rw [if_pos rfl, if_pos rfl, listInstances_items]

theorem listGroups_items (group : Option (List Byte)) (flags : Flags)
    (groups : List ServerGroup) :
    (listGroups group full flags groups).map Call.item = wanted group full groups := by
  induction groups generalizing flags with
  | nil => rfl
  | cons SG next ih =>
      rw [listGroups, wanted, List.filter_cons]
      by_cases isMatch : SG.isMatch group = true
      · rw [if_pos isMatch, if_pos isMatch, List.map_append, listServers_items,
          ih, List.flatMap_cons]
        rfl
      · rw [if_neg isMatch, if_neg isMatch]
        exact ih flags

theorem listGroups_eq_nil_iff (group : Option (List Byte)) (flags : Flags)
    (groups : List ServerGroup) :
    listGroups group full flags groups = [] ↔
      ∀ SG ∈ groups, SG.isMatch group = true → SG.serverlist = [] := by
  rw [← List.map_eq_nil_iff (f := Call.item), listGroups_items, wanted, List.flatMap_eq_nil_iff]
  refine forall_congr' fun SG => ?_
  rw [List.mem_filter, and_imp, List.flatMap_eq_nil_iff]
  refine forall_congr' fun _ => forall_congr' fun _ => ?_
  constructor
  · intro none
    refine List.eq_nil_iff_forall_not_mem.mpr fun S member => ?_
    exact List.cons_ne_nil _ _ (none S member)
  · simp_all

theorem listInstances_more (S : Server) (i : Nat) (entries : List ActiveServer) :
    AllMore (listInstances name S ⟨false, true⟩ i entries).1 ∧
      (listInstances name S ⟨false, true⟩ i entries).2 = ⟨false, true⟩ := by
  induction entries generalizing i with
  | nil => exact ⟨fun _ member => absurd member List.not_mem_nil, rfl⟩
  | cons AS rest ih =>
      rw [listInstances, if_neg fun both => Bool.false_ne_true both.1]
      refine ⟨?_, (ih (i + 1)).2⟩
      intro call member
      rcases List.mem_cons.mp member with rfl | later
      · rfl
      · exact (ih (i + 1)).1 call later

/-- The last instance of the last server is the last of all. -/
theorem listInstances_ends (S : Server) {i : Nat} {entries : List ActiveServer}
    (nonempty : entries ≠ []) (isRest : i + entries.length = S.active) :
    Ends (listInstances name S ⟨true, true⟩ i entries).1 ∧
      (listInstances name S ⟨true, true⟩ i entries).1 ≠ [] ∧
        (listInstances name S ⟨true, true⟩ i entries).2 = ⟨true, false⟩ := by
  induction entries generalizing i with
  | nil => exact absurd rfl nonempty
  | cons AS rest ih =>
      rw [List.length_cons] at isRest
      rw [listInstances]
      by_cases atEnd : rest = []
      · subst atEnd
        rw [List.length_nil] at isRest
        have isLast : (S.active : Int) - 1 = i := by omega
        rw [if_pos ⟨rfl, isLast⟩]
        exact ⟨⟨iff_of_true rfl rfl, trivial⟩, List.cons_ne_nil _ _, rfl⟩
      · have some := List.length_pos_of_ne_nil atEnd
        have notLast : ¬(S.active : Int) - 1 = i := by omega
        obtain ⟨ends, isSome, flags⟩ := ih (i := i + 1) atEnd (by omega)
        rw [if_neg fun both => notLast both.2]
        exact ⟨⟨iff_of_false (Ne.symm Bool.false_ne_true) isSome, ends⟩, List.cons_ne_nil _ _, flags⟩

theorem listServers_more {ends : Bool} (notEnds : ends = false) (servers : List Server) :
    AllMore (listServers full ends name ⟨false, true⟩ servers).1 ∧
      (listServers full ends name ⟨false, true⟩ servers).2 = ⟨false, true⟩ := by
  subst notEnds
  induction servers with
  | nil => exact ⟨fun _ member => absurd member List.not_mem_nil, rfl⟩
  | cons S next ih =>
      have instances := @listInstances_more name S 0 S.activelist
      rw [listServers, Bool.and_false, Bool.or_false, Bool.false_and]
      cases full with
      | false =>
          refine ⟨?_, ih.2⟩
          intro call member
          rcases List.mem_cons.mp member with rfl | later
          · rfl
          · exact ih.1 call later
      | true =>
          dsimp only
          rw [if_pos rfl, if_neg Bool.false_ne_true, instances.2]
          refine ⟨?_, ih.2⟩
          intro call member
          rcases List.mem_cons.mp member with rfl | later
          · rfl
          · rcases List.mem_append.mp later with isInstance | isServer
            · exact instances.1 call isInstance
            · exact ih.1 call isServer

/-- The calls for the servers of the last group end in time. -/
theorem listServers_ends {ends : Bool} (isEnds : ends = true) {servers : List Server}
    (nonempty : servers ≠ []) :
    Ends (listServers full ends name ⟨false, true⟩ servers).1 ∧
      (listServers full ends name ⟨false, true⟩ servers).1 ≠ [] := by
  subst isEnds
  induction servers with
  | nil => exact absurd rfl nonempty
  | cons S next ih =>
      refine ⟨?_, List.cons_ne_nil _ _⟩
      by_cases atEnd : next = []
      · subst atEnd
        rw [listServers]
        cases full with
        | false => exact ⟨iff_of_true rfl rfl, trivial⟩
        | true =>
            by_cases noneActive : S.activelist = []
            · have isZero : S.active = 0 := congrArg List.length noneActive
              rw [if_pos rfl, noneActive, isZero]
              exact ⟨iff_of_true rfl rfl, trivial⟩
            · have someActive : (S.active == 0) = false :=
                beq_eq_false_iff_ne.mpr fun isZero => noneActive (List.eq_nil_of_length_eq_zero isZero)
              obtain ⟨endsInstances, isSome, _⟩ :=
                @listInstances_ends name S 0 S.activelist noneActive (Nat.zero_add _)
              rw [someActive]
              change Ends (⟨.server name S, true⟩ ::
                ((listInstances name S ⟨true, true⟩ 0 S.activelist).1 ++ []))
              rw [List.append_nil]
              exact ⟨iff_of_false (Ne.symm Bool.false_ne_true) isSome, endsInstances⟩
      · have notEmpty : next.isEmpty = false := Bool.eq_false_iff.mpr fun isEmpty =>
          atEnd (List.isEmpty_iff.mp isEmpty)
        have later := ih atEnd
        rw [listServers, notEmpty, Bool.false_and, Bool.or_false, Bool.false_and]
        cases full with
        | false =>
            exact ⟨iff_of_false (Ne.symm Bool.false_ne_true) later.2, later.1⟩
        | true =>
            have instances := @listInstances_more name S 0 S.activelist
            dsimp only
            rw [if_pos rfl, if_neg Bool.false_ne_true, instances.2]
            refine ⟨iff_of_false (Ne.symm Bool.false_ne_true) ?_, (ends_append_more instances.1 _).mpr ⟨?_, later.1⟩⟩
            · exact fun none => later.2 (List.append_eq_nil_iff.mp none).2
            · exact fun none => absurd none later.2

/-- Without a group the first group that has servers is taken for the last. -/
theorem listGroups_ends_none (groups : List ServerGroup) :
    Ends (listGroups none full ⟨false, true⟩ groups) ↔ EndsInTime groups none := by
  induction groups with
  | nil => exact iff_of_true trivial (Nat.zero_le 1)
  | cons SG next ih =>
      have isMatch : SG.isMatch none = true := rfl
      rw [listGroups, if_pos isMatch, EndsInTime, List.filter_cons, Option.isNone_none,
        Bool.true_or]
      dsimp only
      by_cases empty : SG.serverlist = []
      · rw [empty]
        exact ih
      · have notEmpty : (!SG.serverlist.isEmpty) = true := by
          rw [Bool.not_eq_true', List.isEmpty_eq_false_iff]
          exact empty
        obtain ⟨ends, isSome⟩ := @listServers_ends full SG.name true rfl _ empty
        rw [ends_append_ended ends isSome, listGroups_eq_nil_iff, if_pos notEmpty,
          List.length_cons]
        constructor
        · intro othersEmpty
          have none : (next.filter fun SG => !SG.serverlist.isEmpty) = [] := by
            rw [List.filter_eq_nil_iff]
            intro other member someServer
            rw [othersEmpty other member rfl] at someServer
            cases someServer
          rw [none]
          exact Nat.le_refl 1
        · simp_all [List.isEmpty_eq_false_iff]

theorem isMatch_some {wantedName : List Byte} {SG : ServerGroup} :
    SG.isMatch (some wantedName) = true ↔ wantedName = SG.name := by
  rw [ServerGroup.isMatch, Option.all_some, beq_iff_eq]

/-- With a group only the last one of all is taken for the last. -/
theorem listGroups_ends_some (wantedName : List Byte) (groups : List ServerGroup) :
    Ends (listGroups (some wantedName) full ⟨false, true⟩ groups) ↔
      EndsInTime groups (some wantedName) := by
  induction groups with
  | nil => exact iff_of_true trivial (.inl fun _ member => absurd member List.not_mem_nil)
  | cons SG next ih =>
      rw [listGroups]
      by_cases atEnd : next = []
      · subst atEnd
        by_cases isMatch : SG.isMatch (some wantedName) = true
        · rw [if_pos isMatch]
          have isName := isMatch_some.mp isMatch
          dsimp only [listGroups]
          rw [List.append_nil]
          by_cases empty : SG.serverlist = []
          · rw [empty]
            refine iff_of_true trivial (.inl fun other member _ => ?_)
            rw [List.mem_singleton.mp member, empty]
          · refine iff_of_true (listServers_ends rfl empty).1 ?_
            exact .inr ⟨SG, rfl, isName, empty⟩
        · rw [if_neg isMatch]
          refine iff_of_true trivial (.inl fun other member isName => ?_)
          rw [List.mem_singleton.mp member] at isName
          exact absurd (isMatch_some.mpr isName) isMatch
      · have lastOfNext : (SG :: next).getLast? = next.getLast? := by
          rw [List.getLast?_cons, List.getLast?_eq_some_getLast atEnd]
          rfl
        have notEmpty : next.isEmpty = false := Bool.eq_false_iff.mpr fun isEmpty =>
          atEnd (List.isEmpty_iff.mp isEmpty)
        by_cases isMatch : SG.isMatch (some wantedName) = true
        · obtain ⟨more, flags⟩ := @listServers_more full SG.name false rfl SG.serverlist
          rw [if_pos isMatch, notEmpty, Option.isNone_some, Bool.or_false]
          dsimp only
          rw [flags, ends_append_more more, ih, listGroups_eq_nil_iff,
            ← @List.map_eq_nil_iff _ _ Call.item, listServers_items, EndsInTime, EndsInTime,
            lastOfNext, List.forall_mem_cons]
          have isName := isMatch_some.mp isMatch
          have noServers : (SG.serverlist.flatMap fun S => Item.server SG.name S ::
              if full then S.activelist.zipIdx.map fun entry => .active SG.name S entry.2 entry.1
              else []) = [] ↔ SG.serverlist = [] := by
            cases SG.serverlist with
            | nil => exact iff_of_true rfl rfl
            | cons S rest => exact iff_of_false (List.cons_ne_nil _ _) (List.cons_ne_nil _ _)
          simp only [isMatch_some, noServers, isName, forall_const]
          constructor
          · grind
          · grind
        · rw [if_neg isMatch, ih, EndsInTime, EndsInTime, lastOfNext]
          refine or_congr ?_ Iff.rfl
          rw [List.forall_mem_cons]
          exact (and_iff_right fun isName => absurd (isMatch_some.mpr isName) isMatch).symm

end

theorem urlmapdecode_values {map : Urlmap} (nonempty : map ≠ [])
    (keysOk : ∀ entry ∈ map, KeyOk entry.key) (present : ∀ entry ∈ map, entry.value ≠ none)
    (uninit behind : List Byte) :
    (urlmapdecode uninit (urlmapencode map ++ 0 :: behind)).map = some map := by
  obtain ⟨first, rest, rfl⟩ := List.exists_cons_of_ne_nil nonempty
  have restOk : ∀ entry ∈ rest, KeyOk entry.key := fun entry member =>
    keysOk entry (List.mem_cons_of_mem _ member)
  have allRead : readBack rest = rest := by
    refine (readBack_eq_self restOk).mpr fun entry member swallowed => ?_
    exact present entry (List.mem_cons_of_mem _ ((List.dropLast_sublist rest).subset member)) swallowed.1
  rw [urlmapencode_text keysOk, urlmapdecode_text uninit behind keysOk, allRead]

theorem Item.keysOk (item : Item) : ∀ pair ∈ item.pairs, KeyOk pair.1 := by
  cases item with
  | server group S =>
      simp only [Item.pairs, List.forall_mem_cons, List.not_mem_nil, IsEmpty.forall_iff,
        implies_true, and_true, KeyOk]
      decide
  | active group S i AS =>
      simp only [Item.pairs, List.forall_mem_cons, List.not_mem_nil, IsEmpty.forall_iff,
        implies_true, and_true, KeyOk]
      decide

theorem Item.pairs_ne_nil (item : Item) : item.pairs ≠ [] := by
  cases item with
  | server group S => exact List.cons_ne_nil _ _
  | active group S i AS => exact List.cons_ne_nil _ _

section

variable {left : List Byte → List Byte} {item : Item}

theorem text_replyBlock (map : Urlmap) : (replyBlock map).text = urlmapencode map ++ crlf := by
  rw [replyBlock, Writing.text_field, urlmapencodeStores, text_storesFrom]
  rfl

theorem replyBlock_inside (map : Urlmap) :
    (replyBlock map).Inside ↔ FitsReserved ⟨0, 65, 64⟩ map ∧
      (roomBehind ⟨0, 65, 64⟩ map).listlen + 2 < (roomBehind ⟨0, 65, 64⟩ map).size := by
  obtain ⟨length, size⟩ := room_storesFrom ⟨Writing.start 65, 64⟩ map
  change (urlmapencodeStores map).text.length = (roomBehind ⟨0, 65, 64⟩ map).listlen at length
  change (urlmapencodeStores map).size = (roomBehind ⟨0, 65, 64⟩ map).size at size
  rw [replyBlock, Writing.inside_field, urlmapencodeStores_inside, length, size]
  exact Iff.rfl

theorem Item.map_decodes (uninit behind : List Byte) :
    (urlmapdecode uninit (urlmapencode (item.map left) ++ 0 :: behind)).map =
      some (item.map left) := by
  apply urlmapdecode_values
  · exact fun none => item.pairs_ne_nil (List.map_eq_nil_iff.mp none)
  · intro entry member
    obtain ⟨pair, isPair, rfl⟩ := List.mem_map.mp member
    exact item.keysOk pair isPair
  · intro entry member
    obtain ⟨pair, isPair, rfl⟩ := List.mem_map.mp member
    exact Option.some_ne_none _

theorem Item.map_eq_values :
    item.map left = item.values ↔ ∀ pair ∈ item.pairs, pair.2 = [] → cstr (left pair.1) = [] := by
  rw [Item.map, Item.values, List.map_inj_left]
  refine forall_congr' fun pair => forall_congr' fun _ => ?_
  rw [UrlmapEntry.mk.injEq, and_iff_right rfl, Option.some.injEq, stored]
  by_cases empty : pair.2 = []
  · rw [if_pos empty, empty, imp_iff_right rfl]
  · rw [if_neg empty]
    exact iff_of_true rfl fun impossible => absurd impossible empty

/-- A reply is made inside its block and carries its values just if it fits. -/
theorem Item.fits_iff (returncode : ReturnCode) :
    ((replyBlock (item.map left)).Inside ∧
      Carries item ⟨(replyBlock (item.map left)).text, returncode⟩) ↔ item.Fits left := by
  have carries : Carries item ⟨(replyBlock (item.map left)).text, returncode⟩ ↔
      item.map left = item.values := by
    constructor
    · rintro ⟨text, isData, decodes⟩
      rw [text_replyBlock, List.append_left_inj] at isData
      rw [← isData] at decodes
      exact Option.some.inj ((Item.map_decodes [] []).symm.trans (decodes [] []))
    · intro same
      refine ⟨urlmapencode (item.map left), text_replyBlock _, fun uninit behind => ?_⟩
      rw [Item.map_decodes, same]
  rw [carries]
  constructor
  · rintro ⟨inside, same⟩
    rw [same, replyBlock_inside] at inside
    exact ⟨Item.map_eq_values.mp same, inside.1, inside.2⟩
  · intro fits
    have same := Item.map_eq_values.mpr fits.empty
    simp [same, replyBlock_inside, fits.reserved, fits.room]

end

section

variable {left : Nat → List Byte → List Byte}

/-- The first reply and the others. -/
theorem mwreplies_cons (n : Nat) (call : Call) (rest : List Call) :
    (∃ sent, mwreplies left n true (call :: rest) = .ok sent ∧
      Listing ((call :: rest).map Call.item) sent) ↔
      call.item.Fits (left n) ∧ (call.moreflag = false ↔ rest = []) ∧
        ∃ later, mwreplies left (n + 1) call.moreflag rest = .ok later ∧
          Listing (rest.map Call.item) later := by
  have isFinal : (if call.moreflag then ReturnCode.mwmore else .mwsuccess) = .mwsuccess ↔
      call.moreflag = false := by
    cases call.moreflag with
    | false => exact iff_of_true rfl rfl
    | true => exact iff_of_false (by decide) (by decide)
  rw [← Item.fits_iff (if call.moreflag then .mwmore else .mwsuccess), mwreplies, Bool.true_and]
  constructor
  · rintro ⟨sent, replied, listing⟩
    by_cases inside : (replyBlock (call.item.map (left n))).Inside
    · rw [if_pos inside] at replied
      cases isLater : mwreplies left (n + 1) call.moreflag rest with
      | error fault =>
          rw [isLater] at replied
          cases replied
      | ok later =>
          rw [isLater] at replied
          rw [← Except.ok.inj replied] at listing
          obtain ⟨carries, final, others⟩ := listing
          simp_all
    · simp_all
  · rintro ⟨⟨inside, carries⟩, final, later, isLater, others⟩
    rw [if_pos inside, isLater]
    exact ⟨_, rfl, carries, isFinal.trans (final.trans List.map_eq_nil_iff.symm), others⟩

theorem mwreplies_iff (n : Nat) (calls : List Call) :
    (∃ sent, mwreplies left n true calls = .ok sent ∧ Listing (calls.map Call.item) sent) ↔
      Ends calls ∧ ∀ (i : Nat) (call : Call), calls[i]? = some call →
        call.item.Fits (left (n + i)) := by
  induction calls generalizing n with
  | nil => exact iff_of_true ⟨[], rfl, trivial⟩ ⟨trivial, fun _ _ impossible => by cases impossible⟩
  | cons call rest ih =>
      have fitsBoth : (∀ (i : Nat) (other : Call), (call :: rest)[i]? = some other →
          other.item.Fits (left (n + i))) ↔ call.item.Fits (left n) ∧
            ∀ (i : Nat) (other : Call), rest[i]? = some other → other.item.Fits (left (n + 1 + i)) := by
        constructor
        · intro all
          refine ⟨all 0 call rfl, fun i other isOther => ?_⟩
          rw [Nat.add_right_comm]
          exact all (i + 1) other isOther
        · grind
      rw [mwreplies_cons, Ends, fitsBoth]
      by_cases isMore : call.moreflag = true
      · rw [isMore, ih]
        tauto
      · rw [Bool.not_eq_true] at isMore
        rw [isMore]
        constructor
        · rintro ⟨fits, final, later, replied, listing⟩
          have noRest := final.mp rfl
          subst noRest
          exact ⟨⟨final, trivial⟩, fits, fun _ _ impossible => by cases impossible⟩
        · rintro ⟨⟨final, _⟩, fits, _⟩
          have noRest := final.mp rfl
          subst noRest
          exact ⟨fits, final, [], rfl, trivial⟩

end

/-- A listing is complete and ends once just if the server that is taken for the last is the last,
and every reply fits. -/
theorem listing_complete_iff (left : Nat → List Byte → List Byte) (grouproot : List ServerGroup)
    (reqmap : Urlmap) :
    (∃ sent, ocList left grouproot reqmap = .ok sent ∧
      Listing (wanted (requestGroup reqmap) (requestFull reqmap) grouproot) sent) ↔
      EndsInTime grouproot (requestGroup reqmap) ∧
        ∀ (i : Nat) (item : Item),
          (wanted (requestGroup reqmap) (requestFull reqmap) grouproot)[i]? = some item →
            item.Fits (left i) := by
  have items := @listGroups_items (requestFull reqmap) (requestGroup reqmap) ⟨false, true⟩ grouproot
  have ends : Ends (listGroups (requestGroup reqmap) (requestFull reqmap) ⟨false, true⟩ grouproot) ↔
      EndsInTime grouproot (requestGroup reqmap) := by
    cases requestGroup reqmap with
    | none => exact listGroups_ends_none grouproot
    | some name => exact listGroups_ends_some name grouproot
  rw [ocList, ← items, mwreplies_iff, ends]
  refine and_congr_right fun _ => forall_congr' fun i => ?_
  rw [List.getElem?_map, Nat.zero_add]
  cases (listGroups (requestGroup reqmap) (requestFull reqmap) ⟨false, true⟩ grouproot)[i]? with
  | none => exact iff_of_true (fun _ none => by cases none) fun _ none => by cases none
  | some call =>
      simp

/-- The groups `A` and `B` with a server each, of which no instance runs. -/
def twoGroups : List ServerGroup :=
  [⟨[65], [smgrBeginServer ⟨[65], [83], 1, 0⟩]⟩, ⟨[66], [smgrBeginServer ⟨[66], [84], 1, 0⟩]⟩]

/-- When no group is asked for, the reply for the server of `A` is final. -/
theorem two_groups_cut :
    ¬∃ sent, ocList (fun _ _ => []) twoGroups [⟨ascii "opcode".toList, some (ascii "list".toList)⟩] =
      .ok sent ∧ Listing (wanted none false twoGroups) sent := by
  intro listed
  have noGroup : requestGroup [⟨ascii "opcode".toList, some (ascii "list".toList)⟩] = none := by
    decide
  have notFull : requestFull [⟨ascii "opcode".toList, some (ascii "list".toList)⟩] = false := by
    decide
  rw [ocList, noGroup, notFull, ← listGroups_items none ⟨false, true⟩ twoGroups, mwreplies_iff,
    listGroups_ends_none] at listed
  have atMostOne : (twoGroups.filter fun SG => !SG.serverlist.isEmpty).length ≤ 1 := listed.1
  exact absurd atMostOne (by decide)

end MidWay.Mwd.ServerListings

import MidWay.CLib.Bytes
import MidWay.Lib.TailedList

/-!
Contract: the descriptors of the broker: the set that is given to `select`, and the two
lists of what is known of each gateway and each client.

The functions of `mwbd_sockets.c` are here as they are in the source: the first element of
a list is looked at without a test, and a search for the highest descriptor goes down from
the one that was taken out. The lists are those of `Lib.TailedList`.

Owns: `markfd`, `unmarkfd`, `add_fd_info`, `del_fd_info` and the searches by descriptor,
and what each of them does to a list that is one.
-/

namespace MidWay.Broker

open MidWay.CLib MidWay.Lib

variable {fd : Int} {set : Int → Bool}

/-- How the process ends: a pointer that is `NULL` or wild is followed, a loop does not end, a
descriptor is not one of an `fd_set`, an access leaves its object, or an `assert` fails. -/
inductive Fault where
  | null
  | list (fault : ListFault)
  | fdSet
  | outside
  | assertion
deriving DecidableEq

def mwMaxNameLen : Nat := 65

/-- A `struct fd_info`; the names are arrays of 66 bytes, and `incomplete_mesg` is the block it
points to. -/
structure FdInfo where
  fd : Int
  lastused : Int
  majorversion : Int
  minorversion : Int
  domain : List Byte
  instanceName : List Byte
  incompleteMesg : Option (List Byte)
deriving DecidableEq, Repr

abbrev FdList : Type := TailedList Nat FdInfo

/-- A block from `malloc`: its address, and what is in the last byte of each name. -/
structure Block where
  place : Nat
  domainEnd : Byte
  instanceEnd : Byte

/-- `opened` are the sockets that are open. It has no counterpart in the program, and nor does
`allocated`, which counts the elements of the lists there have been: no list is longer, so that the
loops end within it. -/
structure Mwbd where
  openFdset : Int → Bool
  maxfd : Int
  gw : FdList
  client : FdList
  allocated : Nat
  opened : Int → Bool

def fdSetSize : Int := 1024

/-- `FD_SET` of other descriptors writes outside of the set. -/
def Mwbd.markfd (broker : Mwbd) (fd : Int) : Except Fault Mwbd :=
  if fd < 0 ∨ fdSetSize ≤ fd then .error .fdSet
  else
    .ok { broker with
      openFdset := Function.update broker.openFdset fd true
      maxfd := if fd > broker.maxfd then fd else broker.maxfd }

/-- The highest descriptor of the set below this number, or -1. -/
def highestBelow (set : Int → Bool) : Nat → Int
  | 0 => -1
  | fd + 1 => if set fd then fd else highestBelow set fd

def Mwbd.unmarkfd (broker : Mwbd) (fd : Int) : Except Fault Mwbd :=
  if fd < 0 ∨ fdSetSize ≤ fd then .error .fdSet
  else
    let cleared := Function.update broker.openFdset fd false
    .ok { broker with
      openFdset := cleared
      maxfd := if fd ≠ broker.maxfd then broker.maxfd else highestBelow cleared broker.maxfd.toNat }

def Mwbd.close (broker : Mwbd) (fd : Int) : Mwbd :=
  { broker with opened := Function.update broker.opened fd false }

def newFdInfo (block : Block) (fd now : Int) : FdInfo where
  fd := fd
  lastused := now
  majorversion := 0
  minorversion := 0
  domain := List.replicate mwMaxNameLen 0 ++ [block.domainEnd]
  instanceName := List.replicate mwMaxNameLen 0 ++ [block.instanceEnd]
  incompleteMesg := none

/-- Without a block the process follows the `NULL` pointer. -/
def addFdInfo (list : FdList) (block : Option Block) (fd now : Int) : Except Fault FdList :=
  match block with
  | none => .error .null
  | some block =>
      let placed : FdList := { list with
        cells := Function.update list.cells block.place (some ⟨none, newFdInfo block fd now⟩) }
      match list.head with
      | none => .ok { placed with head := some block.place, tail := some block.place }
      | some _ =>
          match list.tail with
          | none => .error .null
          | some last => .ok { placed.setNext last (some block.place) with
              tail := some block.place }

/-- The loop of `del_fd_info`, behind the element `prev`. -/
def delBehind (fd : Int) : Nat → FdList → Nat → Option Nat → Except Fault FdList
  | _, list, _, none => .ok list
  | 0, _, _, some _ => .error (.list .endless)
  | turns + 1, list, prev, some gw =>
      match list.cells gw with
      | none => .error (.list .wild)
      | some cell =>
          if cell.value.fd = fd then .ok (list.bypass prev gw cell.next)
          else delBehind fd turns list gw cell.next

/-- The first element is looked at before it is known that there is one. -/
def delFdInfo (turns : Nat) (list : FdList) (fd : Int) : Except Fault FdList :=
  match list.head with
  | none => .error .null
  | some gw =>
      match list.cells gw with
      | none => .error (.list .wild)
      | some cell =>
          if cell.value.fd = fd then
            .ok { list with
              head := cell.next
              tail := if list.tail = some gw then none else list.tail
              cells := Function.update list.cells gw none }
          else delBehind fd turns list gw cell.next

def findFdInfoByfd (turns : Nat) (list : FdList) (fd : Int) : Except Fault (Option Nat) :=
  (walk list.cells (fun cell => cell.value.fd == fd) turns list.head).mapError .list

def Mwbd.addGw (broker : Mwbd) (block : Option Block) (fd now : Int) : Except Fault Mwbd :=
  (addFdInfo broker.gw block fd now).map fun gw =>
    { broker with gw := gw, allocated := broker.allocated + 1 }

def Mwbd.addC (broker : Mwbd) (block : Option Block) (fd now : Int) : Except Fault Mwbd :=
  (addFdInfo broker.client block fd now).map fun client =>
    { broker with client := client, allocated := broker.allocated + 1 }

def Mwbd.delGw (broker : Mwbd) (fd : Int) : Except Fault Mwbd :=
  (delFdInfo broker.allocated broker.gw fd).map fun gw => { broker with gw := gw }

def Mwbd.delC (broker : Mwbd) (fd : Int) : Except Fault Mwbd :=
  (delFdInfo broker.allocated broker.client fd).map fun client => { broker with client := client }

section

variable {list : FdList} {contents front back : List (Nat × FdInfo)} {entry : Nat × FdInfo}

theorem addFdInfo_holds (holds : list.Holds contents) {block : Block}
    (fresh : list.cells block.place = none) (fd now : Int) :
    ∃ after, addFdInfo list (some block) fd now = .ok after ∧
      after.Holds (contents ++ [(block.place, newFdInfo block fd now)]) := by
  refine ⟨list.append block.place (newFdInfo block fd now), ?_, holds.append fresh _⟩
  rw [addFdInfo, TailedList.append, holds.segment.start, holds.tail]
  dsimp only
  cases contents with
  | nil => rfl
  | cons first rest =>
      rw [List.head?_cons, List.getLast?_cons, Option.map_some, Option.map_some]

/-- The loop takes the first element with the descriptor. -/
theorem delBehind_holds {passed : List (Nat × FdInfo)} {previous : Nat × FdInfo}
    {start : Option Nat} (holds : list.Holds (passed ++ previous :: (front ++ entry :: back)))
    (isPrevious : list.cells previous.1 = some ⟨start, previous.2⟩) (isFd : entry.2.fd = fd)
    (others : ∀ other ∈ front, other.2.fd ≠ fd) {turns : Nat} (enough : front.length < turns) :
    ∃ after, delBehind fd turns list previous.1 start = .ok after ∧
      after.Holds (passed ++ previous :: (front ++ back)) := by
  induction front generalizing passed previous start turns with
  | nil =>
      obtain ⟨_, again, behind⟩ := holds.cell
      rw [isPrevious] at again
      cases again
      obtain ⟨rfl, next, isCell, _⟩ := behind
      cases turns with
      | zero => exact absurd enough (Nat.not_lt_zero _)
      | succ turns =>
          simp [delBehind, isCell, holds.bypass, isFd]
  | cons first rest ih =>
      obtain ⟨_, again, behind⟩ := holds.cell
      rw [isPrevious] at again
      cases again
      obtain ⟨rfl, next, isCell, _⟩ := behind
      rw [List.forall_mem_cons] at others
      have further : list.Holds ((passed ++ [previous]) ++ first :: (rest ++ entry :: back)) := by
        simp_all [List.append_assoc]
      cases turns with
      | zero => exact absurd enough (Nat.not_lt_zero _)
      | succ turns =>
          obtain ⟨after, result, holdsAfter⟩ := ih further isCell others.2
            (Nat.lt_of_succ_lt_succ enough)
          grind [delBehind, List.append_assoc]

/-- The first element with the descriptor goes. -/
theorem delFdInfo_holds (holds : list.Holds (front ++ entry :: back)) (isFd : entry.2.fd = fd)
    (others : ∀ other ∈ front, other.2.fd ≠ fd) {turns : Nat}
    (enough : (front ++ entry :: back).length ≤ turns) :
    ∃ after, delFdInfo turns list fd = .ok after ∧ after.Holds (front ++ back) := by
  cases front with
  | nil =>
      have apart := holds.apart
      have endsAt := holds.tail_iff
      obtain ⟨isHead, next, isCell, behind⟩ := holds.segment
      rw [delFdInfo, isHead]
      dsimp only
      rw [isCell]
      dsimp only
      rw [if_pos isFd]
      refine ⟨_, rfl, ?_, ?_⟩
      · apply behind.congr
        grind
      · by_cases alone : back = []
        · simp_all
        · rw [if_neg (mt endsAt.mp alone), holds.tail, List.nil_append, List.nil_append,
            List.getLast?_cons_of_ne_nil alone]
  | cons first rest =>
      rw [List.forall_mem_cons] at others
      obtain ⟨isHead, next, isCell, _⟩ := holds.segment
      have inTurns : rest.length < turns := by
        grind
      rw [delFdInfo, isHead]
      dsimp only
      rw [isCell]
      dsimp only
      rw [if_neg others.1]
      have behindFirst : list.Holds ([] ++ first :: (rest ++ entry :: back)) := holds
      exact delBehind_holds behindFirst isCell isFd others.2 inTurns

theorem delBehind_absent {previous : Nat} {place : Option Nat}
    (segment : ListSegment list.cells place contents none)
    (absent : ∀ other ∈ contents, other.2.fd ≠ fd) {turns : Nat}
    (enough : contents.length ≤ turns) : delBehind fd turns list previous place = .ok list := by
  induction contents generalizing previous place turns with
  | nil =>
      have isEnd : place = none := segment
      rw [isEnd, delBehind]
  | cons first rest ih =>
      obtain ⟨rfl, next, isCell, behind⟩ := segment
      rw [List.forall_mem_cons] at absent
      cases turns with
      | zero => exact absurd enough (Nat.not_succ_le_zero _)
      | succ turns =>
          simp_all [delBehind]

/-- Without such an element the list stays, or the `NULL` pointer is followed. -/
theorem delFdInfo_absent (holds : list.Holds contents)
    (absent : ∀ other ∈ contents, other.2.fd ≠ fd) {turns : Nat}
    (enough : contents.length ≤ turns) :
    delFdInfo turns list fd = if contents = [] then .error .null else .ok list := by
  cases contents with
  | nil =>
      have isHead : list.head = none := holds.segment
      rw [delFdInfo, isHead, if_pos rfl]
  | cons first rest =>
      obtain ⟨isHead, next, isCell, behind⟩ := holds.segment
      rw [List.forall_mem_cons] at absent
      rw [delFdInfo, isHead, if_neg (List.cons_ne_nil _ _)]
      dsimp only
      rw [isCell]
      dsimp only
      rw [if_neg absent.1]
      exact delBehind_absent behind absent.2 (Nat.le_of_succ_le enough)

theorem findFdInfoByfd_holds (holds : list.Holds contents) (fd : Int) {turns : Nat}
    (enough : contents.length ≤ turns) :
    findFdInfoByfd turns list fd =
      .ok ((contents.find? fun entry => entry.2.fd == fd).map Prod.fst) := by
  rw [findFdInfoByfd, holds.segment.walk_value (fun info => info.fd == fd) enough]
  rfl

theorem findFdInfoByfd_some (holds : list.Holds (front ++ entry :: back))
    (others : ∀ other ∈ front, other.2.fd ≠ entry.2.fd) {turns : Nat}
    (enough : (front ++ entry :: back).length ≤ turns) :
    findFdInfoByfd turns list entry.2.fd = .ok (some entry.1) := by
  have notInFront : front.find? (fun other => other.2.fd == entry.2.fd) = none := by
    grind
  rw [findFdInfoByfd_holds holds _ enough, List.find?_append, notInFront, Option.none_or,
    List.find?_cons_of_pos (by exact beq_self_eq_true _)]
  rfl

theorem findFdInfoByfd_none (holds : list.Holds contents)
    (absent : ∀ other ∈ contents, other.2.fd ≠ fd) {turns : Nat}
    (enough : contents.length ≤ turns) : findFdInfoByfd turns list fd = .ok none := by
  have notThere : contents.find? (fun other => other.2.fd == fd) = none := by
    grind
  rw [findFdInfoByfd_holds holds _ enough, notThere]
  rfl

end

/-- `maxfd` is the highest descriptor of the set, or -1 when there is none. -/
structure Highest (set : Int → Bool) (maxfd : Int) : Prop where
  bound : ∀ fd, set fd = true → 0 ≤ fd ∧ fd ≤ maxfd
  isMarked : maxfd = -1 ∨ set maxfd = true

theorem Highest.mark {maxfd : Int} (highest : Highest set maxfd) (nonneg : 0 ≤ fd) :
    Highest (Function.update set fd true) (if fd > maxfd then fd else maxfd) := by
  constructor
  · intro other isMarked
    by_cases same : other = fd
    · omega
    · rw [Function.update_of_ne same] at isMarked
      have bound := highest.bound other isMarked
      omega
  · right
    split_ifs with higher
    · exact Function.update_self _ _ _
    · by_cases same : maxfd = fd
      · simp [same, Function.update_self]
      · rw [Function.update_of_ne same]
        apply highest.isMarked.resolve_left
        omega

theorem highestBelow_highest (count : Nat) (bound : ∀ fd, set fd = true → 0 ≤ fd ∧ fd < count) :
    Highest set (highestBelow set count) := by
  induction count with
  | zero =>
      refine ⟨?_, Or.inl rfl⟩
      grind
  | succ count ih =>
      rw [highestBelow]
      split_ifs with isMarked
      · refine ⟨?_, Or.inr isMarked⟩
        grind
      · grind

theorem Highest.unmark {maxfd : Int} (highest : Highest set maxfd) (fd : Int) :
    Highest (Function.update set fd false)
      (if fd ≠ maxfd then maxfd else highestBelow (Function.update set fd false) maxfd.toNat) := by
  have stillMarked : ∀ other, Function.update set fd false other = true → other ≠ fd ∧
      set other = true := by
    intro other isMarked
    by_cases same : other = fd
    · simp [same, Function.update_self] at isMarked
    · simp_all [Function.update_of_ne]
  split_ifs with isOther
  · constructor
    · simp_all [highest.bound]
    · simp [Function.update_of_ne, highest.isMarked, Ne.symm, isOther]
  · apply highestBelow_highest
    intro other isMarked
    obtain ⟨differs, wasMarked⟩ := stillMarked other isMarked
    have bound := highest.bound other wasMarked
    omega

def InSet (fd : Int) : Prop :=
  0 ≤ fd ∧ fd < fdSetSize

instance (fd : Int) : Decidable (InSet fd) := inferInstanceAs (Decidable (_ ∧ _))

/-- A descriptor that fits the set can be marked. -/
theorem Mwbd.markfd_ok (broker : Mwbd) (fits : InSet fd) :
    ∃ maxfd, broker.markfd fd = .ok { broker with
        openFdset := Function.update broker.openFdset fd true
        maxfd := maxfd } ∧
      (Highest broker.openFdset broker.maxfd →
        Highest (Function.update broker.openFdset fd true) maxfd) := by
  have inSet : ¬(fd < 0 ∨ fdSetSize ≤ fd) := by
    have within := fits.1
    have below := fits.2
    omega
  refine ⟨if fd > broker.maxfd then fd else broker.maxfd, ?_, ?_⟩
  · rw [Mwbd.markfd, if_neg inSet]
  · intro highest
    exact highest.mark fits.1

theorem Mwbd.unmarkfd_ok (broker : Mwbd) (fits : InSet fd) :
    ∃ maxfd, broker.unmarkfd fd = .ok { broker with
        openFdset := Function.update broker.openFdset fd false
        maxfd := maxfd } ∧
      (Highest broker.openFdset broker.maxfd →
        Highest (Function.update broker.openFdset fd false) maxfd) := by
  have inSet : ¬(fd < 0 ∨ fdSetSize ≤ fd) := by
    have within := fits.1
    have below := fits.2
    omega
  refine ⟨_, by rw [Mwbd.unmarkfd, if_neg inSet], ?_⟩
  intro highest
  exact highest.unmark fd

def fdsOf (entries : List (Nat × FdInfo)) : List Int := entries.map fun entry => entry.2.fd

theorem mem_fdsOf {entries : List (Nat × FdInfo)} :
    fd ∈ fdsOf entries ↔ ∃ other ∈ entries, other.2.fd = fd :=
  List.mem_map

/-- The lists are these, no two of their elements have the same descriptor, and each descriptor is
open and marked. -/
structure Listed (broker : Mwbd) (gws clients : List (Nat × FdInfo)) : Prop where
  gw : broker.gw.Holds gws
  client : broker.client.Holds clients
  allocated : gws.length + clients.length ≤ broker.allocated
  distinct : (fdsOf (gws ++ clients)).Nodup
  inSet : ∀ entry ∈ gws ++ clients, InSet entry.2.fd
  isMarked : ∀ entry ∈ gws ++ clients, broker.openFdset entry.2.fd = true
  isOpen : ∀ entry ∈ gws ++ clients, broker.opened entry.2.fd = true

section

variable {broker : Mwbd} {gws clients front back : List (Nat × FdInfo)} {entry : Nat × FdInfo}

theorem fd_apart (distinct : (fdsOf (front ++ entry :: back)).Nodup) :
    ∀ other ∈ front ++ back, other.2.fd ≠ entry.2.fd := by
  grind [fdsOf, List.nodup_middle, List.nodup_cons]

theorem mem_fdsOf_without (distinct : (fdsOf (front ++ entry :: back)).Nodup) (other : Int) :
    other ∈ fdsOf (front ++ back) ↔
      other ∈ fdsOf (front ++ entry :: back) ∧ other ≠ entry.2.fd := by
  have apart := fd_apart distinct
  grind [fdsOf, List.map_append, List.map_cons, List.mem_append, List.mem_cons]

theorem Listed.clients_apart (listed : Listed broker gws (front ++ entry :: back)) :
    ∀ other ∈ gws ++ (front ++ back), other.2.fd ≠ entry.2.fd := by
  have distinct := listed.distinct
  rw [← List.append_assoc] at distinct ⊢
  exact fd_apart distinct

theorem Listed.clients_others (listed : Listed broker gws (front ++ entry :: back)) :
    ∀ other ∈ front ++ back, other.2.fd ≠ entry.2.fd :=
  fun other member => listed.clients_apart other (List.mem_append_right _ member)

theorem Listed.gws_apart (listed : Listed broker (front ++ entry :: back) clients) :
    ∀ other ∈ front ++ (back ++ clients), other.2.fd ≠ entry.2.fd := by
  have distinct := listed.distinct
  rw [List.append_assoc, List.cons_append] at distinct
  exact fd_apart distinct

theorem Listed.deleteClient (listed : Listed broker gws (front ++ entry :: back)) :
    ∃ list, delFdInfo broker.allocated broker.client entry.2.fd = .ok list ∧
      list.Holds (front ++ back) :=
  delFdInfo_holds listed.client rfl
    (fun other member => listed.clients_apart other (by simp [member]))
    ((Nat.le_add_left _ _).trans listed.allocated)

theorem Listed.deleteGw (listed : Listed broker (front ++ entry :: back) clients) :
    ∃ list, delFdInfo broker.allocated broker.gw entry.2.fd = .ok list ∧
      list.Holds (front ++ back) :=
  delFdInfo_holds listed.gw rfl (fun other member => listed.gws_apart other (by simp [member]))
    ((Nat.le_add_right _ _).trans listed.allocated)

/-- Lists with these descriptors, or fewer, in their order. -/
theorem Listed.narrow (listed : Listed broker gws clients) {gw client : FdList}
    {someGws someClients : List (Nat × FdInfo)} (gwHolds : gw.Holds someGws)
    (clientHolds : client.Holds someClients)
    (fewer : (fdsOf (someGws ++ someClients)).Sublist (fdsOf (gws ++ clients))) :
    Listed { broker with gw := gw, client := client } someGws someClients := by
  have forFd : ∀ property : Int → Prop, (∀ entry ∈ gws ++ clients, property entry.2.fd) →
      ∀ entry ∈ someGws ++ someClients, property entry.2.fd := by
    intro property each entry member
    obtain ⟨before, beforeMember, same⟩ :=
      mem_fdsOf.mp (fewer.subset (mem_fdsOf.mpr ⟨entry, member, rfl⟩))
    rw [← same]
    exact each before beforeMember
  constructor
  · exact gwHolds
  · exact clientHolds
  · have shorter := fewer.length_le
    simp only [fdsOf, List.length_map, List.length_append] at shorter
    exact shorter.trans listed.allocated
  · exact fewer.nodup listed.distinct
  · exact forFd InSet listed.inSet
  · exact forFd (fun fd => broker.openFdset fd = true) listed.isMarked
  · exact forFd (fun fd => broker.opened fd = true) listed.isOpen

theorem Listed.setGw (listed : Listed broker (front ++ entry :: back) clients)
    (set : FdInfo → FdInfo) (sameFd : (set entry.2).fd = entry.2.fd) :
    Listed { broker with gw := broker.gw.setValue entry.1 set }
      (front ++ (entry.1, set entry.2) :: back) clients := by
  apply listed.narrow (listed.gw.setValue set) listed.client
  simp [fdsOf, List.map_append, List.map_cons, sameFd, List.Sublist.refl]

theorem Listed.setClient (listed : Listed broker gws (front ++ entry :: back))
    (set : FdInfo → FdInfo) (sameFd : (set entry.2).fd = entry.2.fd) :
    Listed { broker with client := broker.client.setValue entry.1 set } gws
      (front ++ (entry.1, set entry.2) :: back) := by
  apply listed.narrow listed.gw (listed.client.setValue set)
  simp [fdsOf, List.map_append, List.map_cons, sameFd, List.Sublist.refl]

theorem Listed.withoutGw (listed : Listed broker (front ++ entry :: back) clients) {list : FdList}
    (holds : list.Holds (front ++ back)) :
    Listed { broker with gw := list } (front ++ back) clients := by
  apply listed.narrow holds listed.client
  apply List.Sublist.map
  exact ((List.sublist_cons_self entry back).append_left front).append_right clients

theorem Listed.withoutClient (listed : Listed broker gws (front ++ entry :: back)) {list : FdList}
    (holds : list.Holds (front ++ back)) :
    Listed { broker with client := list } gws (front ++ back) := by
  apply listed.narrow listed.gw holds
  apply List.Sublist.map
  exact ((List.sublist_cons_self entry back).append_left front).append_left gws

/-- A descriptor without an element is unmarked and closed. -/
theorem Listed.unused (listed : Listed broker gws clients)
    (absent : ∀ entry ∈ gws ++ clients, entry.2.fd ≠ fd) (maxfd : Int) :
    Listed { broker with
      openFdset := Function.update broker.openFdset fd false
      maxfd := maxfd
      opened := Function.update broker.opened fd false } gws clients := by
  constructor
  · exact listed.gw
  · exact listed.client
  · exact listed.allocated
  · exact listed.distinct
  · exact listed.inSet
  · intro entry member
    dsimp only
    rw [Function.update_of_ne (absent entry member)]
    exact listed.isMarked entry member
  · intro entry member
    dsimp only
    rw [Function.update_of_ne (absent entry member)]
    exact listed.isOpen entry member

end

end MidWay.Broker

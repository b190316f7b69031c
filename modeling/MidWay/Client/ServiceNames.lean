import MidWay.Client.Calls
import MidWay.Lib.Blocks
import MidWay.Lib.FirstOccurrences

/-!
Contract: the list of service names that `_mw_list_services_byglob` returns.

The names that match are collected with their lengths, each once. They are then put into
one block: in front an array of pointers with a null pointer at its end, behind it the
strings. The size of the block is computed from the lengths.

`fnmatch` and what `malloc` leaves in the block are parameters. The name of a service
ends inside its array.

Owns: `_mw_list_services_byglob`, and that its block holds the names that match.
-/

namespace MidWay.Client

open MidWay.CLib MidWay.Lib
open MidWay.Gateway (IpcTables Serviceentry)

def sizeofPointer : Nat := 8

/-- The result of `fnmatch`: 0, `FNM_NOMATCH`, or an error. -/
inductive Fnmatch where
  | isMatch
  | noMatch
  | failed
deriving DecidableEq, Repr

/-- The arrays `list` and `namelens`, as far as they are filled. -/
structure Names where
  list : List (List Byte)
  namelens : List Nat
deriving DecidableEq, Repr

/-- The search for a name that was found before; only names of the same length are compared. -/
def isDuplicate (svcname : List Byte) (l : Nat) : List (List Byte) → List Nat → Bool
  | name :: list, namelen :: namelens =>
      if l ≠ namelen then isDuplicate svcname l list namelens
      else if name == svcname then true
      else isDuplicate svcname l list namelens
  | _, _ => false

/-- The loop over the table; it gives up when `fnmatch` fails. -/
def collectNames (fnmatch : List Byte → List Byte → Fnmatch) (glob : List Byte) :
    Names → List Serviceentry → Option Names
  | names, [] => some names
  | names, entry :: rest =>
      if entry.type = .unassigned then collectNames fnmatch glob names rest
      else
        let svcname := cstr entry.servicename
        match fnmatch glob svcname with
        | .noMatch => collectNames fnmatch glob names rest
        | .failed => none
        | .isMatch =>
            let l := svcname.length
            if isDuplicate svcname l names.list names.namelens then
              collectNames fnmatch glob names rest
            else collectNames fnmatch glob ⟨names.list ++ [svcname], names.namelens ++ [l]⟩ rest

def listSize (names : Names) : Nat :=
  let n := names.list.length
  names.namelens.sum + n + sizeofPointer * (n + 1) + 4

/-- The loop that fills the block, from the name `i` on, with the next string at `tmp`. There is no
result when a store is outside of the block. -/
def fillList : Block Cell → Nat → Nat → List (List Byte) → List Nat → Option (Block Cell)
  | rlist, i, tmp, name :: list, namelen :: namelens => do
      let rlist ← rlist.store (sizeofPointer * i) (pointerCells sizeofPointer (some tmp))
      let rlist ← rlist.store tmp (textCells (strncpy namelen name))
      let rlist ← rlist.store (tmp + namelen) (textCells [0])
      fillList rlist (i + 1) (tmp + namelen + 1) list namelens
  | rlist, _, _, _, _ => some rlist

/-- The code that is returned, and what is stored at `plist`. -/
structure NameListing where
  rc : Int
  plist : Option (Block Cell)

/-- `systemstate` is the result of `_mwsystemstate`, and `hasPlist` says that `plist` is no null
pointer. -/
def mwListServicesByglob (tables : IpcTables) (systemstate : Int)
    (fnmatch : List Byte → List Byte → Fnmatch) (malloc : Nat → Cell) (glob : Option (List Byte))
    (hasPlist : Bool) : Option NameListing :=
  if systemstate ≠ 0 then some ⟨systemstate, none⟩
  else if hasPlist = false then some ⟨rcOf .EINVAL, none⟩
  else
    match collectNames fnmatch (glob.getD [42]) ⟨[], []⟩ tables.svctbl with
    | none => some ⟨rcOf .EFAULT, none⟩
    | some names => do
        let n := names.list.length
        let rlist ← fillList ⟨listSize names, malloc⟩ 0 (sizeofPointer * (n + 1)) names.list
          names.namelens
        let rlist ← rlist.store (sizeofPointer * n) (pointerCells sizeofPointer none)
        some ⟨n, some rlist⟩

def matchingNames (isMatch : List Byte → Bool) (svctbl : List Serviceentry) : List (List Byte) :=
  ((svctbl.filter fun entry => entry.type ≠ .unassigned).map fun entry =>
    cstr entry.servicename).filter isMatch

def placesFrom : Nat → List (List Byte) → List Nat
  | _, [] => []
  | tmp, name :: list => tmp :: placesFrom (tmp + name.length + 1) list

/-- From the place `i` on the array points to these places, and these strings stand there. -/
def PointsTo (rlist : Block Cell) (i : Nat) (places : List Nat) (list : List (List Byte)) : Prop :=
  ∀ (j place : Nat) (name : List Byte), places[j]? = some place → list[j]? = some name →
    rlist.HoldsPointer sizeofPointer (sizeofPointer * (i + j)) (some place) ∧
      rlist.HoldsText place (name ++ [0])

/-- The block has an array of pointers to the strings, a null pointer at its end, and then the
strings. -/
structure HoldsList (rlist : Block Cell) (list : List (List Byte)) : Prop where
  strings : PointsTo rlist 0 (placesFrom (sizeofPointer * (list.length + 1)) list) list
  null : rlist.HoldsPointer sizeofPointer (sizeofPointer * list.length) none
  complete : ∀ name ∈ list, 0 ∉ name

section Collect

variable {isMatch : List Byte → List Byte → Bool} {glob : List Byte}

/-- `fnmatch`, when it never fails. -/
def total (isMatch : List Byte → List Byte → Bool) (glob name : List Byte) : Fnmatch :=
  if isMatch glob name then .isMatch else .noMatch

theorem isDuplicate_eq (svcname : List Byte) (list : List (List Byte)) :
    isDuplicate svcname svcname.length list (list.map List.length) = decide (svcname ∈ list) := by
  induction list with
  | nil => rfl
  | cons name list ih =>
      grind [isDuplicate]

theorem matchingNames_cons {matches' : List Byte → Bool} (entry : Serviceentry)
    (rest : List Serviceentry) :
    matchingNames matches' (entry :: rest) =
      if entry.type = .unassigned then matchingNames matches' rest
      else if matches' (cstr entry.servicename) then
        cstr entry.servicename :: matchingNames matches' rest
      else matchingNames matches' rest := by
  unfold matchingNames
  grind

/-- The loop goes on from the names that come first so far. -/
theorem collectNames_first (rest : List Serviceentry) :
    ∀ (front list : List (List Byte)), FirstOccurrences front list →
      ∃ names, collectNames (total isMatch) glob ⟨list, list.map List.length⟩ rest = some names ∧
        FirstOccurrences (front ++ matchingNames (isMatch glob) rest) names.list ∧
        names.namelens = names.list.map List.length := by
  induction rest with
  | nil =>
      simp [collectNames, matchingNames, List.filter_nil, List.map_nil, List.append_nil]
  | cons entry rest ih =>
      intro front list first
      rw [collectNames, matchingNames_cons]
      by_cases unused : entry.type = .unassigned
      · simp_all
      · rw [if_neg unused, if_neg unused]
        dsimp only
        by_cases fits : isMatch glob (cstr entry.servicename) = true
        · rw [total, if_pos fits, if_pos fits, List.append_cons front]
          dsimp only
          rw [isDuplicate_eq]
          by_cases isKnown : cstr entry.servicename ∈ list
          · rw [if_pos (decide_eq_true isKnown)]
            exact ih _ list (first.known isKnown)
          · rw [if_neg (by simpa using isKnown)]
            have more := ih _ _ (first.new isKnown)
            rw [List.map_append] at more
            exact more
        · simp_all [total]

theorem free_of_mem_matchingNames {matches' : List Byte → Bool} {svctbl : List Serviceentry}
    {name : List Byte} (member : name ∈ matchingNames matches' svctbl) : 0 ∉ name := by
  obtain ⟨entry, -, same⟩ := List.mem_map.mp (List.mem_of_mem_filter member)
  rw [← same]
  exact nul_notMem_cstr _

end Collect

section Fill

def stringBytes (list : List (List Byte)) : Nat := (list.map List.length).sum + list.length

theorem stringBytes_cons (name : List Byte) (list : List (List Byte)) :
    stringBytes (name :: list) = name.length + 1 + stringBytes list := by
  grind [List.length_cons, stringBytes]

theorem le_placesFrom {list : List (List Byte)} {tmp j place : Nat}
    (isPlace : (placesFrom tmp list)[j]? = some place) : tmp ≤ place := by
  induction list generalizing tmp j with
  | nil => cases isPlace
  | cons name list ih =>
      cases j with
      | zero =>
          cases isPlace
          exact Nat.le_refl _
      | succ j => exact (by omega : tmp ≤ tmp + name.length + 1).trans (ih isPlace)

theorem strncpy_self {name : List Byte} (free : 0 ∉ name) : strncpy name.length name = name := by
  rw [strncpy, cstr_eq_self free, List.take_length]

/-- The block after the loop: the strings are there, and everything outside of their places and of
the array is as it was. -/
structure Filled (rlist after : Block Cell) (i tmp : Nat) (list : List (List Byte)) : Prop where
  size : after.size = rlist.size
  strings : PointsTo after i (placesFrom tmp list) list
  elsewhere : ∀ other len, other + len ≤ sizeofPointer * i ∨
      (sizeofPointer * (i + list.length) ≤ other ∧ other + len ≤ tmp) →
    after.load other len = rlist.load other len

theorem fillList_filled (list : List (List Byte)) :
    ∀ (rlist : Block Cell) (i tmp : Nat), (∀ name ∈ list, 0 ∉ name) →
      sizeofPointer * (i + list.length) ≤ tmp → tmp + stringBytes list ≤ rlist.size →
      ∃ after, fillList rlist i tmp list (list.map List.length) = some after ∧
        Filled rlist after i tmp list := by
  induction list with
  | nil =>
      intro rlist i tmp _ _ _
      refine ⟨rlist, rfl, ⟨rfl, ?_, fun _ _ _ => rfl⟩⟩
      intro j place name isPlace
      cases isPlace
  | cons name list ih =>
      intro rlist i tmp free behind room
      rw [List.forall_mem_cons] at free
      rw [stringBytes_cons] at room
      rw [List.length_cons] at behind
      have array : sizeofPointer * (i + (list.length + 1)) =
          sizeofPointer * i + sizeofPointer + sizeofPointer * list.length := by
        rw [sizeofPointer]
        omega
      obtain ⟨first, isFirst⟩ := @Block.store_inside _ rlist (sizeofPointer * i)
        (pointerCells sizeofPointer (some tmp)) (by rw [length_pointerCells]; omega)
      have firstSize := Block.size_store isFirst
      obtain ⟨second, isSecond⟩ := @Block.store_inside _ first tmp (textCells name)
        (by rw [length_textCells]; omega)
      have secondSize := Block.size_store isSecond
      obtain ⟨third, isThird⟩ := @Block.store_inside _ second (tmp + name.length) (textCells [0])
        (by rw [length_textCells, List.length_singleton]; omega)
      have thirdSize := Block.size_store isThird
      obtain ⟨after, isAfter, filled⟩ := ih third (i + 1) (tmp + name.length + 1)
        free.2 (by rw [show i + 1 + list.length = i + (list.length + 1) by omega]; omega) (by omega)
      have apart : ∀ other len, other + len ≤ sizeofPointer * i ∨
          (sizeofPointer * (i + (list.length + 1)) ≤ other ∧ other + len ≤ tmp) →
            third.load other len = rlist.load other len := by
        intro other len outside
        rw [Block.load_apart isThird (by omega), Block.load_apart isSecond (by omega),
          Block.load_apart isFirst (by rw [length_pointerCells]; omega)]
      have pointer : third.HoldsPointer sizeofPointer (sizeofPointer * i) (some tmp) :=
        ((Block.holdsPointer_store isFirst).apart isSecond (by omega)).apart isThird (by omega)
      have text : third.HoldsText tmp (name ++ [0]) :=
        ((Block.holdsText_store isSecond).apart isThird (Or.inl (Nat.le_refl _))).append
          (Block.holdsText_store isThird)
      refine ⟨after, ?_, ⟨?_, ?_, ?_⟩⟩
      · rw [List.map_cons, fillList, isFirst]
        simp_all [strncpy_self, isSecond, isThird, isAfter]
      · rw [filled.size, thirdSize, secondSize, firstSize]
      · intro j place other isPlace isName
        cases j with
        | zero =>
            cases isPlace
            cases isName
            refine ⟨(filled.elsewhere _ _ (Or.inl ?_)).trans pointer,
              (filled.elsewhere _ _ (Or.inr ⟨?_, ?_⟩)).trans text⟩
            · rw [Nat.add_zero, Nat.mul_add, Nat.mul_one]
            · grind
            · rw [List.length_append, List.length_singleton, Nat.add_assoc]
        | succ j =>
            have later := filled.strings j place other isPlace isName
            rwa [show i + 1 + j = i + (j + 1) by omega] at later
      · intro other len outside
        rw [List.length_cons] at outside
        rw [filled.elsewhere other len, apart other len outside]
        grind

end Fill

/-- The list has each of the names that match once, in the order in which they come first, and its
block holds them. -/
theorem mwListServicesByglob_lists (tables : IpcTables) (isMatch : List Byte → List Byte → Bool)
    (malloc : Nat → Cell) (glob : Option (List Byte)) :
    ∃ list rlist,
      mwListServicesByglob tables 0 (total isMatch) malloc glob true =
        some ⟨list.length, some rlist⟩ ∧
      FirstOccurrences (matchingNames (isMatch (glob.getD [42])) tables.svctbl) list ∧
      HoldsList rlist list := by
  obtain ⟨names, collected, first, namelens⟩ :=
    @collectNames_first isMatch (glob.getD [42]) tables.svctbl [] [] .nil
  rw [List.nil_append] at first
  rw [List.map_nil] at collected
  have arrayEnd : sizeofPointer * (names.list.length + 1) =
      sizeofPointer * names.list.length + sizeofPointer := Nat.mul_succ _ _
  have free : ∀ name ∈ names.list, 0 ∉ name :=
    fun name member => free_of_mem_matchingNames ((first.mem name).mp member)
  have size : listSize names =
      sizeofPointer * (names.list.length + 1) + stringBytes names.list + 4 := by
    rw [listSize, stringBytes, namelens]
    omega
  obtain ⟨filled, isFilled, isRight⟩ := fillList_filled names.list ⟨listSize names, malloc⟩ 0
    (sizeofPointer * (names.list.length + 1)) free (by rw [Nat.zero_add]; omega)
    (by change _ ≤ listSize names; omega)
  obtain ⟨rlist, isRlist⟩ := @Block.store_inside _ filled (sizeofPointer * names.list.length)
    (pointerCells sizeofPointer none) (by
      rw [length_pointerCells, isRight.size]
      change _ ≤ listSize names
      omega)
  refine ⟨names.list, rlist, ?_, first, ?_, Block.holdsPointer_store isRlist, free⟩
  · simp [mwListServicesByglob, collected, namelens, isFilled, isRlist]
  · intro j place name isPlace isName
    have inArray : j < names.list.length := (List.getElem?_eq_some_iff.mp isName).1
    have behind := le_placesFrom isPlace
    obtain ⟨pointer, text⟩ := isRight.strings j place name isPlace isName
    refine ⟨pointer.apart isRlist (Or.inl ?_), text.apart isRlist (Or.inr ?_)⟩
    · rw [Nat.zero_add, ← Nat.mul_succ]
      exact Nat.mul_le_mul_left _ inArray
    · simp_all [length_pointerCells]

end MidWay.Client

import Mathlib.Tactic.Common

/-!
Contract: an array of two levels: a list of directories, each of one width.

An entry stays where it is when directories are added behind the last one.

Owns: `entryAt`, `modifyAt`, and what is read behind a change of one entry, a change of
a range of entries, and new directories.
-/

namespace MidWay.Lib

variable {α : Type} {width : Nat} {dirs : List (List α)}

def entryAt (width : Nat) (dirs : List (List α)) (place : Nat) : Option α :=
  (dirs[place / width]?).bind fun dir => dir[place % width]?

def modifyAt (width : Nat) (dirs : List (List α)) (place : Nat) (change : α → α) :
    List (List α) :=
  dirs.modify (place / width) fun dir => dir.modify (place % width) change

def AllWide (width : Nat) (dirs : List (List α)) : Prop :=
  ∀ dir ∈ dirs, dir.length = width

theorem entryAt_modifyAt (width : Nat) (dirs : List (List α)) (place : Nat) (change : α → α)
    (other : Nat) :
    entryAt width (modifyAt width dirs place change) other =
      if place = other then (entryAt width dirs other).map change
      else entryAt width dirs other := by
  unfold entryAt modifyAt
  rw [List.getElem?_modify]
  cases isDir : dirs[other / width]? with
  | none => simp
  | some dir =>
      grind [Nat.div_add_mod]

theorem length_modifyAt (width : Nat) (dirs : List (List α)) (place : Nat) (change : α → α) :
    (modifyAt width dirs place change).length = dirs.length :=
  List.length_modify ..

theorem AllWide.modifyAt (wide : AllWide width dirs) (place : Nat) (change : α → α) :
    AllWide width (modifyAt width dirs place change) := by
  intro dir member
  obtain ⟨idx, isDir⟩ := List.mem_iff_getElem?.mp member
  rw [MidWay.Lib.modifyAt, List.getElem?_modify, Option.map_eq_map, Option.map_eq_some_iff] at isDir
  obtain ⟨old, isOld, rfl⟩ := isDir
  have oldLength := wide old (List.mem_of_getElem? isOld)
  split_ifs
  · simp [List.length_modify, oldLength]
  · exact oldLength

/-- There are as many entries as fit the directories. -/
theorem AllWide.entryAt_isSome (wide : AllWide width dirs) (place : Nat) :
    (entryAt width dirs place).isSome = true ↔ place < dirs.length * width := by
  unfold entryAt
  constructor
  · intro isSome
    obtain ⟨entry, isEntry⟩ := Option.isSome_iff_exists.mp isSome
    obtain ⟨dir, isDir, inDir⟩ := Option.bind_eq_some_iff.mp isEntry
    obtain ⟨within, _⟩ := List.getElem?_eq_some_iff.mp isDir
    obtain ⟨inside, _⟩ := List.getElem?_eq_some_iff.mp inDir
    have dirLength := wide dir (List.mem_of_getElem? isDir)
    have positive : 0 < width := by
      omega
    exact (Nat.div_lt_iff_lt_mul positive).mp within
  · intro inside
    have positive : 0 < width := Nat.pos_of_mul_pos_left (Nat.zero_lt_of_lt inside)
    have within : place / width < dirs.length := (Nat.div_lt_iff_lt_mul positive).mpr inside
    rw [List.getElem?_eq_getElem within, Option.bind_some]
    have dirLength := wide _ (List.getElem_mem within)
    rw [List.getElem?_eq_getElem (by rw [dirLength]; exact Nat.mod_lt _ positive)]
    rfl

/-- New directories are behind all there are. -/
theorem entryAt_append (more : List (List α)) {place : Nat}
    (inside : place < dirs.length * width) :
    entryAt width (dirs ++ more) place = entryAt width dirs place := by
  grind [entryAt, Nat.pos_of_mul_pos_left, Nat.zero_lt_of_lt, Nat.div_lt_iff_lt_mul]

theorem AllWide.append {more : List (List α)} (wide : AllWide width dirs)
    (moreWide : AllWide width more) : AllWide width (dirs ++ more) := by
  intro dir member
  rcases List.mem_append.mp member with inDirs | inMore
  · exact wide dir inDirs
  · exact moreWide dir inMore

theorem allWide_replicate (count width : Nat) (entry : α) :
    AllWide width (List.replicate count (List.replicate width entry)) := by
  intro dir member
  rw [List.eq_of_mem_replicate member, List.length_replicate]

/-- A loop over the places from `first` on. -/
def modifyRange (width : Nat) (dirs : List (List α)) (first count : Nat) (change : α → α) :
    List (List α) :=
  (List.range' first count).foldl (fun dirs place => modifyAt width dirs place change) dirs

variable (dirs) in
theorem modifyRange_spec (first count : Nat) (change : α → α) :
    (modifyRange width dirs first count change).length = dirs.length ∧
      (AllWide width dirs → AllWide width (modifyRange width dirs first count change)) ∧
      ∀ place, entryAt width (modifyRange width dirs first count change) place =
        if first ≤ place ∧ place < first + count then (entryAt width dirs place).map change
        else entryAt width dirs place := by
  induction count with
  | zero =>
      refine ⟨rfl, fun wide => wide, ?_⟩
      intro place
      rw [if_neg (by omega)]
      rfl
  | succ count ih =>
      obtain ⟨sameLength, stillWide, entries⟩ := ih
      have oneMore : modifyRange width dirs first (count + 1) change =
          modifyAt width (modifyRange width dirs first count change) (first + count) change := by
        rw [modifyRange, List.range'_concat, List.foldl_append, Nat.one_mul]
        rfl
      rw [oneMore]
      refine ⟨(length_modifyAt ..).trans sameLength, fun wide => (stillWide wide).modifyAt _ _, ?_⟩
      intro place
      rw [entryAt_modifyAt, entries]
      by_cases isLast : first + count = place
      · rw [if_pos isLast, if_neg (by omega), if_pos (by omega)]
      · grind

end MidWay.Lib

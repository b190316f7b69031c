import Mathlib.Data.List.Basic

/-!
Contract: an allocated block that is written at any place.

A store puts several cells behind each other, and fails when one of them is outside of
the block. What is read afterwards is what was stored last. A byte takes one cell; a
pointer into the block takes a number of cells, which only together are the pointer.

Owns: `Block`, its `store` and `load`, and the cells of texts and pointers.
-/

namespace MidWay.Lib

variable {α : Type}

structure Block (α : Type) where
  size : Nat
  cells : Nat → α

def Block.store (block : Block α) (offset : Nat) (values : List α) : Option (Block α) :=
  if offset + values.length ≤ block.size then
    some { block with
      cells := fun place =>
        if offset ≤ place then (values[place - offset]?).getD (block.cells place)
        else block.cells place }
  else none

def Block.load (block : Block α) (offset len : Nat) : Option (List α) :=
  if offset + len ≤ block.size then
    some ((List.range len).map fun index => block.cells (offset + index))
  else none

def Block.grow (block : Block α) (size : Nat) (left : Nat → α) : Block α :=
  ⟨size, fun place => if place < block.size then block.cells place else left place⟩

/-- What could be read still can. -/
theorem Block.load_grow {block : Block α} {offset len size : Nat} {values : List α}
    (loaded : block.load offset len = some values) (larger : block.size ≤ size) (left : Nat → α) :
    (block.grow size left).load offset len = some values := by
  rw [Block.load] at loaded ⊢
  split_ifs at loaded with inside
  have still : offset + len ≤ (block.grow size left).size := Nat.le_trans inside larger
  rw [if_pos still, ← loaded, Option.some.injEq, List.map_inj_left]
  intro index member
  have bound := List.mem_range.mp member
  exact if_pos (by omega)

section Store

variable {block after : Block α} {offset : Nat} {values : List α}

theorem Block.store_inside (inside : offset + values.length ≤ block.size) :
    ∃ after, block.store offset values = some after :=
  ⟨_, if_pos inside⟩

theorem Block.size_store (stored : block.store offset values = some after) :
    after.size = block.size := by
  grind [Block.store]

theorem Block.cells_store (stored : block.store offset values = some after) (place : Nat) :
    after.cells place = if offset ≤ place then (values[place - offset]?).getD (block.cells place)
      else block.cells place := by
  grind [Block.store]

theorem Block.store_lt (stored : block.store offset values = some after) :
    offset + values.length ≤ block.size := by
  simp_all [Block.store]

/-- What was stored is read. -/
theorem Block.load_store (stored : block.store offset values = some after) :
    after.load offset values.length = some values := by
  have inside := Block.store_lt stored
  rw [Block.load, if_pos (by rw [Block.size_store stored]; exact inside), Option.some.injEq]
  apply List.ext_getElem
  · simp
  · intro index _ isValue
    rw [List.getElem_map, List.getElem_range, Block.cells_store stored,
      if_pos (Nat.le_add_right _ _), Nat.add_sub_cancel_left, List.getElem?_eq_getElem isValue]
    rfl

/-- A store elsewhere does not matter. -/
theorem Block.load_apart (stored : block.store offset values = some after) {other len : Nat}
    (apart : other + len ≤ offset ∨ offset + values.length ≤ other) :
    after.load other len = block.load other len := by
  unfold Block.load
  rw [Block.size_store stored]
  split_ifs with inside
  · rw [Option.some.injEq, List.map_inj_left]
    intro index member
    have bound := List.mem_range.mp member
    rw [Block.cells_store stored]
    split_ifs with behind
    · grind
    · rfl
  · rfl

end Store

inductive Cell where
  | unset
  | byte (value : UInt8)
  /-- One of the cells of a pointer to an offset of the block; a null pointer has no target. -/
  | pointer (target : Option Nat) (part : Nat)
deriving DecidableEq, Repr

def textCells (text : List UInt8) : List Cell := text.map Cell.byte

def pointerCells (width : Nat) (target : Option Nat) : List Cell :=
  (List.range width).map (Cell.pointer target)

@[simp] theorem length_textCells (text : List UInt8) : (textCells text).length = text.length :=
  List.length_map _

@[simp] theorem length_pointerCells (width : Nat) (target : Option Nat) :
    (pointerCells width target).length = width := by
  rw [pointerCells, List.length_map, List.length_range]

def Block.HoldsText (block : Block Cell) (offset : Nat) (text : List UInt8) : Prop :=
  block.load offset text.length = some (textCells text)

def Block.HoldsPointer (block : Block Cell) (width offset : Nat) (target : Option Nat) : Prop :=
  block.load offset width = some (pointerCells width target)

section Holds

variable {block after : Block Cell} {offset other width : Nat} {values : List Cell}
  {text : List UInt8} {target : Option Nat}

theorem Block.HoldsText.inside (holds : block.HoldsText offset text) :
    offset + text.length ≤ block.size := by
  rw [Block.HoldsText, Block.load] at holds
  split_ifs at holds with inside
  exact inside

theorem Block.HoldsText.apart (holds : block.HoldsText other text)
    (stored : block.store offset values = some after)
    (apart : other + text.length ≤ offset ∨ offset + values.length ≤ other) :
    after.HoldsText other text :=
  (Block.load_apart stored apart).trans holds

theorem Block.HoldsPointer.apart (holds : block.HoldsPointer width other target)
    (stored : block.store offset values = some after)
    (apart : other + width ≤ offset ∨ offset + values.length ≤ other) :
    after.HoldsPointer width other target :=
  (Block.load_apart stored apart).trans holds

theorem Block.holdsText_store (stored : block.store offset (textCells text) = some after) :
    after.HoldsText offset text := by
  have loaded := Block.load_store stored
  rwa [length_textCells] at loaded

theorem Block.holdsPointer_store (stored : block.store offset (pointerCells width target) = some after) :
    after.HoldsPointer width offset target := by
  have loaded := Block.load_store stored
  rwa [length_pointerCells] at loaded

/-- Two texts behind each other are one. -/
theorem Block.HoldsText.append {front behind : List UInt8} (holds : block.HoldsText offset front)
    (follows : block.HoldsText (offset + front.length) behind) :
    block.HoldsText offset (front ++ behind) := by
  have inside := follows.inside
  have frontInside := holds.inside
  rw [Block.HoldsText, Block.load, if_pos (by omega), Option.some.injEq] at holds follows
  rw [Block.HoldsText, Block.load, if_pos (by rw [List.length_append]; omega), Option.some.injEq,
    textCells, List.map_append, List.length_append, List.range_add, List.map_append]
  rw [holds, List.map_map]
  have shifted : (List.range behind.length).map
      ((fun index => block.cells (offset + index)) ∘ fun index => front.length + index) =
        (List.range behind.length).map fun index => block.cells (offset + front.length + index) := by
    apply List.map_congr_left
    intro index _
    exact congrArg block.cells (Nat.add_assoc _ _ _).symm
  rw [shifted, follows]
  rfl

end Holds

end MidWay.Lib

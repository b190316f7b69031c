import Mathlib.Data.List.Basic

/-!
Contract: a block of memory that is written from its front.

A writer puts one element behind the other, and may store a terminator behind the last
one, which the next element then overwrites. Every store is kept with the size the block
had at that moment, so that it can be said afterwards whether all of them were inside.

Owns: `Writing`, its operations, and when they stay inside the block.
-/

namespace MidWay.Lib

/-- What stands in the block, its size, and the stores: each index with the size of the
block at that moment. -/
structure Writing (α : Type) where
  text : List α
  size : Int
  stores : List (Nat × Int)
deriving DecidableEq, Repr

variable {α : Type}

def Writing.start (size : Int) : Writing α := ⟨[], size, []⟩

def Writing.put (writing : Writing α) (element : α) : Writing α :=
  ⟨writing.text ++ [element], writing.size,
    writing.stores ++ [(writing.text.length, writing.size)]⟩

def Writing.putAll (writing : Writing α) : List α → Writing α
  | [] => writing
  | element :: rest => (writing.put element).putAll rest

/-- A store behind the text, which does not grow. -/
def Writing.terminate (writing : Writing α) : Writing α :=
  { writing with stores := writing.stores ++ [(writing.text.length, writing.size)] }

def Writing.field (writing : Writing α) (text : List α) : Writing α :=
  (writing.putAll text).terminate

def Writing.resize (writing : Writing α) (size : Int) : Writing α := { writing with size := size }

/-- What another writer stored in the block behind the text of this one. -/
def Writing.append (writing behind : Writing α) : Writing α :=
  ⟨writing.text ++ behind.text, writing.size,
    writing.stores ++ behind.stores.map fun store =>
      (writing.text.length + store.1, (writing.text.length : Int) + store.2)⟩

def Writing.Inside (writing : Writing α) : Prop :=
  ∀ store ∈ writing.stores, (store.1 : Int) < store.2

instance (writing : Writing α) : Decidable writing.Inside :=
  inferInstanceAs (Decidable (∀ store ∈ writing.stores, (store.1 : Int) < store.2))

section Shape

variable (writing : Writing α) (element : α) (text : List α)

@[simp] theorem Writing.text_put : (writing.put element).text = writing.text ++ [element] := rfl

@[simp] theorem Writing.size_put : (writing.put element).size = writing.size := rfl

@[simp] theorem Writing.text_putAll : (writing.putAll text).text = writing.text ++ text := by
  induction text generalizing writing with
  | nil => exact (List.append_nil _).symm
  | cons first rest ih =>
      simp [Writing.putAll, ih, Writing.text_put, List.append_assoc]

@[simp] theorem Writing.size_putAll : (writing.putAll text).size = writing.size := by
  induction text generalizing writing with
  | nil => rfl
  | cons first rest ih => exact ih (writing.put first)

@[simp] theorem Writing.text_field : (writing.field text).text = writing.text ++ text :=
  writing.text_putAll text

@[simp] theorem Writing.size_field : (writing.field text).size = writing.size :=
  writing.size_putAll text

end Shape

section Stores

variable (writing : Writing α)

theorem Writing.inside_start (size : Int) : (Writing.start size : Writing α).Inside := by
  intro store member
  cases member

/-- One more store. -/
theorem inside_snoc {stores : List (Nat × Int)} (index : Nat) (size : Int) :
    (∀ store ∈ stores ++ [(index, size)], (store.1 : Int) < store.2) ↔
      (∀ store ∈ stores, (store.1 : Int) < store.2) ∧ (index : Int) < size := by
  simp only [List.mem_append, List.mem_singleton, or_imp, forall_and, forall_eq]

theorem Writing.inside_put (element : α) :
    (writing.put element).Inside ↔ writing.Inside ∧ (writing.text.length : Int) < writing.size :=
  inside_snoc writing.text.length writing.size

theorem Writing.inside_terminate :
    writing.terminate.Inside ↔ writing.Inside ∧ (writing.text.length : Int) < writing.size :=
  inside_snoc writing.text.length writing.size

/-- The terminator is the store that counts. -/
theorem Writing.inside_field (text : List α) :
    (writing.field text).Inside ↔
      writing.Inside ∧ ((writing.text.length + text.length : Nat) : Int) < writing.size := by
  induction text generalizing writing with
  | nil => exact writing.inside_terminate
  | cons first rest ih =>
      have further := ih (writing.put first)
      rw [Writing.inside_put, Writing.text_put, Writing.size_put, List.length_append,
        List.length_singleton] at further
      change ((writing.put first).field rest).Inside ↔ _
      rw [further, List.length_cons]
      constructor
      · grind
      · grind

theorem Writing.inside_append (behind : Writing α) :
    (writing.append behind).Inside ↔ writing.Inside ∧ behind.Inside := by
  simp only [Writing.Inside, Writing.append, List.mem_append, or_imp, forall_and]
  apply and_congr_right
  intro _
  constructor
  · grind [List.mem_map_of_mem]
  · grind

end Stores

end MidWay.Lib

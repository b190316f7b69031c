import Mathlib.Data.List.Basic
import Mathlib.Data.List.Count
import Mathlib.Data.List.Forall2

/-!
Contract: resources that several holders wait for, each of them any number of times.

A resource goes when nobody waits for it any more: a holder releases it once, or leaves
and takes all its claims along. The holders of one resource are kept in order, so that
they can be compared with a list a program keeps.

Owns: `Holding`, `release`, `leave`, and when a left holder is one that released once.
-/

namespace MidWay.Lib

variable {Resource Holder : Type}

/-- A resource, and those that still wait for it. -/
structure Holding (Resource Holder : Type) where
  resource : Resource
  waiting : List Holder
deriving Repr

def awaited (held : List (Holding Resource Holder)) : List (Holding Resource Holder) :=
  held.filter fun holding => !holding.waiting.isEmpty

theorem awaited_eq_self {held : List (Holding Resource Holder)}
    (waits : ∀ holding ∈ held, holding.waiting ≠ []) : awaited held = held := by
  simp_all [awaited, List.filter_eq_self]

theorem awaited_cons {holding : Holding Resource Holder} (waits : holding.waiting ≠ [])
    (held : List (Holding Resource Holder)) :
    awaited (holding :: held) = holding :: awaited held :=
  List.filter_cons_of_pos (by simpa using waits)

variable [DecidableEq Holder]

/-- The holder releases the resource at the position once. -/
def release (held : List (Holding Resource Holder)) (position : Nat) (holder : Holder) :
    List (Holding Resource Holder) :=
  awaited (held.modify position fun holding =>
    { holding with waiting := holding.waiting.erase holder })

def leave (held : List (Holding Resource Holder)) (holder : Holder) :
    List (Holding Resource Holder) :=
  awaited (held.map fun holding =>
    { holding with waiting := holding.waiting.filter fun other => other ≠ holder })

section

variable {holding : Holding Resource Holder} {held : List (Holding Resource Holder)}
  {holder : Holder}

theorem release_succ (waits : holding.waiting ≠ []) (position : Nat) :
    release (holding :: held) (position + 1) holder = holding :: release held position holder :=
  awaited_cons waits _

/-- The last one that waits releases. -/
theorem release_last (waits : ∀ holding ∈ held, holding.waiting ≠ [])
    (last : holding.waiting.erase holder = []) : release (holding :: held) 0 holder = held := by
  simp_all [release, List.modify_zero_cons, awaited, List.filter_cons_of_neg]

theorem release_more (waits : ∀ holding ∈ held, holding.waiting ≠ [])
    (more : holding.waiting.erase holder ≠ []) :
    release (holding :: held) 0 holder =
      { holding with waiting := holding.waiting.erase holder } :: held := by
  rw [release, List.modify_zero_cons, awaited_cons more, awaited_eq_self waits]

theorem leave_cons (more : (holding.waiting.filter fun other => other ≠ holder) ≠ []) :
    leave (holding :: held) holder =
      { holding with waiting := holding.waiting.filter fun other => other ≠ holder } ::
        leave held holder :=
  awaited_cons more _

end

/-- A holder that waits once leaves as if it had released. -/
theorem filter_ne_eq_erase {holder : Holder} {waiting : List Holder}
    (once : waiting.count holder ≤ 1) :
    (waiting.filter fun other => other ≠ holder) = waiting.erase holder := by
  induction waiting with
  | nil => rfl
  | cons head waiting ih =>
      by_cases same : head = holder
      · rw [same, List.count_cons_self] at once
        have absent : holder ∉ waiting := List.count_eq_zero.mp (by omega)
        rw [same, List.erase_cons_head, List.filter_cons_of_neg (by simp), List.filter_eq_self]
        intro other member
        have different : other ≠ holder := fun isHolder => absent (isHolder ▸ member)
        simpa using different
      · rw [List.count_cons_of_ne (fun isHolder => same isHolder)] at once
        rw [List.erase_cons_tail (by simpa using same), List.filter_cons_of_pos (by simpa using same),
          ih once]

end MidWay.Lib

import Mathlib.Data.List.Nodup
import Mathlib.Data.List.Infix

/-!
Contract: a list without its repetitions, in the order in which the elements come first.

Owns: `FirstOccurrences`, that there is one such list, and the rules for one more element at the
end.
-/

namespace MidWay.Lib

variable {α : Type} [DecidableEq α]

/-- The elements of `all`, each once, in the order in which they come first there. -/
structure FirstOccurrences (all firsts : List α) : Prop where
  nodup : firsts.Nodup
  mem : ∀ element, element ∈ firsts ↔ element ∈ all
  ordered : firsts.Pairwise fun one other => all.idxOf one < all.idxOf other

variable {all firsts : List α} {element : α}

theorem FirstOccurrences.nil : FirstOccurrences ([] : List α) [] :=
  ⟨List.nodup_nil, fun _ => Iff.rfl, List.Pairwise.nil⟩

/-- Behind all others nothing changes for the elements that are there. -/
theorem FirstOccurrences.ordered_append (first : FirstOccurrences all firsts) (more : List α) :
    firsts.Pairwise fun one other => (all ++ more).idxOf one < (all ++ more).idxOf other := by
  apply first.ordered.imp_of_mem
  intro one other isOne isOther before
  rw [List.idxOf_append_of_mem ((first.mem one).mp isOne),
    List.idxOf_append_of_mem ((first.mem other).mp isOther)]
  exact before

theorem FirstOccurrences.known (first : FirstOccurrences all firsts) (isKnown : element ∈ firsts) :
    FirstOccurrences (all ++ [element]) firsts := by
  refine ⟨first.nodup, ?_, first.ordered_append [element]⟩
  intro other
  rw [List.mem_append, List.mem_singleton, first.mem]
  constructor
  · exact Or.inl
  · intro either
    rcases either with isIn | same
    · exact isIn
    · simp_all [first.mem]

theorem FirstOccurrences.new (first : FirstOccurrences all firsts) (isNew : element ∉ firsts) :
    FirstOccurrences (all ++ [element]) (firsts ++ [element]) := by
  have notIn : element ∉ all := fun member => isNew ((first.mem element).mpr member)
  constructor
  · rw [List.nodup_append]
    refine ⟨first.nodup, List.nodup_singleton element, ?_⟩
    intro one isOne other isOther same
    rw [same, List.mem_singleton.mp isOther] at isOne
    exact isNew isOne
  · simp [List.mem_append, first.mem]
  · rw [List.pairwise_append]
    refine ⟨first.ordered_append [element], List.pairwise_singleton _ _, ?_⟩
    intro one isOne other isOther
    have isIn := (first.mem one).mp isOne
    rw [List.mem_singleton.mp isOther, List.idxOf_append_of_mem isIn,
      List.idxOf_append_of_notMem notIn]
    exact Nat.lt_add_right _ (List.idxOf_lt_length_iff.mpr isIn)

/-- There is only one such list. -/
theorem FirstOccurrences.unique {others : List α} (first : FirstOccurrences all firsts)
    (other : FirstOccurrences all others) : firsts = others := by
  have sameElements : firsts.Perm others := by
    simp [List.perm_ext_iff_of_nodup, first.mem, other.mem, first.nodup, other.nodup]
  refine List.Perm.eq_of_pairwise ?_ first.ordered other.ordered sameElements
  intro one two _ _ before after
  exact absurd before (Nat.lt_asymm after)

end MidWay.Lib

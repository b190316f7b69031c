import MidWay.CLib.Bytes

/-!
Contract: strings in arrays of a fixed size.

`strncpy` fills the array up with NULs, and terminates nothing that fills it by itself.

Owns: `strncpy`, `strncmp`, the string of an array, and for which strings an array holds what
was copied to it.
-/

namespace MidWay.CLib

/-- What `strncpy(array, src, n)` stores. -/
def strncpy (n : Nat) (src : List Byte) : List Byte :=
  (cstr src).take n ++ List.replicate (n - strlen src) 0

/-- `strncmp(left, right, n) == 0`. -/
def strncmpeq (n : Nat) (left right : List Byte) : Bool :=
  (cstr left).take n == (cstr right).take n

def arrayString (array : List Byte) : Option (List Byte) :=
  if 0 ∈ array then some (cstr array) else none

@[simp] theorem length_strncpy (n : Nat) (src : List Byte) : (strncpy n src).length = n := by
  grind [strncpy, strlen, List.length_append, List.length_take, List.length_replicate]

theorem cstr_strncpy (n : Nat) (src : List Byte) : cstr (strncpy n src) = (cstr src).take n := by
  have nulFree : 0 ∉ (cstr src).take n := fun member =>
    nul_notMem_cstr src (List.mem_of_mem_take member)
  have padding : cstr (List.replicate (n - strlen src) 0) = [] := by
    cases n - strlen src with
    | zero => rfl
    | succ more => exact cstr_nul _
  rw [strncpy, cstr_append nulFree, padding, List.append_nil]

section Held

variable {n : Nat} {src : List Byte}

theorem strncpy_short (short : strlen src < n) :
    ∃ padding, strncpy n src = cstr src ++ 0 :: padding := by
  obtain ⟨more, isMore⟩ := Nat.exists_eq_add_of_lt short
  refine ⟨List.replicate more 0, ?_⟩
  rw [strncpy, List.take_of_length_le short.le, show n - strlen src = more + 1 by omega,
    List.replicate_succ]

theorem arrayString_strncpy (nulFree : 0 ∉ src) (short : src.length < n) (behind : List Byte) :
    arrayString (strncpy n src ++ behind) = some src := by
  have same : cstr src = src := cstr_eq_self nulFree
  have isShort : strlen src < n := by
    simp [strlen, same, short]
  obtain ⟨padding, isPadded⟩ := strncpy_short isShort
  rw [isPadded, same, List.append_assoc, List.cons_append, arrayString,
    if_pos (List.mem_append_right _ List.mem_cons_self), cstr_terminated nulFree]

/-- With no NUL behind it the array holds shorter strings only. -/
theorem arrayString_strncpy_inv {behind : List Byte} (noNul : 0 ∉ behind)
    (held : arrayString (strncpy n src ++ behind) = some src) : 0 ∉ src ∧ src.length < n := by
  have short : strlen src < n := by
    by_contra fills
    have whole : strncpy n src = (cstr src).take n := by
      simp_all [strncpy, Nat.sub_eq_zero_of_le, List.replicate_zero, List.append_nil]
    have absent : 0 ∉ strncpy n src ++ behind := by
      rw [List.mem_append, not_or, whole]
      exact ⟨fun member => nul_notMem_cstr src (List.mem_of_mem_take member), noNul⟩
    rw [arrayString, if_neg absent] at held
    cases held
  obtain ⟨padding, isPadded⟩ := strncpy_short short
  rw [isPadded, List.append_assoc, List.cons_append, arrayString,
    if_pos (List.mem_append_right _ List.mem_cons_self),
    cstr_terminated (nul_notMem_cstr src), Option.some.injEq] at held
  rw [strlen, held] at short
  refine ⟨?_, short⟩
  rw [← held]
  exact nul_notMem_cstr src

theorem strncmpeq_strncpy (nulFree : 0 ∉ src) (short : src.length < n) (other : List Byte) :
    strncmpeq n (strncpy n src) other = true ↔ cstr other = src := by
  rw [strncmpeq, beq_iff_eq, cstr_strncpy, cstr_eq_self nulFree, List.take_take, Nat.min_self,
    List.take_of_length_le short.le]
  constructor
  · grind [List.length_take, List.take_of_length_le]
  · grind [List.take_of_length_le]

end Held

end MidWay.CLib

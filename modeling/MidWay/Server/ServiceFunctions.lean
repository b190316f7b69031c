import Mathlib.Data.List.TakeWhile
import MidWay.CLib.Errno
import MidWay.Lib.Runs
import MidWay.Lib.TailedList

/-!
Contract: which function a request for a service is given to.

A server keeps its functions in a singly linked list, the last one pushed in front.
The search of `_mw_popservice` behind the first element leaves the previous pointer on
it, so that the element that is found is bypassed together with all that stand between
it and the first.

Owns: `_mw_pushservice`, `_mw_popservice` and the choice of `_mwCallCServiceFunction`,
what each of them does to the list, and the runs in which the list is that of the pairs
that were pushed and not popped.
-/

namespace MidWay.Server

open MidWay.CLib MidWay.Lib

section

variable {Func : Type}

/-- A `ServiceFuncEntry` is a cell with its `svcid` and `func`. `allocated` counts the elements
there have been; no list is longer, so that the loops end within it. It has no counterpart in
the program. -/
structure ServiceFuncs (Func : Type) where
  serviceFuncList : Option Nat
  cells : Nat → Option (ListCell Nat (Int × Func))
  allocated : Nat

/-- `newent` is the address `malloc` gives. -/
def ServiceFuncs.mwPushservice (list : ServiceFuncs Func) (newent : Nat) (sid : Int)
    (svcfunc : Func) : ServiceFuncs Func where
  serviceFuncList := some newent
  cells := Function.update list.cells newent (some ⟨list.serviceFuncList, (sid, svcfunc)⟩)
  allocated := list.allocated + 1

/-- `prev` is set in front of the loop only. -/
def ServiceFuncs.mwPopservice (list : ServiceFuncs Func) (sid : Int) :
    Except ListFault (ServiceFuncs Func) :=
  match list.serviceFuncList with
  | none => .ok list
  | some prev =>
      match list.cells prev with
      | none => .error .wild
      | some cell =>
          if cell.value.1 = sid then
            .ok { list with
              serviceFuncList := cell.next
              cells := Function.update list.cells prev none }
          else
            match walk list.cells (fun thisp => thisp.value.1 == sid) list.allocated cell.next with
            | .error fault => .error fault
            | .ok none => .ok list
            | .ok (some thisp) =>
                match list.cells thisp with
                | none => .error .wild
                | some found =>
                    .ok { list with
                      cells := Function.update
                        (Function.update list.cells prev (some { cell with next := found.next }))
                        thisp none }

inductive Called (Func : Type) where
  | called (func : Func)
  | refused (rc : Int)

def ServiceFuncs.mwCallCServiceFunction (list : ServiceFuncs Func) (svcid : Int) :
    Except ListFault (Called Func) :=
  match list.serviceFuncList with
  | none => .ok (.refused (rcOf .ENOENT))
  | some first =>
      match walk list.cells (fun serviceptr => serviceptr.value.1 == svcid) list.allocated
        (some first) with
      | .error fault => .error fault
      | .ok none => .ok (.refused (rcOf .EBADRQC))
      | .ok (some serviceptr) =>
          match list.cells serviceptr with
          | none => .error .wild
          | some cell => .ok (.called cell.value.2)

/-- The first element when it passes the test; else what stands between it and the one that
passes goes as well. -/
def popped {α : Type} (test : α → Bool) : List α → List α
  | [] => []
  | first :: rest =>
      if test first then rest
      else
        match rest.dropWhile fun other => !test other with
        | [] => first :: rest
        | _ :: behind => first :: behind

section

variable {α : Type} {test : α → Bool}

theorem popped_absent {list : List α} (absent : ∀ element ∈ list, test element = false) :
    popped test list = list := by
  cases list with
  | nil => rfl
  | cons first rest =>
      rw [List.forall_mem_cons] at absent
      have none : (rest.dropWhile fun other => !test other) = [] := by
        simp_all [List.dropWhile_eq_nil_iff]
      rw [popped, absent.1, none]
      rfl

theorem popped_found {first found : α} {before behind : List α} (notFirst : test first = false)
    (others : ∀ element ∈ before, test element = false) (passes : test found = true) :
    popped test (first :: (before ++ found :: behind)) = first :: behind := by
  have rest : ((before ++ found :: behind).dropWhile fun other => !test other) =
      found :: behind := by
    rw [List.dropWhile_append_of_pos]
    · rw [List.dropWhile_cons_of_neg]
      rw [passes]
      decide
    · intro element member
      rw [others element member]
      rfl
  rw [popped, notFirst, rest]
  rfl

/-- Only an element behind the second one takes others with it. -/
theorem popped_eq_eraseP (list : List α) :
    popped test list = list.eraseP test ↔ list.findIdx test < 2 ∨ ∀ element ∈ list,
      test element = false := by
  cases list with
  | nil =>
      refine ⟨fun _ => Or.inr ?_, fun _ => rfl⟩
      intro element member
      cases member
  | cons first rest =>
      cases isFirst : test first with
      | true =>
          simp [popped, isFirst, List.eraseP_cons_of_pos, List.findIdx_cons]
      | false =>
          rw [List.eraseP_cons_of_neg (ne_true_of_eq_false isFirst), List.findIdx_cons, isFirst,
            cond_false]
          cases isFound : rest.find? test with
          | none =>
              simp_all [popped_absent, List.eraseP_of_forall_not, eq_false_of_ne_true]
          | some found =>
              obtain ⟨passes, before, behind, rfl, others⟩ := List.find?_eq_some_iff_append.mp isFound
              have notBefore : ∀ element ∈ before, test element = false := by
                simp_all
              have place : (before ++ found :: behind).findIdx test = before.length := by
                rw [List.findIdx_append, List.findIdx_cons, passes]
                simp_all [List.findIdx_eq_length, none, if_neg, cond_true, Nat.zero_add]
              have erased : (before ++ found :: behind).eraseP test = before ++ behind := by
                simp_all [List.eraseP_append_right]
              rw [popped_found isFirst notBefore passes, place, erased]
              constructor
              · simp_all [Or.inl]
              · grind

theorem popped_map {β : Type} {map : β → α} (list : List β) :
    (popped (fun element => test (map element)) list).map map = popped test (list.map map) := by
  cases list with
  | nil => rfl
  | cons first rest =>
      rw [List.map_cons, popped, popped]
      cases test (map first) with
      | true => rfl
      | false =>
          rw [List.dropWhile_map]
          rw [if_neg Bool.false_ne_true, if_neg Bool.false_ne_true]
          change List.map map (match rest.dropWhile fun other => !test (map other) with
            | [] => first :: rest
            | _ :: behind => first :: behind) =
            match (rest.dropWhile fun other => !test (map other)).map map with
            | [] => map first :: rest.map map
            | _ :: behind => map first :: behind
          grind

end

structure ServiceFuncs.Holds (list : ServiceFuncs Func) (contents : List (Nat × Int × Func)) :
    Prop where
  segment : ListSegment list.cells list.serviceFuncList contents none
  bounded : contents.length ≤ list.allocated

variable {list : ServiceFuncs Func} {contents : List (Nat × Int × Func)}

theorem ServiceFuncs.Holds.push (holds : list.Holds contents) {newent : Nat}
    (fresh : list.cells newent = none) (sid : Int) (svcfunc : Func) :
    (list.mwPushservice newent sid svcfunc).Holds ((newent, sid, svcfunc) :: contents) := by
  refine ⟨⟨rfl, list.serviceFuncList, Function.update_self _ _ _, ?_⟩,
    Nat.succ_le_succ holds.bounded⟩
  apply holds.segment.congr
  intro entry member
  have other : entry.1 ≠ newent := by
    intro same
    obtain ⟨front, back, rfl⟩ := List.append_of_mem member
    obtain ⟨_, _, _, next, isCell, _⟩ := segment_append_iff.mp holds.segment
    rw [same, fresh] at isCell
    cases isCell
  exact Function.update_of_ne other _ _

theorem ServiceFuncs.Holds.pop (holds : list.Holds contents) (sid : Int) :
    ∃ after, list.mwPopservice sid = .ok after ∧
      after.Holds (popped (fun entry => entry.2.1 == sid) contents) := by
  cases contents with
  | nil =>
      have isEmpty : list.serviceFuncList = none := holds.segment
      refine ⟨list, ?_, holds⟩
      rw [ServiceFuncs.mwPopservice, isEmpty]
  | cons first rest =>
      have distinct := holds.segment.nodup
      obtain ⟨isHead, next, isCell, segment⟩ := holds.segment
      rw [List.map_cons, List.nodup_cons] at distinct
      have apart : ∀ entry ∈ rest, entry.1 ≠ first.1 := by
        grind
      have bounded : rest.length + 1 ≤ list.allocated := holds.bounded
      rw [ServiceFuncs.mwPopservice, isHead]
      dsimp only
      rw [isCell]
      dsimp only
      by_cases isFirst : first.2.1 = sid
      · have passes : (first.2.1 == sid) = true := beq_iff_eq.mpr isFirst
        rw [if_pos isFirst, popped, passes]
        refine ⟨_, rfl, ?_, Nat.le_of_succ_le bounded⟩
        exact segment.congr fun entry member => Function.update_of_ne (apart entry member) _ _
      · have notFirst : (first.2.1 == sid) = false := beq_false_of_ne isFirst
        rw [if_neg isFirst, segment.walk_value (fun value => value.1 == sid)
          (Nat.le_of_succ_le bounded)]
        cases isFound : rest.find? fun entry => entry.2.1 == sid with
        | none =>
            have absent : ∀ entry ∈ first :: rest, (entry.2.1 == sid) = false := by
              grind
            grind [popped_absent]
        | some found =>
            obtain ⟨passes, before, behind, rfl, others⟩ :=
              List.find?_eq_some_iff_append.mp isFound
            have notBefore : ∀ entry ∈ before, (entry.2.1 == sid) = false := by
              grind
            rw [@popped_found _ (fun entry : Nat × Int × Func => entry.2.1 == sid) _ _ _ _ notFirst
              notBefore passes]
            obtain ⟨_, _, _, later, isFoundCell, behindSegment⟩ := segment_append_iff.mp segment
            dsimp only [Option.map_some]
            rw [isFoundCell]
            have firstOther : first.1 ≠ found.1 :=
              (apart found (List.mem_append_right _ List.mem_cons_self)).symm
            have behindOther : ∀ entry ∈ behind, entry.1 ≠ found.1 := by
              grind
            refine ⟨_, rfl, ⟨rfl, later, ?_, ?_⟩, ?_⟩
            · simp_all [Function.update_of_ne, Function.update_self]
            · apply behindSegment.congr
              grind
            · grind

def answerOf (pairs : List (Int × Func)) (svcid : Int) : Called Func :=
  match pairs.find? fun pair => pair.1 == svcid with
  | some pair => .called pair.2
  | none => .refused (if pairs.isEmpty then rcOf .ENOENT else rcOf .EBADRQC)

theorem ServiceFuncs.Holds.call (holds : list.Holds contents) (svcid : Int) :
    list.mwCallCServiceFunction svcid = .ok (answerOf (contents.map Prod.snd) svcid) := by
  cases contents with
  | nil =>
      have isEmpty : list.serviceFuncList = none := holds.segment
      rw [ServiceFuncs.mwCallCServiceFunction, isEmpty]
      rfl
  | cons first rest =>
      have walked := holds.segment.walk_value (fun value => value.1 == svcid) holds.bounded
      rw [holds.segment.1] at walked
      rw [ServiceFuncs.mwCallCServiceFunction, holds.segment.1]
      dsimp only
      rw [walked, answerOf, List.find?_map]
      change _ = Except.ok (match ((first :: rest).find? fun entry => entry.2.1 == svcid).map
        Prod.snd with
        | some pair => Called.called pair.2
        | none => Called.refused (rcOf .EBADRQC))
      cases isFound : (first :: rest).find? fun entry => entry.2.1 == svcid with
      | none => rfl
      | some found =>
          obtain ⟨_, before, behind, shape, _⟩ := List.find?_eq_some_iff_append.mp isFound
          have segment := holds.segment
          rw [shape] at segment
          obtain ⟨_, _, _, next, isCell, _⟩ := segment_append_iff.mp segment
          dsimp only [Option.map_some]
          rw [isCell]

/-- `registered` are the pairs pushed and not popped since, the last one first. -/
structure Serving (Func : Type) where
  funcs : ServiceFuncs Func
  registered : List (Int × Func)

inductive ServiceAction (Func : Type) where
  | push (newent : Nat) (sid : Int) (svcfunc : Func)
  | pop (sid : Int)

/-- `malloc` gives an address that is not in use, and the ids that are registered differ. -/
def Serving.Enabled (state : Serving Func) : ServiceAction Func → Prop
  | .push newent sid _ => state.funcs.cells newent = none ∧ ∀ pair ∈ state.registered, pair.1 ≠ sid
  | .pop _ => True

def Serving.step (state : Serving Func) : ServiceAction Func → Except ListFault (Serving Func)
  | .push newent sid svcfunc =>
      .ok ⟨state.funcs.mwPushservice newent sid svcfunc, (sid, svcfunc) :: state.registered⟩
  | .pop sid => (state.funcs.mwPopservice sid).map fun funcs =>
      ⟨funcs, state.registered.eraseP fun pair => pair.1 == sid⟩

variable (Func) in
def noFuncs : Serving Func := ⟨⟨none, fun _ => none, 0⟩, []⟩

variable (Func) in
def serviceFunctions : Machine (Serving Func) (ServiceAction Func) ListFault where
  start state := state = noFuncs Func
  enabled := Serving.Enabled
  step := Serving.step

/-- The list is that of the registered pairs, and a request goes to the function of its service,
or is answered with an error. -/
structure Serving.Right (state : Serving Func) : Prop where
  holds : ∃ contents, state.funcs.Holds contents ∧ contents.map Prod.snd = state.registered
  calls : ∀ svcid, ∃ answer, state.funcs.mwCallCServiceFunction svcid = .ok answer ∧
    (∀ svcfunc, (svcid, svcfunc) ∈ state.registered → answer = .called svcfunc) ∧
    ((∀ pair ∈ state.registered, pair.1 ≠ svcid) → ∃ rc, rc < 0 ∧ answer = .refused rc)

/-- A service that is popped is not registered, or is one of the two that were pushed last. -/
def Serving.Near (state : Serving Func) : ServiceAction Func → Prop
  | .push _ _ _ => True
  | .pop sid => (state.registered.findIdx fun pair => pair.1 == sid) < 2 ∨
      ∀ pair ∈ state.registered, (pair.1 == sid) = false

structure Serving.Kept (state : Serving Func) : Prop where
  holds : ∃ contents, state.funcs.Holds contents ∧ contents.map Prod.snd = state.registered
  distinct : (state.registered.map Prod.fst).Nodup

theorem answerOf_registered {pairs : List (Int × Func)} (distinct : (pairs.map Prod.fst).Nodup)
    {svcid : Int} {svcfunc : Func} (member : (svcid, svcfunc) ∈ pairs) :
    answerOf pairs svcid = .called svcfunc := by
  have found : pairs.find? (fun pair => pair.1 == svcid) = some (svcid, svcfunc) := by
    obtain ⟨front, back, rfl⟩ := List.append_of_mem member
    grind
  rw [answerOf, found]

theorem answerOf_absent {pairs : List (Int × Func)} {svcid : Int}
    (absent : ∀ pair ∈ pairs, pair.1 ≠ svcid) :
    ∃ rc, rc < 0 ∧ answerOf pairs svcid = .refused rc := by
  have none : pairs.find? (fun pair => pair.1 == svcid) = none := by
    grind
  rw [answerOf, none]
  refine ⟨_, ?_, rfl⟩
  split_ifs
  · exact rcOf_neg .ENOENT
  · exact rcOf_neg .EBADRQC

theorem Serving.Kept.right {state : Serving Func} (kept : state.Kept) : state.Right := by
  refine ⟨kept.holds, ?_⟩
  intro svcid
  obtain ⟨contents, holds, pairs⟩ := kept.holds
  refine ⟨_, holds.call svcid, ?_, ?_⟩
  · intro svcfunc member
    rw [pairs]
    exact answerOf_registered kept.distinct member
  · intro absent
    rw [pairs]
    exact answerOf_absent absent

/-- A pop does not fail, and leaves the other pairs exactly when the one it takes is near. -/
theorem Serving.Kept.pop {state : Serving Func} (kept : state.Kept) (sid : Int) :
    ∃ next, state.step (.pop sid) = .ok next ∧ (next.registered.map Prod.fst).Nodup ∧
      ((∃ contents, next.funcs.Holds contents ∧ contents.map Prod.snd = next.registered) ↔
        state.Near (.pop sid)) := by
  obtain ⟨contents, holds, pairs⟩ := kept.holds
  obtain ⟨after, done, afterHolds⟩ := holds.pop sid
  have afterPairs : (popped (fun entry => entry.2.1 == sid) contents).map Prod.snd =
      popped (fun pair => pair.1 == sid) state.registered := by
    rw [← pairs]
    exact @popped_map _ (fun pair : Int × Func => pair.1 == sid) _ Prod.snd contents
  refine ⟨⟨after, state.registered.eraseP fun pair => pair.1 == sid⟩, ?_, ?_, ?_⟩
  · rw [Serving.step, done]
    rfl
  · exact kept.distinct.sublist (List.eraseP_sublist.map Prod.fst)
  · rw [Serving.Near, ← popped_eq_eraseP, ← afterPairs]
    constructor
    · intro others
      obtain ⟨other, otherHolds, otherPairs⟩ := others
      rw [afterHolds.segment.unique otherHolds.segment]
      exact otherPairs
    · grind

theorem kept_keeps : (serviceFunctions Func).Keeps Serving.Near Serving.Kept := by
  intro state action kept isEnabled near
  cases action with
  | push newent sid svcfunc =>
      obtain ⟨contents, holds, pairs⟩ := kept.holds
      refine ⟨_, rfl, ⟨_, holds.push isEnabled.1 sid svcfunc, ?_⟩, ?_⟩
      · rw [List.map_cons, pairs]
      · rw [List.map_cons, List.nodup_cons]
        refine ⟨?_, kept.distinct⟩
        intro again
        obtain ⟨pair, member, same⟩ := List.mem_map.mp again
        exact isEnabled.2 pair member same
  | pop sid =>
      obtain ⟨next, done, distinct, exactly⟩ := kept.pop sid
      exact ⟨next, done, exactly.mpr near, distinct⟩

theorem noFuncs_kept : (noFuncs Func).Kept :=
  ⟨⟨[], ⟨rfl, Nat.le_refl 0⟩, rfl⟩, List.nodup_nil⟩

/-- In every state of every run whose pops take one of the two services pushed last, or none, the
list is right, and the next pop keeps it right exactly when it does the same. -/
theorem functions_dispatched_iff {state : Serving Func}
    (reachable : (serviceFunctions Func).Reachable Serving.Near state) :
    state.Right ∧ ∀ sid, ∃ next, state.step (.pop sid) = .ok next ∧
      (next.Right ↔ state.Near (.pop sid)) := by
  have kept : state.Kept := by
    apply reachable.safe _ kept_keeps
    intro other isStart
    rw [show other = noFuncs Func from isStart]
    exact noFuncs_kept
  refine ⟨kept.right, ?_⟩
  intro sid
  obtain ⟨next, done, distinct, exactly⟩ := kept.pop sid
  refine ⟨next, done, ?_⟩
  constructor
  · intro right
    exact exactly.mp right.holds
  · intro near
    exact Serving.Kept.right ⟨exactly.mpr near, distinct⟩

end

def threePushes : List (ServiceAction Nat) := [.push 0 1 10, .push 1 2 20, .push 2 3 30]

def threeServices : Serving Nat := threePushes.foldl (serviceFunctions Nat).next (noFuncs Nat)

theorem threeServices_reachable : (serviceFunctions Nat).Reachable Serving.Near threeServices := by
  have start : (serviceFunctions Nat).Reachable Serving.Near (noFuncs Nat) := .start rfl
  apply start.runs
  exact ⟨⟨rfl, by decide⟩, trivial, rfl, ⟨rfl, by decide⟩, trivial, rfl, ⟨rfl, by decide⟩, trivial,
    rfl, trivial⟩

theorem functions_dispatched_iff_second :
    ∃ next, threeServices.step (.pop 2) = .ok next ∧ next.Right := by
  obtain ⟨next, done, exactly⟩ := (functions_dispatched_iff threeServices_reachable).2 2
  exact ⟨next, done, exactly.mpr (Or.inl (by decide))⟩

/-- With the third service from the front the second one goes, and its requests are refused. -/
theorem popped_third_loses_second :
    (serviceFunctions Nat).Reachable Serving.Near threeServices ∧
      ∃ next, threeServices.step (.pop 1) = .ok next ∧ (2, 20) ∈ next.registered ∧
        next.funcs.mwCallCServiceFunction 2 = .ok (.refused (rcOf .EBADRQC)) ∧ ¬next.Right := by
  have lost : ∃ next, threeServices.step (.pop 1) = .ok next ∧ (2, 20) ∈ next.registered ∧
      next.funcs.mwCallCServiceFunction 2 = .ok (.refused (rcOf .EBADRQC)) :=
    ⟨_, rfl, by decide, rfl⟩
  obtain ⟨next, done, registered, refused⟩ := lost
  refine ⟨threeServices_reachable, next, done, registered, refused, ?_⟩
  intro right
  obtain ⟨answer, given, called, _⟩ := right.calls 2
  rw [refused, called 20 registered] at given
  cases given

end MidWay.Server

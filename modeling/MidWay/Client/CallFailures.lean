import MidWay.Client.Calls

/-!
Contract: when a failed call leaves the shared memory as it was.

The data is placed before the services are looked up, and is freed on no path. So a call
whose data was copied leaves its buffer behind when there is no service, and when every
send fails. A send that is interrupted puts no message on a queue, and counts as done.

Owns: `Leakless`, and the calls that are.
-/

namespace MidWay.Client

open MidWay.CLib
open MidWay.Shm hiding unassigned
open MidWay.Gateway (IpcTables mwNexthandle)

/-- A failed call leaves no buffer behind; a handle stands for one message on one queue, with the
handle and the data. -/
structure Leakless (caller : Caller) (args : Arguments) (returned : Returned) : Prop where
  failed : returned.rc < 0 → SameBuffers caller.memory returned.memory
  called : 0 ≤ returned.rc → returned.rc = callHandle caller ∧ ∃ dest call,
    returned.sent = [(dest, call)] ∧ call.handle = callHandle caller ∧
      Carries returned.memory call.buffer (dataBytes caller.toSender args.toData)

def NoLeak (caller : Caller) (args : Arguments) (world : World caller.memory) : Prop :=
  ∀ rand turns returned, mwacallipc caller args world rand turns = some returned →
    Leakless caller args returned

section Condition

variable (caller : Caller) (args : Arguments) (world : World caller.memory)

def candidates : List UInt32 :=
  mwGetServicesByname world.tables world.start args.svcname args.flags

def Buffered : Prop :=
  ∃ attempt placed, putbuffer caller.toSender args.toData (world.allocation attempt) = .ok placed

def Providers.Interrupted (providers : Providers) (svcid : UInt32) : Prop :=
  providers.Takes svcid ∧ providers.msgsnd svcid ≠ none

end Condition

section Returns

variable {providers : Providers} {callmesg : Call} {rand : Nat → Nat} {turns turn : Nat} {rc : Int}
  {svclist : List UInt32} {done : CallDone}

/-- The loop ends when all sends have failed, or with a send that is taken for done. -/
theorem callLoop_done
    (ends : callLoop providers callmesg rand turns turn rc svclist = some done) :
    (done.sent = [] ∧ (∀ svcid ∈ svclist, providers.Fails svcid) ∧
      (svclist = [] ∧ done.rc = rc ∨ done.rc < 0)) ∨
    ∃ svcid ∈ svclist, providers.Takes svcid ∧ done.rc = callmesg.handle ∧
      done.sent = if providers.msgsnd svcid = none then
        [(providers.dest svcid, { callmesg with svcid := svcid })] else [] := by
  induction turns generalizing turn rc svclist done with
  | zero =>
      cases svclist with
      | nil =>
          rw [callLoop_nil] at ends
          grind
      | cons first rest =>
          simp [callLoop] at ends
  | succ turns ih =>
      by_cases empty : svclist = []
      · rw [empty, callLoop_nil] at ends
        grind
      · rcases providers.cases (drawnService rand turn svclist) with gone | fails | takes
        · rw [callLoop_gone empty gone] at ends
          rcases Option.map_eq_some_iff.mp ends with ⟨later, isLater, rfl⟩
          have result := ih isLater
          exact result
        · rw [callLoop_fails empty fails] at ends
          rcases Option.map_eq_some_iff.mp ends with ⟨later, isLater, rfl⟩
          rcases ih isLater with ⟨noneSent, allFail, isRc⟩ |
            ⟨svcid, member, result⟩
          · refine Or.inl ⟨noneSent, ?_, Or.inr ?_⟩
            · grind [mem_svclist_iff]
            · rcases isRc with ⟨-, isPut⟩ | negative
              · exact isPut.trans_lt fails.2
              · exact negative
          · have listed := (mem_svclist_iff empty rand turn svcid).mpr (Or.inr member)
            exact Or.inr ⟨svcid, listed, result⟩
        · rw [callLoop_takes empty takes] at ends
          cases ends
          exact Or.inr ⟨_, mem_drawn empty rand turn, takes, rfl, rfl⟩

end Returns

section Exact

variable {caller : Caller} {args : Arguments} {world : World caller.memory}

theorem callHandle_pos (caller : Caller) : 0 < callHandle caller := by
  have counted := caller.counted
  grind [callHandle, mwNexthandle]

/-- A call that returns has placed its data, and ends without services or with the loop. -/
theorem mwacallipc_some {rand : Nat → Nat} {turns : Nat} {returned : Returned}
    (ends : mwacallipc caller args world rand turns = some returned) :
    ∃ attempt buffer memory,
      putbuffer caller.toSender args.toData (world.allocation attempt) = .ok (buffer, memory) ∧
        returned.memory = memory ∧ returned.attempts = attempt + 1 ∧
        (candidates caller args world = [] ∧ returned.rc = rcOf .ENOENT ∧ returned.sent = [] ∨
          candidates caller args world ≠ [] ∧ ∃ done,
            callLoop world.providers (callMessage caller args buffer) rand turns 0 0
              (candidates caller args world) = some done ∧
            returned.rc = done.rc ∧ returned.sent = done.sent) := by
  unfold mwacallipc at ends
  cases placing : bufferLoop (fun attempt =>
      putbuffer caller.toSender args.toData (world.allocation attempt)) turns 0 with
  | none =>
      simp [placing] at ends
  | some placing' =>
      rcases bufferLoop_some placing with ⟨last, ⟨buffer, memory⟩, -, isPut, rfl, -⟩
      rw [placing] at ends
      refine ⟨last, buffer, memory, isPut, ?_⟩
      dsimp only at ends
      split_ifs at ends with empty
      · cases ends
        exact ⟨rfl, rfl, Or.inl ⟨empty, rfl, rfl⟩⟩
      · rcases Option.map_eq_some_iff.mp ends with ⟨done, isDone, rfl⟩
        exact ⟨rfl, rfl, Or.inr ⟨empty, done, isDone, rfl, rfl⟩⟩

/-- What a call returns once its data is placed. -/
theorem mwacallipc_placed {attempt turns : Nat} {placed : Shm.CallData × SharedMemory}
    (isPut : putbuffer caller.toSender args.toData (world.allocation attempt) = .ok placed)
    (enough : attempt < turns) :
    ∃ last buffer memory,
      putbuffer caller.toSender args.toData (world.allocation last) = .ok (buffer, memory) ∧
      last ≤ attempt ∧ ∀ rand, mwacallipc caller args world rand turns =
        if candidates caller args world = [] then
          some ⟨rcOf .ENOENT, memory, [], last + 1, []⟩
        else
          (callLoop world.providers (callMessage caller args buffer) rand turns 0 0
            (candidates caller args world)).map
              fun done => ⟨done.rc, memory, done.sent, last + 1, done.tries⟩ := by
  rcases bufferLoop_ends (fun attempt => putbuffer_safe (world.allocation attempt)) isPut
    (Nat.zero_le attempt) (by omega : attempt < 0 + turns) with ⟨placing, ends, soon⟩
  rcases bufferLoop_some ends with ⟨last, ⟨buffer, memory⟩, -, isLast, rfl, -⟩
  refine ⟨last, buffer, memory, isLast, Nat.le_of_succ_le_succ soon, ?_⟩
  intro rand
  unfold mwacallipc
  rw [ends]
  rfl

theorem putbuffer_same {allocation : Allocation caller.memory} {buffer : Shm.CallData}
    {memory : SharedMemory}
    (isPut : putbuffer caller.toSender args.toData allocation = .ok (buffer, memory)) :
    (SameBuffers caller.memory memory ↔ ¬Unshared caller.toSender args.toData) ∧
      Carries memory buffer (dataBytes caller.toSender args.toData) := by
  rcases putbuffer_cases allocation with ⟨notUnshared, _, kept, carries⟩ |
    ⟨unshared, -, _, _, copied, taken, carries⟩ | ⟨-, -, refused⟩
  · rw [isPut] at kept
    cases kept
    exact ⟨⟨fun _ => notUnshared, fun _ => ⟨rfl, rfl⟩⟩, carries⟩
  · simp_all
  · simp [isPut] at refused

/-- The condition is enough for a call that returns. -/
theorem Leakless.of_condition {rand : Nat → Nat} {turns : Nat} {returned : Returned}
    (notInterrupted : ∀ svcid ∈ candidates caller args world,
      ¬world.providers.Interrupted svcid)
    (someTakes : Unshared caller.toSender args.toData → ∃ svcid ∈ candidates caller args world,
      ¬world.providers.Fails svcid)
    (ends : mwacallipc caller args world rand turns = some returned) :
    Leakless caller args returned := by
  rcases mwacallipc_some ends with ⟨attempt, buffer, memory, isPut, isMemory, -, outcome⟩
  rcases putbuffer_same isPut with ⟨same, carries⟩
  rw [← isMemory] at same carries
  have positive := callHandle_pos caller
  have noService (empty : candidates caller args world = []) :
      SameBuffers caller.memory returned.memory := by
    refine same.mpr ?_
    intro unshared
    rcases someTakes unshared with ⟨svcid, member, -⟩
    rw [empty] at member
    cases member
  rcases outcome with ⟨empty, isRc, -⟩ | ⟨some, done, isDone, isRc, isSent⟩
  · have negative : returned.rc < 0 := by
      rw [isRc]
      exact rcOf_neg .ENOENT
    exact ⟨fun _ => noService empty,
      fun notNegative => absurd negative (Int.not_lt.mpr notNegative)⟩
  · rcases callLoop_done isDone with ⟨-, allFail, ⟨empty, -⟩ | negative⟩ |
      ⟨svcid, member, takes, isHandle, sent⟩
    · exact absurd empty some
    · refine ⟨?_, fun notNegative => absurd (isRc ▸ negative) (Int.not_lt.mpr notNegative)⟩
      grind
    · have onQueue : world.providers.msgsnd svcid = none := by
        by_contra interrupted
        exact notInterrupted svcid member ⟨takes, interrupted⟩
      rw [if_pos onQueue, ← isSent] at sent
      have rc : returned.rc = callHandle caller := isRc.trans isHandle
      refine ⟨fun negative => ?_, fun _ => ⟨rc, _, _, sent, rfl, carries⟩⟩
      omega

theorem drawn_of_mem {svclist : List UInt32} {svcid : UInt32} (member : svcid ∈ svclist) :
    ∃ idx, ∀ turn, drawnService (fun _ => idx) turn svclist = svcid := by
  rcases List.getElem_of_mem member with ⟨idx, within, isService⟩
  refine ⟨idx, fun _ => ?_⟩
  simp_all [drawnService, drawnIdx, Nat.mod_eq_of_lt, isService]

/-- Drawn first, an interrupted send gives a handle without a message. -/
theorem NoLeak.not_interrupted (noLeak : NoLeak caller args world)
    (buffered : Buffered caller args world) {svcid : UInt32}
    (member : svcid ∈ candidates caller args world) : ¬world.providers.Interrupted svcid := by
  rintro ⟨takes, interrupted⟩
  rcases buffered with ⟨attempt, placed, isPut⟩
  rcases mwacallipc_placed isPut (Nat.lt_succ_self attempt) with ⟨last, buffer, memory, -, -, runs⟩
  rcases drawn_of_mem member with ⟨idx, drawn⟩
  have some : candidates caller args world ≠ [] := List.ne_nil_of_mem member
  have drawnTakes : world.providers.Takes (drawnService (fun _ => idx) 0
      (candidates caller args world)) := (drawn 0).symm ▸ takes
  have returns := runs fun _ => idx
  rw [if_neg some, callLoop_takes some drawnTakes, drawn, if_neg interrupted] at returns
  have leakless := noLeak _ _ _ returns
  rcases leakless.called (Int.le_of_lt (callHandle_pos caller)) with ⟨-, dest, call, sent, -⟩
  cases sent

/-- When all sends fail, or there is no service, the call fails with its data placed. -/
theorem NoLeak.some_takes (noLeak : NoLeak caller args world)
    (buffered : Buffered caller args world) (unshared : Unshared caller.toSender args.toData) :
    ∃ svcid ∈ candidates caller args world, ¬world.providers.Fails svcid := by
  by_contra allFail
  have fails : ∀ svcid ∈ candidates caller args world, world.providers.Fails svcid := by
    simp_all
  rcases buffered with ⟨attempt, placed, isPut⟩
  have enough : attempt < attempt + 1 + (candidates caller args world).length := by omega
  rcases mwacallipc_placed isPut enough with ⟨last, buffer, memory, isLast, -, runs⟩
  have returns := runs fun _ => 0
  have notSame : ¬SameBuffers caller.memory memory := fun same =>
    (putbuffer_same isLast).1.mp same unshared
  by_cases empty : candidates caller args world = []
  · rw [if_pos empty] at returns
    exact notSame ((noLeak _ _ _ returns).failed (rcOf_neg .ENOENT))
  · rcases @callLoop_ends world.providers (callMessage caller args buffer) (fun _ => 0)
      (attempt + 1 + (candidates caller args world).length) 0 0 (candidates caller args world)
        (fun svcid member => (fails svcid member).1) (by omega) with ⟨done, isDone⟩
    rw [if_neg empty, isDone] at returns
    have negative : done.rc < 0 := by
      rcases callLoop_done isDone with ⟨-, -, ⟨isNil, -⟩ | negative⟩ | ⟨svcid, member, takes, -⟩
      · exact absurd isNil empty
      · exact negative
      · exact absurd (fails svcid member).2 (Int.not_lt.mpr takes.2)
    exact notSame ((noLeak _ _ _ returns).failed negative)

/-- Calls leak nothing exactly when no send is interrupted, and a copy of the data is made only
for a name with a service whose send does not fail. -/
theorem mwacallipc_noLeak_iff (caller : Caller) (args : Arguments) (world : World caller.memory) :
    NoLeak caller args world ↔ (Buffered caller args world →
      (∀ svcid ∈ candidates caller args world, ¬world.providers.Interrupted svcid) ∧
      (Unshared caller.toSender args.toData → ∃ svcid ∈ candidates caller args world,
        ¬world.providers.Fails svcid)) := by
  constructor
  · intro noLeak buffered
    exact ⟨fun svcid => noLeak.not_interrupted buffered, noLeak.some_takes buffered⟩
  · intro condition rand turns returned ends
    rcases mwacallipc_some ends with ⟨attempt, buffer, memory, isPut, -⟩
    rcases condition ⟨attempt, _, isPut⟩ with ⟨notInterrupted, someTakes⟩
    exact Leakless.of_condition notInterrupted someTakes ends

end Exact

section NoService

def blankSegment : Segment :=
  ⟨0, 0, 0, 0, 0, fun _ => 0, fun _ => 0, fun _ => ⟨0, 0⟩, fun _ => ⟨0, 0, 0⟩⟩

def blankMemory : SharedMemory :=
  ⟨⟨blankSegment, fun _ => .idle, fun _ => none⟩, fun _ => none, fun _ _ => 0⟩

def fileMemory : SharedMemory :=
  { blankMemory with files := setAt blankMemory.files 1000 (some ⟨fun _ => ⟨17, 3⟩, 4096⟩) }

def fileSpace : AddressSpace where
  segments := [⟨1000, 0, 4096⟩]
  distinct := by decide
  apart := by
    intro one oneIn two twoIn different
    rw [List.mem_singleton.mp oneIn, List.mem_singleton.mp twoIn] at different
    exact absurd rfl different

def threeBytes : Allocation blankMemory where
  given := some ⟨16, fileMemory, fileSpace⟩
  errno := 0
  failed := fun isNone => by cases isNone
  shared := by
    intro allocated given
    cases given
    decide
  taken := by
    intro allocated given same
    cases given
    have file := congrFun same.2 1000
    cases file

def plainCaller : Caller where
  clientid := 0x02000001
  gatewayid := 0xFFFFFFFF
  sec := 0
  usec := 0
  irand := 7
  handle := -1
  counted := by decide
  memory := blankMemory
  space := ⟨[], by decide, fun one oneIn => absurd oneIn List.not_mem_nil⟩
  own := fun _ => 65

/-- Three bytes at the address 5, for a service of the name `a`. -/
def threeArguments : Arguments :=
  ⟨⟨some 5, 3, 3⟩, [97], 0, 0xFFFFFFFF, none, none, 0xFFFFFFFF, 0⟩

theorem noServices_short : ([] : List Gateway.Serviceentry).length ≤ 16777216 := Nat.zero_le _

theorem noServers_short : ([] : List (Option Int)).length < 16777216 := Nat.zero_lt_succ _

def emptyTables : IpcTables := ⟨true, [], [], [], [], 0, noServices_short, noServers_short⟩

def emptyWorld : World blankMemory :=
  ⟨emptyTables, 0, fun _ => threeBytes, ⟨emptyTables, fun _ => none⟩⟩

/-- The call fails, and the file of its data stays. -/
theorem noService_leaks : ¬∀ (caller : Caller) (args : Arguments) (world : World caller.memory),
    NoLeak caller args world := by
  intro all
  have leakless := all plainCaller threeArguments emptyWorld (fun _ => 0) 1 _ rfl
  have file := congrFun (leakless.failed (by decide)).2 1000
  cases file

end NoService

end MidWay.Client

import MidWay.Client.CallFailures

/-!
Contract: when the loops of a call and of a reply end.

The counter of the tries for a buffer is declared in the loop, so the tries are never
given up. A service whose provider is gone stays in the list of the services, and is
drawn again.

Owns: `CallEnds`, `ReplyEnds`, and when a call and a reply do.
-/

namespace MidWay.Client

open MidWay.CLib
open MidWay.Shm hiding unassigned
open MidWay.Gateway (IpcTables)

def maxAttempts : Nat := 101

/-- The tries for a buffer are few, each service is drawn once at most, and what is returned is
the handle or an error. -/
structure Bounded (caller : Caller) (args : Arguments) (world : World caller.memory)
    (returned : Returned) : Prop where
  attempts : returned.attempts ≤ maxAttempts
  tries : returned.tries.Subperm (candidates caller args world)
  answer : returned.rc = callHandle caller ∨ returned.rc < 0

def CallEnds (caller : Caller) (args : Arguments) (world : World caller.memory) : Prop :=
  ∀ rand, ∃ turns returned, mwacallipc caller args world rand turns = some returned ∧
    Bounded caller args world returned

/-- What a reply meets in its loop: whether a request waits for it, the state of the system, and
the tries for a buffer. -/
structure Replying (sender : Sender) where
  requestpending : Bool
  systemstate : Int
  allocation : Nat → Allocation sender.memory

/-- `mwreply` up to the end of its loop, with the error it returns before. -/
def mwreplyPlace (sender : Sender) (data : Data) (replying : Replying sender) (turns : Nat) :
    Option (Placing (CallData × SharedMemory)) :=
  if replying.requestpending = false then some ⟨.error (rcOf .EALREADY), 0⟩
  else if replying.systemstate ≠ 0 then some ⟨.error replying.systemstate, 0⟩
  else bufferLoop (fun attempt => putbuffer sender data (replying.allocation attempt)) turns 0

def ReplyEnds (sender : Sender) (data : Data) (replying : Replying sender) : Prop :=
  ∃ turns placing, mwreplyPlace sender data replying turns = some placing ∧
    placing.attempts ≤ maxAttempts

def SoonPlaced (sender : Sender) (data : Data) (allocation : Nat → Allocation sender.memory) :
    Prop :=
  Unshared sender data → ∃ attempt < maxAttempts, (allocation attempt).given ≠ none

section Tries

variable {sender : Sender} {data : Data}

theorem putbuffer_ok_iff (allocation : Allocation sender.memory) :
    (∃ placed, putbuffer sender data allocation = .ok placed) ↔
      (Unshared sender data → allocation.given ≠ none) := by
  grind [putbuffer_cases]

/-- The loop over the tries is left soon when the data is placed soon. -/
theorem bufferLoop_soon_iff (allocation : Nat → Allocation sender.memory) :
    (∃ turns placing,
      bufferLoop (fun attempt => putbuffer sender data (allocation attempt)) turns 0 =
        some placing ∧ placing.attempts ≤ maxAttempts) ↔ SoonPlaced sender data allocation := by
  constructor
  · rintro ⟨turns, placing, ends, soon⟩ unshared
    grind [bufferLoop_some, putbuffer_ok_iff]
  · intro soonPlaced
    have placedSoon : ∃ attempt < maxAttempts, ∃ placed,
        putbuffer sender data (allocation attempt) = .ok placed := by
      by_cases unshared : Unshared sender data
      · rcases soonPlaced unshared with ⟨attempt, soon, given⟩
        exact ⟨attempt, soon, (putbuffer_ok_iff (allocation attempt)).mpr fun _ => given⟩
      · exact ⟨0, by decide, (putbuffer_ok_iff (allocation 0)).mpr (absurd · unshared)⟩
    rcases placedSoon with ⟨attempt, soon, placed, isPut⟩
    rcases bufferLoop_ends (fun attempt => putbuffer_safe (allocation attempt)) isPut
      (Nat.zero_le attempt) (by omega : attempt < 0 + (attempt + 1)) with ⟨placing, ends, atMost⟩
    exact ⟨attempt + 1, placing, ends, Nat.le_trans atMost soon⟩

theorem replyEnds_iff (replying : Replying sender) :
    ReplyEnds sender data replying ↔ (replying.requestpending = true →
      replying.systemstate = 0 → SoonPlaced sender data replying.allocation) := by
  unfold ReplyEnds mwreplyPlace
  by_cases pending : replying.requestpending = false
  · simp_all
  · simp only [if_neg pending]
    by_cases down : replying.systemstate ≠ 0
    · simp_all
    · simp_all [bufferLoop_soon_iff]

end Tries

section Services

variable {providers : Providers} {callmesg : Call} {rand : Nat → Nat} {turns turn : Nat} {rc : Int}
  {svclist : List UInt32} {done : CallDone}

theorem callLoop_spins {idx : Nat} (some : svclist ≠ [])
    (gone : providers.Gone (drawnService (fun _ => idx) 0 svclist)) (turns turn : Nat) (rc : Int) :
    callLoop providers callmesg (fun _ => idx) turns turn rc svclist = none := by
  induction turns generalizing turn with
  | zero =>
      rcases List.exists_cons_of_ne_nil some with ⟨first, rest, rfl⟩
      rw [callLoop]
  | succ turns ih =>
      have goneNow : providers.Gone (drawnService (fun _ => idx) turn svclist) := gone
      rw [callLoop_gone some goneNow, ih]
      rfl

/-- While no provider is gone, a service that was drawn is not drawn again. -/
theorem callLoop_tries (there : ∀ svcid ∈ svclist, ¬providers.Gone svcid)
    (ends : callLoop providers callmesg rand turns turn rc svclist = Option.some done) :
    done.tries.Subperm svclist := by
  induction turns generalizing turn rc svclist done with
  | zero =>
      cases svclist with
      | nil =>
          grind [callLoop_nil, List.nil_subperm]
      | cons first rest =>
          simp [callLoop] at ends
  | succ turns ih =>
      by_cases empty : svclist = []
      · grind [callLoop_nil, List.nil_subperm]
      · have isPerm := removeAt_perm (drawnIdx_lt empty rand turn)
        rcases providers.cases (drawnService rand turn svclist) with gone | fails | takes
        · exact absurd gone (there _ (mem_drawn empty rand turn))
        · rw [callLoop_fails empty fails] at ends
          rcases Option.map_eq_some_iff.mp ends with ⟨later, isLater, rfl⟩
          have left : ∀ svcid ∈ removeAt svclist (drawnIdx rand turn svclist),
              ¬providers.Gone svcid := fun svcid member =>
            there svcid ((mem_svclist_iff empty rand turn svcid).mpr (Or.inr member))
          have fewer := ih left isLater
          exact ((List.subperm_cons _).mpr fewer).trans isPerm.subperm
        · rw [callLoop_takes empty takes] at ends
          cases ends
          exact List.singleton_subperm_iff.mpr (mem_drawn empty rand turn)

end Services

section Exact

variable {caller : Caller} {args : Arguments} {world : World caller.memory}

theorem CallEnds.soonPlaced (callEnds : CallEnds caller args world) :
    SoonPlaced caller.toSender args.toData world.allocation := by
  rcases callEnds fun _ => 0 with ⟨turns, returned, ends, bounded⟩
  rcases mwacallipc_some ends with ⟨last, buffer, memory, isPut, -, attempts, -⟩
  have soon := bounded.attempts
  rw [attempts] at soon
  exact fun unshared => ⟨last, soon, (putbuffer_ok_iff (world.allocation last)).mp ⟨_, isPut⟩
    unshared⟩

theorem CallEnds.not_gone (callEnds : CallEnds caller args world) {svcid : UInt32}
    (member : svcid ∈ candidates caller args world) : ¬world.providers.Gone svcid := by
  intro gone
  rcases drawn_of_mem member with ⟨idx, drawn⟩
  rcases callEnds fun _ => idx with ⟨turns, returned, ends, -⟩
  rcases mwacallipc_some ends with ⟨last, buffer, memory, -, -, -, ⟨empty, -⟩ |
    ⟨some, done, isDone, -⟩⟩
  · simp [empty] at member
  · simp_all [callLoop_spins]

theorem CallEnds.of_condition
    (soonPlaced : SoonPlaced caller.toSender args.toData world.allocation)
    (there : ∀ svcid ∈ candidates caller args world, ¬world.providers.Gone svcid) :
    CallEnds caller args world := by
  intro rand
  have few := (bufferLoop_soon_iff world.allocation).mpr soonPlaced
  rcases few with ⟨turns, placing, isPlacing, soon⟩
  rcases bufferLoop_some isPlacing with ⟨attempt, placed, -, isPut, rfl, -⟩
  have enough : attempt < attempt + 1 + (candidates caller args world).length := by omega
  rcases mwacallipc_placed isPut enough with ⟨last, buffer, memory, isLast, atMost, runs⟩
  have isSoon : last + 1 ≤ maxAttempts := Nat.le_trans (Nat.succ_le_succ atMost) soon
  have returns := runs rand
  by_cases empty : candidates caller args world = []
  · rw [if_pos empty] at returns
    exact ⟨_, _, returns, isSoon, List.nil_subperm, Or.inr (rcOf_neg .ENOENT)⟩
  · rcases @callLoop_ends world.providers (callMessage caller args buffer) rand
      (attempt + 1 + (candidates caller args world).length) 0 0 (candidates caller args world)
        there (by omega) with ⟨done, isDone⟩
    rw [if_neg empty, isDone] at returns
    refine ⟨_, _, returns, isSoon, callLoop_tries there isDone, ?_⟩
    rcases callLoop_done isDone with ⟨-, -, ⟨isNil, -⟩ | negative⟩ | ⟨-, -, -, isHandle, -⟩
    · exact absurd isNil empty
    · exact Or.inr negative
    · exact Or.inl isHandle

/-- A call and a reply end soon exactly when a buffer is given soon, if the data needs one, and
when no service that is found has lost its provider. -/
theorem loops_end_iff (caller : Caller) (args : Arguments) (world : World caller.memory)
    (sender : Sender) (data : Data) (replying : Replying sender) :
    (CallEnds caller args world ↔
      SoonPlaced caller.toSender args.toData world.allocation ∧
        ∀ svcid ∈ candidates caller args world, ¬world.providers.Gone svcid) ∧
    (ReplyEnds sender data replying ↔ (replying.requestpending = true →
      replying.systemstate = 0 → SoonPlaced sender data replying.allocation)) := by
  refine ⟨⟨?_, ?_⟩, replyEnds_iff replying⟩
  · intro callEnds
    exact ⟨callEnds.soonPlaced, fun svcid => callEnds.not_gone⟩
  · simp_all [CallEnds.of_condition]

end Exact

def noBuffer : Allocation blankMemory where
  given := none
  errno := -12
  failed := fun _ => by decide
  shared := fun _ given => by cases given
  taken := fun _ given => by cases given

/-- A server provides the service of the name `a`. -/
def oneService : IpcTables :=
  ⟨true, [⟨.callsvc, .gwlocal, 0x01000000, 0xFFFFFFFF, [97]⟩], [some 1], [], [], 0, by decide,
    by decide⟩

/-- Without a buffer a call and a reply go on for ever, and so does a call of a service that is
gone when its provider is looked up. -/
theorem loops_spin :
    ¬CallEnds plainCaller threeArguments
      ⟨oneService, 0, fun _ => noBuffer, ⟨oneService, fun _ => none⟩⟩ ∧
    ¬ReplyEnds plainCaller.toSender threeArguments.toData ⟨true, 0, fun _ => noBuffer⟩ ∧
    ¬CallEnds plainCaller threeArguments
      ⟨oneService, 0, fun _ => threeBytes, ⟨emptyTables, fun _ => none⟩⟩ := by
  have unshared : Unshared plainCaller.toSender threeArguments.toData := by
    refine ⟨by decide, ?_⟩
    intro adr isData
    cases isData
    rfl
  refine ⟨?_, ?_, ?_⟩
  · intro callEnds
    rcases callEnds.soonPlaced unshared with ⟨attempt, -, given⟩
    exact given rfl
  · intro replyEnds
    rcases (replyEnds_iff _).mp replyEnds rfl rfl unshared with ⟨attempt, -, given⟩
    exact given rfl
  · intro callEnds
    exact callEnds.not_gone (show (0x08000000 : UInt32) ∈ _ by decide) rfl

end MidWay.Client

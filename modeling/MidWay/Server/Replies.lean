import MidWay.Server.MainLoop

/-!
Contract: how often a request is finished.

A request is finished by a final reply or by a forward. The flag
`_mw_requestpending` keeps a second reply back, but not a second forward, and a
service function that returns `MWMORE` without a final reply gets a part of a
reply instead of one.

Owns: what one action of a service function sends, and the exact condition under
which a request is finished once.
-/

namespace MidWay.Server

open MidWay.CLib MidWay.Srb

def PartReply (call : Call) (sent : Sent) : Prop :=
  ∃ mesg, sent = ⟨call.replyTo, .svcreply mesg⟩ ∧ mesg.handle = call.handle ∧
    mesg.returncode = mwMore

def FinalReply (call : Call) (sent : Sent) : Prop :=
  ∃ mesg, sent = ⟨call.replyTo, .svcreply mesg⟩ ∧ mesg.handle = call.handle ∧
    mesg.returncode ≠ mwMore

def Forwarded (call : Call) (sent : Sent) : Prop :=
  ∃ dest mesg, sent = ⟨dest, .svccall mesg⟩ ∧ mesg.handle = call.handle ∧
    call.forwardcount < mesg.forwardcount

def FinishedOnce (call : Call) (sends : List Sent) : Prop :=
  ∃ parts last, sends = parts ++ [last] ∧ (∀ part ∈ parts, PartReply call part) ∧
    (FinalReply call last ∨ Forwarded call last)

theorem PartReply.not_last {call : Call} {sent : Sent} (part : PartReply call sent) :
    ¬ (FinalReply call sent ∨ Forwarded call sent) := by
  rcases part with ⟨mesg, same, _, more⟩
  intro last
  rcases last with ⟨other, otherSame, _, notMore⟩ | ⟨dest, other, otherSame, _⟩
  · simp_all
  · simp [same] at otherSame

theorem finishedOnce_parts {call : Call} {parts : List Sent}
    (all : ∀ part ∈ parts, PartReply call part) : ¬ FinishedOnce call parts := by
  intro finished
  rcases finished with ⟨before, last, split, _, isLast⟩
  simp_all [PartReply.not_last]

/-- Nothing follows what finishes a request. -/
theorem finishedOnce_append {call : Call} {parts : List Sent} {last : Sent} {extra : List Sent}
    (all : ∀ part ∈ parts, PartReply call part) (isLast : FinalReply call last ∨ Forwarded call last) :
    FinishedOnce call (parts ++ last :: extra) ↔ extra = [] := by
  constructor
  · intro finished
    rcases finished with ⟨before, final, split, partsBefore, _⟩
    rcases List.eq_nil_or_concat extra with empty | ⟨front, back, nonempty⟩
    · exact empty
    · have inFront : before = parts ++ last :: front := by
        have regroup : (parts ++ last :: front) ++ [back] = before ++ [final] := by
          rw [← split, nonempty, List.append_assoc, List.cons_append, List.concat_eq_append]
        exact (List.append_inj_left' regroup rfl).symm
      have isPart : PartReply call last := by
        simp [inFront, partsBefore]
      exact absurd isLast isPart.not_last
  · intro empty
    rw [empty]
    exact ⟨parts, last, rfl, all, isLast⟩

inductive Effect where
  | nothing
  | hangs
  | part
  | final
deriving DecidableEq, Repr

def places (data : Option (List Byte)) (len : Nat) (place : Option (Int × Int)) : Bool :=
  match data with
  | none => true
  | some bytes => dataLength bytes len == 0 || place.isSome

def Route.open (route : Route) (data : Option (List Byte)) : Bool :=
  0 ≤ route.svcid && 0 ≤ route.provider && (data.isNone || route.place.isSome) && route.put == 0

def Action.effect (forwardcount : Int) : Action → Effect
  | .reply data len returncode _ delivery =>
      if delivery.systemstate ≠ 0 then .nothing
      else if places data len delivery.place = false then .hangs
      else if delivery.put ≠ 0 then .nothing
      else if returncode = mwMore then .part else .final
  | .forward _ data _ route =>
      if route.systemstate ≠ 0 ∨ forwardcount > 100 then .nothing
      else if route.open data then .final else .nothing

def Action.count (forwardcount : Int) : Action → Int
  | .reply _ _ _ _ _ => forwardcount
  | .forward _ _ _ route =>
      if route.systemstate ≠ 0 ∨ forwardcount > 100 then forwardcount else forwardcount + 1

structure Kept (call : Call) (state : State) : Prop where
  handle : state.callmesg.handle = call.handle
  cltid : state.callmesg.cltid = call.cltid
  gwid : state.callmesg.gwid = call.gwid
  counted : call.forwardcount ≤ state.callmesg.forwardcount

theorem Kept.replyTo {call : Call} {state : State} (kept : Kept call state) :
    state.callmesg.replyTo = call.replyTo := by
  rw [Call.replyTo, Call.replyTo, kept.gwid, kept.cltid]

structure Stepped (call : Call) (state : State) (sends : List Sent) (pending : Bool) (count : Int)
    (next : State) : Prop where
  kept : Kept call next
  sent : next.sent = state.sent ++ sends
  pending : next.requestpending = pending
  count : next.callmesg.forwardcount = count

theorem replyCode_more (returncode : Int) : replyCode returncode = mwMore ↔ returncode = mwMore := by
  rw [replyCode]
  split_ifs with success more
  · rw [success]
  · exact iff_of_true rfl more
  · exact iff_of_false (by decide) more

theorem mwPutbufferToCall_places (call : Call) (data : Option (List Byte)) (len : Nat)
    (place : Option (Int × Int)) :
    (places data len place = false ∧ mwPutbufferToCall call data len place = none) ∨
      ∃ placed, places data len place = true ∧ mwPutbufferToCall call data len place = some placed ∧
        placed.handle = call.handle ∧ placed.cltid = call.cltid ∧ placed.gwid = call.gwid ∧
        placed.forwardcount = call.forwardcount := by
  cases data with
  | none => exact Or.inr ⟨_, rfl, rfl, rfl, rfl, rfl, rfl⟩
  | some bytes =>
      rw [mwPutbufferToCall]
      by_cases empty : dataLength bytes len = 0
      · simp [places, empty, Or.inr]
      · rw [if_neg empty]
        have notEmpty : (dataLength bytes len == 0) = false := beq_false_of_ne empty
        cases place with
        | none =>
            simp [places, notEmpty, Or.inl]
        | some found =>
            simp [places, notEmpty, Or.inr]

/-- What a reply does while the request waits for one. -/
theorem mwreply_step (process : Process) {call : Call} {state : State} (kept : Kept call state)
    (pending : state.requestpending = true) (data : Option (List Byte)) (len : Nat)
    (returncode appreturncode : Int) (delivery : Delivery) :
    match (Action.reply data len returncode appreturncode delivery).effect 0 with
    | .hangs => mwreply process state data len returncode appreturncode delivery = none
    | .nothing => ∃ rc next,
        mwreply process state data len returncode appreturncode delivery = some (rc, next) ∧
          Stepped call state [] true state.callmesg.forwardcount next
    | .part => ∃ rc next part,
        mwreply process state data len returncode appreturncode delivery = some (rc, next) ∧
          PartReply call part ∧ Stepped call state [part] true state.callmesg.forwardcount next
    | .final => ∃ rc next last,
        mwreply process state data len returncode appreturncode delivery = some (rc, next) ∧
          FinalReply call last ∧
          Stepped call state [last] false state.callmesg.forwardcount next := by
  rw [mwreply, pending, if_neg (by decide), Action.effect]
  by_cases down : delivery.systemstate ≠ 0
  · rw [if_pos down, if_pos down]
    exact ⟨_, state, rfl, kept, (List.append_nil _).symm, pending, rfl⟩
  · rw [if_neg down, if_neg down]
    rcases mwPutbufferToCall_places state.callmesg data len delivery.place with
      ⟨noPlace, none⟩ | ⟨placed, hasPlace, buffer, handle, cltid, gwid, count⟩
    · rw [if_pos noPlace, none]
    · rw [hasPlace, if_neg (by decide), buffer]
      dsimp only
      have answered : ∃ mesg : Call, mesg = { placed with
          returncode := replyCode returncode
          appreturncode := appreturncode
          srvid := process.serverid } := ⟨_, rfl⟩
      rcases answered with ⟨mesg, answer⟩
      have sameHandle : mesg.handle = call.handle := by rw [answer]; exact handle.trans kept.handle
      have sameCltid : mesg.cltid = call.cltid := by rw [answer]; exact cltid.trans kept.cltid
      have sameGwid : mesg.gwid = call.gwid := by rw [answer]; exact gwid.trans kept.gwid
      have sameCount : mesg.forwardcount = state.callmesg.forwardcount := by rw [answer]; exact count
      have code : mesg.returncode = replyCode returncode := by rw [answer]
      have keptNext (requestpending : Bool) (sent : List Sent) :
          Kept call ⟨mesg, requestpending, sent⟩ :=
        ⟨sameHandle, sameCltid, sameGwid, by rw [sameCount]; exact kept.counted⟩
      by_cases notPut : delivery.put ≠ 0
      · rw [if_pos notPut, if_pos notPut, ← answer]
        exact ⟨_, _, rfl, keptNext _ _, (List.append_nil _).symm, rfl, sameCount⟩
      · rw [if_neg notPut, if_neg notPut]
        by_cases more : returncode = mwMore
        · have isMore := (replyCode_more returncode).mpr more
          rw [if_pos more, if_pos isMore, ← answer, State.send, (keptNext true []).replyTo]
          exact ⟨_, _, _, rfl, ⟨mesg, rfl, sameHandle, code.trans isMore⟩, keptNext _ _, rfl, rfl,
            sameCount⟩
        · have notMore : replyCode returncode ≠ mwMore := mt (replyCode_more returncode).mp more
          rw [if_neg more, if_neg notMore, ← answer, State.send, (keptNext true []).replyTo]
          exact ⟨_, _, _, rfl, ⟨mesg, rfl, sameHandle, code ▸ notMore⟩, keptNext _ _, rfl, rfl,
            sameCount⟩

/-- What a forward does, whether or not the request waits for a reply. -/
theorem mwforward_step (process : Process) {call : Call} {state : State} (kept : Kept call state)
    (svcname : List Byte) (data : Option (List Byte)) (len : Nat) (route : Route) :
    ((Action.forward svcname data len route).effect state.callmesg.forwardcount = .nothing ∧
        Stepped call state [] state.requestpending
          ((Action.forward svcname data len route).count state.callmesg.forwardcount)
          (mwforward process state svcname data len route).2) ∨
      ((Action.forward svcname data len route).effect state.callmesg.forwardcount = .final ∧
        ∃ last, Forwarded call last ∧
          Stepped call state [last] false
            ((Action.forward svcname data len route).count state.callmesg.forwardcount)
            (mwforward process state svcname data len route).2) := by
  rw [Action.effect, Action.count, mwforward]
  by_cases down : route.systemstate ≠ 0
  · rw [if_pos (Or.inl down), if_pos (Or.inl down), if_pos down]
    exact Or.inl ⟨rfl, kept, (List.append_nil _).symm, rfl, rfl⟩
  rw [if_neg down]
  by_cases loop : state.callmesg.forwardcount > 100
  · rw [if_pos (Or.inr loop), if_pos (Or.inr loop), if_pos loop]
    exact Or.inl ⟨rfl, kept, (List.append_nil _).symm, rfl, rfl⟩
  have goesOn : ¬ (route.systemstate ≠ 0 ∨ state.callmesg.forwardcount > 100) := by
    omega
  rw [if_neg goesOn, if_neg goesOn, if_neg loop]
  have counted := kept.counted
  have keptAs (next : State) (handle : next.callmesg.handle = state.callmesg.handle)
      (cltid : next.callmesg.cltid = state.callmesg.cltid)
      (gwid : next.callmesg.gwid = state.callmesg.gwid)
      (count : next.callmesg.forwardcount = state.callmesg.forwardcount + 1) : Kept call next :=
    ⟨handle.trans kept.handle, cltid.trans kept.cltid, gwid.trans kept.gwid, by omega⟩
  by_cases noService : route.svcid < 0
  · have shut : route.open data = false := by simp [Route.open, noService]
    rw [shut, if_pos noService]
    exact Or.inl ⟨rfl, keptAs _ rfl rfl rfl rfl, (List.append_nil _).symm, rfl, rfl⟩
  rw [if_neg noService]
  by_cases noProvider : route.provider < 0
  · have shut : route.open data = false := by simp [Route.open, noProvider]
    rw [shut, if_pos noProvider]
    exact Or.inl ⟨rfl, keptAs _ rfl rfl rfl rfl, (List.append_nil _).symm, rfl, rfl⟩
  rw [if_neg noProvider]
  have openIff : route.open data = ((data.isNone || route.place.isSome) && route.put == 0) := by
    simp [Route.open, Int.not_lt.mp noService, Int.not_lt.mp noProvider]
  rw [openIff]
  -- The message with the data in place; only the data fields differ.
  have placed : ((data.isNone || route.place.isSome) = false ∧
        ∀ mesg, forwardData mesg data len route.place = none) ∨
      ((data.isNone || route.place.isSome) = true ∧
        ∀ mesg, ∃ found, forwardData mesg data len route.place = some found ∧
          found.handle = mesg.handle ∧ found.cltid = mesg.cltid ∧ found.gwid = mesg.gwid ∧
          found.forwardcount = mesg.forwardcount) := by
    cases data with
    | none => exact Or.inr ⟨rfl, fun mesg => ⟨_, rfl, rfl, rfl, rfl, rfl⟩⟩
    | some bytes =>
        cases place : route.place with
        | none => exact Or.inl ⟨rfl, fun mesg => rfl⟩
        | some offset => exact Or.inr ⟨rfl, fun mesg => ⟨_, rfl, rfl, rfl, rfl, rfl⟩⟩
  rcases placed with ⟨noPlace, none⟩ | ⟨hasPlace, some⟩
  · rw [noPlace]
    dsimp only
    rw [none]
    exact Or.inl ⟨rfl, keptAs _ rfl rfl rfl rfl, (List.append_nil _).symm, rfl, rfl⟩
  · rcases some { state.callmesg with
        forwardcount := state.callmesg.forwardcount + 1
        svcid := route.svcid
        service := strncpyName svcname } with ⟨found, data, handle, cltid, gwid, count⟩
    rw [hasPlace, Bool.true_and]
    dsimp only
    rw [data]
    dsimp only
    by_cases put : route.put = 0
    · rw [if_neg (not_not_intro put), put]
      have forwarded : Forwarded call ⟨route.provider,
          .svccall { found with srvid := process.serverid }⟩ := by
        refine ⟨_, _, rfl, handle.trans kept.handle, ?_⟩
        change call.forwardcount < found.forwardcount
        rw [count]
        exact Int.lt_add_one_of_le counted
      exact Or.inr ⟨rfl, _, forwarded, keptAs _ handle cltid gwid count, rfl, rfl, count⟩
    · have shut : (route.put == 0) = false := beq_false_of_ne put
      rw [if_pos put, shut]
      exact Or.inl ⟨rfl, keptAs _ handle cltid gwid count, (List.append_nil _).symm, rfl, count⟩

def Quiet : Int → List Action → Prop
  | _, [] => True
  | count, .reply data len returncode appreturncode delivery :: rest =>
      Quiet ((Action.reply data len returncode appreturncode delivery).count count) rest
  | count, .forward svcname data len route :: rest =>
      (Action.forward svcname data len route).effect count ≠ .final ∧
        Quiet ((Action.forward svcname data len route).count count) rest

/-- The first action that finishes the request is followed by no forward that goes through; if
there is none, `unanswered` holds. No reply hangs before. -/
def Finishes (unanswered : Prop) : Int → List Action → Prop
  | _, [] => unanswered
  | count, action :: rest =>
      match action.effect count with
      | .hangs => False
      | .nothing | .part => Finishes unanswered (action.count count) rest
      | .final => Quiet (action.count count) rest

def Delivery.Answers (delivery : Delivery) (rc : Int) : Prop :=
  delivery.systemstate = 0 ∧ delivery.put = 0 ∧ rc ≠ mwMore

/-- After the request is finished only forwards are sent. -/
theorem runActions_quiet (process : Process) {call : Call} (actions : List Action) {state : State}
    (kept : Kept call state) (answered : state.requestpending = false) :
    ∃ after extra, runActions process state actions = some after ∧
      after.sent = state.sent ++ extra ∧ after.requestpending = false ∧
      (extra = [] ↔ Quiet state.callmesg.forwardcount actions) := by
  induction actions generalizing state with
  | nil => exact ⟨state, [], rfl, (List.append_nil _).symm, answered, iff_of_true rfl trivial⟩
  | cons action rest ih =>
      cases action with
      | reply data len returncode appreturncode delivery =>
          have ran : runActions process state
              (.reply data len returncode appreturncode delivery :: rest) =
                runActions process state rest := by
            rw [runActions, Action.run, mwreply, if_pos answered]
            rfl
          rw [ran, Quiet]
          exact ih kept answered
      | forward svcname data len route =>
          rw [runActions, Action.run, Quiet]
          dsimp only
          rcases mwforward_step process kept svcname data len route with
            ⟨effect, stepped⟩ | ⟨effect, last, _, stepped⟩
          · rcases ih stepped.kept (stepped.pending.trans answered) with
              ⟨after, extra, ran, sent, done, quiet⟩
            simp_all [stepped.sent, List.append_nil, stepped.count, and_iff_right]
          · rcases ih stepped.kept stepped.pending with
              ⟨after, extra, ran, sent, done, _⟩
            rw [stepped.sent, List.append_assoc] at sent
            simp_all

def answer (process : Process) (delivery : Delivery) (rc : Int) (state : State) : Option State :=
  if state.requestpending then (mwreply process state none 0 rc 0 delivery).map Prod.snd
  else some state

section Answer

variable (process : Process) {call : Call} {state : State} {base parts : List Sent}
  (sent : state.sent = base ++ parts) (all : ∀ part ∈ parts, PartReply call part)
include sent all

/-- The state ends with the request finished, counted from `base`. -/
theorem answer_finishes (kept : Kept call state) (pending : state.requestpending = true)
    (delivery : Delivery) (rc : Int) :
    (∃ after sends, answer process delivery rc state = some after ∧ after.sent = base ++ sends ∧
      FinishedOnce call sends) ↔ delivery.Answers rc := by
  have step := mwreply_step process kept pending none 0 rc 0 delivery
  rw [answer, if_pos pending]
  have effect : (Action.reply none 0 rc 0 delivery).effect 0 =
      if delivery.systemstate ≠ 0 then .nothing
      else if delivery.put ≠ 0 then .nothing
      else if rc = mwMore then .part else .final := by
    rw [Action.effect, places, if_neg (by decide : ¬ true = false)]
  rw [effect] at step
  have unfinished (next : State) (more : List Sent) (stepped : next.sent = state.sent ++ more)
      (parts' : ∀ part ∈ more, PartReply call part)
      (replied : (mwreply process state none 0 rc 0 delivery).map Prod.snd = some next) :
      ¬ ∃ after sends, (mwreply process state none 0 rc 0 delivery).map Prod.snd = some after ∧
        after.sent = base ++ sends ∧ FinishedOnce call sends := by
    intro finished
    rcases finished with ⟨after, sends, same, sentAfter, once⟩
    rw [replied] at same
    cases same
    rw [stepped, sent, List.append_assoc] at sentAfter
    rw [← List.append_cancel_left sentAfter] at once
    apply finishedOnce_parts ?_ once
    intro part member
    rcases List.mem_append.mp member with old | new
    · exact all part old
    · exact parts' part new
  by_cases down : delivery.systemstate ≠ 0
  · rw [if_pos down] at step
    rcases step with ⟨result, next, replied, stepped⟩
    exact iff_of_false
      (unfinished next [] stepped.sent (List.forall_mem_nil _) (by rw [replied]; rfl))
      fun answers => down answers.1
  rw [if_neg down] at step
  by_cases notPut : delivery.put ≠ 0
  · rw [if_pos notPut] at step
    rcases step with ⟨result, next, replied, stepped⟩
    exact iff_of_false
      (unfinished next [] stepped.sent (List.forall_mem_nil _) (by rw [replied]; rfl))
      fun answers => notPut answers.2.1
  rw [if_neg notPut] at step
  by_cases more : rc = mwMore
  · rw [if_pos more] at step
    rcases step with ⟨result, next, part, replied, isPart, stepped⟩
    exact iff_of_false (unfinished next [part] stepped.sent
      (List.forall_mem_singleton.mpr isPart) (by rw [replied]; rfl)) fun answers => answers.2.2 more
  · rw [if_neg more] at step
    rcases step with ⟨result, next, last, replied, isLast, stepped⟩
    refine iff_of_true ⟨next, parts ++ [last], by rw [replied]; rfl, ?_, ?_⟩
      ⟨not_not.mp down, not_not.mp notPut, more⟩
    · rw [stepped.sent, sent, List.append_assoc]
    · exact ⟨parts, last, rfl, all, Or.inl isLast⟩

/-- When an action finishes the request, nothing may follow. -/
theorem finished_quiet {next after : State} {last : Sent} {extra : List Sent} {delivery : Delivery}
    {rc : Int} (isLast : FinalReply call last ∨ Forwarded call last)
    (stepped : next.sent = state.sent ++ [last]) (ran : after.sent = next.sent ++ extra)
    (done : after.requestpending = false) :
    (∃ final sends, answer process delivery rc after = some final ∧ final.sent = base ++ sends ∧
      FinishedOnce call sends) ↔ extra = [] := by
  have total : after.sent = base ++ (parts ++ last :: extra) := by
    rw [ran, stepped, sent, List.append_assoc, List.append_assoc, List.singleton_append]
  simp_all [answer, finishedOnce_append]

end Answer

/-- The actions of a service function, and the reply of the library behind them, finish the
request exactly when `Finishes` says so. -/
theorem runActions_finishes (process : Process) {call : Call} (actions : List Action)
    {state : State} {base parts : List Sent} (sent : state.sent = base ++ parts)
    (all : ∀ part ∈ parts, PartReply call part) (kept : Kept call state)
    (pending : state.requestpending = true) (delivery : Delivery) (rc : Int) :
    (∃ after sends, (runActions process state actions).bind (answer process delivery rc) =
        some after ∧ after.sent = base ++ sends ∧ FinishedOnce call sends) ↔
      Finishes (delivery.Answers rc) state.callmesg.forwardcount actions := by
  induction actions generalizing state parts with
  | nil =>
      rw [Finishes, runActions, Option.bind_some]
      exact answer_finishes process sent all kept pending delivery rc
  | cons action rest ih =>
      rw [Finishes, runActions]
      -- An action that sends nothing, or one more part, leaves the request to the others.
      have goesOn (next : State) (more : List Sent) (isPart : ∀ part ∈ more, PartReply call part)
          (stepped : Stepped call state more true (action.count state.callmesg.forwardcount) next) :
          (∃ after sends, (runActions process next rest).bind (answer process delivery rc) =
              some after ∧ after.sent = base ++ sends ∧ FinishedOnce call sends) ↔
            Finishes (delivery.Answers rc) (action.count state.callmesg.forwardcount) rest := by
        rw [← stepped.count]
        apply @ih next (parts ++ more) ?_ ?_ stepped.kept stepped.pending
        · rw [stepped.sent, sent, List.append_assoc]
        · grind
      have ends (next : State) (last : Sent) (isLast : FinalReply call last ∨ Forwarded call last)
          (stepped : Stepped call state [last] false (action.count state.callmesg.forwardcount)
            next) :
          (∃ after sends, (runActions process next rest).bind (answer process delivery rc) =
              some after ∧ after.sent = base ++ sends ∧ FinishedOnce call sends) ↔
            Quiet (action.count state.callmesg.forwardcount) rest := by
        rcases runActions_quiet process rest stepped.kept stepped.pending with
          ⟨after, extra, ran, sentAfter, done, quiet⟩
        rw [← stepped.count, ← quiet, ran, Option.bind_some]
        exact finished_quiet process sent all isLast stepped.sent sentAfter done
      cases action with
      | reply data len returncode appreturncode delivery' =>
          have step := mwreply_step process kept pending data len returncode appreturncode delivery'
          have sameEffect : (Action.reply data len returncode appreturncode delivery').effect
              state.callmesg.forwardcount =
                (Action.reply data len returncode appreturncode delivery').effect 0 := rfl
          rw [sameEffect, Action.run]
          cases effect : (Action.reply data len returncode appreturncode delivery').effect 0 with
          | hangs =>
              simp_all
          | nothing =>
              rw [effect] at step
              rcases step with ⟨result, next, replied, stepped⟩
              rw [replied]
              exact goesOn next [] (List.forall_mem_nil _) stepped
          | part =>
              rw [effect] at step
              rcases step with ⟨result, next, part, replied, isPart, stepped⟩
              rw [replied]
              exact goesOn next [part] (List.forall_mem_singleton.mpr isPart) stepped
          | final =>
              rw [effect] at step
              rcases step with ⟨result, next, last, replied, isLast, stepped⟩
              rw [replied]
              exact ends next last (Or.inl isLast) stepped
      | forward svcname data len route =>
          rw [Action.run]
          rcases mwforward_step process kept svcname data len route with
            ⟨effect, stepped⟩ | ⟨effect, last, isLast, stepped⟩
          · grind
          · grind

theorem answer_map (process : Process) (delivery : Delivery) (rc : Int) (state : State) :
    (if state.requestpending then
        (mwreply process state none 0 rc 0 delivery).map fun answered => (rc, answered.2)
      else some (rc, state)).map Prod.snd = answer process delivery rc state := by
  rw [answer]
  split_ifs with pending
  · rw [Option.map_map]
    rfl
  · rfl

theorem mwCallCServiceFunction_ran (process : Process) {turn : Turn} {svcinfo : Svcinfo}
    (provided : svcinfo.svcid ∈ turn.view.serviceFuncList) (state : State) :
    (mwCallCServiceFunction process turn svcinfo state).map Prod.snd =
      (runActions process state turn.behaviour.actions).bind
        (answer process turn.delivery turn.behaviour.result) := by
  rw [mwCallCServiceFunction, if_neg (List.ne_nil_of_mem provided), if_pos provided]
  cases runActions process state turn.behaviour.actions with
  | none => rfl
  | some after => exact answer_map process turn.delivery turn.behaviour.result after

theorem mwCallCServiceFunction_refused (process : Process) {turn : Turn} {svcinfo : Svcinfo}
    (missing : svcinfo.svcid ∉ turn.view.serviceFuncList) (state : State) :
    ∃ rc, rc ≠ mwMore ∧ (mwCallCServiceFunction process turn svcinfo state).map Prod.snd =
      answer process turn.delivery rc state := by
  rw [mwCallCServiceFunction]
  split_ifs with empty
  · exact ⟨_, by decide, answer_map process turn.delivery (rcOf .ENOENT) state⟩
  · exact ⟨_, by decide, answer_map process turn.delivery (rcOf .EBADRQC) state⟩

/-- The state in which `mwservicerequest` leaves the server. -/
def Served.state? : Served → Option State
  | .returned _ state _ => some state
  | .waiting state => some state
  | .hung => none

/-- What finishes a request: its service is known and its time is not over; when its data
cannot be read or no function serves it, the reply of the library goes out; otherwise the
actions of the function finish it. -/
structure Finishing (turn : Turn) (call : Call) : Prop where
  known : turn.view.service call.svcid = true
  current : 0 ≤ (mwSetDeadline turn.view.now call).1
  unserved : mwGetbufferFromCall turn.view call = none ∨ call.svcid ∉ turn.view.serviceFuncList →
    turn.delivery.systemstate = 0 ∧ turn.delivery.put = 0
  served : mwGetbufferFromCall turn.view call ≠ none → call.svcid ∈ turn.view.serviceFuncList →
    Finishes (turn.delivery.Answers turn.behaviour.result) call.forwardcount
      turn.behaviour.actions

theorem Delivery.answers_iff {delivery : Delivery} {rc : Int} (notMore : rc ≠ mwMore) :
    delivery.Answers rc ↔ delivery.systemstate = 0 ∧ delivery.put = 0 := by
  rw [Delivery.Answers, ← and_assoc, and_iff_left notMore]

theorem error_unfinished (call : Call) (dest returncode : Int) :
    ¬ FinishedOnce call [⟨dest, .svccall { call with returncode := returncode }⟩] := by
  intro finished
  rcases finished with ⟨parts, last, split, _, isLast⟩
  cases List.append_inj_right' (split.symm.trans (List.nil_append _).symm) rfl
  rcases isLast with ⟨mesg, impossible, _⟩ | ⟨other, mesg, isCall, _, more⟩
  · cases impossible
  · grind

theorem sendError_unfinished {call : Call} {state : State} (taken : state.callmesg = call)
    (dest : Int) (errno : Errno) (put : Int) :
    ∃ sends, (state.sendError dest errno put).sent = state.sent ++ sends ∧
      ¬ FinishedOnce call sends := by
  rw [State.sendError, taken]
  split_ifs with isPut
  · exact ⟨_, rfl, error_unfinished call dest (rcOf errno)⟩
  · exact ⟨[], (List.append_nil _).symm, finishedOnce_parts (List.forall_mem_nil _)⟩

theorem mwservicerequest_single {process : Process} (serving : process.Serving) (noblock : Bool)
    (state : State) {turn : Turn} {call : Call} (isCall : turn.message = .svccall call) :
    (mwservicerequest process noblock state [turn]).state? =
      match examine turn.view call with
      | .handed svcinfo =>
          (mwCallCServiceFunction process turn svcinfo (state.take call)).map Prod.snd
      | verdict => some ((state.take call).settle process turn.delivery verdict) := by
  have after : turn.after process state =
      (state.take call).settle process turn.delivery (examine turn.view call) := by
    rw [Turn.after, isCall]
  rw [mwservicerequest, if_neg (by rw [serving.systemstate]; decide), serving.getServiceRequest,
    receive_cons, if_neg (Nat.not_lt.mpr turn.message.length_le), after, Turn.outcome, isCall]
  dsimp only
  cases examine turn.view call with
  | unknown => rfl
  | expired => rfl
  | junk => cases noblock <;> rfl
  | handed svcinfo =>
      dsimp only
      rw [State.settle]
      cases mwCallCServiceFunction process turn svcinfo (state.take call) <;> rfl

def fairDelivery : Delivery := ⟨0, some (0, 256), 0, 0⟩

def fairRoute : Route := ⟨0, 9, 16777218, some 256, 0, 0⟩

def actingTurn (call : Call) (actions : List Action) (result : Int) : Turn :=
  ⟨.svccall call, plainView, ⟨actions, result⟩, fairDelivery⟩

def oldCall : Call := { plainCall 0 0 with issued := 900, timeout := 1000 }

end MidWay.Server

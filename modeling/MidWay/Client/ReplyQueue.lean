import MidWay.Client.Fetch
import MidWay.Srb.Fields

/-!
Contract: the replies a client has received and not yet fetched.

A reply that announces its length gets a block of that length. Its first data is copied
without a look at the length, and what it leaves may be negative. The data of later messages
is compared with what is left.

Owns: the two queues, `pushCRqueue`, `pushCRqueueDATA` and `popCRqueue`, and when no byte is
copied outside of a block.
-/

namespace MidWay.Client

open MidWay.CLib MidWay.Srb MidWay.Url

/-- A read at a null pointer, or a copy that leaves its block. -/
inductive Fault where
  | nullPointer
  | overrun
deriving DecidableEq

/-- A handle or a block of `none` is a null pointer. -/
structure CallReply where
  handle : Option (List Byte)
  map : Urlmap
  dataoctetsleft : Int
  datatotal : Int
  data : Option (List Byte)

structure ReplyQueues where
  callreplyqueue : List CallReply
  callreplyqueueWaiting : List CallReply

def noReplies : ReplyQueues := ⟨[], []⟩

def ReplyQueues.push (queues : ReplyQueues) (crelm : CallReply) : ReplyQueues :=
  if crelm.dataoctetsleft > 0 then
    { queues with callreplyqueueWaiting := crelm :: queues.callreplyqueueWaiting }
  else { queues with callreplyqueue := crelm :: queues.callreplyqueue }

/-- A negative size is more than there is; any other is granted. -/
def malloc (garbage : Nat → Byte) (size : Int) : Option (List Byte) :=
  if size < 0 then none else some ((List.range size.toNat).map garbage)

def copyChunk (data : Option (List Byte)) (offset : Int) (chunk : List Byte) :
    Except Fault (Option (List Byte)) :=
  if chunk = [] then .ok data
  else
    match data with
    | none => .error .overrun
    | some block =>
        if 0 ≤ offset ∧ offset + chunk.length ≤ block.length then
          .ok (some (memcpy block offset.toNat chunk))
        else .error .overrun

def atoi (text : List Byte) : Int := (sscanfD text).getD 0

def chunkOf (srbmsg : SRBmessage) : List Byte := (mwSrbGetfield srbmsg srbData).getD []

/-- The lengths are `int`; they only leave its range where the total was negative. -/
def pushCRqueue (garbage : Nat → Byte) (queues : ReplyQueues) (srbmsg : SRBmessage) :
    Except Fault ReplyQueues :=
  match fieldOf srbmsg srbHandle with
  | none => .ok queues
  | some handle =>
      match fieldOf srbmsg srbDatatotal with
      | none => .ok (queues.push ⟨handle, srbmsg.map, 0, 0, none⟩)
      | some none => .error .nullPointer
      | some (some text) =>
          let datatotal := atoi text
          match copyChunk (malloc garbage datatotal) 0 (chunkOf srbmsg) with
          | .error fault => .error fault
          | .ok data =>
              .ok (queues.push
                ⟨handle, srbmsg.map, datatotal - (chunkOf srbmsg).length, datatotal, data⟩)

/-- The result, the replies that go on waiting, and one that is now complete. -/
structure Stored where
  rc : Int
  waiting : List CallReply
  complete : Option CallReply

/-- The waiting reply with the handle takes a chunk. One that is too long changes nothing. -/
def CallReply.take (data : List Byte) (rest : List CallReply) (crelm : CallReply) :
    Except Fault Stored :=
  if crelm.dataoctetsleft - data.length < 0 then .ok ⟨rcOf .EBADMSG, crelm :: rest, none⟩
  else
    match copyChunk crelm.data (crelm.datatotal - crelm.dataoctetsleft) data with
    | .error fault => .error fault
    | .ok block =>
        let left := crelm.dataoctetsleft - data.length
        let crelm := { crelm with data := block, dataoctetsleft := left }
        if left = 0 then .ok ⟨0, rest, some crelm⟩ else .ok ⟨0, crelm :: rest, none⟩

def storeChunk (hdl data : List Byte) : List CallReply → Except Fault Stored
  | [] => .ok ⟨0, [], none⟩
  | crelm :: rest =>
      match crelm.handle with
      | none => .error .nullPointer
      | some handle =>
          if strcaseeq (cstr handle) (cstr hdl) then crelm.take data rest
          else
            (storeChunk hdl data rest).map fun stored =>
              { stored with waiting := crelm :: stored.waiting }

def pushCRqueueDATA (queues : ReplyQueues) (srbmsg : SRBmessage) :
    Except Fault (Int × ReplyQueues) :=
  match fieldOf srbmsg srbData, mwSrbGetfield srbmsg srbHandle with
  | none, _ => .ok (rcOf .EINVAL, queues)
  | some _, none => .ok (-1, queues)
  | some _, some hdl =>
      (storeChunk hdl (chunkOf srbmsg) queues.callreplyqueueWaiting).map fun stored =>
        (stored.rc, ⟨stored.complete.toList ++ queues.callreplyqueue, stored.waiting⟩)

def isReturncode (text : List Byte) : Bool :=
  (text.length == 1 || text.length == 3) && text.all isdigit

/-- The rejects that a refused message gets are left out. -/
def mwSrbChecksrbcall (srbmsg : SRBmessage) : Bool :=
  match fieldOf srbmsg srbHandle, fieldOf srbmsg srbReturncode with
  | none, _ => false
  | some _, none => false
  | some _, some returncode =>
      isReturncode (returncode.getD []) && (fieldOf srbmsg srbApplicationrc).isSome

/-- One turn of the loop that drains the socket. Other commands leave the queues. -/
def drainMessage (garbage : Nat → Byte) (queues : ReplyQueues) (srbmsg : SRBmessage) :
    Except Fault ReplyQueues :=
  if srbmsg.marker = srbRejectMarker then .ok queues
  else if srbmsg.commandString = srbSvccall then
    if srbmsg.marker ≠ srbResponseMarker then .ok queues
    else if mwSrbChecksrbcall srbmsg = false then .ok queues
    else pushCRqueue garbage queues srbmsg
  else if srbmsg.commandString = srbSvcdata then (pushCRqueueDATA queues srbmsg).map Prod.snd
  else .ok queues

/-- The oldest reply for a handle, nearest to the end of the queue. -/
def popOldest (handle : List Byte) : List CallReply →
    Except Fault (Option CallReply × List CallReply)
  | [] => .ok (none, [])
  | crelm :: rest =>
      match crelm.handle with
      | none => .error .nullPointer
      | some own =>
          (popOldest handle rest).map fun popped =>
            if popped.1.isSome then (popped.1, crelm :: popped.2)
            else if strcaseeq (cstr own) (cstr handle) then (some crelm, rest)
            else (none, crelm :: popped.2)

def popCRqueue (queue : List CallReply) : Option (List Byte) →
    Except Fault (Option CallReply × List CallReply)
  | none => .ok (queue.getLast?, queue.dropLast)
  | some handle => popOldest handle queue

/-- A message arrives, with what its block holds, or the client fetches. -/
inductive ClientAction where
  | message (garbage : Nat → Byte) (srbmsg : SRBmessage)
  | fetch (handle : Option (List Byte))

def ClientAction.step (queues : ReplyQueues) : ClientAction → Except Fault ReplyQueues
  | .message garbage srbmsg => drainMessage garbage queues srbmsg
  | .fetch handle =>
      (popCRqueue queues.callreplyqueue handle).map fun popped =>
        { queues with callreplyqueue := popped.2 }

def CallReply.Bounded (crelm : CallReply) : Prop :=
  0 ≤ crelm.dataoctetsleft ∧ crelm.dataoctetsleft ≤ crelm.datatotal

/-- Every reply in one of the queues has from nothing to all of its data to come. -/
def ReplyQueues.Bounded (queues : ReplyQueues) : Prop :=
  ∀ crelm ∈ queues.callreplyqueue ++ queues.callreplyqueueWaiting, crelm.Bounded

/-- No action copies a byte out of a block, and the queues stay bounded. A null pointer ends the
run. -/
def Contained : ReplyQueues → List ClientAction → Prop
  | _, [] => True
  | queues, action :: rest =>
      action.step queues ≠ .error .overrun ∧
        ∀ next, action.step queues = .ok next → next.Bounded ∧ Contained next rest

def isReply (srbmsg : SRBmessage) : Prop :=
  srbmsg.marker = srbResponseMarker ∧ srbmsg.commandString = srbSvccall ∧
    mwSrbChecksrbcall srbmsg = true

/-- A reply that announces a length does not announce a negative one, and its own data is not
longer. -/
def ClientAction.Fits : ClientAction → Prop
  | .message _ srbmsg => isReply srbmsg → ∀ text, fieldOf srbmsg srbDatatotal = some (some text) →
      0 ≤ atoi text ∧ (chunkOf srbmsg).length ≤ atoi text
  | .fetch _ => True

def AllFit : ReplyQueues → List ClientAction → Prop
  | _, [] => True
  | queues, action :: rest =>
      action.Fits ∧ ∀ next, action.step queues = .ok next → AllFit next rest

theorem length_malloc (garbage : Nat → Byte) {size : Int} (natural : 0 ≤ size) :
    ∃ block, malloc garbage size = some block ∧ (block.length : Int) = size := by
  refine ⟨(List.range size.toNat).map garbage, ?_, ?_⟩
  · rw [malloc, if_neg (Int.not_lt.mpr natural)]
  · rw [List.length_map, List.length_range, Int.toNat_of_nonneg natural]

theorem copyChunk_inside {block chunk : List Byte} {offset : Int} (natural : 0 ≤ offset)
    (inside : offset + chunk.length ≤ block.length) :
    ∃ copied, copyChunk (some block) offset chunk = .ok (some copied) ∧
      copied.length = block.length := by
  by_cases empty : chunk = []
  · exact ⟨block, by rw [copyChunk, if_pos empty], rfl⟩
  · refine ⟨memcpy block offset.toNat chunk, ?_, length_memcpy (by omega)⟩
    simp_all [copyChunk, if_neg, if_pos]

theorem copyChunk_overrun {block chunk : List Byte} (long : block.length < chunk.length) :
    copyChunk (some block) 0 chunk = .error .overrun := by
  have some : chunk ≠ [] := List.ne_nil_of_length_pos (by omega)
  rw [copyChunk, if_neg some]
  exact if_neg (by omega)

/-- A waiting reply has something left, and a block of its whole length. -/
structure CallReply.Waits (crelm : CallReply) : Prop where
  bounded : crelm.Bounded
  block : ∃ block, crelm.data = some block ∧ (block.length : Int) = crelm.datatotal

structure ReplyQueues.Sound (queues : ReplyQueues) : Prop where
  complete : ∀ crelm ∈ queues.callreplyqueue, crelm.Bounded
  waiting : ∀ crelm ∈ queues.callreplyqueueWaiting, crelm.Waits

variable {queues : ReplyQueues}

theorem ReplyQueues.Sound.bounded (sound : queues.Sound) :
    queues.Bounded := by
  intro crelm member
  rcases List.mem_append.mp member with isComplete | waits
  · exact sound.complete crelm isComplete
  · exact (sound.waiting crelm waits).bounded

def Keeps {Result : Type} (outcome : Except Fault Result) (holds : Result → Prop) : Prop :=
  outcome ≠ .error .overrun ∧ ∀ next, outcome = .ok next → holds next

section Keeps

variable {Result Other : Type} {holds : Result → Prop}

theorem Keeps.ok {result : Result} (held : holds result) : Keeps (.ok result) holds := by
  refine ⟨(fun fails => by cases fails), fun next isNext => ?_⟩
  cases isNext
  exact held

theorem Keeps.nullPointer : Keeps (.error .nullPointer) holds :=
  ⟨(fun fails => by cases fails), fun _ isNext => by cases isNext⟩

theorem Keeps.map {outcome : Except Fault Other} {held : Other → Prop} (keeps : Keeps outcome held)
    (result : Other → Result) (after : ∀ other, held other → holds (result other)) :
    Keeps (outcome.map result) holds := by
  cases outcome with
  | error fault =>
      refine ⟨fun fails => ?_, fun _ isNext => by cases isNext⟩
      cases fails
      exact keeps.1 rfl
  | ok other => exact .ok (after other (keeps.2 other rfl))

end Keeps

variable {crelm : CallReply}

theorem ReplyQueues.Sound.push (sound : queues.Sound) (bounded : crelm.Bounded)
    (block : 0 < crelm.dataoctetsleft → crelm.Waits) :
    (queues.push crelm).Sound := by
  rw [ReplyQueues.push]
  split_ifs with left
  · exact ⟨sound.complete, List.forall_mem_cons.mpr ⟨block left, sound.waiting⟩⟩
  · exact ⟨List.forall_mem_cons.mpr ⟨bounded, sound.complete⟩, sound.waiting⟩

theorem pushCRqueue_keeps (garbage : Nat → Byte) {queues : ReplyQueues} (sound : queues.Sound)
    {srbmsg : SRBmessage} (fits : ∀ text, fieldOf srbmsg srbDatatotal = some (some text) →
      0 ≤ atoi text ∧ (chunkOf srbmsg).length ≤ atoi text) :
    Keeps (pushCRqueue garbage queues srbmsg) ReplyQueues.Sound := by
  rw [pushCRqueue]
  cases fieldOf srbmsg srbHandle with
  | none => exact .ok sound
  | some handle =>
      dsimp only
      cases total : fieldOf srbmsg srbDatatotal with
      | none => exact .ok (sound.push ⟨Int.le_refl _, Int.le_refl _⟩ (fun left => by cases left))
      | some value =>
          cases value with
          | none => exact .nullPointer
          | some text =>
              rcases fits text total with ⟨natural, short⟩
              rcases length_malloc garbage natural with ⟨block, isBlock, length⟩
              have inside : 0 + ((chunkOf srbmsg).length : Int) ≤ block.length := by omega
              rcases copyChunk_inside (Int.le_refl 0) inside with ⟨copied, copies, same⟩
              dsimp only
              rw [isBlock, copies]
              have bounded : CallReply.Bounded ⟨handle, srbmsg.map,
                  atoi text - (chunkOf srbmsg).length, atoi text, some copied⟩ := by
                constructor
                · simp_all
                · grind
              exact .ok (sound.push bounded fun _ => ⟨bounded, copied, rfl, by rw [same, length]⟩)

/-- The replies that wait on, and the one that is complete. -/
structure Stored.Sound (stored : Stored) : Prop where
  waiting : ∀ crelm ∈ stored.waiting, crelm.Waits
  complete : ∀ crelm ∈ stored.complete, crelm.Bounded

/-- The chunk goes behind what the block holds. -/
theorem CallReply.Waits.take (waits : crelm.Waits) (data : List Byte) {rest : List CallReply}
    (sound : ∀ other ∈ rest, other.Waits) :
    Keeps (crelm.take data rest) Stored.Sound := by
  have unchanged := List.forall_mem_cons.mpr ⟨waits, sound⟩
  rw [CallReply.take]
  split_ifs with long
  · exact .ok ⟨unchanged, fun _ isNone => by cases isNone⟩
  · rcases waits with ⟨⟨natural, below⟩, block, isBlock, length⟩
    have inside : crelm.datatotal - crelm.dataoctetsleft + data.length ≤ block.length := by omega
    rcases copyChunk_inside (Int.sub_nonneg_of_le below) inside with ⟨copied, copies, same⟩
    rw [isBlock, copies]
    dsimp only
    have bounded : CallReply.Bounded
        { crelm with data := some copied, dataoctetsleft := crelm.dataoctetsleft - data.length } := by
      constructor
      · simp_all
      · grind
    split_ifs with full
    · refine .ok ⟨sound, fun other isComplete => ?_⟩
      cases isComplete
      exact bounded
    · refine .ok ⟨List.forall_mem_cons.mpr ⟨⟨bounded, copied, rfl, ?_⟩, sound⟩,
        fun _ isNone => by cases isNone⟩
      rw [same, length]

theorem storeChunk_keeps (hdl data : List Byte) {waiting : List CallReply}
    (sound : ∀ crelm ∈ waiting, crelm.Waits) :
    Keeps (storeChunk hdl data waiting) Stored.Sound := by
  induction waiting with
  | nil => exact .ok ⟨sound, fun _ isNone => by cases isNone⟩
  | cons crelm rest ih =>
      rcases List.forall_mem_cons.mp sound with ⟨waits, others⟩
      rw [storeChunk]
      cases crelm.handle with
      | none => exact .nullPointer
      | some handle =>
          dsimp only
          split_ifs with mine
          · exact waits.take data others
          · exact (ih others).map _ fun stored kept =>
              ⟨List.forall_mem_cons.mpr ⟨waits, kept.waiting⟩, kept.complete⟩

theorem pushCRqueueDATA_keeps (sound : queues.Sound) (srbmsg : SRBmessage) :
    Keeps (pushCRqueueDATA queues srbmsg) fun result => result.2.Sound := by
  rw [pushCRqueueDATA]
  cases fieldOf srbmsg srbData with
  | none => exact .ok sound
  | some value =>
      cases mwSrbGetfield srbmsg srbHandle with
      | none => exact .ok sound
      | some hdl =>
          refine (storeChunk_keeps hdl (chunkOf srbmsg) sound.waiting).map _ fun stored kept => ?_
          refine ⟨fun crelm member => ?_, kept.waiting⟩
          rcases List.mem_append.mp member with isComplete | queued
          · exact kept.complete crelm (Option.mem_toList.mp isComplete)
          · exact sound.complete crelm queued

variable {srbmsg : SRBmessage}

theorem drainMessage_keeps (garbage : Nat → Byte) (sound : queues.Sound)
    (fits : (ClientAction.message garbage srbmsg).Fits) :
    Keeps (drainMessage garbage queues srbmsg) ReplyQueues.Sound := by
  rw [drainMessage]
  split_ifs with rejected isCall request refused isData
  · exact .ok sound
  · exact .ok sound
  · exact .ok sound
  · refine pushCRqueue_keeps garbage sound (fits ⟨not_not.mp request, isCall, ?_⟩)
    exact Bool.not_eq_false _ ▸ refused
  · exact (pushCRqueueDATA_keeps sound srbmsg).map _ fun _ kept => kept
  · exact .ok sound

/-- What is popped leaves the other replies. -/
theorem popOldest_keeps (handle : List Byte) (queue : List CallReply) :
    Keeps (popOldest handle queue) fun popped => ∀ crelm ∈ popped.2, crelm ∈ queue := by
  induction queue with
  | nil => exact .ok fun _ member => member
  | cons crelm rest ih =>
      rw [popOldest]
      cases crelm.handle with
      | none => exact .nullPointer
      | some own =>
          refine ih.map _ fun popped kept => ?_
          grind

theorem popCRqueue_keeps (queue : List CallReply) (handle : Option (List Byte)) :
    Keeps (popCRqueue queue handle) fun popped => ∀ crelm ∈ popped.2, crelm ∈ queue := by
  cases handle with
  | none => exact .ok fun _ member => List.dropLast_subset queue member
  | some handle => exact popOldest_keeps handle queue

theorem step_keeps (sound : queues.Sound) {action : ClientAction} (fits : action.Fits) :
    Keeps (action.step queues) ReplyQueues.Sound := by
  cases action with
  | message garbage srbmsg => exact drainMessage_keeps garbage sound fits
  | fetch handle =>
      refine (popCRqueue_keeps queues.callreplyqueue handle).map _ fun popped kept => ?_
      exact ⟨fun crelm member => sound.complete crelm (kept crelm member), sound.waiting⟩

theorem push_unbounded (negative : crelm.dataoctetsleft < 0) : ¬(queues.push crelm).Bounded := by
  intro bounded
  rw [ReplyQueues.push, if_neg (by omega)] at bounded
  have natural := (bounded crelm (List.mem_append_left _ List.mem_cons_self)).1
  omega

/-- The data of a reply that does not fit leaves its block, or its length stays negative. -/
theorem pushCRqueue_breaks (garbage : Nat → Byte) (queues : ReplyQueues)
    (handled : (fieldOf srbmsg srbHandle).isSome) {text : List Byte}
    (total : fieldOf srbmsg srbDatatotal = some (some text))
    (long : ¬(0 ≤ atoi text ∧ (chunkOf srbmsg).length ≤ atoi text)) :
    pushCRqueue garbage queues srbmsg = .error .overrun ∨
      ∃ next, pushCRqueue garbage queues srbmsg = .ok next ∧ ¬next.Bounded := by
  rcases Option.isSome_iff_exists.mp handled with ⟨handle, isHandle⟩
  rw [pushCRqueue, isHandle, total]
  dsimp only
  by_cases natural : 0 ≤ atoi text
  · rcases length_malloc garbage natural with ⟨block, isBlock, length⟩
    have longer : block.length < (chunkOf srbmsg).length := by omega
    rw [isBlock, copyChunk_overrun longer]
    exact Or.inl rfl
  · have noBlock : malloc garbage (atoi text) = none := if_pos (Int.not_le.mp natural)
    rw [noBlock, copyChunk]
    split_ifs with empty
    · refine Or.inr ⟨_, rfl, push_unbounded ?_⟩
      show atoi text - (chunkOf srbmsg).length < 0
      omega
    · exact Or.inl rfl

theorem step_breaks (queues : ReplyQueues) {action : ClientAction} (misfits : ¬action.Fits) :
    action.step queues = .error .overrun ∨
      ∃ next, action.step queues = .ok next ∧ ¬next.Bounded := by
  cases action with
  | fetch handle => exact absurd trivial misfits
  | message garbage srbmsg =>
      rw [ClientAction.Fits, Classical.not_imp, not_forall] at misfits
      rcases misfits with ⟨⟨isResponse, isCall, checked⟩, text, misfit⟩
      rcases Classical.not_imp.mp misfit with ⟨total, long⟩
      have pushes : drainMessage garbage queues srbmsg = pushCRqueue garbage queues srbmsg := by
        rw [drainMessage, isResponse, if_neg (by decide), if_pos isCall, if_neg (by decide), checked,
          if_neg (by decide)]
      grind [ClientAction.step, pushCRqueue_breaks, fieldOf, srbHandle, mwSrbChecksrbcall]

/-- From queues in order, a run is contained exactly when every action in it fits. -/
theorem contained_iff (sound : queues.Sound) (actions : List ClientAction) :
    Contained queues actions ↔ AllFit queues actions := by
  induction actions generalizing queues with
  | nil => exact Iff.rfl
  | cons action rest ih =>
      constructor
      · rintro ⟨inside, after⟩
        have fits : action.Fits := by
          by_contra misfits
          rcases step_breaks queues misfits with overrun | ⟨next, isNext, unbounded⟩
          · exact inside overrun
          · exact unbounded (after next isNext).1
        refine ⟨fits, fun next isNext => ?_⟩
        exact (ih ((step_keeps sound fits).2 next isNext)).mp (after next isNext).2
      · rintro ⟨fits, after⟩
        have keeps := step_keeps sound fits
        refine ⟨keeps.1, fun next isNext => ⟨(keeps.2 next isNext).bounded, ?_⟩⟩
        exact (ih (keeps.2 next isNext)).mpr (after next isNext)

def longReply : SRBmessage :=
  ⟨srbSvccall, srbResponseMarker,
    [⟨srbHandle, some (ascii "1".toList)⟩, ⟨srbReturncode, some (ascii "1".toList)⟩,
      ⟨srbApplicationrc, some (ascii "0".toList)⟩, ⟨srbDatatotal, some (ascii "1".toList)⟩,
      ⟨srbData, some (ascii "ab".toList)⟩]⟩

end MidWay.Client

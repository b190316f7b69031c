import MidWay.Gateway.EventMessages
import MidWay.Server.Forwarding
import MidWay.Shm.ProcessMemory

/-!
Contract: the data of an event on its way from the poster to the members, and its end.

`_mw_ipcsend_event` names the buffer of the data by its offset only: the segment stays 0
from the `memset`, which is the heap. Everybody behind looks the segment up by what the
event says, `mwd` in the heap when nobody wants the event.

Nothing else is written between the post and the last ack.

Owns: `_mw_ipcsend_event` with its data, `_mw_do_ipcevent`, and when all recipients read
what was posted and `mwd` frees the buffer of it.
-/

namespace MidWay.Gateway

open MidWay.CLib MidWay.Url MidWay.Srb
open MidWay.Shm (SharedMemory AddressSpace Mapping FreeArea Buffer Maps MapsHeap heapMachine)
open MidWay.Server (Contents placeData sentBytes onesBut)

/-- A call of `_mw_ipcsend_event`, with the result of `_mw_ipc_putmessage` and whether the queue
took the message: a send that was interrupted counts as 0. `sending` is the data, when it is not
null. -/
structure EventPost where
  event : List Byte
  username : Option (List Byte)
  clientname : Option (List Byte)
  fromid : Int
  remote : Bool
  myMwid : Int
  null : Bool
  sending : Shm.Sending
  put : Int
  taken : Bool

def EventPost.data (post : EventPost) : Shm.Sending := { post.sending with strlen := 0 }

/-- The offset and the length of the data, and the memory after the copy. What `_mwalloc` gives
lies in a segment. -/
def EventPost.place (post : EventPost) : Option (Int × Int × SharedMemory) :=
  if post.null then some (0, 0, post.data.memory)
  else (placeData post.data).map fun placed => (placed.1, post.data.len, placed.2)

def EventPost.message (post : EventPost) (data datalen : Int) : EventMessage :=
  let text (name : List Byte) := (cstr name).take mwMaxNameLen
  { event := text post.event
    eventid := 0
    data := data
    datasegmentid := 0
    username := text (post.username.getD [])
    clientname := text (post.clientname.getD [])
    subscriptionid := Mwd.unassigned
    senderid := if post.fromid = Mwd.unassigned then post.myMwid else post.fromid
    datalen := datalen
    flags := if post.remote then mwEventPeerGenerated else 0 }

/-- The result, the message on the queue of `mwd`, and the memory. -/
def EventPost.mwIpcsendEvent (post : EventPost) : Int × Option EventMessage × SharedMemory :=
  match post.place with
  | none => (-post.sending.errno, none, post.data.memory)
  | some (data, datalen, memory) =>
      let ev := post.message data datalen
      if ev.senderid = Mwd.unassigned then (rcOf .ENOENT, none, memory)
      else (post.put, if post.taken then some ev else none, memory)

def EventPost.sent (post : EventPost) : Option EventMessage := post.mwIpcsendEvent.2.1

def EventPost.Sends (post : EventPost) : Prop := ∃ ev, post.sent = some ev

def EventPost.holding (post : EventPost) (contents : Contents) : EventPost :=
  { post with sending := contents.sending post.sending }

structure Member where
  space : AddressSpace
  mmap : (length : Int) → FreeArea space length
  mwid : Int

/-- `_mw_getsegment_byid`, and the segments of the process then. -/
def Member.getsegmentByid (member : Member) (memory : SharedMemory) (id : Int) :
    Option Mapping × AddressSpace :=
  match member.space.getsegmentByid memory.files member.mmap id with
  | none => (none, member.space)
  | some (si, space) => (some si, space)

/-- What is passed to `_mw_doevent`, and what is sent to `mwd`. -/
structure HandedEvent where
  subscriptionid : Int
  event : List Byte
  data : Option Int
  datalen : Int
  space : AddressSpace
  acks : List EventMessage

def Member.mwDoIpcevent (member : Member) (memory : SharedMemory) (ev : EventMessage) :
    HandedEvent :=
  if ev.data ≠ 0 then
    let (si, space) := member.getsegmentByid memory ev.datasegmentid
    ⟨ev.subscriptionid, ev.event, Mwd.mwoffset2adr ev.data si, ev.datalen, space,
      [{ ev with senderid := member.mwid }]⟩
  else ⟨ev.subscriptionid, ev.event, none, ev.datalen, member.space, []⟩

def Member.sight (member : Member) (memory : SharedMemory) (sight : EventSight)
    (ev : EventMessage) : EventSight :=
  { sight with
    segment := fun id => (member.getsegmentByid memory id).1
    memory := fun adr =>
      (((member.getsegmentByid memory ev.datasegmentid).2.byteAt memory adr).getD 0) }

def EventMessage.named (ev : EventMessage) : SRBmessage :=
  mwSrbSetfield (mwSrbInit srbEvent srbNotificationMarker) srbName ev.event

section

variable (member : Member) (memory : SharedMemory) (ev : EventMessage) (bytes : List Byte)

def Member.HandsOver : Prop :=
  (member.mwDoIpcevent memory ev).datalen = bytes.length ∧
    ∃ adr, (member.mwDoIpcevent memory ev).data = some adr ∧ ∀ index < bytes.length,
      (member.mwDoIpcevent memory ev).space.byteAt memory (adr + (index : Nat)) = bytes[index]?

def Member.Dispatches (sight : EventSight) : Prop :=
  ∃ srbmsg, (member.sight memory sight ev).addData ev ev.named = .ok srbmsg ∧
    urlmapgetvalue srbmsg.map srbData = some bytes

def Member.Reads (sight : EventSight) (id : Int) : Prop :=
  if Mwd.gwidOf id = Mwd.unassigned then member.HandsOver memory ev bytes
  else member.Dispatches memory ev bytes sight

end

/-- A post, all members with what they find, and `mwd` when the event is the next one to be sent;
`before` is what it has beside that event. -/
structure EventTrip where
  post : EventPost
  member : Int → Member
  sight : Int → EventSight
  mwd : Member
  pid : Nat
  before : Mwd.EventState
  eventid : Int
  matching : Mwd.Matching
  put : Nat → Mwd.Delivery

section

variable (trip : EventTrip) (memory : SharedMemory) (ev : EventMessage)

def EventTrip.segment (id : Int) : Option Mapping := (trip.mwd.getsegmentByid memory id).1

def EventTrip.queued : Mwd.Event := { ev.toEvent with eventid := trip.eventid }

def EventTrip.recipients : List Int :=
  ((trip.queued ev).recipients trip.matching trip.put trip.before.subscriptions).map Prod.fst

def EventTrip.delivered (subscriptionid : Int) : EventMessage :=
  { ev with eventid := trip.eventid, senderid := 0, subscriptionid := subscriptionid }

def EventTrip.handled (acks : List Int) : Except Mwd.EventFailure Mwd.EventState := do
  let state ← Mwd.EventState.doEvent (trip.segment memory) trip.matching trip.put
    { trip.before with eventqueue := trip.queued ev :: trip.before.eventqueue }
  acks.foldlM (fun state senderid => state.eventAck (trip.segment memory) trip.eventid senderid)
    state

def EventTrip.Frees (buffer : Buffer) : Prop :=
  ∀ acks, acks.Perm (trip.recipients ev) → ∃ adr ∈ trip.before.buffers, ∃ state after,
    trip.handled memory ev acks = .ok state ∧ state.buffers = trip.before.buffers.erase adr ∧
      memory.mwfree trip.mwd.space trip.pid adr = .ok after ∧ buffer.Freed after

end

/-- Whatever the data and the memory are: when the event is sent, everybody it is for reads the
data, and the buffer of the data is freed in the end. -/
def EventTrip.Intact (trip : EventTrip) (buffer : Buffer) : Prop :=
  ∀ contents ev, (trip.post.holding contents).sent = some ev →
    (∀ id ∈ trip.recipients ev, ∀ subscriptionid,
      (trip.member id).Reads (trip.post.holding contents).mwIpcsendEvent.2.2
        (trip.delivered ev subscriptionid) (sentBytes (trip.post.holding contents).data)
        (trip.sight id) id) ∧
      trip.Frees (trip.post.holding contents).mwIpcsendEvent.2.2 ev buffer

section

variable {segment : Int → Option Mapping}

/-- The last of those who wait for an event frees its buffer. -/
theorem eventAck_last {state : Mwd.EventState} {evmsg : Mwd.Event} {ids : List Int}
    {pendingAcks : Int} {queue : List Mwd.QueuedEvent} (acks : List Int) (someAck : acks ≠ [])
    (members : ∀ id ∈ acks, id ≠ Mwd.unassigned)
    (waiting : acks.Perm (ids.filter fun id => id ≠ Mwd.unassigned))
    (counted : pendingAcks = acks.length) :
    acks.foldlM (fun state senderid => state.eventAck segment evmsg.eventid senderid)
        { state with ackqueue := ⟨evmsg, ids, pendingAcks⟩ :: queue } =
      Mwd.EventState.mwfree { state with ackqueue := queue }
        (Mwd.mwoffset2adr evmsg.data (segment evmsg.datasegmentid)) := by
  induction acks generalizing ids pendingAcks with
  | nil => exact absurd rfl someAck
  | cons senderid rest ih =>
      rw [List.forall_mem_cons] at members
      have waits : senderid ∈ ids :=
        (List.mem_filter.mp (waiting.mem_iff.mp List.mem_cons_self)).1
      obtain ⟨cleared, isCleared, filtered⟩ := Mwd.clearEntry_mem members.1 waits
      have left : rest.Perm (cleared.filter fun id => id ≠ Mwd.unassigned) := by
        grind
      rw [List.foldlM_cons, Mwd.EventState.eventAck, Mwd.ackEntry, if_neg (not_not.mpr rfl),
        isCleared]
      dsimp only
      cases rest with
      | nil =>
          rw [if_pos (by rw [counted]; rfl)]
          exact bind_pure _
      | cons next rest =>
          have several : ¬pendingAcks - 1 = 0 := by
            grind
          rw [if_neg several]
          refine ih (List.cons_ne_nil _ _) members.2 left ?_
          simp [counted, List.length_cons]

variable {matching : Mwd.Matching} {put : Nat → Mwd.Delivery}

theorem recipients_subscribed (ev : Mwd.Event) (subscriptions : List Mwd.Subscription)
    (members : ∀ se ∈ subscriptions, se.id ≠ Mwd.unassigned) :
    ∀ id ∈ (ev.recipients matching put subscriptions).map Prod.fst, id ≠ Mwd.unassigned := by
  induction subscriptions generalizing put with
  | nil => exact List.forall_mem_nil _
  | cons se rest ih =>
      rw [List.forall_mem_cons] at members
      grind [Mwd.Event.recipients]

end

/-- An event with data in the first segment has its buffer freed once, at this address. -/
theorem EventTrip.handled_eq (trip : EventTrip) (memory : SharedMemory) {ev : EventMessage}
    (hasData : ev.data ≠ 0) (first : ev.datasegmentid = 0)
    (members : ∀ se ∈ trip.before.subscriptions, se.id ≠ Mwd.unassigned) {acks : List Int}
    (waiting : acks.Perm (trip.recipients ev)) :
    ∃ state, state.buffers = trip.before.buffers ∧ trip.handled memory ev acks =
      Mwd.EventState.mwfree state (Mwd.mwoffset2adr ev.data (trip.segment memory 0)) := by
  have subscribed : ∀ id ∈ trip.recipients ev, id ≠ Mwd.unassigned :=
    recipients_subscribed (trip.queued ev) trip.before.subscriptions members
  have queuedData : (trip.queued ev).data ≠ 0 := hasData
  unfold EventTrip.handled Mwd.EventState.doEvent
  dsimp only
  rw [if_pos queuedData, if_pos queuedData, ← EventTrip.recipients.eq_def]
  generalize trip.recipients ev = ids at waiting subscribed
  cases ids with
  | nil =>
      rw [if_neg (not_not.mpr rfl), waiting.eq_nil]
      refine ⟨_, ?_, bind_pure _⟩
      rfl
  | cons id ids =>
      have somebody : acks ≠ [] := by
        intro empty
        rw [empty] at waiting
        cases waiting.symm.eq_nil
      have all : (id :: ids).filter (fun id => id ≠ Mwd.unassigned) = id :: ids := by
        simp_all [List.filter_eq_self]
      rw [if_pos (List.cons_ne_nil _ _)]
      generalize trip.before.blocking ++ _ = blocking
      refine ⟨{ trip.before with blocking := blocking }, rfl, ?_⟩
      have acked := @eventAck_last (trip.segment memory)
        { trip.before with blocking := blocking } (trip.queued ev) (id :: ids) (id :: ids).length
        trip.before.ackqueue acks somebody
        (fun id isAck => subscribed id (waiting.mem_iff.mp isAck)) (all.symm ▸ waiting)
        (congrArg Nat.cast waiting.length_eq.symm)
      have inFirst : (trip.queued ev).datasegmentid = 0 := first
      rw [inFirst] at acked
      exact acked

section

variable {post : EventPost} {ev : EventMessage} {data datalen : Int} {memory : SharedMemory}

theorem EventPost.sent_eq_some :
    post.sent = some ev ↔ ∃ data datalen memory, post.place = some (data, datalen, memory) ∧
      (post.message data datalen).senderid ≠ Mwd.unassigned ∧ post.taken = true ∧
      ev = post.message data datalen := by
  unfold EventPost.sent EventPost.mwIpcsendEvent
  grind

theorem EventPost.memory_of_sent (place : post.place = some (data, datalen, memory))
    (sent : post.sent = some ev) : post.mwIpcsendEvent.2.2 = memory := by
  obtain ⟨_, _, _, isPlace, isNamed, _, _⟩ := EventPost.sent_eq_some.mp sent
  simp_all [EventPost.mwIpcsendEvent]

theorem placeData_isSome (contents : Contents) (sending : Shm.Sending) :
    (placeData (contents.sending sending)).isSome = (placeData sending).isSome := by
  have sameCheck : (contents.sending sending).memory.shmcheck (contents.sending sending).space
      (contents.sending sending).data = sending.memory.shmcheck sending.space sending.data := rfl
  have sameLength : (contents.sending sending).length = sending.length := rfl
  grind [placeData, Contents.sending, Option.isSome_map]

theorem EventPost.place_isSome (contents : Contents) (post : EventPost) :
    (post.holding contents).place.isSome = post.place.isSome := by
  have sameNull : (post.holding contents).null = post.null := rfl
  unfold EventPost.place
  rw [sameNull]
  split_ifs
  · rfl
  · rw [Option.isSome_map, Option.isSome_map]
    exact placeData_isSome contents post.data

theorem EventPost.sends_of_isSome (sent : post.sent = some ev)
    {other : EventPost} (named : ∀ data datalen, (other.message data datalen).senderid =
      (post.message data datalen).senderid) (taken : other.taken = post.taken)
    (placed : other.place.isSome = post.place.isSome) : other.Sends := by
  obtain ⟨_, _, _, place, isNamed, isTaken, _⟩ := EventPost.sent_eq_some.mp sent
  rw [place] at placed
  obtain ⟨_, isPlaced⟩ := Option.isSome_iff_exists.mp placed
  exact ⟨_, EventPost.sent_eq_some.mpr
    ⟨_, _, _, isPlaced, (named 0 0).trans_ne isNamed, taken.trans isTaken, rfl⟩⟩

theorem EventPost.sends_holding (contents : Contents) :
    (post.holding contents).Sends ↔ post.Sends := by
  constructor
  · intro ⟨ev, sent⟩
    exact EventPost.sends_of_isSome sent (fun _ _ => rfl) rfl (post.place_isSome contents).symm
  · intro ⟨ev, sent⟩
    exact EventPost.sends_of_isSome sent (fun _ _ => rfl) rfl (post.place_isSome contents)

end

theorem mwoffset2adr_eq_some {offset adr : Int} {si : Mapping} :
    Mwd.mwoffset2adr offset (some si) = some adr ↔
      0 ≤ offset ∧ offset ≤ si.length ∧ adr = si.start + offset := by
  unfold Mwd.mwoffset2adr Mapping.finish
  grind

structure EventMessage.Names (ev : EventMessage) (offset : Int) (len : Nat) : Prop where
  data : ev.data = offset
  first : ev.datasegmentid = 0
  datalen : ev.datalen = len

section

variable {member : Member} {memory : SharedMemory} {ev : EventMessage} {si : Mapping}
  {offset : Int} {len : Nat} (mapped : si ∈ member.space.segments) (isHeap : si.segmentid = 0)
include mapped isHeap

theorem Member.getsegmentByid_heap (memory : SharedMemory) :
    member.getsegmentByid memory 0 = (some si, member.space) := by
  grind [Member.getsegmentByid, AddressSpace.getsegmentByid_mem]

variable (names : ev.Names offset len)
include names

theorem Member.mwDoIpcevent_heap (notNull : offset ≠ 0) :
    (member.mwDoIpcevent memory ev).data = Mwd.mwoffset2adr offset (some si) ∧
      (member.mwDoIpcevent memory ev).datalen = len ∧
      (member.mwDoIpcevent memory ev).space = member.space := by
  unfold Member.mwDoIpcevent
  rw [names.data, if_pos notNull, names.first, Member.getsegmentByid_heap mapped isHeap memory]
  exact ⟨rfl, names.datalen, rfl⟩

/-- Data of the dispatcher's message comes from the address of the event. -/
theorem Member.Dispatches.read {bytes : List Byte} {sight : EventSight}
    (dispatches : member.Dispatches memory ev bytes sight) :
    ∃ adr, Mwd.mwoffset2adr offset (some si) = some adr ∧ adr + ev.vlen ≤ si.finish ∧
      bytes = (List.range ev.vlen.toNat).map fun index =>
        (member.space.byteAt memory (adr + (index : Nat))).getD 0 := by
  obtain ⟨srbmsg, added, isData⟩ := dispatches
  have here := Member.getsegmentByid_heap mapped isHeap memory
  unfold EventSight.addData Member.sight at added
  dsimp only at added
  rw [names.first, names.data, here] at added
  dsimp only at added
  split_ifs at added with short
  · cases added
    cases isData
  · cases address : Mwd.mwoffset2adr offset (some si) with
    | none =>
        rw [address] at added
        cases added
        cases isData
    | some adr =>
        rw [address] at added
        dsimp only at added
        split_ifs at added with behind
        cases added
        rw [Option.any_some, decide_eq_true_eq, Int.not_lt] at behind
        refine ⟨adr, rfl, behind, (Option.some.inj isData).symm.trans ?_⟩
        rw [bind_pure_comp, List.map_eq_map, List.map_map]
        rfl

section

variable {sight : EventSight} {id : Int}

/-- What is read starts with the byte the event names. -/
theorem Member.Reads.first {bytes : List Byte} (reads : member.Reads memory ev bytes sight id)
    (notNull : offset ≠ 0) (someData : bytes ≠ []) :
    0 ≤ offset ∧ (offset < si.length → bytes[0]? = some (memory.bytes 0 offset)) := by
  have positive := List.length_pos_of_ne_nil someData
  have shown : ∀ adr, Mwd.mwoffset2adr offset (some si) = some adr → offset < si.length →
      member.space.byteAt memory adr = some (memory.bytes 0 offset) := by
    intro adr address inside
    obtain ⟨lower, _, rfl⟩ := mwoffset2adr_eq_some.mp address
    have place : si.start + offset - si.start = offset := by omega
    rw [AddressSpace.byteAt_inside mapped memory (by omega) (by unfold Mapping.finish; omega),
      place, isHeap]
  unfold Member.Reads at reads
  split_ifs at reads
  · obtain ⟨_, adr, isAddress, read⟩ := reads
    obtain ⟨data, _, space⟩ := Member.mwDoIpcevent_heap mapped isHeap names notNull
    rw [data] at isAddress
    refine ⟨(mwoffset2adr_eq_some.mp isAddress).1, ?_⟩
    grind
  · obtain ⟨adr, isAddress, _, isBytes⟩ := Member.Dispatches.read mapped isHeap names reads
    refine ⟨(mwoffset2adr_eq_some.mp isAddress).1, ?_⟩
    simp_all

end

section

variable (lower : 0 < offset) (inside : offset + len ≤ si.length)
include lower inside

theorem Member.handsOver_heap : member.HandsOver memory ev (memory.read 0 offset len) := by
  obtain ⟨data, datalen, space⟩ := Member.mwDoIpcevent_heap mapped isHeap names (by omega)
  have address : Mwd.mwoffset2adr offset (some si) = some (si.start + offset) :=
    mwoffset2adr_eq_some.mpr ⟨by omega, by omega, rfl⟩
  have length : (memory.read 0 offset len).length = len := by
    rw [SharedMemory.read, List.length_map, List.length_range]
  refine ⟨by rw [datalen, length], _, data.trans address, ?_⟩
  grind [AddressSpace.byteAt_read]

theorem Member.dispatches_heap (sight : EventSight) (someData : 0 < len)
    (small : len ≤ Shm.intMax) :
    member.Dispatches memory ev (memory.read 0 offset len) sight := by
  have here := Member.getsegmentByid_heap mapped isHeap memory
  have address : Mwd.mwoffset2adr offset (some si) = some (si.start + offset) :=
    mwoffset2adr_eq_some.mpr ⟨by omega, by omega, rfl⟩
  have vlen : ev.vlen = len := by
    rw [EventMessage.vlen, names.datalen]
    grind [Shm.intMax, Int.bmod_eq_of_le]
  have bytes : (List.range len).map (fun index =>
      (member.space.byteAt memory (si.start + offset + (index : Nat))).getD 0) =
        memory.read 0 offset len := by
    apply List.map_congr_left
    intro index isIndex
    have inRange := List.mem_range.mp isIndex
    have place : si.start + offset + index - si.start = offset + index := by omega
    rw [AddressSpace.byteAt_inside mapped memory (by omega) (by unfold Mapping.finish; omega),
      place, isHeap]
    rfl
  refine ⟨mwSrbNsetfield ev.named srbData (memory.read 0 offset len), ?_, rfl⟩
  unfold EventSight.addData Member.sight
  dsimp only
  rw [names.first, names.data, here, names.datalen, vlen]
  dsimp only
  rw [if_neg (by omega), address]
  dsimp only
  rw [if_neg ?_, bind_pure_comp, List.map_eq_map, List.map_map, Int.toNat_natCast]
  · exact congrArg (fun bytes => Except.ok (mwSrbNsetfield ev.named srbData bytes)) bytes
  · rw [Option.any_some, decide_eq_true_eq]
    unfold Mapping.finish
    omega

end

end

/-- What holds when the event is sent: the data is in a buffer in use that holds it, in a heap that
is reached; all have the heap mapped, and the buffer at its length if they have it; and `mwd`
counts the buffer, wherever it sees it, among those of events. -/
structure EventTrip.Ready (findBin : Nat → Nat) (mwid : Nat → Int) (base cps : Nat)
    (trip : EventTrip) (buffer : Buffer) (memory : SharedMemory) (space : AddressSpace) : Prop where
  data : Server.Ready findBin mwid base cps trip.post.data buffer memory space trip.mwd.space
    trip.pid
  heap : MapsHeap memory trip.mwd.space
  members : ∀ id, Maps memory (trip.member id).space buffer
  heaps : ∀ id, MapsHeap memory (trip.member id).space
  known : ∀ si, trip.segment memory buffer.segmentid = some si →
    si.start + buffer.offset ∈ trip.before.buffers
  subscribed : ∀ se ∈ trip.before.subscriptions, se.id ≠ Mwd.unassigned

section Exact

variable {findBin : Nat → Nat} {mwid : Nat → Int} {base cps : Nat} {trip : EventTrip}
  {buffer : Buffer} {memory : SharedMemory} {space : AddressSpace}

theorem EventTrip.data_length (nonempty : 0 < trip.post.sending.len) :
    trip.post.data.length = trip.post.sending.len := by
  have someData : ¬trip.post.sending.len = 0 := by omega
  exact if_neg someData

theorem EventTrip.Ready.sound (ready : trip.Ready findBin mwid base cps buffer memory space)
    (someChunks : 0 < cps) : Shm.HeapSound mwid base cps memory.heap :=
  ready.data.reachable.safe (Shm.heapSound_start findBin mwid someChunks)
    (Shm.heapSound_step findBin mwid)

theorem EventTrip.Ready.holds (ready : trip.Ready findBin mwid base cps buffer memory space)
    (nonempty : 0 < trip.post.sending.len) :
    (trip.post.sending.len : Int) ≤ buffer.size base := by
  have holds := ready.data.holds
  rw [EventTrip.data_length nonempty] at holds
  exact holds

theorem EventTrip.Ready.fits (ready : trip.Ready findBin mwid base cps buffer memory space)
    (someChunks : 0 < cps) (nonempty : 0 < trip.post.sending.len) : buffer.Fits base memory := by
  have holds := ready.holds nonempty
  exact ready.data.inUse.fits someChunks ready.data.reachable (by omega)

variable (someChunks : 0 < cps) (ready : trip.Ready findBin mwid base cps buffer memory space)
  (notNull : trip.post.null = false) (nonempty : 0 < trip.post.sending.len)
include someChunks ready notNull nonempty

/-- The place of other contents, and what the memory holds then. -/
theorem EventTrip.placed (contents : Contents) :
    ∃ stored, (trip.post.holding contents).place =
        some (toInt32 buffer.offset, Int.ofNat trip.post.sending.len,
          { memory with bytes := stored }) ∧
      ({ memory with bytes := stored } : SharedMemory).read buffer.segmentid buffer.offset
        trip.post.sending.len = sentBytes (trip.post.holding contents).data ∧
      (∀ id, id ≠ buffer.segmentid → stored id = contents.stored id) ∧
      (contents.stored buffer.segmentid = (fun _ => 1) → (∀ adr, contents.own adr = 1) →
        ∀ byte ∈ sentBytes (trip.post.holding contents).data, byte = 1) := by
  have length := EventTrip.data_length nonempty
  obtain ⟨stored, placed, read, elsewhere, ones⟩ :=
    ready.data.place someChunks (length ▸ nonempty) contents
  have isNot : (trip.post.holding contents).null = false := notNull
  have isPlaced : placeData (trip.post.holding contents).data =
      some (toInt32 buffer.offset, { memory with bytes := stored }) := placed
  refine ⟨stored, ?_, length ▸ read, elsewhere, ones⟩
  unfold EventPost.place
  rw [isNot, if_neg Bool.false_ne_true, isPlaced]
  rfl

theorem EventTrip.Ready.sends (named : (trip.post.message 0 0).senderid ≠ Mwd.unassigned)
    (taken : trip.post.taken = true) : trip.post.Sends := by
  obtain ⟨_, place, _⟩ := EventTrip.placed someChunks ready notNull nonempty (onesBut 0)
  exact (EventPost.sends_holding (onesBut 0)).mp
    ⟨_, EventPost.sent_eq_some.mpr ⟨_, _, _, place, named, taken, rfl⟩⟩

/-- What is sent names the buffer by its offset in the heap. -/
theorem EventTrip.posted (contents : Contents) {ev : EventMessage}
    (sent : (trip.post.holding contents).sent = some ev) :
    ∃ stored, (trip.post.holding contents).mwIpcsendEvent.2.2 = { memory with bytes := stored } ∧
      ev.Names (toInt32 buffer.offset) trip.post.sending.len ∧
      ({ memory with bytes := stored } : SharedMemory).read buffer.segmentid buffer.offset
        trip.post.sending.len = sentBytes (trip.post.holding contents).data ∧
      (∀ id, id ≠ buffer.segmentid → stored id = contents.stored id) ∧
      (contents.stored buffer.segmentid = (fun _ => 1) → (∀ adr, contents.own adr = 1) →
        ∀ byte ∈ sentBytes (trip.post.holding contents).data, byte = 1) := by
  obtain ⟨stored, place, rest⟩ := EventTrip.placed someChunks ready notNull nonempty contents
  refine ⟨stored, EventPost.memory_of_sent place sent, ?_, rest⟩
  obtain ⟨_, _, _, isPlace, _, _, rfl⟩ := EventPost.sent_eq_some.mp sent
  rw [place] at isPlace
  cases isPlace
  exact ⟨rfl, rfl, rfl⟩

/-- A buffer of the heap, whose offset is an `int`, is read and freed. -/
theorem EventTrip.intact_of_heap (inHeap : buffer.segmentid = 0)
    (addressable : buffer.offset ≤ Shm.intMax) : trip.Intact buffer := by
  intro contents ev sent
  obtain ⟨stored, isMemory, names, read, -, -⟩ :=
    EventTrip.posted someChunks ready notNull nonempty contents sent
  have holds := ready.holds nonempty
  have inUse := ready.data.inUse.stored stored
  have reachable : (heapMachine findBin mwid base cps).Reachable (fun _ _ => True)
      ({ memory with bytes := stored } : SharedMemory).heap := ready.data.reachable
  have fits := inUse.fits someChunks reachable (by omega)
  have lower := fits.behindHead
  have inSegment := ready.data.inUse.inSegment (ready.sound someChunks)
  have isLength := ready.data.inUse.segmentLength_heap inHeap
  have small := ready.data.inUse.size_le inHeap someChunks (Shm.heap_formatted reachable)
  have same : toInt32 buffer.offset = buffer.offset := by
    grind [Shm.intMax, toInt32_self]
  rw [same] at names
  rw [isMemory]
  constructor
  · intro id _ subscriptionid
    obtain ⟨si, mapped, isHeap, length⟩ :=
      (ready.members id).heap_segment (ready.heaps id)
    have delivered : (trip.delivered ev subscriptionid).Names buffer.offset
        trip.post.sending.len := ⟨names.data, names.first, names.datalen⟩
    grind [Member.Reads, Member.handsOver_heap, Member.dispatches_heap]
  · intro acks waiting
    obtain ⟨state, buffers, handled⟩ := trip.handled_eq { memory with bytes := stored }
      (by rw [names.data]; omega) names.first ready.subscribed waiting
    obtain ⟨si, mapped, isHeap, length⟩ := ready.data.receives.heap_segment ready.heap
    have first : trip.segment memory 0 = some si :=
      congrArg Prod.fst (Member.getsegmentByid_heap mapped isHeap memory)
    have known := ready.known si (inHeap ▸ first)
    obtain ⟨after, freed, free⟩ := inUse.mwfree someChunks reachable fits mapped
      (isHeap.trans inHeap.symm) (length.trans (inUse.segmentLength_heap inHeap).symm)
      ready.data.idle
    have address : Mwd.mwoffset2adr ev.data (trip.segment { memory with bytes := stored } 0) =
        some (si.start + buffer.offset) := by
      have sameSegment : trip.segment { memory with bytes := stored } 0 = some si := first
      rw [sameSegment, names.data]
      exact mwoffset2adr_eq_some.mpr ⟨by omega, by omega, rfl⟩
    rw [address, Mwd.EventState.mwfree, buffers, if_pos known] at handled
    exact ⟨_, known, _, after, handled, rfl, freed, free⟩

omit someChunks ready notNull nonempty in
theorem eq_of_erase_eq {buffers : List Int} {one two : Int} (present : one ∈ buffers)
    (same : buffers.erase one = buffers.erase two) : one = two := by
  grind [List.count_erase_self, List.count_erase_of_ne]

omit someChunks notNull nonempty in
/-- A file is not freed at an address that the heap gives. -/
theorem EventTrip.Ready.not_freed {si : Mapping} (mapped : si ∈ trip.mwd.space.segments)
    (isHeap : si.segmentid = 0) (elsewhere : buffer.segmentid ≠ 0) {adr : Int}
    (lower : si.start < adr) (upper : adr < si.finish) {stored : Int → Int → Byte}
    {after : SharedMemory}
    (freed : ({ memory with bytes := stored } : SharedMemory).mwfree trip.mwd.space trip.pid adr =
      .ok after) : ¬buffer.Freed after := by
  have files := SharedMemory.mwfree_files
    (AddressSpace.findsegmentByaddr_inside mapped lower upper) isHeap freed
  have inUse := ready.data.inUse
  cases buffer with
  | heap bin pCHead => exact absurd rfl elsewhere
  | file id size =>
      obtain ⟨_, _, file, isFile, _⟩ := inUse
      simp_all [Buffer.Freed]

omit someChunks notNull nonempty in
/-- What `mwd` frees when nobody wants the event. -/
theorem EventTrip.Frees.unwanted {ev : EventMessage} {stored : Int → Int → Byte} {offset : Int}
    {len : Nat} (names : ev.Names offset len) (notZero : offset ≠ 0)
    (nobody : trip.recipients ev = [])
    (frees : trip.Frees { memory with bytes := stored } ev buffer) {si : Mapping}
    (mapped : si ∈ trip.mwd.space.segments) (isHeap : si.segmentid = 0) :
    0 ≤ offset ∧ ∃ after, ({ memory with bytes := stored } : SharedMemory).mwfree trip.mwd.space
      trip.pid (si.start + offset) = .ok after ∧ buffer.Freed after := by
  obtain ⟨adr, known, state, after, handled, erased, freed, free⟩ :=
    frees [] (nobody ▸ List.Perm.nil)
  obtain ⟨first, buffers, isHandled⟩ := trip.handled_eq { memory with bytes := stored }
    (by rw [names.data]; exact notZero) names.first ready.subscribed
    (nobody ▸ List.Perm.nil : [].Perm (trip.recipients ev))
  have segment : trip.segment { memory with bytes := stored } 0 = some si :=
    congrArg Prod.fst (Member.getsegmentByid_heap mapped isHeap _)
  rw [isHandled, segment, names.data] at handled
  cases address : Mwd.mwoffset2adr offset (some si) with
  | none =>
      rw [address] at handled
      cases handled
      grind [List.length_erase_of_mem]
  | some other =>
      rw [address, Mwd.EventState.mwfree, buffers] at handled
      split_ifs at handled with present
      cases handled
      rw [eq_of_erase_eq known erased.symm] at freed
      obtain ⟨lower, _, rfl⟩ := mwoffset2adr_eq_some.mp address
      exact ⟨lower, after, freed, free⟩

/-- Zeros in the heap and ones elsewhere: what is read through the event is not what was posted,
unless the event names the buffer. -/
theorem EventTrip.Intact.named (intact : trip.Intact buffer) {ev : EventMessage}
    (sent : (trip.post.holding (onesBut 0)).sent = some ev) :
    0 ≤ toInt32 buffer.offset ∧ buffer.segmentid = 0 := by
  obtain ⟨stored, isMemory, names, read, elsewhere, ones⟩ :=
    EventTrip.posted someChunks ready notNull nonempty (onesBut 0) sent
  obtain ⟨reads, frees⟩ := intact (onesBut 0) ev sent
  rw [isMemory] at reads frees
  have fits := ready.fits someChunks nonempty
  have notZero : toInt32 buffer.offset ≠ 0 := by
    have lower := fits.behindHead
    have small := fits.small
    grind [Shm.intMax, Shm.sizeofChunkhead, toInt32]
  have header := (ready.sound someChunks).header_lt
  -- A file has its buffer where the heap has its header.
  have inHeader : buffer.segmentid ≠ 0 → toInt32 buffer.offset = 16 := by
    intro notHeap
    cases buffer with
    | heap bin pCHead => exact absurd rfl notHeap
    | file id size => rfl
  simp only [Shm.sizeofSegmenthdr] at header
  cases recipients : trip.recipients ev with
  | cons id rest =>
      obtain ⟨si, mapped, isHeap, length⟩ := (ready.members id).heap_segment (ready.heaps id)
      have delivered : (trip.delivered ev 0).Names (toInt32 buffer.offset)
          trip.post.sending.len := ⟨names.data, names.first, names.datalen⟩
      have someBytes : sentBytes (trip.post.holding (onesBut 0)).data ≠ [] := by
        rw [← read, SharedMemory.read]
        intro empty
        simp_all
      obtain ⟨lower, first⟩ := Member.Reads.first mapped isHeap delivered
        (reads id (recipients ▸ List.mem_cons_self) 0) notZero someBytes
      refine ⟨lower, ?_⟩
      by_contra notHeap
      have inside : toInt32 buffer.offset < si.length := by
        omega
      have byte := first inside
      have isOne := ones (if_neg notHeap) (fun _ => rfl) _ (List.mem_of_getElem? byte)
      have isZero : stored 0 (toInt32 buffer.offset) = 0 := by
        rw [elsewhere 0 (Ne.symm notHeap)]
        rfl
      exact absurd (isZero.symm.trans isOne) (by decide)
  | nil =>
      obtain ⟨si, mapped, isHeap, length⟩ := ready.data.receives.heap_segment ready.heap
      obtain ⟨lower, after, freed, free⟩ := EventTrip.Frees.unwanted ready names notZero
        recipients frees mapped isHeap
      refine ⟨lower, ?_⟩
      by_contra notHeap
      have isHeader := inHeader notHeap
      exact ready.not_freed mapped isHeap notHeap (by omega)
        (by unfold Mapping.finish; omega) freed free

end Exact

/-- The data of an event reaches everybody it is for, and its buffer is freed, exactly when the
buffer is one of the heap, at an offset that is an `int`; or when no event is sent. -/
theorem event_data_intact_iff (findBin : Nat → Nat) (mwid : Nat → Int) {base cps : Nat}
    (someChunks : 0 < cps) (trip : EventTrip) (notNull : trip.post.null = false)
    (nonempty : 0 < trip.post.sending.len) {buffer : Buffer} {memory : SharedMemory}
    {space : AddressSpace}
    (ready : trip.post.Sends → trip.Ready findBin mwid base cps buffer memory space) :
    trip.Intact buffer ↔
      (trip.post.Sends → buffer.segmentid = 0 ∧ buffer.offset ≤ Shm.intMax) := by
  constructor
  · intro intact sends
    have isReady := ready sends
    obtain ⟨ev, sent⟩ := (EventPost.sends_holding (onesBut 0)).mpr sends
    obtain ⟨lower, inHeap⟩ := intact.named someChunks isReady notNull nonempty sent
    refine ⟨inHeap, ?_⟩
    by_contra large
    have behindHead := (isReady.fits someChunks nonempty).behindHead
    have small := (isReady.fits someChunks nonempty).small
    simp only [Shm.intMax, Shm.sizeofChunkhead] at large small
    simp only [toInt32] at lower
    split_ifs at lower
    · omega
    · omega
  · intro condition contents ev sent
    have sends := (EventPost.sends_holding contents).mp ⟨ev, sent⟩
    obtain ⟨inHeap, addressable⟩ := condition sends
    exact EventTrip.intact_of_heap someChunks (ready sends) notNull nonempty inHeap addressable
      contents ev sent

/-- A client posts an event that another one has subscribed to; `adr` is where `mwd` sees the
data. All have the same segments. -/
def oneSubscriber (sending : Shm.Sending) (mmap : (length : Int) → FreeArea sending.space length)
    (adr : Int) : EventTrip where
  post := ⟨[101], none, none, Mwd.unassigned, false, 0x02000001, false, sending, 0, true⟩
  member := fun _ => ⟨sending.space, mmap, 0x02000002⟩
  sight := fun _ =>
    ⟨0, fun _ => none, fun _ => 0, fun _ => ⟨[], 0, 0⟩,
      ⟨true, [], [], [], [], 0, Nat.zero_le _, Nat.succ_pos _⟩,
      ⟨fun _ _ => true, fun _ _ _ => true, fun _ _ => true, fun _ => none⟩, []⟩
  mwd := ⟨sending.space, mmap, 0⟩
  pid := 8
  before := ⟨[⟨[101], 1, 0x02000002, 0⟩], [], 0, [], [], [adr]⟩
  eventid := 1
  matching := ⟨fun _ _ => true, fun _ _ _ => true, fun _ _ => true, fun _ => some ([], [])⟩
  put := fun _ => .sent

/-- Three bytes in the first chunk of the heap. -/
theorem event_data_intact_iff_heap :
    ∃ state, (heapMachine (fun _ => 0) (fun pid => pid) 4 1).Reachable (fun _ _ => True) state ∧
      (oneSubscriber (Shm.inFirstChunk state 3) (Shm.behindHeap state.seg.segmentsize)
        (4096 + 128)).post.Sends ∧
      (oneSubscriber (Shm.inFirstChunk state 3) (Shm.behindHeap state.seg.segmentsize)
        (4096 + 128)).Intact (.heap 0 112) := by
  obtain ⟨state, reachable, held, idle⟩ := Shm.first_alloc_reachable
  obtain ⟨placed, inUse, maps⟩ := Shm.inFirstChunk_placed state held 3
  have heap : MapsHeap (Shm.inFirstChunk state 3).memory
      (Shm.heapOnly state.seg.segmentsize) := by
    intro si mapped _
    rw [List.mem_singleton.mp mapped]
    rfl
  have ready : (oneSubscriber (Shm.inFirstChunk state 3)
      (Shm.behindHeap state.seg.segmentsize) (4096 + 128)).Ready (fun _ => 0) (fun pid => pid) 4 1
        (.heap 0 112) (Shm.inFirstChunk state 3).memory (Shm.inFirstChunk state 3).space := by
    refine ⟨⟨⟨_, placed⟩, reachable, inUse, show (3 : Int) ≤ 1 * 4 by decide, maps, maps, idle⟩,
      heap, fun _ => maps, fun _ => heap, ?_, ?_⟩
    · intro si isSegment
      cases isSegment
      exact List.mem_cons_self
    · intro se member
      rw [List.mem_singleton.mp member]
      decide
  have exact := @event_data_intact_iff (fun _ => 0) (fun pid => pid) 4 1 Nat.one_pos
    (oneSubscriber (Shm.inFirstChunk state 3) (Shm.behindHeap state.seg.segmentsize) (4096 + 128))
    rfl (show 0 < 3 by decide) (.heap 0 112) _ _ fun _ => ready
  have sends := ready.sends Nat.one_pos rfl (show 0 < 3 by decide)
    (show (0x02000001 : Int) ≠ -1 by decide) rfl
  exact ⟨state, reachable, sends, exact.mpr fun _ => ⟨rfl, by decide⟩⟩

def heapAndFile (length : Int) : AddressSpace :=
  (Shm.heapOnly length).attach 1000 116 (Shm.behindHeap length 116) rfl

def behindFile (length wanted : Int) : FreeArea (heapAndFile length) wanted where
  start := 4096 + length + 116
  apart := by
    intro si member id
    obtain inHeap | isFile := List.mem_append.mp member
    · rw [List.mem_singleton.mp inHeap]
      exact Or.inr (show 4096 + length ≤ 4096 + length + 116 by omega)
    · rw [List.mem_singleton.mp isFile]
      exact Or.inr (Int.le_refl _)

def inFile (state : Shm.HeapState) : Shm.Sending where
  memory := ⟨state, fun id => if id = 1000 then some ⟨fun _ => ⟨0, 100⟩, 116⟩ else none,
    fun _ _ => 0⟩
  space := heapAndFile state.seg.segmentsize
  own := fun _ => 0
  data := 4096 + state.seg.segmentsize + 16
  len := 100
  strlen := 0
  mwalloc := none
  errno := 0

/-- A large buffer that is shared already is taken for bytes of the heap. -/
theorem file_event_lost :
    ∃ state, (heapMachine (fun _ => 0) (fun pid => pid) 4 1).Reachable (fun _ _ => True) state ∧
      ¬(oneSubscriber (inFile state) (behindFile state.seg.segmentsize)
        (4096 + state.seg.segmentsize + 16)).Intact (.file 1000 100) := by
  obtain ⟨state, reachable, _, idle⟩ := Shm.first_alloc_reachable
  have file : (⟨1000, 4096 + state.seg.segmentsize, 116⟩ : Mapping) ∈
      (heapAndFile state.seg.segmentsize).segments :=
    List.mem_append_right _ List.mem_cons_self
  have heapIn : (⟨0, 4096, state.seg.segmentsize⟩ : Mapping) ∈
      (heapAndFile state.seg.segmentsize).segments :=
    List.mem_append_left _ List.mem_cons_self
  have segments : ∀ si ∈ (heapAndFile state.seg.segmentsize).segments,
      si = ⟨0, 4096, state.seg.segmentsize⟩ ∨ si = ⟨1000, 4096 + state.seg.segmentsize, 116⟩ := by
    intro si member
    exact (List.mem_append.mp member).imp List.mem_singleton.mp List.mem_singleton.mp
  have maps : Maps (inFile state).memory (heapAndFile state.seg.segmentsize)
      (.file 1000 100) := by
    refine ⟨⟨_, heapIn, rfl⟩, ?_⟩
    intro si member isFile
    obtain rfl | rfl := segments si member
    · exact absurd isFile (show ¬(0 : Int) = 1000 by decide)
    · rfl
  have heap : MapsHeap (inFile state).memory (heapAndFile state.seg.segmentsize) := by
    intro si member isHeap
    obtain rfl | rfl := segments si member
    · rfl
    · exact absurd isHeap (show ¬(1000 : Int) = 0 by decide)
  have ready : (oneSubscriber (inFile state) (behindFile state.seg.segmentsize)
      (4096 + state.seg.segmentsize + 16)).Ready (fun _ => 0) (fun pid => pid) 4 1
        (.file 1000 100) (inFile state).memory (inFile state).space := by
    refine ⟨⟨⟨_, .shared file rfl rfl⟩, reachable, ?_, ?_, maps, maps, idle⟩, heap,
      fun _ => maps, fun _ => heap, ?_, ?_⟩
    · exact ⟨by decide, by decide, _, rfl, rfl, by decide⟩
    · exact show (100 : Int) ≤ 100 by decide
    · intro si isSegment
      cases isSegment
      exact List.mem_cons_self
    · intro se member
      rw [List.mem_singleton.mp member]
      decide
  refine ⟨state, reachable, ?_⟩
  intro intact
  have sends := ready.sends Nat.one_pos rfl (show 0 < 100 by decide)
    (show (0x02000001 : Int) ≠ -1 by decide) rfl
  obtain ⟨ev, sent⟩ := (EventPost.sends_holding (onesBut 0)).mpr sends
  have named := intact.named Nat.one_pos ready rfl (show 0 < 100 by decide) sent
  exact absurd named.2 (show ¬(1000 : Int) = 0 by decide)

end MidWay.Gateway

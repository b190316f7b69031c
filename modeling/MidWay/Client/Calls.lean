import Mathlib.Data.List.Perm.Basic
import MidWay.Gateway.ServiceTable
import MidWay.Shm.CallBuffers

/-!
Contract: how a client puts a call on the queue of a provider, as `_mwacallipc` does it.

The data is placed in shared memory first, which is tried for until there is a buffer.
Then the services of the name are tried in random order. Both loops can go on without
end, so they are run for a number of turns, and have no result if they are not done.
Nothing is freed again.

Owns: `_mw_get_services_byname`, `_mwacallipc`, and what its loops leave and send.
-/

namespace MidWay.Client

open MidWay.CLib
open MidWay.Shm hiding unassigned
open MidWay.Gateway (IpcTables Serviceentry mwServiceMask wantedType sameService isNonNegative
  cltid gwid unassigned mwMaxNameLen mwNexthandle)
open MidWay.Srb (mwMaxSvcName)

/-- The `Call` message of a request. Names are without the zeros that fill their arrays. -/
structure Call where
  handle : Int
  cltid : UInt32
  gwid : UInt32
  srvid : UInt32
  svcid : UInt32
  forwardcount : Int
  service : List Byte
  origservice : List Byte
  issued : Int
  uissued : Int
  timeout : Int
  buffer : CallData
  appreturncode : Int
  flags : UInt32
  instanceName : List Byte
  domainname : List Byte
  callerid : UInt32
  hops : Int
  returncode : Int
deriving DecidableEq, Repr

def strncpy (size : Nat) (src : List Byte) : List Byte := (cstr src).take size

/-- The data, with its address and its length; `strlen` is its length as a string. -/
structure Data where
  data : Option Int
  datalen : Nat
  strlen : Nat
deriving DecidableEq, Repr

/-- The shared memory of a process with its segments, and the memory outside of these. -/
structure Sender where
  memory : SharedMemory
  space : AddressSpace
  own : Int → Byte

structure Arguments extends Data where
  svcname : List Byte
  flags : UInt32
  mwid : UInt32
  instanceName : Option (List Byte)
  domain : Option (List Byte)
  callerid : UInt32
  hops : Int
deriving DecidableEq, Repr

/-- What the calling process is and has: its ids, the clock, and the counter of the handles. -/
structure Caller extends Sender where
  clientid : UInt32
  gatewayid : UInt32
  sec : Int
  usec : Int
  irand : Nat
  handle : Int
  counted : -1 ≤ handle

def mwIpcOnly : UInt32 := 0x00000080

/-- The entry is one of the kind and the name that are asked for. -/
def listed (svcname : List Byte) (flags : UInt32) (entry : Serviceentry) : Bool :=
  entry.type = wantedType flags && (flags &&& mwIpcOnly = 0 || entry.location = .gwlocal) &&
    sameService entry.servicename svcname

/-- The ids, from a random place of the table on. -/
def mwGetServicesByname (tables : IpcTables) (start : Nat) (svcname : List Byte) (flags : UInt32) :
    List UInt32 :=
  if tables.attached = false then []
  else
    ((tables.entriesFrom start).filter fun place => listed svcname flags place.2).map fun place =>
      UInt32.ofNat place.1 ||| mwServiceMask

/-- The buffers of the heap and the files are the same; the bytes in them may not be. -/
def SameBuffers (before after : SharedMemory) : Prop :=
  after.heap = before.heap ∧ after.files = before.files

/-- How one try to get a buffer goes. What is given is a buffer of a segment of the process,
and takes a chunk or a file; when nothing is given `errno` says why. -/
structure Allocation (memory : SharedMemory) where
  given : Option Allocated
  errno : Int
  failed : given = none → errno ≠ 0
  shared : ∀ allocated, given = some allocated →
    allocated.memory.shmcheck allocated.space allocated.adr ≠ -1
  taken : ∀ allocated, given = some allocated → ¬SameBuffers memory allocated.memory

/-- `_mw_putbuffer_to_call`, on a message that is cleared. -/
def putbuffer (sender : Sender) (data : Data) (allocation : Allocation sender.memory) :
    Except CallFailure (CallData × SharedMemory) :=
  match data.data with
  | none => .ok (⟨0, 0, 0⟩, sender.memory)
  | some adr =>
      mwPutbufferToCall sender.memory sender.space sender.own adr data.datalen data.strlen
        allocation.given allocation.errno

/-- What the loop over the tries ends with: the placed data, or the error it gives up with. -/
structure Placing (Placed : Type) where
  result : Except Int Placed
  attempts : Nat

/-- The loop, from a try on. The counter `n` is declared in it, and is zero in each turn. -/
def bufferLoop {Placed : Type} (put : Nat → Except CallFailure Placed) :
    Nat → Nat → Option (Placing Placed)
  | 0, _ => none
  | turns + 1, attempt =>
      match put attempt with
      | .ok placed => some ⟨.ok placed, attempt + 1⟩
      | .error .crashed => none
      | .error (.refused rc) =>
          let n := 0
          if n ≥ 100 then some ⟨.error rc, attempt + 1⟩ else bufferLoop put turns (attempt + 1)

/-- What the loop over the services does: the code it leaves, the messages that come on a queue,
each with its receiver, and the services it draws. -/
structure CallDone where
  rc : Int
  sent : List (UInt32 × Call)
  tries : List UInt32

def CallDone.drawn (svcid : UInt32) (done : CallDone) : CallDone :=
  { done with tries := svcid :: done.tries }

/-- `n--; svclist[idx] = svclist[n]`. -/
def removeAt (svclist : List UInt32) (idx : Nat) : List UInt32 :=
  (svclist.set idx (svclist.getLastD 0)).dropLast

/-- The tables when the providers are looked up, and how the `msgsnd` to the provider of each
service goes. -/
structure Providers where
  tables : IpcTables
  msgsnd : UInt32 → Option Errno

section Loop

variable (providers : Providers) (callmesg : Call) (rand : Nat → Nat)

/-- The loop, from a turn on. A service without a provider stays in the list. -/
def callLoop : Nat → Nat → Int → List UInt32 → Option CallDone
  | _, _, rc, [] => some ⟨rc, [], []⟩
  | 0, _, _, _ :: _ => none
  | turns + 1, turn, rc, first :: rest =>
      let svclist := first :: rest
      let idx := rand turn % svclist.length
      let svcid := svclist.getD idx 0
      let dest := providers.tables.mwGetProviderByServiceid svcid
      if isNonNegative dest = false then
        (callLoop turns (turn + 1) rc svclist).map (CallDone.drawn svcid)
      else
        let put := providers.tables.mwIpcPutmessage (providers.msgsnd svcid) dest
        if put ≥ 0 then
          -- An interrupted `msgsnd` counts as sent.
          let sent := if providers.msgsnd svcid = none then
            [(dest, { callmesg with svcid := svcid })] else []
          some ⟨callmesg.handle, sent, [svcid]⟩
        else (callLoop turns (turn + 1) put (removeAt svclist idx)).map (CallDone.drawn svcid)

end Loop

/-- What a call meets: the tables and the random place when the services are listed, the tries
for a buffer, and the providers. -/
structure World (memory : SharedMemory) where
  tables : IpcTables
  start : Nat
  allocation : Nat → Allocation memory
  providers : Providers

structure Returned where
  rc : Int
  memory : SharedMemory
  sent : List (UInt32 × Call)
  attempts : Nat
  tries : List UInt32

section Acall

variable (caller : Caller) (args : Arguments)

def callHandle : Int := mwNexthandle caller.irand caller.handle

/-- The message, once the data is placed. `_mw_deadline` returns zero always, so there is no
timeout, and no deadline that has passed. -/
def callMessage (buffer : CallData) : Call where
  handle := callHandle caller
  cltid := if args.mwid = unassigned then caller.clientid else cltid args.mwid
  gwid := if args.mwid = unassigned then caller.gatewayid else gwid args.mwid
  srvid := unassigned
  svcid := 0
  forwardcount := 0
  service := strncpy mwMaxSvcName args.svcname
  origservice := strncpy mwMaxSvcName args.svcname
  issued := caller.sec
  uissued := caller.usec
  timeout := 0
  buffer := buffer
  appreturncode := 0
  flags := args.flags
  instanceName := (args.instanceName.map (strncpy mwMaxNameLen)).getD []
  domainname := (args.domain.map (strncpy mwMaxNameLen)).getD []
  callerid := args.callerid
  hops := args.hops
  returncode := 0

/-- The call with so many turns for each of its loops. -/
def mwacallipc (world : World caller.memory) (rand : Nat → Nat) (turns : Nat) : Option Returned :=
  match bufferLoop (fun attempt =>
      putbuffer caller.toSender args.toData (world.allocation attempt)) turns 0 with
  | none => none
  | some ⟨.error rc, attempts⟩ => some ⟨rc, caller.memory, [], attempts, []⟩
  | some ⟨.ok (buffer, memory), attempts⟩ =>
      let svclist := mwGetServicesByname world.tables world.start args.svcname args.flags
      if svclist = [] then some ⟨rcOf .ENOENT, memory, [], attempts, []⟩
      else
        (callLoop world.providers (callMessage caller args buffer) rand turns 0 0 svclist).map
          fun done => ⟨done.rc, memory, done.sent, attempts, done.tries⟩

end Acall

section Buffer

variable {Placed : Type} {put : Nat → Except CallFailure Placed}

theorem bufferLoop_some {turns attempt : Nat} {placing : Placing Placed}
    (ends : bufferLoop put turns attempt = some placing) :
    ∃ last placed, attempt ≤ last ∧ put last = .ok placed ∧ placing = ⟨.ok placed, last + 1⟩ ∧
      ∀ earlier, attempt ≤ earlier → earlier < last → ∃ failure, put earlier = .error failure := by
  induction turns generalizing attempt with
  | zero => cases ends
  | succ turns ih =>
      grind [bufferLoop]

/-- With a try that places the data the loop ends there, or before. -/
theorem bufferLoop_ends (safe : ∀ attempt, put attempt ≠ .error .crashed) {last : Nat}
    {placed : Placed} (isPut : put last = .ok placed) {turns attempt : Nat} (low : attempt ≤ last)
    (enough : last < attempt + turns) :
    ∃ placing, bufferLoop put turns attempt = some placing ∧ placing.attempts ≤ last + 1 := by
  induction turns generalizing attempt with
  | zero => omega
  | succ turns ih =>
      rw [bufferLoop]
      cases tried : put attempt with
      | ok other => exact ⟨_, rfl, Nat.succ_le_succ low⟩
      | error failure =>
          cases failure with
          | crashed => exact absurd tried (safe attempt)
          | refused rc =>
              have notLast : attempt ≠ last := by
                grind
              exact ih (by omega) (by omega)

end Buffer

section Try

variable {sender : Sender} {data : Data}

/-- The length of the data, that of a string when none is given. -/
def Data.length (data : Data) : Nat :=
  match data.data with
  | none => 0
  | some _ => if data.datalen = 0 then data.strlen else data.datalen

/-- The data that is to be copied: it is not in shared memory already. -/
def Unshared (sender : Sender) (data : Data) : Prop :=
  data.length ≠ 0 ∧ ∀ adr, data.data = some adr → sender.memory.shmcheck sender.space adr = -1

/-- The bytes of the data: those of the shared buffer it is in, else of the process. -/
def dataBytes (sender : Sender) (data : Data) : List Byte :=
  match data.data with
  | none => []
  | some adr =>
      if sender.memory.shmcheck sender.space adr = -1 then
        (List.range data.length).map fun (index : Nat) => sender.own (adr + index)
      else
        match sender.space.findsegmentByaddr adr with
        | none => []
        | some si => sender.memory.read si.segmentid (adr - si.start) data.length

/-- A message refers to the data: its length, and the segment and the offset, as an `int`, of a
buffer with the bytes. -/
def Carries (memory : SharedMemory) (buffer : CallData) (bytes : List Byte) : Prop :=
  buffer.datalen = bytes.length ∧
    (bytes ≠ [] → ∃ offset, buffer.data = toInt32 offset ∧
      memory.read buffer.datasegmentid offset bytes.length = bytes)

theorem SharedMemory.shmcheck_mapped {memory : SharedMemory} {space : AddressSpace} {adr : Int}
    (shared : memory.shmcheck space adr ≠ -1) :
    ∃ si, space.findsegmentByaddr adr = some si ∧
      memory.shmcheck space adr = toInt32 (adr - si.start) := by
  unfold SharedMemory.shmcheck at shared ⊢
  cases found : space.findsegmentByaddr adr with
  | none =>
      rw [found] at shared
      exact absurd rfl shared
  | some si =>
      rw [found] at shared
      dsimp only at shared ⊢
      split_ifs at shared ⊢
      · exact absurd rfl shared
      · exact ⟨si, rfl, rfl⟩

theorem length_read (memory : SharedMemory) (segmentid offset : Int) (len : Nat) :
    (memory.read segmentid offset len).length = len := by
  rw [SharedMemory.read, List.length_map, List.length_range]

theorem length_dataBytes (sender : Sender) (data : Data) :
    (dataBytes sender data).length = data.length := by
  unfold dataBytes
  cases isData : data.data with
  | none =>
      rw [Data.length, isData]
      rfl
  | some adr =>
      dsimp only
      split_ifs with unshared
      · rw [List.length_map, List.length_range]
      · rcases SharedMemory.shmcheck_mapped unshared with ⟨si, found, -⟩
        rw [found]
        exact length_read _ _ _ _

theorem carries_none (memory : SharedMemory) (empty : data.length = 0) :
    Carries memory ⟨0, 0, 0⟩ (dataBytes sender data) := by
  have noBytes : dataBytes sender data = [] := by
    rw [← List.length_eq_zero_iff, length_dataBytes, empty]
  rw [noBytes]
  exact ⟨rfl, fun nonempty => absurd rfl nonempty⟩

/-- What a try can do. -/
theorem putbuffer_cases (allocation : Allocation sender.memory) :
    (¬Unshared sender data ∧ ∃ buffer,
      putbuffer sender data allocation = .ok (buffer, sender.memory) ∧
        Carries sender.memory buffer (dataBytes sender data)) ∨
    (Unshared sender data ∧ allocation.given ≠ none ∧ ∃ buffer after,
      putbuffer sender data allocation = .ok (buffer, after) ∧
        ¬SameBuffers sender.memory after ∧ Carries after buffer (dataBytes sender data)) ∨
    (Unshared sender data ∧ allocation.given = none ∧
      putbuffer sender data allocation = .error (.refused (-allocation.errno))) := by
  by_cases empty : data.length = 0
  · refine Or.inl ⟨fun unshared => unshared.1 empty, ⟨0, 0, 0⟩, ?_, carries_none _ empty⟩
    unfold putbuffer
    cases isData : data.data with
    | none => rfl
    | some adr =>
        rw [Data.length, isData] at empty
        exact if_pos empty
  · have length := length_dataBytes sender data
    cases isData : data.data with
    | none =>
        simp [Data.length, isData] at empty
    | some adr =>
        have isLength : data.length = if data.datalen = 0 then data.strlen else data.datalen := by
          rw [Data.length, isData]
        unfold putbuffer mwPutbufferToCall
        rw [isData]
        dsimp only
        rw [← isLength, if_neg empty]
        by_cases unshared : sender.memory.shmcheck sender.space adr = -1
        · rw [if_pos unshared]
          have isUnshared : Unshared sender data := by
            refine ⟨empty, ?_⟩
            simp [isData, unshared]
          cases given : allocation.given with
          | none => exact Or.inr (Or.inr ⟨isUnshared, rfl, rfl⟩)
          | some allocated =>
              rcases SharedMemory.shmcheck_mapped (allocation.shared allocated given) with
                ⟨si, found, offset⟩
              dsimp only
              rw [found]
              refine Or.inr (Or.inl ⟨isUnshared, Option.some_ne_none _, _, _, rfl,
                allocation.taken allocated given, ?_⟩)
              have bytes : dataBytes sender data = (List.range data.length).map
                  fun (index : Nat) => sender.own (adr + index) := by
                rw [dataBytes, isData]
                exact if_pos unshared
              refine ⟨by rw [length], fun _ => ⟨allocated.adr - si.start, ?_, ?_⟩⟩
              · rw [SharedMemory.shmcheck_write, offset]
              · rw [length, SharedMemory.read_write, bytes]
        · rw [if_neg unshared]
          rcases SharedMemory.shmcheck_mapped unshared with ⟨si, found, offset⟩
          rw [found]
          refine Or.inl ⟨?_, _, rfl, by rw [length], fun _ => ⟨adr - si.start, offset, ?_⟩⟩
          · intro isUnshared
            exact unshared (isUnshared.2 adr isData)
          · simp_all [dataBytes]

theorem putbuffer_safe (allocation : Allocation sender.memory) :
    putbuffer sender data allocation ≠ .error .crashed := by
  rcases putbuffer_cases allocation with ⟨-, buffer, isPut, -⟩ |
    ⟨-, -, buffer, after, isPut, -⟩ | ⟨-, -, refused⟩
  · rw [isPut]
    exact fun same => by cases same
  · simp [isPut]
  · simp [refused]

end Try

theorem set_last {init : List UInt32} {last : UInt32} {idx : Nat}
    (within : idx < (init ++ [last]).length) :
    (init ++ [last]).getD idx 0 = last ∧ ((init ++ [last]).set idx last).dropLast = init ∨
      ∃ inInit : idx < init.length, (init ++ [last]).getD idx 0 = init[idx] ∧
        ((init ++ [last]).set idx last).dropLast = init.set idx last := by
  rw [List.length_append, List.length_singleton] at within
  by_cases isLast : idx = init.length
  · left
    rw [isLast, List.set_append_right _ _ (Nat.le_refl _), Nat.sub_self, List.set_cons_zero,
      List.dropLast_concat, List.getD_eq_getElem?_getD, List.getElem?_append_right (Nat.le_refl _),
      Nat.sub_self]
    exact ⟨rfl, rfl⟩
  · right
    have inInit : idx < init.length := by omega
    rw [List.set_append_left _ _ inInit, List.dropLast_concat, List.getD_eq_getElem?_getD,
      List.getElem?_append_left inInit, List.getElem?_eq_getElem inInit]
    exact ⟨inInit, rfl, rfl⟩

theorem removeAt_perm {svclist : List UInt32} {idx : Nat} (within : idx < svclist.length) :
    (svclist.getD idx 0 :: removeAt svclist idx).Perm svclist := by
  rcases List.eq_nil_or_concat svclist with rfl | ⟨init, last, rfl⟩
  · exact absurd within (Nat.not_lt_zero idx)
  · grind [removeAt, List.getLastD_concat, List.perm_append_singleton]

section Providers

variable (providers : Providers)

def Providers.dest (svcid : UInt32) : UInt32 := providers.tables.mwGetProviderByServiceid svcid

/-- The result of the send to the provider of a service. -/
def Providers.put (svcid : UInt32) : Int :=
  providers.tables.mwIpcPutmessage (providers.msgsnd svcid) (providers.dest svcid)

def Providers.Gone (svcid : UInt32) : Prop := isNonNegative (providers.dest svcid) = false

def Providers.Fails (svcid : UInt32) : Prop := ¬providers.Gone svcid ∧ providers.put svcid < 0

def Providers.Takes (svcid : UInt32) : Prop := ¬providers.Gone svcid ∧ 0 ≤ providers.put svcid

theorem Providers.cases (svcid : UInt32) :
    providers.Gone svcid ∨ providers.Fails svcid ∨ providers.Takes svcid := by
  by_cases gone : providers.Gone svcid
  · exact Or.inl gone
  · rcases Int.lt_or_le (providers.put svcid) 0 with fails | takes
    · exact Or.inr (Or.inl ⟨gone, fails⟩)
    · exact Or.inr (Or.inr ⟨gone, takes⟩)

end Providers

section Turn

variable {providers : Providers} {callmesg : Call} {rand : Nat → Nat} {turns turn : Nat} {rc : Int}
  {svclist : List UInt32}

def drawnIdx (rand : Nat → Nat) (turn : Nat) (svclist : List UInt32) : Nat :=
  rand turn % svclist.length

def drawnService (rand : Nat → Nat) (turn : Nat) (svclist : List UInt32) : UInt32 :=
  svclist.getD (drawnIdx rand turn svclist) 0

theorem drawnIdx_lt (some : svclist ≠ []) (rand : Nat → Nat) (turn : Nat) :
    drawnIdx rand turn svclist < svclist.length :=
  Nat.mod_lt _ (List.length_pos_iff.mpr some)

theorem callLoop_nil : callLoop providers callmesg rand turns turn rc [] = some ⟨rc, [], []⟩ := by
  rw [callLoop]

theorem callLoop_gone (some : svclist ≠ [])
    (gone : providers.Gone (drawnService rand turn svclist)) :
    callLoop providers callmesg rand (turns + 1) turn rc svclist =
      (callLoop providers callmesg rand turns (turn + 1) rc svclist).map
        (CallDone.drawn (drawnService rand turn svclist)) := by
  rcases List.exists_cons_of_ne_nil some with ⟨first, rest, rfl⟩
  rw [callLoop]
  exact if_pos gone

theorem callLoop_fails (some : svclist ≠ [])
    (fails : providers.Fails (drawnService rand turn svclist)) :
    callLoop providers callmesg rand (turns + 1) turn rc svclist =
      (callLoop providers callmesg rand turns (turn + 1)
        (providers.put (drawnService rand turn svclist))
          (removeAt svclist (drawnIdx rand turn svclist))).map
            (CallDone.drawn (drawnService rand turn svclist)) := by
  rcases List.exists_cons_of_ne_nil some with ⟨first, rest, rfl⟩
  rw [callLoop]
  exact (if_neg fails.1).trans (if_neg (Int.not_le.mpr fails.2))

theorem callLoop_takes (some : svclist ≠ [])
    (takes : providers.Takes (drawnService rand turn svclist)) :
    callLoop providers callmesg rand (turns + 1) turn rc svclist =
      Option.some ⟨callmesg.handle,
        if providers.msgsnd (drawnService rand turn svclist) = none then
          [(providers.dest (drawnService rand turn svclist),
            { callmesg with svcid := drawnService rand turn svclist })]
        else [], [drawnService rand turn svclist]⟩ := by
  rcases List.exists_cons_of_ne_nil some with ⟨first, rest, rfl⟩
  rw [callLoop]
  exact (if_neg takes.1).trans (if_pos takes.2)

theorem mem_drawn (some : svclist ≠ []) (rand : Nat → Nat) (turn : Nat) :
    drawnService rand turn svclist ∈ svclist :=
  (removeAt_perm (drawnIdx_lt some rand turn)).subset List.mem_cons_self

theorem mem_svclist_iff (some : svclist ≠ []) (rand : Nat → Nat) (turn : Nat) (svcid : UInt32) :
    svcid ∈ svclist ↔ svcid = drawnService rand turn svclist ∨
      svcid ∈ removeAt svclist (drawnIdx rand turn svclist) := by
  rw [← (removeAt_perm (drawnIdx_lt some rand turn)).mem_iff, List.mem_cons]
  rfl

theorem length_removeAt (svclist : List UInt32) (idx : Nat) :
    (removeAt svclist idx).length = svclist.length - 1 := by
  rw [removeAt, List.length_dropLast, List.length_set]

/-- When no provider is gone, each turn ends the loop or takes a service off the list. -/
theorem callLoop_ends (there : ∀ svcid ∈ svclist, ¬providers.Gone svcid)
    (enough : svclist.length ≤ turns) :
    ∃ done, callLoop providers callmesg rand turns turn rc svclist = Option.some done := by
  induction turns generalizing turn rc svclist with
  | zero =>
      rw [List.length_eq_zero_iff.mp (Nat.le_zero.mp enough)]
      exact ⟨_, callLoop_nil⟩
  | succ turns ih =>
      by_cases empty : svclist = []
      · simp [empty, callLoop_nil]
      · have present := there _ (mem_drawn empty rand turn)
        rcases providers.cases (drawnService rand turn svclist) with gone | fails | takes
        · exact absurd gone present
        · have left : ∀ svcid ∈ removeAt svclist (drawnIdx rand turn svclist),
              ¬providers.Gone svcid := fun svcid member =>
            there svcid ((mem_svclist_iff empty rand turn svcid).mpr (Or.inr member))
          have shorter := length_removeAt svclist (drawnIdx rand turn svclist)
          simp_all [callLoop_fails]
        · exact ⟨_, callLoop_takes empty takes⟩

end Turn

end MidWay.Client

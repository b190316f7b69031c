import MidWay.Server.Requests
import MidWay.Shm.CallBuffers

/-!
Contract: when the data of a forwarded request arrives at the next server.

`mwforward` edits the request it holds. It writes the offset and the length of the data,
and not the segment, which stays that of the data the request came with.

Owns: `Forwarding`, what is forwarded, and when it arrives.
-/

namespace MidWay.Server

open MidWay.CLib
open MidWay.Shm (SharedMemory AddressSpace CallData Sending FreeArea Maps Buffer HeapState
  heapMachine sizeofChunkhead intMax)

/-- The bytes at the address of the data: those of the shared buffer it is in, else of the
process. -/
def sentBytes (sending : Sending) : List Byte :=
  if sending.memory.shmcheck sending.space sending.data = -1 then
    (List.range sending.length).map fun (index : Nat) => sending.own (sending.data + index)
  else
    match sending.space.findsegmentByaddr sending.data with
    | none => []
    | some si => sending.memory.read si.segmentid (sending.data - si.start) sending.length

/-- The offset of the data, in a new buffer when it is not shared, and the memory after the copy.
Nothing is given for data of no length. -/
def placeData (sending : Sending) : Option (Int × SharedMemory) :=
  let dataoffset := sending.memory.shmcheck sending.space sending.data
  if dataoffset = -1 then
    match (if sending.length = 0 then none else sending.mwalloc) with
    | none => none
    | some allocated =>
        (allocated.space.findsegmentByaddr allocated.adr).map fun seginfo =>
          let copied := allocated.memory.write seginfo.segmentid (allocated.adr - seginfo.start)
            sending.length (fun index => sending.own (sending.data + index))
          (copied.shmcheck allocated.space allocated.adr, copied)
  else some (dataoffset, sending.memory)

structure Contents where
  stored : Int → Int → Byte
  own : Int → Byte

def Contents.memory (contents : Contents) (memory : SharedMemory) : SharedMemory :=
  { memory with bytes := contents.stored }

def Contents.sending (contents : Contents) (sending : Sending) : Sending :=
  { sending with
    memory := contents.memory sending.memory
    own := contents.own
    mwalloc := sending.mwalloc.map fun allocated =>
      { allocated with memory := contents.memory allocated.memory } }

/-- A forward: the server with the request it holds, what the forward meets, and the data with
the memory it is sent in; `null` for no data. -/
structure Forwarding where
  process : Process
  state : State
  svcname : List Byte
  route : Route
  sending : Sending
  null : Bool

section Forward

variable (forwarding : Forwarding) (contents : Contents)

def Forwarding.length : Nat := if forwarding.null then 0 else forwarding.sending.length

def Forwarding.forwarded : Int × State :=
  let sending := contents.sending forwarding.sending
  if forwarding.null then
    mwforward forwarding.process forwarding.state forwarding.svcname none 0 forwarding.route
  else
    mwforward forwarding.process forwarding.state forwarding.svcname (some (sentBytes sending))
      sending.length { forwarding.route with place := (placeData sending).map Prod.fst }

def Forwarding.after : SharedMemory :=
  let sending := contents.sending forwarding.sending
  if forwarding.null then sending.memory
  else ((placeData sending).map Prod.snd).getD sending.memory

end Forward

def Call.buffer (call : Call) : CallData := ⟨call.datasegmentid, call.data, call.datalen⟩

/-- Whatever the data is, when the forward returns zero and puts a call on a queue, the next server
gets the data and its length from it, or no data when there was none. -/
def Forwarding.Arrives (forwarding : Forwarding) (receiver : AddressSpace)
    (mmap : (length : Int) → FreeArea receiver length) (pid : Nat) : Prop :=
  ∀ contents dest call, (forwarding.forwarded contents).1 = 0 →
    (forwarding.forwarded contents).2.sent = forwarding.state.sent ++ [⟨dest, .svccall call⟩] →
    ∃ received, Shm.mwGetbufferFromCall (forwarding.after contents) receiver mmap pid call.buffer =
        .ok received ∧
      received.data = (if forwarding.length = 0 then none
        else some (sentBytes (contents.sending forwarding.sending))) ∧
      received.datalen = forwarding.length

structure Forwarding.Open (forwarding : Forwarding) : Prop where
  up : forwarding.route.systemstate = 0
  few : forwarding.state.callmesg.forwardcount ≤ 100
  service : 0 ≤ forwarding.route.svcid
  provider : 0 ≤ forwarding.route.provider
  put : forwarding.route.put = 0

section Message

variable {process : Process} {state : State} {svcname : List Byte} {data : Option (List Byte)}
  {len : Nat} {route : Route}

theorem sent_ne {sent : List Sent} (message : Sent) : sent ≠ sent ++ [message] := by
  simp

/-- What a forward sends: the request, with the place and the length of the data. -/
theorem mwforward_sent {message : Sent}
    (sent : (mwforward process state svcname data len route).2.sent = state.sent ++ [message]) :
    (route.systemstate = 0 ∧ state.callmesg.forwardcount ≤ 100 ∧ 0 ≤ route.svcid ∧
      0 ≤ route.provider ∧ route.put = 0) ∧
    ∃ named placed, named.datasegmentid = state.callmesg.datasegmentid ∧
      forwardData named data len route.place = some placed ∧
      message = ⟨route.provider, .svccall { placed with srvid := process.serverid }⟩ := by
  unfold mwforward at sent
  dsimp only at sent
  by_cases down : route.systemstate ≠ 0
  · simp_all
  by_cases many : state.callmesg.forwardcount > 100
  · simp_all
  by_cases noService : route.svcid < 0
  · simp_all
  by_cases noProvider : route.provider < 0
  · simp_all
  rw [if_neg down, if_neg many, if_neg noService, if_neg noProvider] at sent
  generalize isNamed : ({ state.callmesg with
    forwardcount := state.callmesg.forwardcount + 1
    svcid := route.svcid
    service := strncpyName svcname } : Call) = named at sent
  cases isPlaced : forwardData named data len route.place with
  | none =>
      simp [isPlaced] at sent
  | some placed =>
      rw [isPlaced] at sent
      dsimp only at sent
      by_cases notPut : route.put ≠ 0
      · simp_all
      · rw [if_neg notPut] at sent
        refine ⟨⟨not_not.mp down, Int.not_lt.mp many, Int.not_lt.mp noService,
          Int.not_lt.mp noProvider, not_not.mp notPut⟩, named, placed, by rw [← isNamed], isPlaced,
            ?_⟩
        exact (List.singleton_inj.mp (List.append_cancel_left sent)).symm

/-- A forward that can be sent is, when its data has a place. -/
theorem mwforward_sends (up : route.systemstate = 0) (few : state.callmesg.forwardcount ≤ 100)
    (service : 0 ≤ route.svcid) (provider : 0 ≤ route.provider) (put : route.put = 0)
    (placed : ∀ named, ∃ call, forwardData named data len route.place = some call) :
    (mwforward process state svcname data len route).1 = 0 ∧ ∃ call,
      (mwforward process state svcname data len route).2.sent =
        state.sent ++ [⟨route.provider, .svccall call⟩] := by
  unfold mwforward
  dsimp only
  rw [if_neg (not_not.mpr up), if_neg (Int.not_lt.mpr few), if_neg (Int.not_lt.mpr service),
    if_neg (Int.not_lt.mpr provider)]
  generalize ({ state.callmesg with
    forwardcount := state.callmesg.forwardcount + 1
    svcid := route.svcid
    service := strncpyName svcname } : Call) = named
  rcases placed named with ⟨call, isPlaced⟩
  rw [isPlaced]
  dsimp only
  rw [if_neg (not_not.mpr put)]
  exact ⟨rfl, _, rfl⟩

end Message

section Place

variable {base : Nat} {sending : Sending} {buffer : Buffer} {memory : SharedMemory}
  {space : AddressSpace} {bytes : List Byte}

/-- The place of the data is that of its buffer, where its bytes are; nothing else is written. -/
theorem place_of_placed (placed : sending.Placed buffer memory space bytes)
    (fits : buffer.Fits base memory) (maps : Maps memory space buffer)
    (nonempty : 0 < sending.length) (holdsData : 0 < buffer.size base) :
    sentBytes sending = bytes ∧ ∃ stored,
      placeData sending = some (toInt32 buffer.offset, { memory with bytes := stored }) ∧
        ({ memory with bytes := stored } : SharedMemory).read buffer.segmentid buffer.offset
          sending.length = bytes ∧
        ∀ id, id ≠ buffer.segmentid → stored id = memory.bytes id := by
  have someData : ¬sending.length = 0 := by omega
  unfold sentBytes placeData
  cases placed with
  | @shared si member segment start =>
      have length := maps.lengths si member segment
      have place : si.start + buffer.offset - si.start = buffer.offset := by omega
      rw [start, fits.shmcheck member segment length holdsData, if_neg fits.isShared,
        fits.findsegmentByaddr member length]
      dsimp only
      rw [if_neg fits.isShared, place, segment]
      exact ⟨rfl, _, rfl, rfl, fun _ _ => rfl⟩
  | @copied allocated si unshared given member segment start =>
      have length := maps.lengths si member segment
      have place : si.start + buffer.offset - si.start = buffer.offset := by omega
      dsimp only
      rw [if_pos unshared, if_pos unshared, if_neg someData, given]
      dsimp only
      rw [start, fits.findsegmentByaddr member length]
      refine ⟨rfl, _, ?_, SharedMemory.read_write allocated.memory _ _ _ _, ?_⟩
      · rw [Option.map_some, SharedMemory.shmcheck_write,
          fits.shmcheck member segment length holdsData, place, segment]
        rfl
      · simp_all

theorem Contents.placed (contents : Contents) (placed : sending.Placed buffer memory space bytes) :
    ∃ bytes', (contents.sending sending).Placed buffer (contents.memory memory) space bytes' := by
  cases placed with
  | @shared si member segment start =>
      exact ⟨_, @Sending.Placed.shared (contents.sending sending) buffer si member segment start⟩
  | @copied allocated si unshared given member segment start =>
      have isGiven : (contents.sending sending).mwalloc =
          some { allocated with memory := contents.memory allocated.memory } := by
        rw [Contents.sending, given]
        rfl
      exact ⟨_, @Sending.Placed.copied (contents.sending sending) buffer _ si unshared isGiven
        member segment start⟩

theorem sentBytes_ones (placed : sending.Placed buffer memory space bytes)
    (own : ∀ adr, sending.own adr = 1) (shared : memory.bytes buffer.segmentid = fun _ => 1) :
    ∀ byte ∈ bytes, byte = 1 := by
  intro byte member
  cases placed with
  | shared =>
      rcases List.mem_map.mp member with ⟨index, -, rfl⟩
      exact congrFun shared _
  | copied =>
      simp_all

end Place

theorem sentBytes_empty {sending : Sending} (empty : sending.length = 0) : sentBytes sending = [] := by
  unfold sentBytes
  rw [empty]
  split_ifs
  · rfl
  · cases sending.space.findsegmentByaddr sending.data with
    | none => rfl
    | some si => rfl

section Reading

variable {memory : SharedMemory} {receiver : AddressSpace} {pid : Nat}

theorem getsegmentByid_segmentid {files : Int → Option Shm.BufferFile}
    {mmap : (length : Int) → FreeArea receiver length} {id : Int} {si : Shm.Mapping}
    {space : AddressSpace} (got : receiver.getsegmentByid files mmap id = some (si, space)) :
    si.segmentid = id := by
  unfold AddressSpace.getsegmentByid at got
  split at got
  · next other found =>
      cases got
      have isFound : receiver.segments.find? (fun si => si.segmentid == id) = some si := found
      have same := List.find?_some isFound
      exact eq_of_beq same
  · split_ifs at got
    rcases Option.map_eq_some_iff.mp got with ⟨file, -, same⟩
    cases same
    rfl

/-- Data that is read comes from the segment of the call. -/
theorem received_from {mmap : (length : Int) → FreeArea receiver length} {call : CallData}
    {received : Shm.Received} (nonempty : call.datalen ≠ 0)
    (got : Shm.mwGetbufferFromCall memory receiver mmap pid call = .ok received) :
    received.data = some (memory.read call.datasegmentid call.data call.datalen.toNat) := by
  unfold Shm.mwGetbufferFromCall at got
  rw [if_neg nonempty] at got
  cases segment : receiver.getsegmentByid memory.files mmap call.datasegmentid with
  | none =>
      simp [segment] at got
  | some place =>
      rcases place with ⟨si, space⟩
      have isId := getsegmentByid_segmentid segment
      rw [segment] at got
      dsimp only at got
      split_ifs at got
      cases address : si.offset2adr call.data with
      | none =>
          rw [address] at got
          cases got
      | some adr =>
          rw [address] at got
          dsimp only at got
          split_ifs at got
          cases freed : memory.mwfree space pid adr with
          | error failure =>
              rw [freed] at got
              cases got
          | ok after =>
              rw [freed] at got
              cases got
              rw [isId]

end Reading

/-- What holds when there is data to send: it is in a buffer that is in use and holds it, in a
heap that is reached, and both processes have the segments mapped. -/
structure Ready (findBin : Nat → Nat) (mwid : Nat → Int) (base cps : Nat) (sending : Sending)
    (buffer : Buffer) (memory : SharedMemory) (space receiver : AddressSpace) (pid : Nat) :
    Prop where
  placed : ∃ bytes, sending.Placed buffer memory space bytes
  reachable : (heapMachine findBin mwid base cps).Reachable (fun _ _ => True) memory.heap
  inUse : buffer.InUse mwid base cps memory
  holds : sending.length ≤ buffer.size base
  sends : Maps memory space buffer
  receives : Maps memory receiver buffer
  idle : memory.heap.tasks pid = .idle

/-- The buffer of the data is in the segment the request had its data in, behind as many bytes as
the data has, longer than the data, and at an offset that is an `int`. -/
structure Reaches (base : Nat) (buffer : Buffer) (call : Call) (length : Nat) : Prop where
  segment : call.datasegmentid = buffer.segmentid
  farEnough : length ≤ buffer.offset
  roomLeft : length < buffer.size base
  addressable : buffer.offset ≤ intMax

section Exact

variable {findBin : Nat → Nat} {mwid : Nat → Int} {base cps : Nat} {forwarding : Forwarding}
  {buffer : Buffer} {memory : SharedMemory} {space receiver : AddressSpace} {pid : Nat}
  {mmap : (length : Int) → FreeArea receiver length}

theorem forwardData_some {named : Call} {bytes : List Byte} {length : Nat} {offset : Option Int}
    {placed : Call} (isPlaced : forwardData named (some bytes) length offset = some placed) :
    ∃ place, offset = some place ∧
      placed = { named with data := place, datalen := dataLength bytes length } := by
  rcases Option.map_eq_some_iff.mp isPlaced with ⟨place, isPlace, rfl⟩
  exact ⟨place, isPlace, rfl⟩

/-- The forward of no data, or of data of no length, has no data. -/
theorem Forwarding.forwarded_empty (empty : forwarding.length = 0) {contents : Contents}
    {dest : Int} {call : Call} (sent : (forwarding.forwarded contents).2.sent =
      forwarding.state.sent ++ [⟨dest, .svccall call⟩]) : call.datalen = 0 := by
  unfold Forwarding.forwarded at sent
  dsimp only at sent
  unfold Forwarding.length at empty
  split_ifs at sent empty with null
  · rcases (mwforward_sent sent).2 with ⟨named, placed, -, isPlaced, isMessage⟩
    cases isPlaced
    cases isMessage
    rfl
  · rcases (mwforward_sent sent).2 with ⟨named, placed, -, isPlaced, isMessage⟩
    rcases forwardData_some isPlaced with ⟨place, -, rfl⟩
    have noBytes : sentBytes (contents.sending forwarding.sending) = [] := sentBytes_empty empty
    have noLength : (contents.sending forwarding.sending).length = 0 := empty
    rw [noBytes, noLength] at isMessage
    cases isMessage
    rfl

theorem Forwarding.not_null (nonempty : 0 < forwarding.length) : forwarding.null = false ∧
    forwarding.length = forwarding.sending.length := by
  grind [Forwarding.length]

theorem Forwarding.open_of_sent {contents : Contents} {message : Sent}
    (sent : (forwarding.forwarded contents).2.sent = forwarding.state.sent ++ [message]) :
    forwarding.Open := by
  unfold Forwarding.forwarded at sent
  dsimp only at sent
  split_ifs at sent
  · rcases (mwforward_sent sent).1 with ⟨up, few, service, provider, put⟩
    exact ⟨up, few, service, provider, put⟩
  · rcases (mwforward_sent sent).1 with ⟨up, few, service, provider, put⟩
    exact ⟨up, few, service, provider, put⟩

/-- The place of the data, and what the memory holds then. -/
theorem Ready.place {sending : Sending} (ready : Ready findBin mwid base cps sending buffer memory
      space receiver pid) (someChunks : 0 < cps) (nonempty : 0 < sending.length)
    (contents : Contents) :
    ∃ stored, placeData (contents.sending sending) =
        some (toInt32 buffer.offset, { memory with bytes := stored }) ∧
      ({ memory with bytes := stored } : SharedMemory).read buffer.segmentid buffer.offset
        sending.length = sentBytes (contents.sending sending) ∧
      (∀ id, id ≠ buffer.segmentid → stored id = contents.stored id) ∧
      (contents.stored buffer.segmentid = (fun _ => 1) → (∀ adr, contents.own adr = 1) →
        ∀ byte ∈ sentBytes (contents.sending sending), byte = 1) := by
  rcases ready.placed with ⟨bytes, placed⟩
  rcases contents.placed placed with ⟨bytes', placed'⟩
  have holds := ready.holds
  have holdsData : 0 < buffer.size base := by omega
  have inUse : buffer.InUse mwid base cps (contents.memory memory) :=
    ready.inUse.stored contents.stored
  have reachable : (heapMachine findBin mwid base cps).Reachable (fun _ _ => True)
      (contents.memory memory).heap := ready.reachable
  have fits := inUse.fits someChunks reachable holdsData
  rcases place_of_placed placed' fits (ready.sends.stored contents.stored) nonempty holdsData with
    ⟨isBytes, stored, place, read, elsewhere⟩
  rw [isBytes]
  exact ⟨stored, place, read, elsewhere, fun shared own => sentBytes_ones placed' own shared⟩

/-- A forward of data that is sent has the segment of the request, and the offset of the data. -/
theorem Forwarding.buffer_of_sent {contents : Contents} {dest : Int} {call : Call}
    (nonempty : 0 < forwarding.length) {offset : Int} {after : SharedMemory}
    (place : placeData (contents.sending forwarding.sending) = some (offset, after))
    (sent : (forwarding.forwarded contents).2.sent =
      forwarding.state.sent ++ [⟨dest, .svccall call⟩]) :
    call.buffer = ⟨forwarding.state.callmesg.datasegmentid, offset, forwarding.length⟩ := by
  rcases Forwarding.not_null nonempty with ⟨notNull, isLength⟩
  have someLength : ¬(contents.sending forwarding.sending).length = 0 := by
    have same : (contents.sending forwarding.sending).length = forwarding.sending.length := rfl
    omega
  unfold Forwarding.forwarded at sent
  dsimp only at sent
  rw [notNull, if_neg Bool.false_ne_true, place] at sent
  rcases (mwforward_sent sent).2 with ⟨named, placed, segment, isPlaced, isMessage⟩
  rcases forwardData_some isPlaced with ⟨found, isFound, rfl⟩
  cases isFound
  cases isMessage
  rw [isLength, dataLength, if_neg someLength, ← segment]
  rfl

theorem Forwarding.sends_of_open (nonempty : 0 < forwarding.length) (isOpen : forwarding.Open)
    {contents : Contents} {placed : Int × SharedMemory}
    (place : placeData (contents.sending forwarding.sending) = some placed) :
    (forwarding.forwarded contents).1 = 0 ∧ ∃ call, (forwarding.forwarded contents).2.sent =
      forwarding.state.sent ++ [⟨forwarding.route.provider, .svccall call⟩] := by
  unfold Forwarding.forwarded
  dsimp only
  rw [(Forwarding.not_null nonempty).1, if_neg Bool.false_ne_true, place]
  exact mwforward_sends isOpen.up isOpen.few isOpen.service isOpen.provider isOpen.put
    fun named => ⟨_, rfl⟩

theorem Forwarding.after_eq (nonempty : 0 < forwarding.length) {contents : Contents}
    {placed : Int × SharedMemory}
    (place : placeData (contents.sending forwarding.sending) = some placed) :
    forwarding.after contents = placed.2 := by
  unfold Forwarding.after
  dsimp only
  rw [(Forwarding.not_null nonempty).1, if_neg Bool.false_ne_true, place]
  rfl

def onesBut (segmentid : Int) : Contents where
  stored := fun id => if id = segmentid then fun _ => 0 else fun _ => 1
  own := fun _ => 1

/-- Data in another segment than that of the request does not arrive. -/
theorem Forwarding.Arrives.segment (arrives : forwarding.Arrives receiver mmap pid)
    (isOpen : forwarding.Open) (nonempty : 0 < forwarding.length) (someChunks : 0 < cps)
    (ready : Ready findBin mwid base cps forwarding.sending buffer memory space receiver pid) :
    forwarding.state.callmesg.datasegmentid = buffer.segmentid := by
  by_contra other
  have isLength := (Forwarding.not_null nonempty).2
  have otherWay : buffer.segmentid ≠ forwarding.state.callmesg.datasegmentid := fun same =>
    other same.symm
  rcases ready.place someChunks (isLength ▸ nonempty)
    (onesBut forwarding.state.callmesg.datasegmentid) with ⟨stored, place, read, elsewhere, ones⟩
  rcases Forwarding.sends_of_open nonempty isOpen place with ⟨zero, call, sent⟩
  have buffered := Forwarding.buffer_of_sent nonempty place sent
  rcases arrives _ _ call zero sent with ⟨received, got, data, -⟩
  rw [buffered, Forwarding.after_eq nonempty place] at got
  have someData : (forwarding.length : Int) ≠ 0 := by omega
  have isRead := received_from someData got
  rw [data, if_neg (by omega), Option.some.injEq] at isRead
  have isOnes := ones (if_neg otherWay) fun _ => rfl
  rw [isRead] at isOnes
  -- The first byte is one of the segment of the request.
  have first : stored forwarding.state.callmesg.datasegmentid (toInt32 buffer.offset + (0 : Nat)) =
      1 := isOnes _ (List.mem_map_of_mem (List.mem_range.mpr nonempty))
  rw [elsewhere _ other, show (onesBut forwarding.state.callmesg.datasegmentid).stored
    forwarding.state.callmesg.datasegmentid = fun _ => 0 from if_pos rfl] at first
  simp_all

/-- Data that arrives is in reach. -/
theorem Forwarding.Arrives.reaches (arrives : forwarding.Arrives receiver mmap pid)
    (isOpen : forwarding.Open) (nonempty : 0 < forwarding.length) (someChunks : 0 < cps)
    (ready : Ready findBin mwid base cps forwarding.sending buffer memory space receiver pid) :
    Reaches base buffer forwarding.state.callmesg forwarding.length := by
  have segment := arrives.segment isOpen nonempty someChunks ready
  have isLength := (Forwarding.not_null nonempty).2
  have holds := ready.holds
  have holdsData : 0 < buffer.size base := by omega
  rcases ready.place someChunks (isLength ▸ nonempty) (onesBut 0) with ⟨stored, place, -⟩
  rcases Forwarding.sends_of_open nonempty isOpen place with ⟨zero, call, sent⟩
  have buffered := Forwarding.buffer_of_sent nonempty place sent
  rcases arrives _ _ call zero sent with ⟨received, got, -⟩
  rw [buffered, Forwarding.after_eq nonempty place, segment] at got
  have inUse : buffer.InUse mwid base cps { memory with bytes := stored } :=
    ready.inUse.stored stored
  have reachable : (heapMachine findBin mwid base cps).Reachable (fun _ _ => True)
      ({ memory with bytes := stored } : SharedMemory).heap := ready.reachable
  have fits := inUse.fits someChunks reachable holdsData
  rcases inUse.taken fits (ready.receives.stored stored) mmap nonempty (isLength ▸ holds) got with
    ⟨farEnough, roomLeft, addressable⟩
  exact ⟨segment, farEnough, roomLeft, addressable⟩

/-- Data in reach arrives. -/
theorem Reaches.arrives (reaches : Reaches base buffer forwarding.state.callmesg forwarding.length)
    (nonempty : 0 < forwarding.length) (someChunks : 0 < cps)
    (ready : Ready findBin mwid base cps forwarding.sending buffer memory space receiver pid) :
    forwarding.Arrives receiver mmap pid := by
  intro contents dest call _ sent
  have isLength := (Forwarding.not_null nonempty).2
  have holds := ready.holds
  have holdsData : 0 < buffer.size base := by omega
  rcases ready.place someChunks (isLength ▸ nonempty) contents with ⟨stored, place, read, -⟩
  have inUse : buffer.InUse mwid base cps { memory with bytes := stored } :=
    ready.inUse.stored stored
  have reachable : (heapMachine findBin mwid base cps).Reachable (fun _ _ => True)
      ({ memory with bytes := stored } : SharedMemory).heap := ready.reachable
  have fits := inUse.fits someChunks reachable holdsData
  rcases inUse.received someChunks reachable fits (ready.receives.stored stored) mmap ready.idle
    nonempty reaches.farEnough reaches.roomLeft reaches.addressable with ⟨after, got, -⟩
  rw [Forwarding.buffer_of_sent nonempty place sent, Forwarding.after_eq nonempty place,
    reaches.segment]
  grind

theorem Forwarding.arrives_empty (empty : forwarding.length = 0) :
    forwarding.Arrives receiver mmap pid := by
  intro contents dest call _ sent
  have noData : call.buffer.datalen = 0 := Forwarding.forwarded_empty empty sent
  simp_all [Shm.mwGetbufferFromCall, if_pos, empty]

end Exact

section ThreeBytes

/-- A server with a request whose data was in this segment forwards three bytes of the heap. -/
def threeForward (state : HeapState) (segmentid : Int) : Forwarding where
  process := ⟨true, 1, true, 0, 0x01000000, 0x01000000, false⟩
  state := ⟨⟨1, 0x02000001, -1, -1, 0x08000000, 0, [97], 0, 0, 0, segmentid, 16, 3, 0, 0, 0⟩, true,
    []⟩
  svcname := [98]
  route := ⟨0, 0x08000001, 0x01000001, none, 0, 0⟩
  sending := Shm.inFirstChunk state 3
  null := false

theorem threeForward_ready {state : HeapState}
    (reachable : (heapMachine (fun _ => 0) (fun pid => pid) 4 1).Reachable (fun _ _ => True) state)
    (held : state.holder 112 = some 7) (idle : state.tasks 8 = .idle) (segmentid : Int) :
    Ready (fun _ => 0) (fun pid => pid) 4 1 (threeForward state segmentid).sending (.heap 0 112)
      (Shm.inFirstChunk state 3).memory (Shm.inFirstChunk state 3).space
      (Shm.heapOnly state.seg.segmentsize) 8 := by
  rcases Shm.inFirstChunk_placed state held 3 with ⟨placed, inUse, maps⟩
  exact ⟨⟨_, placed⟩, reachable, inUse, show (3 : Int) ≤ 1 * 4 by decide, maps, maps, idle⟩

end ThreeBytes

end MidWay.Server

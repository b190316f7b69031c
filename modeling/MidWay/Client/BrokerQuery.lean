import MidWay.CLib.Bounded
import MidWay.Gateway.Sessions
import MidWay.Lib.Blocks
import MidWay.Lib.FirstOccurrences
import MidWay.Srb.Grammar

/-!
Contract: the answers to a broker query, as `multicast.c` collects them.

A call of `_mw_getmcastreply` ends with an entry, or with an error that the caller tells from
others by `errno`; nothing sets that for an empty datagram. The entry is memory from `realloc`,
and what a response does not have, or what is too long, is not written there. A datagram is
decoded in an array on the stack, with whatever is behind it, and a value with a bad escape
makes the decoder free what was never written. `select` and `recvfrom` do not fail otherwise,
and of the request only its effect on the known instances is here.

Owns: the query, what it should list, and the exact condition on the datagrams under which it
does.
-/

namespace MidWay.Client

open MidWay.CLib MidWay.Lib MidWay.Url MidWay.Srb MidWay.Gateway

/-- The bytes of an empty `struct sockaddr`. -/
def noAddress : List Byte := List.replicate 16 0

/-- A datagram with its sender, and what the decoder meets in memory: the fresh blocks and the
fresh array, the byte in front of the buffer, and those behind the terminator. -/
structure Arrival where
  datagram : List Byte
  peer : List Byte
  uninit : List Byte
  left : Nat → MapCell
  inFront : Byte
  behind : List Byte
  short : datagram.length ≤ srbMessageMaxLen
  goesOn : behind ≠ []
  family : peer ≠ noAddress

def Arrival.buffer (arrival : Arrival) : List Byte :=
  arrival.inFront :: (arrival.datagram ++ 0 :: arrival.behind)

def Arrival.decode (arrival : Arrival) : DecodeResult :=
  mwSrbdecodemessage arrival.uninit arrival.buffer 1 arrival.datagram.length

def Arrival.text (arrival : Arrival) : List Byte :=
  (terminateMessage arrival.buffer 1 arrival.datagram.length).1.drop 1

def fieldsText (text : List Byte) : Option (List Byte) :=
  match findMarker text with
  | none => none
  | some commandlen =>
      if text.getD commandlen 0 = srbRejectMarker ∨ commandlen > 32 then none
      else some (text.drop (commandlen + 1))

def Arrival.fault (arrival : Arrival) : Option MapFault :=
  (fieldsText arrival.text).bind fun fields =>
    match urlmapdecodeArray arrival.left fields with
    | .error fault => some fault
    | .ok _ => none

inductive QueryFault where
  | decoder (fault : MapFault)
  /-- Outside of the list of the known instances. -/
  | outside
  | endless
deriving DecidableEq, Repr

structure KnownInstances where
  list : Block Byte
  alloc : Nat
  count : Nat
  sized : list.size = alloc * mwMaxNameLen

/-- What a new query does to the list; `heap` is what new memory holds. -/
def KnownInstances.clear (heap : Nat → Byte) (known : KnownInstances) : KnownInstances :=
  if known.alloc = 0 then ⟨⟨16 * mwMaxNameLen, heap⟩, 16, 0, rfl⟩ else { known with count := 0 }

def searchKnown (list : Block Byte) (mapval : List Byte) : Nat → Nat → Except QueryFault Bool
  | _, 0 => .ok false
  | i, left + 1 =>
      match list.load (i * mwMaxNameLen) mwMaxNameLen with
      | none => .error .outside
      | some name =>
          if strncmpeq mwMaxNameLen name mapval then .ok true
          else searchKnown list mapval (i + 1) left

def KnownInstances.extend (heap : Nat → Byte) (known : KnownInstances) : KnownInstances :=
  if known.alloc ≤ known.count + 1 then
    ⟨known.list.grow (known.alloc * 2 * mwMaxNameLen) heap, known.alloc * 2, known.count, rfl⟩
  else known

def KnownInstances.add (known : KnownInstances) (mapval : List Byte) :
    Except QueryFault KnownInstances :=
  match stored : known.list.store (known.count * mwMaxNameLen) (CLib.strncpy mwMaxNameLen mapval) with
  | none => .error .outside
  | some list =>
      .ok ⟨list, known.alloc, known.count + 1, (Block.size_store stored).trans known.sized⟩

structure InstanceInfo where
  version : List Byte
  instanceName : List Byte
  domain : List Byte
  address : List Byte
deriving DecidableEq, Repr

def zeroInfo : InstanceInfo :=
  ⟨List.replicate 8 0, List.replicate mwMaxNameLen 0, List.replicate mwMaxNameLen 0, noAddress⟩

def InstanceInfo.fill (reply : InstanceInfo) (mapval peer : List Byte) (map : Urlmap) :
    InstanceInfo where
  version := (urlmapgetvalue map srbVersion).elim reply.version fun mapval =>
    CLib.strncpy 7 mapval ++ reply.version.drop 7
  instanceName := CLib.strncpy mwMaxNameLen mapval
  domain := (urlmapgetvalue map srbDomain).elim reply.domain (CLib.strncpy mwMaxNameLen)
  address := peer

/-- A key that is not there sets `errno`. -/
def lookupErrno (map : Urlmap) (key : List Byte) (errno : Option Errno) : Option Errno :=
  if urlmapget map key = none then some .ENOENT else errno

/-- The result of `_mw_getmcastreply`. -/
structure Received where
  rc : Int
  errno : Option Errno
  known : KnownInstances
  reply : InstanceInfo

/-- With the datagrams that are not read. When there are none, the time is up. -/
def mwGetmcastreply (heap : Nat → Byte) (reply : InstanceInfo) :
    KnownInstances → Option Errno → List Arrival → Except QueryFault (Received × List Arrival)
  | known, _, [] => .ok (⟨-1, some .ETIME, known, reply⟩, [])
  | known, errno, arrival :: later =>
      if arrival.datagram = [] then .ok (⟨-1, errno, known, reply⟩, later)
      else
        match arrival.fault with
        | some fault => .error (.decoder fault)
        | none =>
            match arrival.decode.srbmsg with
            | none => .ok (⟨-1, some .EBADMSG, known, reply⟩, later)
            | some srbrpy =>
                let errno := arrival.decode.errno.or errno
                if srbrpy.commandString ≠ srbReady ∨ srbrpy.marker ≠ srbResponseMarker then
                  .ok (⟨-1, some .EBADMSG, known, reply⟩, later)
                else
                  match urlmapgetvalue srbrpy.map srbInstance with
                  | none => .ok (⟨-1, some .EBADMSG, known, reply⟩, later)
                  | some mapval =>
                      match searchKnown known.list mapval 0 known.count with
                      | .error fault => .error fault
                      | .ok true => mwGetmcastreply heap reply known errno later
                      | .ok false =>
                          match (known.extend heap).add mapval with
                          | .error fault => .error fault
                          | .ok known =>
                              .ok (⟨0, lookupErrno srbrpy.map srbDomain
                                  (lookupErrno srbrpy.map srbVersion errno), known,
                                reply.fill mapval arrival.peer srbrpy.map⟩, later)

/-- What `realloc` gives for each entry of the array, and for the known names. -/
structure QueryMemory where
  fresh : Nat → InstanceInfo
  heap : Nat → Byte

/-- The array with the entry behind its end, the `errno` of the last reply, and what nobody
read. -/
structure Answer where
  gws : List InstanceInfo
  errno : Option Errno
  known : KnownInstances
  unread : List Arrival

/-- The loop of `mwbrokerquery`. Every turn but the last one reads a datagram. -/
def queryLoop (memory : QueryMemory) : Nat → List InstanceInfo → KnownInstances → Option Errno →
    List Arrival → Except QueryFault Answer
  | 0, _, _, _, _ => .error .endless
  | turns + 1, gws, known, errno, arrivals =>
      match mwGetmcastreply memory.heap (memory.fresh gws.length) known errno arrivals with
      | .error fault => .error fault
      | .ok (received, later) =>
          if received.rc = -1 then
            if received.errno = some .EBADMSG then
              queryLoop memory turns gws received.known received.errno later
            else
              .ok ⟨gws ++ [zeroInfo, memory.fresh (gws.length + 1)], received.errno,
                received.known, later⟩
          else queryLoop memory turns (gws ++ [received.reply]) received.known received.errno later

/-- `s` and `sent` are what `socket` and `sendto` return. Without an answer NULL is returned. -/
def mwbrokerquery (memory : QueryMemory) (known : KnownInstances) (s sent : Int)
    (arrivals : List Arrival) : Except QueryFault (Option Answer) :=
  if s = -1 ∨ sent = -1 then .ok none
  else
    (queryLoop memory (arrivals.length + 1) [] (known.clear memory.heap) none arrivals).map some

structure Response where
  version : List Byte
  instanceName : List Byte
  domain : List Byte
deriving DecidableEq, Repr

def IsResponse (datagram : List Byte) (response : Response) : Prop :=
  ∃ first rest ending, (∀ parameter ∈ first :: rest, Parameter.WellFormed parameter) ∧
    Ending ending ∧ datagram = messageFront srbReady srbResponseMarker first rest ++ ending ∧
    parameterValue (first :: rest) srbVersion = some response.version ∧
    parameterValue (first :: rest) srbInstance = some response.instanceName ∧
    parameterValue (first :: rest) srbDomain = some response.domain

structure Entry where
  response : Response
  address : List Byte
deriving DecidableEq, Repr

def Entry.name (entry : Entry) : List Byte := entry.response.instanceName

open Classical in
/-- The response that a datagram is. -/
noncomputable def Arrival.answer (arrival : Arrival) : Option Entry :=
  if isResponse : ∃ response, IsResponse arrival.datagram response then
    some ⟨isResponse.choose, arrival.peer⟩
  else none

noncomputable def answers (arrivals : List Arrival) : List Entry :=
  arrivals.filterMap Arrival.answer

/-- One entry for each instance, in the order in which they come first, with what came first. -/
structure Lists (arrivals : List Arrival) (entries : List Entry) : Prop where
  each : FirstOccurrences ((answers arrivals).map Entry.name) (entries.map Entry.name)
  first : ∀ entry ∈ entries,
    (answers arrivals).find? (fun other => other.name = entry.name) = some entry

structure InstanceInfo.Shows (info : InstanceInfo) (entry : Entry) : Prop where
  version : arrayString info.version = some entry.response.version
  instanceName : arrayString info.instanceName = some entry.response.instanceName
  domain : arrayString info.domain = some entry.response.domain
  address : info.address = entry.address

/-- The time-out ends the query, and the array in front of its zero entry shows the list. -/
def ListsAll (result : Except QueryFault (Option Answer)) (arrivals : List Arrival) : Prop :=
  ∃ answer entries, result = .ok (some answer) ∧ answer.errno = some .ETIME ∧
    answer.unread = [] ∧ zeroInfo ∈ answer.gws ∧
    List.Forall₂ InstanceInfo.Shows (answer.gws.takeWhile (· ≠ zeroInfo)) entries ∧
    Lists arrivals entries

def Arrival.named (arrival : Arrival) : Option (List Byte) :=
  arrival.decode.srbmsg.bind fun srbrpy =>
    if srbrpy.commandString ≠ srbReady ∨ srbrpy.marker ≠ srbResponseMarker then none
    else urlmapgetvalue srbrpy.map srbInstance

/-- The `errno` behind a datagram that brings no new instance. -/
def Arrival.leaves (errno : Option Errno) (arrival : Arrival) : Option Errno :=
  if arrival.datagram = [] then errno
  else if arrival.named = none then some .EBADMSG
  else arrival.decode.errno.or errno

def errnoBehind (arrivals : List Arrival) : Option Errno := arrivals.foldl Arrival.leaves none

def FitsIn (size : Nat) (text : List Byte) : Prop := 0 ∉ text ∧ text.length < size

structure Response.Fits (response : Response) : Prop where
  version : FitsIn 7 response.version
  instanceName : FitsIn mwMaxNameLen response.instanceName
  domain : FitsIn mwMaxNameLen response.domain

/-- An empty datagram finds `EBADMSG`, others are decoded without a fault, and a response that
brings an instance is well-formed and fits. -/
structure Sound (before : List Arrival) (arrival : Arrival) : Prop where
  empty : arrival.datagram = [] → errnoBehind before = some .EBADMSG
  faultless : arrival.datagram ≠ [] → arrival.fault = none
  plain : ∀ response, IsResponse arrival.datagram response → 0 ∉ response.instanceName
  new : ∀ mapval, arrival.datagram ≠ [] → arrival.named = some mapval →
    cstr mapval ∈ (answers before).map Entry.name ∨
      ∃ response, IsResponse arrival.datagram response ∧ response.Fits

structure Arrival.Reads (arrival : Arrival) (response : Response) (map : Urlmap) : Prop where
  nonempty : arrival.datagram ≠ []
  faultless : arrival.fault = none
  srbmsg : arrival.decode.srbmsg = some ⟨srbReady, srbResponseMarker, map⟩
  errno : arrival.decode.errno = none
  version : urlmapgetvalue map srbVersion = some response.version
  instanceName : urlmapgetvalue map srbInstance = some response.instanceName
  domain : urlmapgetvalue map srbDomain = some response.domain

section Read

variable {arrival : Arrival} {response : Response}

theorem Arrival.text_long (long : 2 ≤ arrival.datagram.length) :
    arrival.text = patched arrival.datagram ++ 0 :: arrival.behind := by
  have terminated := (@terminateMessage_long [arrival.inFront] arrival.datagram 0 arrival.behind
    long).1
  have isBuffer : [arrival.inFront] ++ arrival.datagram ++ 0 :: arrival.behind =
      arrival.buffer := rfl
  simp_all [Arrival.text]

theorem Arrival.decode_text (arrival : Arrival) :
    (arrival.decode.srbmsg, arrival.decode.errno) = decodeText arrival.uninit arrival.text :=
  mwSrbdecodemessage_eq_decodeText arrival.uninit arrival.buffer 1 arrival.datagram.length

theorem srbReady_plain : ∀ c ∈ srbReady, c ≠ 0 ∧ isMarker c = false := by
  decide +kernel

theorem srbReady_free : carriageReturn ∉ srbReady := by decide

theorem Arrival.reads (isResponse : IsResponse arrival.datagram response) :
    ∃ map, arrival.Reads response map := by
  obtain ⟨first, rest, ending, wellFormed, ends, isDatagram, version, instanceName, domain⟩ :=
    isResponse
  have front : messageFront srbReady srbResponseMarker first rest =
      srbReady ++ srbResponseMarker :: parametersText first rest := rfl
  have frontLong : 2 ≤ (messageFront srbReady srbResponseMarker first rest).length := by
    rw [front, List.length_append, List.length_cons]
    exact Nat.le_add_right_of_le (by decide)
  have noReturn : carriageReturn ∉ messageFront srbReady srbResponseMarker first rest := by
    rw [front, List.mem_append, List.mem_cons, not_or, not_or]
    exact ⟨srbReady_free, by decide, (parametersText_free wellFormed).2⟩
  have long : 2 ≤ arrival.datagram.length := by
    simp [isDatagram, List.length_append, Nat.le_add_right_of_le, frontLong]
  obtain ⟨next, more, isText⟩ := patched_ending noReturn frontLong ends arrival.goesOn
  rw [← isDatagram] at isText
  have text := (Arrival.text_long long).trans isText
  have decoded := arrival.decode_text
  rw [text, decodeText_message srbReady_plain (by decide) (by decide) (by decide) wellFormed,
    Prod.mk.injEq] at decoded
  have fields : fieldsText arrival.text = some (parametersText first rest ++ 0 :: next :: more) := by
    have found := findMarker_message srbReady_plain (show isMarker srbResponseMarker = true by decide)
      (parametersText first rest ++ 0 :: next :: more)
    have notRefused : ¬(srbResponseMarker = srbRejectMarker ∨ srbReady.length > 32) := by decide
    simp_all [List.append_assoc, List.cons_append, fieldsText]
  obtain ⟨returned, isReturned⟩ :=
    urlmapdecodeArray_parameters wellFormed arrival.left next more
  refine ⟨(first :: rest).map Parameter.entry, ?_, ?_, decoded.1, decoded.2, ?_, ?_, ?_⟩
  · simp_all
  · rw [Arrival.fault, fields, Option.bind_some, isReturned]
  · rw [urlmapgetvalue_parameters, version]
  · rw [urlmapgetvalue_parameters, instanceName]
  · rw [urlmapgetvalue_parameters, domain]

theorem Arrival.Reads.named {map : Urlmap} (reads : arrival.Reads response map) :
    arrival.named = some response.instanceName := by
  have isReady : ¬((⟨srbReady, srbResponseMarker, map⟩ : SRBmessage).commandString ≠ srbReady ∨
      srbResponseMarker ≠ srbResponseMarker) := by
    rw [not_or, ne_eq, ne_eq, not_not, not_not]
    exact ⟨rfl, rfl⟩
  rw [Arrival.named, reads.srbmsg, Option.bind_some, if_neg isReady, reads.instanceName]

/-- A datagram is one response at most. -/
theorem IsResponse.unique {other : Response} (isResponse : IsResponse arrival.datagram response)
    (isOther : IsResponse arrival.datagram other) : response = other := by
  obtain ⟨map, reads⟩ := Arrival.reads isResponse
  obtain ⟨otherMap, readsOther⟩ := Arrival.reads isOther
  have sameMessage := Option.some.inj (reads.srbmsg.symm.trans readsOther.srbmsg)
  have sameMap : map = otherMap := congrArg SRBmessage.map sameMessage
  rw [← sameMap] at readsOther
  have version := Option.some.inj (reads.version.symm.trans readsOther.version)
  have instanceName := Option.some.inj (reads.instanceName.symm.trans readsOther.instanceName)
  have domain := Option.some.inj (reads.domain.symm.trans readsOther.domain)
  cases response
  simp_all

theorem Arrival.answer_response (isResponse : IsResponse arrival.datagram response) :
    arrival.answer = some ⟨response, arrival.peer⟩ := by
  have exists_ : ∃ response, IsResponse arrival.datagram response := ⟨response, isResponse⟩
  rw [Arrival.answer, dif_pos exists_, exists_.choose_spec.unique isResponse]

theorem Arrival.answer_none (noResponse : ¬∃ response, IsResponse arrival.datagram response) :
    arrival.answer = none := dif_neg noResponse

end Read

structure KnownInstances.Stored (known : KnownInstances) (names : List (List Byte)) : Prop where
  count : known.count = names.length
  room : known.count ≤ known.alloc
  allocated : 0 < known.alloc
  loads : ∀ i name, names[i]? = some name →
    known.list.load (i * mwMaxNameLen) mwMaxNameLen = some (CLib.strncpy mwMaxNameLen name)

theorem KnownInstances.stored_clear (heap : Nat → Byte) (known : KnownInstances) :
    (known.clear heap).Stored [] := by
  unfold KnownInstances.clear
  split_ifs with unallocated
  · exact ⟨rfl, Nat.zero_le _, Nat.succ_pos 15, fun i name isName => by cases isName⟩
  · exact ⟨rfl, Nat.zero_le _, Nat.pos_of_ne_zero unallocated, fun i name isName => by cases isName⟩

namespace KnownInstances.Stored

variable {known : KnownInstances} {names : List (List Byte)} (stored : known.Stored names)
include stored

theorem search (mapval : List Byte) :
    searchKnown known.list mapval 0 known.count = .ok (names.any fun name =>
      strncmpeq mwMaxNameLen (CLib.strncpy mwMaxNameLen name) mapval) := by
  have fromAny : ∀ left i, i + left = names.length →
      searchKnown known.list mapval i left = .ok ((names.drop i).any fun name =>
        strncmpeq mwMaxNameLen (CLib.strncpy mwMaxNameLen name) mapval) := by
    intro left
    induction left with
    | zero =>
        intro i isEnd
        rw [List.drop_of_length_le (show names.length ≤ i by omega)]
        rfl
    | succ left ih =>
        intro i isPlace
        have inside : i < names.length := by omega
        have loaded := stored.loads i names[i] (List.getElem?_eq_getElem inside)
        grind [searchKnown, List.drop_eq_getElem_cons]
  simp_all [stored.count, List.drop_zero]

theorem search_fits (fits : ∀ name ∈ names, FitsIn mwMaxNameLen name) (mapval : List Byte) :
    searchKnown known.list mapval 0 known.count = .ok (decide (cstr mapval ∈ names)) := by
  rw [stored.search, Except.ok.injEq, Bool.eq_iff_iff, List.any_eq_true, decide_eq_true_iff]
  constructor
  · intro found
    obtain ⟨name, member, same⟩ := found
    rw [(strncmpeq_strncpy (fits name member).1 (fits name member).2 mapval).mp same]
    exact member
  · intro member
    exact ⟨cstr mapval, member,
      (strncmpeq_strncpy (fits _ member).1 (fits _ member).2 mapval).mpr rfl⟩

theorem extend (heap : Nat → Byte) :
    (known.extend heap).Stored names ∧ (known.extend heap).count < (known.extend heap).alloc := by
  have room := stored.room
  have allocated := stored.allocated
  unfold KnownInstances.extend
  split_ifs with isFull
  · refine ⟨⟨stored.count, ?_, ?_, ?_⟩, ?_⟩
    · grind
    · simp_all
    · intro i name isName
      refine Block.load_grow (stored.loads i name isName) ?_ heap
      rw [known.sized]
      exact Nat.mul_le_mul_right _ (by omega)
    · grind
  · exact ⟨stored, by omega⟩

theorem add (room : known.count < known.alloc) (mapval : List Byte) :
    ∃ after, known.add mapval = .ok after ∧ after.Stored (names ++ [mapval]) := by
  have inside : known.count * mwMaxNameLen + (CLib.strncpy mwMaxNameLen mapval).length ≤
      known.list.size := by
    rw [length_strncpy, known.sized, ← Nat.succ_mul]
    exact Nat.mul_le_mul_right _ room
  obtain ⟨list, isStored⟩ := Block.store_inside inside
  have added : known.add mapval = .ok ⟨list, known.alloc, known.count + 1,
      (Block.size_store isStored).trans known.sized⟩ := by
    unfold KnownInstances.add
    split
    · simp_all
    · grind
  refine ⟨_, added, ?_, room, stored.allocated, ?_⟩
  · rw [List.length_append, List.length_singleton, ← stored.count]
  · intro i name isName
    dsimp only
    rcases Nat.lt_or_ge i names.length with before | behind
    · rw [List.getElem?_append_left before] at isName
      have apart : i * mwMaxNameLen + mwMaxNameLen ≤ known.count * mwMaxNameLen := by
        rw [← Nat.succ_mul, stored.count]
        exact Nat.mul_le_mul_right _ before
      rw [Block.load_apart isStored (.inl apart)]
      exact stored.loads i name isName
    · rw [List.getElem?_append_right behind] at isName
      have isLast : i - names.length = 0 := by
        grind
      rw [isLast] at isName
      cases isName
      have loaded := Block.load_store isStored
      rw [length_strncpy] at loaded
      rw [show i = known.count by rw [stored.count]; omega]
      exact loaded

end KnownInstances.Stored

structure Query where
  gws : List InstanceInfo
  known : KnownInstances
  errno : Option Errno

def Arrival.map (arrival : Arrival) : Urlmap :=
  (arrival.decode.srbmsg.map SRBmessage.map).getD []

def Arrival.lookups (arrival : Arrival) (errno : Option Errno) : Option Errno :=
  lookupErrno arrival.map srbDomain (lookupErrno arrival.map srbVersion
    (arrival.decode.errno.or errno))

def Query.react (memory : QueryMemory) (query : Query) (arrival : Arrival) :
    Except QueryFault (Option Query) :=
  if arrival.datagram = [] then .ok (if query.errno = some .EBADMSG then some query else none)
  else
    match arrival.fault with
    | some fault => .error (.decoder fault)
    | none =>
        match arrival.named with
        | none => .ok (some { query with errno := some .EBADMSG })
        | some mapval =>
            match searchKnown query.known.list mapval 0 query.known.count with
            | .error fault => .error fault
            | .ok true => .ok (some { query with errno := arrival.decode.errno.or query.errno })
            | .ok false =>
                match (query.known.extend memory.heap).add mapval with
                | .error fault => .error fault
                | .ok known => .ok (some ⟨query.gws ++
                    [(memory.fresh query.gws.length).fill mapval arrival.peer arrival.map], known,
                    arrival.lookups query.errno⟩)

def Query.ended (memory : QueryMemory) (query : Query) (errno : Option Errno)
    (unread : List Arrival) : Answer :=
  ⟨query.gws ++ [zeroInfo, memory.fresh (query.gws.length + 1)], errno, query.known, unread⟩

def Query.run (memory : QueryMemory) : Query → List Arrival → Except QueryFault Answer
  | query, [] => .ok (query.ended memory (some .ETIME) [])
  | query, arrival :: later =>
      match query.react memory arrival with
      | .error fault => .error fault
      | .ok none => .ok (query.ended memory query.errno later)
      | .ok (some query) => query.run memory later

section Loop

variable {memory : QueryMemory} {reply : InstanceInfo} {known : KnownInstances}
  {errno : Option Errno} {arrival : Arrival} {mapval : List Byte}
  (nonempty : arrival.datagram ≠ []) (faultless : arrival.fault = none)
include nonempty faultless

theorem mwGetmcastreply_refused (refused : arrival.named = none) (later : List Arrival) :
    mwGetmcastreply memory.heap reply known errno (arrival :: later) =
      .ok (⟨-1, some .EBADMSG, known, reply⟩, later) := by
  rw [Arrival.named] at refused
  rw [mwGetmcastreply, if_neg nonempty, faultless]
  grind

/-- The call for a datagram with a name, by the search for that. -/
theorem mwGetmcastreply_named (named : arrival.named = some mapval) (later : List Arrival) :
    mwGetmcastreply memory.heap reply known errno (arrival :: later) =
      (searchKnown known.list mapval 0 known.count).bind fun isKnown =>
        if isKnown then
          mwGetmcastreply memory.heap reply known (arrival.decode.errno.or errno) later
        else ((known.extend memory.heap).add mapval).map fun known =>
          (⟨0, arrival.lookups errno, known, reply.fill mapval arrival.peer arrival.map⟩, later) := by
  rw [Arrival.named] at named
  rw [mwGetmcastreply, if_neg nonempty, faultless]
  unfold Arrival.lookups Arrival.map
  dsimp only
  cases decoded : arrival.decode.srbmsg with
  | none =>
      simp [decoded] at named
  | some srbrpy =>
      rw [decoded, Option.bind_some] at named
      dsimp only
      split_ifs at named with foreign
      rw [if_neg foreign, named]
      dsimp only
      cases searchKnown known.list mapval 0 known.count with
      | error fault => rfl
      | ok isKnown =>
          cases isKnown with
          | true => rfl
          | false =>
              cases (known.extend memory.heap).add mapval with
              | error fault => rfl
              | ok after => rfl

end Loop

/-- The loop reads the datagrams one after the other. The repeated answers do not end a call, so
the induction is on the datagrams, and the turns that are left only have to be enough. -/
theorem queryLoop_run (memory : QueryMemory) {turns : Nat} {arrivals : List Arrival}
    (enough : arrivals.length < turns) (query : Query) :
    queryLoop memory turns query.gws query.known query.errno arrivals =
      query.run memory arrivals := by
  induction arrivals generalizing turns query with
  | nil =>
      obtain ⟨fewer, rfl⟩ := Nat.exists_eq_succ_of_ne_zero (Nat.ne_zero_of_lt enough)
      rfl
  | cons arrival later ih =>
      obtain ⟨fewer, rfl⟩ := Nat.exists_eq_succ_of_ne_zero (Nat.ne_zero_of_lt enough)
      have left : later.length < fewer := Nat.lt_of_succ_lt_succ enough
      rw [Query.run, Query.react]
      by_cases isEmpty : arrival.datagram = []
      · rw [if_pos isEmpty, queryLoop, mwGetmcastreply, if_pos isEmpty]
        dsimp only
        by_cases ignored : query.errno = some .EBADMSG
        · grind
        · rw [if_pos rfl, if_neg ignored, if_neg ignored]
          rfl
      · rw [if_neg isEmpty]
        cases faulty : arrival.fault with
        | some fault =>
            rw [queryLoop, mwGetmcastreply, if_neg isEmpty, faulty]
        | none =>
            dsimp only
            cases named : arrival.named with
            | none =>
                rw [queryLoop, mwGetmcastreply_refused isEmpty faulty named]
                dsimp only
                rw [if_pos rfl, if_pos rfl]
                exact ih left { query with errno := some .EBADMSG }
            | some mapval =>
                dsimp only
                cases searched : searchKnown query.known.list mapval 0 query.known.count with
                | error fault =>
                    rw [queryLoop, mwGetmcastreply_named isEmpty faulty named, searched]
                    rfl
                | ok isKnown =>
                    cases isKnown with
                    | true =>
                        have again := ih (Nat.lt_succ_of_lt left)
                          { query with errno := arrival.decode.errno.or query.errno }
                        rw [queryLoop] at again
                        rw [queryLoop, mwGetmcastreply_named isEmpty faulty named, searched]
                        exact again
                    | false =>
                        rw [queryLoop, mwGetmcastreply_named isEmpty faulty named, searched]
                        dsimp only [Except.bind]
                        rw [if_neg Bool.false_ne_true]
                        cases (query.known.extend memory.heap).add mapval with
                        | error fault => rfl
                        | ok after =>
                            dsimp only [Except.map]
                            rw [if_neg (by decide)]
                            exact ih left ⟨_, after, arrival.lookups query.errno⟩

theorem answers_snoc (before : List Arrival) (arrival : Arrival) :
    answers (before ++ [arrival]) = answers before ++ arrival.answer.toList := by
  grind [answers]

section Lists

variable {before arrivals : List Arrival} {arrival : Arrival} {entry : Entry}
  {entries others : List Entry}

theorem lists_nil : Lists [] [] := ⟨.nil, fun _ member => by cases member⟩

theorem Lists.other (lists : Lists before entries) (noAnswer : arrival.answer = none) :
    Lists (before ++ [arrival]) entries := by
  have same : answers (before ++ [arrival]) = answers before := by
    rw [answers_snoc, noAnswer, Option.toList_none, List.append_nil]
  constructor
  · simp [same, lists.each]
  · simp_all [lists.first]

theorem Lists.mem_iff (lists : Lists before entries) (name : List Byte) :
    name ∈ entries.map Entry.name ↔ name ∈ (answers before).map Entry.name := lists.each.mem name

theorem Lists.first_snoc (lists : Lists before entries) (isEntry : entry ∈ entries) :
    (answers (before ++ [arrival])).find? (fun other => other.name = entry.name) = some entry := by
  rw [answers_snoc, List.find?_append, lists.first entry isEntry, Option.some_or]

theorem Lists.again (lists : Lists before entries) (isAnswer : arrival.answer = some entry)
    (isKnown : entry.name ∈ entries.map Entry.name) : Lists (before ++ [arrival]) entries := by
  constructor
  · simp_all [answers_snoc, List.map_append, lists.each.known]
  · simp_all [lists.first_snoc]

theorem Lists.new (lists : Lists before entries) (isAnswer : arrival.answer = some entry)
    (isNew : entry.name ∉ entries.map Entry.name) :
    Lists (before ++ [arrival]) (entries ++ [entry]) := by
  constructor
  · rw [answers_snoc, isAnswer, List.map_append, List.map_append]
    exact lists.each.new isNew
  · intro other isOther
    rcases List.mem_append.mp isOther with isOld | isLast
    · exact lists.first_snoc isOld
    · have absent : (answers before).find? (fun other => other.name = entry.name) = none := by
        rw [List.find?_eq_none]
        intro older isOlder sameName
        apply isNew
        rw [lists.mem_iff, ← of_decide_eq_true sameName]
        exact List.mem_map_of_mem isOlder
      grind [answers_snoc]

theorem Lists.unique (lists : Lists arrivals entries) (isOther : Lists arrivals others) :
    entries = others := by
  have sameNames := lists.each.unique isOther.each
  have found : ∀ {list : List Entry}, Lists arrivals list →
      list.map some = (list.map Entry.name).map fun name =>
        (answers arrivals).find? fun other => other.name = name := by
    intro list isList
    rw [List.map_map, List.map_inj_left]
    intro entry isEntry
    exact (isList.first entry isEntry).symm
  have same : entries.map some = others.map some := by
    rw [found lists, found isOther, sameNames]
  exact List.map_injective_iff.mpr (fun _ _ isSame => Option.some.inj isSame) same

end Lists

structure Represents (before : List Arrival) (query : Query) (entries : List Entry) : Prop where
  lists : Lists before entries
  shows : List.Forall₂ InstanceInfo.Shows query.gws entries
  known : query.known.Stored (entries.map Entry.name)
  fits : ∀ entry ∈ entries, entry.response.Fits
  errno : query.errno = errnoBehind before
  nonzero : zeroInfo ∉ query.gws

theorem errnoBehind_snoc (before : List Arrival) (arrival : Arrival) :
    errnoBehind (before ++ [arrival]) = arrival.leaves (errnoBehind before) :=
  List.foldl_append

theorem fill_ne_zeroInfo (arrival : Arrival) (reply : InstanceInfo) (mapval : List Byte)
    (map : Urlmap) : reply.fill mapval arrival.peer map ≠ zeroInfo := by
  intro isZero
  exact arrival.family (congrArg InstanceInfo.address isZero)

section Step

variable {memory : QueryMemory} {before : List Arrival} {query : Query} {entries : List Entry}
  {arrival : Arrival} (represents : Represents before query entries)
include represents

theorem Represents.search (mapval : List Byte) :
    searchKnown query.known.list mapval 0 query.known.count =
      .ok (decide (cstr mapval ∈ entries.map Entry.name)) := by
  apply represents.known.search_fits
  intro name isName
  obtain ⟨entry, isEntry, rfl⟩ := List.mem_map.mp isName
  exact (represents.fits entry isEntry).instanceName

theorem Represents.add (heap : Nat → Byte) (mapval : List Byte) :
    ∃ after, (query.known.extend heap).add mapval = .ok after ∧
      after.Stored (entries.map Entry.name ++ [mapval]) := by
  obtain ⟨extended, room⟩ := represents.known.extend heap
  exact extended.add room mapval

theorem Represents.unchanged {errno : Option Errno}
    (lists : Lists (before ++ [arrival]) entries)
    (isErrno : errno = errnoBehind (before ++ [arrival])) :
    Represents (before ++ [arrival]) { query with errno := errno } entries :=
  ⟨lists, represents.shows, represents.known, represents.fits, isErrno, represents.nonzero⟩

end Step

theorem lookupErrno_some {map : Urlmap} {key value : List Byte}
    (isValue : urlmapgetvalue map key = some value) (errno : Option Errno) :
    lookupErrno map key errno = errno := by
  apply if_neg
  grind [urlmapgetvalue]

theorem Arrival.Reads.shows {arrival : Arrival} {response : Response} {map : Urlmap}
    (reads : arrival.Reads response map) (fits : response.Fits) (reply : InstanceInfo) :
    (reply.fill response.instanceName arrival.peer map).Shows ⟨response, arrival.peer⟩ := by
  have whole : ∀ {text : List Byte}, FitsIn mwMaxNameLen text →
      arrayString (CLib.strncpy mwMaxNameLen text) = some text := by
    intro text fitsIn
    have held := arrayString_strncpy fitsIn.1 fitsIn.2 []
    rw [List.append_nil] at held
    exact held
  refine ⟨?_, whole fits.instanceName, ?_, rfl⟩
  · rw [InstanceInfo.fill, reads.version]
    exact arrayString_strncpy fits.version.1 fits.version.2 _
  · simp [InstanceInfo.fill, reads.domain, whole, fits.domain]

theorem Represents.step (memory : QueryMemory) {before : List Arrival} {query : Query}
    {entries : List Entry} {arrival : Arrival} (represents : Represents before query entries)
    (sound : Sound before arrival) : ∃ after list, query.react memory arrival = .ok (some after) ∧
      Represents (before ++ [arrival]) after list := by
  have leaves := errnoBehind_snoc before arrival
  rw [← represents.errno, Arrival.leaves] at leaves
  rw [Query.react]
  by_cases isEmpty : arrival.datagram = []
  · -- the `errno` of the datagram before it is still there
    have ignored : query.errno = some .EBADMSG := represents.errno.trans (sound.empty isEmpty)
    have noAnswer : arrival.answer = none := by
      apply Arrival.answer_none
      intro given
      obtain ⟨response, isResponse⟩ := given
      obtain ⟨map, reads⟩ := Arrival.reads isResponse
      exact reads.nonempty isEmpty
    rw [if_pos isEmpty] at leaves
    rw [if_pos isEmpty, if_pos ignored]
    exact ⟨query, entries, rfl, represents.unchanged (represents.lists.other noAnswer) leaves.symm⟩
  · rw [if_neg isEmpty] at leaves
    rw [if_neg isEmpty, sound.faultless isEmpty]
    dsimp only
    cases named : arrival.named with
    | none =>
        have noAnswer : arrival.answer = none := by
          apply Arrival.answer_none
          intro given
          obtain ⟨response, isResponse⟩ := given
          obtain ⟨map, reads⟩ := Arrival.reads isResponse
          rw [reads.named] at named
          cases named
        rw [if_pos named] at leaves
        exact ⟨_, entries, rfl, represents.unchanged (represents.lists.other noAnswer) leaves.symm⟩
    | some mapval =>
        rw [named, if_neg (Option.some_ne_none mapval)] at leaves
        dsimp only
        rw [represents.search]
        by_cases isKnown : cstr mapval ∈ entries.map Entry.name
        · rw [decide_eq_true isKnown]
          refine ⟨_, entries, rfl, represents.unchanged ?_ leaves.symm⟩
          by_cases some_ : ∃ response, IsResponse arrival.datagram response
          · obtain ⟨response, isResponse⟩ := some_
            obtain ⟨map, reads⟩ := Arrival.reads isResponse
            have isName := Option.some.inj (named.symm.trans reads.named)
            rw [isName, cstr_eq_self (sound.plain response isResponse)] at isKnown
            exact represents.lists.again (Arrival.answer_response isResponse) isKnown
          · exact represents.lists.other (Arrival.answer_none some_)
        · rw [decide_eq_false isKnown]
          dsimp only
          obtain ⟨known, isAdded, isStored⟩ := represents.add memory.heap mapval
          rcases sound.new mapval isEmpty named with isOld | ⟨response, isResponse, fits⟩
          · exact absurd ((represents.lists.mem_iff _).mpr isOld) isKnown
          · obtain ⟨map, reads⟩ := Arrival.reads isResponse
            have isName := Option.some.inj (named.symm.trans reads.named)
            have isMap : arrival.map = map := by
              simp [Arrival.map, reads.srbmsg]
            rw [isName, cstr_eq_self fits.instanceName.1] at isKnown
            rw [isName] at isAdded isStored
            rw [isName, isMap, isAdded]
            have isNew : Entry.name ⟨response, arrival.peer⟩ ∉ entries.map Entry.name := isKnown
            refine ⟨_, entries ++ [⟨response, arrival.peer⟩], rfl,
              represents.lists.new (Arrival.answer_response isResponse) isNew, ?_, ?_, ?_, ?_, ?_⟩
            · exact List.rel_append represents.shows
                (.cons (reads.shows fits _) .nil)
            · rw [List.map_append]
              exact isStored
            · intro entry isEntry
              rcases List.mem_append.mp isEntry with isOld | isLast
              · exact represents.fits entry isOld
              · simp_all
            · show arrival.lookups query.errno = errnoBehind (before ++ [arrival])
              rw [Arrival.lookups, isMap, lookupErrno_some reads.domain,
                lookupErrno_some reads.version]
              exact leaves.symm
            · rw [List.mem_append, List.mem_singleton, not_or]
              exact ⟨represents.nonzero, fun isZero => fill_ne_zeroInfo _ _ _ _ isZero.symm⟩

theorem represents_start (heap : Nat → Byte) (known : KnownInstances) :
    Represents [] ⟨[], known.clear heap, none⟩ [] :=
  ⟨lists_nil, .nil, known.stored_clear heap, List.forall_mem_nil _, rfl, List.not_mem_nil⟩

def AllSound (before asked : List Arrival) : Prop :=
  ∀ front arrival, front ++ [arrival] <+: asked → Sound (before ++ front) arrival

theorem Represents.run (memory : QueryMemory) {before asked : List Arrival} {query : Query}
    {entries : List Entry} (represents : Represents before query entries)
    (sound : AllSound before asked) : ∃ after list,
      (∀ later, query.run memory (asked ++ later) = after.run memory later) ∧
        Represents (before ++ asked) after list := by
  induction asked generalizing before query entries with
  | nil =>
      grind
  | cons arrival asked ih =>
      have now := sound [] arrival ⟨asked, rfl⟩
      rw [List.append_nil] at now
      obtain ⟨next, list, reacts, isNext⟩ := represents.step memory now
      have later : AllSound (before ++ [arrival]) asked := by
        intro front other isPrefix
        have whole := sound (arrival :: front) other (List.cons_prefix_cons.mpr ⟨rfl, isPrefix⟩)
        rw [List.append_assoc, List.singleton_append]
        exact whole
      obtain ⟨after, listAfter, runs, isAfter⟩ := ih isNext later
      refine ⟨after, listAfter, ?_, ?_⟩
      · intro more
        rw [List.cons_append, Query.run, reacts]
        exact runs more
      · simp_all [List.append_assoc]

section Ended

variable {memory : QueryMemory} {query : Query} {errno : Option Errno} {unread arrivals : List Arrival}
  (nonzero : zeroInfo ∉ query.gws)
include nonzero

theorem takeWhile_ended : zeroInfo ∈ (query.ended memory errno unread).gws ∧
    (query.ended memory errno unread).gws.takeWhile (· ≠ zeroInfo) = query.gws := by
  constructor
  · exact List.mem_append_right _ List.mem_cons_self
  · have all : ∀ info ∈ query.gws, decide (info ≠ zeroInfo) = true := by
      intro info member
      apply decide_eq_true
      intro isZero
      exact nonzero (isZero ▸ member)
    rw [Query.ended, List.takeWhile_append_of_pos all, List.takeWhile_cons_of_neg (by simp),
      List.append_nil]

theorem listsAll_ended_iff :
    ListsAll (.ok (some (query.ended memory errno unread))) arrivals ↔
      errno = some .ETIME ∧ unread = [] ∧
        ∃ entries, List.Forall₂ InstanceInfo.Shows query.gws entries ∧ Lists arrivals entries := by
  obtain ⟨hasZero, shown⟩ := @takeWhile_ended memory query errno unread nonzero
  constructor
  · intro given
    obtain ⟨answer, entries, result, timedOut, isRead, _, shows, lists⟩ := given
    cases result
    rw [shown] at shows
    exact ⟨timedOut, isRead, entries, shows, lists⟩
  · intro given
    obtain ⟨timedOut, isRead, entries, shows, lists⟩ := given
    refine ⟨_, entries, rfl, timedOut, isRead, hasZero, ?_, lists⟩
    rw [shown]
    exact shows

end Ended

theorem Represents.listsAll {memory : QueryMemory} {arrivals : List Arrival} {query : Query}
    {entries : List Entry} (represents : Represents arrivals query entries) :
    ListsAll ((query.run memory []).map some) arrivals :=
  (listsAll_ended_iff represents.nonzero).mpr
    ⟨rfl, rfl, entries, represents.shows, represents.lists⟩

theorem urlmapdecodeFrom_errno (uninit : List Byte) (turns : Nat) (next : List Byte) :
    (urlmapdecodeFrom uninit turns next).errno ≠ some .ETIME := by
  induction turns generalizing next with
  | zero =>
      intro isTime
      cases isTime
  | succ turns ih =>
      by_cases malformed : (fieldAt next).Malformed
      · simp_all [urlmapdecodeFrom_malformed]
      · rw [urlmapdecodeFrom_wellFormed malformed, MapDecoded.push]
        dsimp only
        split_ifs
        · cases strchr next ampersand with
          | none =>
              simp
          | some amp => exact ih _
        · decide

theorem Arrival.decode_errno (arrival : Arrival) : arrival.decode.errno ≠ some .ETIME := by
  have isErrno : arrival.decode.errno = (decodeText arrival.uninit arrival.text).2 :=
    congrArg Prod.snd arrival.decode_text
  have isOther : some Errno.EBADMSG ≠ some .ETIME := by decide
  rw [isErrno, decodeText]
  cases findMarker arrival.text with
  | none => exact isOther
  | some commandlen =>
      dsimp only
      split_ifs
      · exact isOther
      · exact isOther
      · cases (urlmapdecode arrival.uninit (arrival.text.drop (commandlen + 1))).map with
        | none => exact isOther
        | some map => exact urlmapdecodeFrom_errno _ _ _

/-- Only the time-out sets this. -/
theorem errnoBehind_ne (arrivals : List Arrival) : errnoBehind arrivals ≠ some .ETIME := by
  induction arrivals using List.reverseRecOn with
  | nil =>
      intro isTime
      cases isTime
  | append_singleton before arrival ih =>
      rw [errnoBehind_snoc, Arrival.leaves]
      split_ifs
      · exact ih
      · decide
      · have notDecoded := arrival.decode_errno
        simp_all

def unclear (heap : Nat → Byte) : QueryMemory :=
  ⟨fun _ => ⟨List.replicate 8 1, [], [], []⟩, heap⟩

/-- Where it is not clear what memory holds, a response that is shown fits. -/
theorem Arrival.Reads.fits {arrival : Arrival} {response : Response} {map : Urlmap}
    (reads : arrival.Reads response map) {heap : Nat → Byte} {idx : Nat}
    (shows : ((((unclear heap).fresh idx).fill response.instanceName arrival.peer map)).Shows
      ⟨response, arrival.peer⟩) : response.Fits := by
  have whole : ∀ {text : List Byte}, arrayString (CLib.strncpy mwMaxNameLen text) = some text →
      FitsIn mwMaxNameLen text := by
    intro text held
    rw [← List.append_nil (CLib.strncpy mwMaxNameLen text)] at held
    exact arrayString_strncpy_inv List.not_mem_nil held
  obtain ⟨version, instanceName, domain, _⟩ := shows
  rw [InstanceInfo.fill, reads.version] at version
  rw [InstanceInfo.fill, reads.domain] at domain
  have noNul : 0 ∉ (List.replicate 8 (1 : Byte)).drop 7 := by decide
  exact ⟨arrayString_strncpy_inv noNul version, whole instanceName, whole domain⟩

theorem ListsAll.faultless {memory : QueryMemory} {query : Query} {arrival : Arrival}
    {arrivals : List Arrival} (listsAll : ListsAll ((query.run memory [arrival]).map some) arrivals)
    (nonempty : arrival.datagram ≠ []) : arrival.fault = none := by
  cases faulty : arrival.fault with
  | none => rfl
  | some fault =>
      obtain ⟨answer, list, result, _⟩ := listsAll
      rw [Query.run, Query.react, if_neg nonempty, faulty] at result
      cases result

section Needed

variable {heap : Nat → Byte} {before : List Arrival} {query : Query} {entries : List Entry}
  {arrival : Arrival} (represents : Represents before query entries)
  (listsAll : ListsAll ((query.run (unclear heap) [arrival]).map some) (before ++ [arrival]))
include represents listsAll

/-- A datagram with a name is listed unless its name is there. -/
theorem Represents.named_cases {mapval : List Byte} (nonempty : arrival.datagram ≠ [])
    (faultless : arrival.fault = none) (named : arrival.named = some mapval) :
    ∃ infos list, List.Forall₂ InstanceInfo.Shows (query.gws ++ infos) list ∧
      Lists (before ++ [arrival]) list ∧
        (cstr mapval ∈ entries.map Entry.name ∧ infos = [] ∨
          cstr mapval ∉ entries.map Entry.name ∧ infos =
            [((unclear heap).fresh query.gws.length).fill mapval arrival.peer arrival.map]) := by
  by_cases isKnown : cstr mapval ∈ entries.map Entry.name
  · have reacts : query.react (unclear heap) arrival =
        .ok (some { query with errno := arrival.decode.errno.or query.errno }) := by
      rw [Query.react, if_neg nonempty, faultless, named]
      dsimp only
      rw [represents.search, decide_eq_true isKnown]
    rw [Query.run, reacts] at listsAll
    obtain ⟨_, _, list, shows, lists⟩ := (listsAll_ended_iff represents.nonzero).mp listsAll
    grind
  · obtain ⟨known, isAdded, _⟩ := represents.add heap mapval
    have reacts : query.react (unclear heap) arrival = .ok (some ⟨query.gws ++
        [((unclear heap).fresh query.gws.length).fill mapval arrival.peer arrival.map], known,
          arrival.lookups query.errno⟩) := by
      rw [Query.react, if_neg nonempty, faultless, named]
      dsimp only
      rw [represents.search, decide_eq_false isKnown]
      dsimp only
      rw [show (unclear heap).heap = heap from rfl, isAdded]
    have nonzero : zeroInfo ∉ query.gws ++
        [((unclear heap).fresh query.gws.length).fill mapval arrival.peer arrival.map] := by
      rw [List.mem_append, List.mem_singleton, not_or]
      exact ⟨represents.nonzero, fun isZero => fill_ne_zeroInfo _ _ _ _ isZero.symm⟩
    rw [Query.run, reacts] at listsAll
    obtain ⟨_, _, list, shows, lists⟩ := (listsAll_ended_iff nonzero).mp listsAll
    exact ⟨_, list, shows, lists, .inr ⟨isKnown, rfl⟩⟩

theorem Represents.empty (isEmpty : arrival.datagram = []) :
    errnoBehind before = some .EBADMSG := by
  by_contra notIgnored
  rw [← represents.errno] at notIgnored
  rw [Query.run, Query.react, if_pos isEmpty, if_neg notIgnored] at listsAll
  have timedOut := ((listsAll_ended_iff represents.nonzero).mp listsAll).1
  exact errnoBehind_ne before (represents.errno.symm.trans timedOut)

/-- A response of another instance is shown, so it fits. -/
theorem Represents.fits_of_new {response : Response} (isResponse : IsResponse arrival.datagram response)
    (isNew : response.instanceName ∉ entries.map Entry.name) : response.Fits := by
  obtain ⟨map, reads⟩ := Arrival.reads isResponse
  obtain ⟨infos, list, shows, lists, given⟩ := represents.named_cases listsAll reads.nonempty
    (listsAll.faultless reads.nonempty) reads.named
  have isNewEntry : Entry.name ⟨response, arrival.peer⟩ ∉ entries.map Entry.name := isNew
  have isList := lists.unique
    (represents.lists.new (Arrival.answer_response isResponse) isNewEntry)
  rw [isList] at shows
  have length := represents.shows.length_eq
  rcases given with ⟨_, isInfos⟩ | ⟨_, isInfos⟩
  · have longer := shows.length_eq
    simp_all [List.append_nil, List.length_append]
  · have last := List.forall₂_drop_append _ _ _ shows
    have isMap : arrival.map = map := by
      simp [Arrival.map, reads.srbmsg]
    rw [isInfos, ← length, List.drop_left, isMap] at last
    cases last with
    | cons shown _ => exact reads.fits shown

theorem Represents.sound : Sound before arrival := by
  have plainOld : ∀ {name : List Byte}, name ∈ entries.map Entry.name → 0 ∉ name := by
    intro name isOld
    obtain ⟨entry, isEntry, rfl⟩ := List.mem_map.mp isOld
    exact (represents.fits entry isEntry).instanceName.1
  refine ⟨represents.empty listsAll, listsAll.faultless, ?_, ?_⟩
  · intro response isResponse
    by_cases isOld : response.instanceName ∈ entries.map Entry.name
    · exact plainOld isOld
    · exact (represents.fits_of_new listsAll isResponse isOld).instanceName.1
  · intro mapval nonempty named
    by_cases isKnown : cstr mapval ∈ entries.map Entry.name
    · exact .inl ((represents.lists.mem_iff _).mp isKnown)
    · right
      by_cases some_ : ∃ response, IsResponse arrival.datagram response
      · obtain ⟨response, isResponse⟩ := some_
        obtain ⟨map, reads⟩ := Arrival.reads isResponse
        have isName := Option.some.inj (named.symm.trans reads.named)
        refine ⟨response, isResponse, represents.fits_of_new listsAll isResponse ?_⟩
        grind [cstr_eq_self]
      · obtain ⟨infos, list, shows, lists, given⟩ := represents.named_cases listsAll nonempty
          (listsAll.faultless nonempty) named
        have isList := lists.unique (represents.lists.other (Arrival.answer_none some_))
        have length := represents.shows.length_eq
        have longer := shows.length_eq
        grind

end Needed

theorem allSound_of_lists (heap : Nat → Byte) {query : Query} {arrivals : List Arrival}
    (represents : Represents [] query [])
    (lists : ∀ asked, asked <+: arrivals →
      ListsAll ((query.run (unclear heap) asked).map some) asked) :
    ∀ asked, asked <+: arrivals → AllSound [] asked := by
  intro asked
  induction asked using List.reverseRecOn with
  | nil =>
      intro _ front arrival isPrefix
      simp_all
  | append_singleton before arrival ih =>
      intro isPrefix front other isFront
      have soundBefore := ih ((List.prefix_append _ _).trans isPrefix)
      rcases List.prefix_concat_iff.mp isFront with isWhole | isEarlier
      · obtain ⟨isBefore, isArrival⟩ := List.append_inj' isWhole rfl
        obtain ⟨after, list, runs, isAfter⟩ := represents.run (unclear heap) soundBefore
        have listed := lists _ isPrefix
        rw [runs] at listed
        rw [isBefore, (List.singleton_inj.mp isArrival)]
        exact isAfter.sound listed
      · exact soundBefore front other isEarlier

/-- Whatever memory holds and however early the datagrams cease, the instances are listed, exactly
when each datagram that comes is sound behind those before it. -/
theorem mwbrokerquery_lists_iff {s sent : Int} (opened : s ≠ -1) (isSent : sent ≠ -1)
    (heap : Nat → Byte) (known : KnownInstances) (arrivals : List Arrival) :
    (∀ fresh asked, asked <+: arrivals →
      ListsAll (mwbrokerquery ⟨fresh, heap⟩ known s sent asked) asked) ↔
        ∀ before arrival, before ++ [arrival] <+: arrivals → Sound before arrival := by
  have start := represents_start heap known
  have isRun : ∀ fresh asked, mwbrokerquery ⟨fresh, heap⟩ known s sent asked =
      ((⟨[], known.clear heap, none⟩ : Query).run ⟨fresh, heap⟩ asked).map some := by
    intro fresh asked
    rw [mwbrokerquery, if_neg (not_or.mpr ⟨opened, isSent⟩),
      ← queryLoop_run ⟨fresh, heap⟩ (Nat.lt_succ_self _)]
  constructor
  · intro lists
    refine allSound_of_lists heap start ?_ arrivals (List.prefix_refl _)
    intro asked isPrefix
    have listed := lists (unclear heap).fresh asked isPrefix
    rw [isRun] at listed
    exact listed
  · intro sound fresh asked isPrefix
    have soundAsked : AllSound [] asked := fun before arrival isBefore =>
      sound before arrival (isBefore.trans isPrefix)
    obtain ⟨after, list, runs, isAfter⟩ := start.run ⟨fresh, heap⟩ soundAsked
    have toEnd := runs []
    rw [List.append_nil] at toEnd
    rw [isRun, toEnd]
    exact isAfter.listsAll

def versionParameter : Parameter :=
  ⟨srbVersion, ascii "0%2E9".toList, ascii "0.9".toList⟩

/-- The response of the instance `a` in the domain `d`. -/
def readyArrival : Arrival where
  datagram := messageFront srbReady srbResponseMarker versionParameter
    [⟨srbDomain, ascii "d".toList, ascii "d".toList⟩,
      ⟨srbInstance, ascii "a".toList, ascii "a".toList⟩] ++ srbMessageBoundry
  peer := [2, 0, 44, 61, 127, 0, 0, 1, 0, 0, 0, 0, 0, 0, 0, 0]
  uninit := []
  left := fun _ => ⟨none, none, 0, false⟩
  inFront := 0
  behind := [0]
  short := by decide
  goesOn := List.cons_ne_nil _ _
  family := by decide

theorem readyArrival_response : IsResponse readyArrival.datagram
    ⟨ascii "0.9".toList, ascii "a".toList, ascii "d".toList⟩ := by
  have version : versionParameter.WellFormed := by
    refine ⟨by decide, by decide +kernel, ?_⟩
    exact .ordinary (by unfold Ordinary; decide) (.escape (by decide)
      (.ordinary (by unfold Ordinary; decide) .empty))
  have letter : ∀ {name text : List Byte}, name ≠ [] → (∀ c ∈ name, isalnum c = true) →
      (∀ c ∈ text, isalnum c = true) → Parameter.WellFormed ⟨name, text, text⟩ :=
    fun named letters plain => ⟨named, letters, spelled_letters plain⟩
  refine ⟨versionParameter, _, _, ?_, .boundry, rfl, by decide, by decide, by decide⟩
  rw [List.forall_mem_cons, List.forall_mem_cons, List.forall_mem_singleton]
  exact ⟨version, letter (by decide) (by decide +kernel) (by decide +kernel),
    letter (by decide) (by decide +kernel) (by decide +kernel)⟩

/-- A single response is listed. -/
theorem mwbrokerquery_lists_ready : ListsAll (mwbrokerquery ⟨fun _ => zeroInfo, fun _ => 0⟩
    ⟨⟨0, fun _ => 0⟩, 0, 0, rfl⟩ 3 60 [readyArrival]) [readyArrival] := by
  have sound : ∀ before arrival, before ++ [arrival] <+: [readyArrival] → Sound before arrival := by
    intro before arrival isPrefix
    have isArrival : arrival = readyArrival := by
      have member : arrival ∈ [readyArrival] :=
        isPrefix.subset (List.mem_append_right _ List.mem_cons_self)
      exact List.mem_singleton.mp member
    rw [isArrival]
    obtain ⟨map, reads⟩ := Arrival.reads readyArrival_response
    refine ⟨fun isEmpty => absurd isEmpty reads.nonempty, fun _ => reads.faultless, ?_, ?_⟩
    · intro response isResponse
      rw [isResponse.unique readyArrival_response]
      decide
    · intro mapval _ _
      exact .inr ⟨_, readyArrival_response, by unfold FitsIn; decide, by unfold FitsIn; decide,
        by unfold FitsIn; decide⟩
  exact (mwbrokerquery_lists_iff (by decide) (by decide) (fun _ => 0) _ _).mpr sound _ _
    (List.prefix_refl _)

def emptyArrival : Arrival := { readyArrival with datagram := [], short := Nat.zero_le _ }

/-- A query whose first datagram is empty ends there, and the response behind it is not read. -/
theorem mwbrokerquery_ends_empty :
    (mwbrokerquery ⟨fun _ => zeroInfo, fun _ => 0⟩ ⟨⟨0, fun _ => 0⟩, 0, 0, rfl⟩ 3 60
        [emptyArrival, readyArrival]).map (fun returned => returned.map Answer.gws) =
          .ok (some [zeroInfo, zeroInfo]) ∧
      ¬ListsAll (mwbrokerquery ⟨fun _ => zeroInfo, fun _ => 0⟩ ⟨⟨0, fun _ => 0⟩, 0, 0, rfl⟩ 3 60
        [emptyArrival, readyArrival]) [emptyArrival, readyArrival] := by
  refine ⟨rfl, ?_⟩
  intro given
  obtain ⟨answer, entries, result, timedOut, _⟩ := given
  cases result
  cases timedOut

end MidWay.Client

import MidWay.Shm.Reallocation

/-!
Contract: which requests for a large buffer `mwd` answers.

`do_alloc` leaves without an answer when the file cannot be opened, and an assertion
ends `mwd` when a write or the seek goes wrong. The seek does when the length of the
file, in whole pages, is no `long`. The requester waits for an answer in any case.

Owns: `getnextallocid`, `do_alloc`, the wait in `_mwalloc`, and the requests that are
answered as they should be.
-/

namespace MidWay.Mwd

open MidWay.CLib MidWay.Shm

variable {access : Int → Bool} {i length : Int} {turns : Nat}

structure BufferFiles where
  files : Int → Option Int
  lastallocedid : Int
  low : lowLargeBufferNumber ≤ lastallocedid
  high : lastallocedid ≤ intMax

/-- `i++`, which goes on from the lowest id when it overflows. -/
def nextAllocid (i : Int) : Int :=
  let i := (i + 1).bmod 4294967296
  if i < 0 then lowLargeBufferNumber + 1 else i

/-- The loop, with the turns left until `n` overflows. -/
def searchAllocid (access : Int → Bool) : Nat → Int → Option Int
  | 0, _ => none
  | turns + 1, i =>
      if access (nextAllocid i) then searchAllocid access turns (nextAllocid i)
      else some (nextAllocid i)

theorem nextAllocid_max : nextAllocid intMax = lowLargeBufferNumber + 1 := by decide

theorem nextAllocid_lt (low : lowLargeBufferNumber ≤ i) (high : i < intMax) :
    nextAllocid i = i + 1 := by
  simp only [lowLargeBufferNumber, intMax] at low high
  have exact : (i + 1).bmod 4294967296 = i + 1 :=
    Int.bmod_eq_of_le_mul_two (by omega) (by omega)
  simp only [nextAllocid, exact]
  rw [if_neg (by omega)]

theorem nextAllocid_range (low : lowLargeBufferNumber ≤ i) (high : i ≤ intMax) :
    lowLargeBufferNumber < nextAllocid i ∧ nextAllocid i ≤ intMax := by
  rcases Int.lt_or_eq_of_le high with below | rfl
  · grind [nextAllocid_lt]
  · rw [nextAllocid_max]
    decide

theorem searchAllocid_some {id : Int} (low : lowLargeBufferNumber ≤ i) (high : i ≤ intMax)
    (found : searchAllocid access turns i = some id) :
    lowLargeBufferNumber < id ∧ id ≤ intMax ∧ access id = false := by
  induction turns generalizing i with
  | zero => cases found
  | succ turns ih =>
      rcases nextAllocid_range low high with ⟨nextLow, nextHigh⟩
      grind [searchAllocid]

theorem searchAllocid_none (low : lowLargeBufferNumber ≤ i)
    (notFound : searchAllocid access turns i = none) (id : Int) (behind : i < id)
    (reached : id ≤ i + turns) (high : id ≤ intMax) : access id = true := by
  induction turns generalizing i with
  | zero => omega
  | succ turns ih =>
      grind [searchAllocid, nextAllocid_lt, intMax]

theorem searchAllocid_end (left : Nat) (low : lowLargeBufferNumber ≤ i) (high : i ≤ intMax)
    (enough : (turns : Int) = intMax - i + left) (notFound : searchAllocid access turns i = none) :
    searchAllocid access left intMax = none := by
  induction turns generalizing i with
  | zero =>
      grind
  | succ turns ih =>
      grind [searchAllocid, nextAllocid_lt]

/-- The values of `n` up to the overflow. -/
def allocTurns : Nat := 2147483647

/-- Without a find every id is taken. -/
theorem searchAllocid_all (low : lowLargeBufferNumber ≤ i) (high : i ≤ intMax)
    (notFound : searchAllocid access allocTurns i = none) (id : Int)
    (large : lowLargeBufferNumber < id) (within : id ≤ intMax) : access id = true := by
  have turns : (allocTurns : Int) = intMax := rfl
  by_cases behind : i < id
  · have positive : 0 ≤ i := Int.le_trans (by decide) low
    exact searchAllocid_none low notFound id behind (by omega) within
  · rcases Int.eq_ofNat_of_zero_le (Int.le_trans (by decide) low : (0 : Int) ≤ i) with ⟨left, rfl⟩
    have atEnd := searchAllocid_end left low high (by omega) notFound
    have some : 0 < left := by
      grind [lowLargeBufferNumber]
    rcases Nat.exists_eq_add_of_lt some with ⟨turns, rfl⟩
    rw [Nat.zero_add, searchAllocid, nextAllocid_max] at atEnd
    split_ifs at atEnd with taken
    by_cases isFirst : id = lowLargeBufferNumber + 1
    · simp [isFirst, taken]
    · refine searchAllocid_none (by decide) atEnd id (by omega) ?_ within
      simp only [lowLargeBufferNumber] at *
      omega

theorem searchAllocid_found {store : BufferFiles} {id : Int}
    (found : searchAllocid access allocTurns store.lastallocedid = some id) :
    lowLargeBufferNumber ≤ id ∧ id ≤ intMax := by
  rcases searchAllocid_some store.low store.high found with ⟨large, high, -⟩
  exact ⟨Int.le_of_lt large, high⟩

/-- The id, or `-ENOMEM`, and the id kept for the next search. -/
def BufferFiles.getnextallocid (store : BufferFiles) (access : Int → Bool) :
    Option Int × BufferFiles :=
  match found : searchAllocid access allocTurns store.lastallocedid with
  | none => (none, store)
  | some id =>
      (some id, { store with
        lastallocedid := id
        low := (searchAllocid_found found).1
        high := (searchAllocid_found found).2 })

theorem BufferFiles.getnextallocid_files (store : BufferFiles) (access : Int → Bool) :
    (store.getnextallocid access).2.files = store.files := by
  grind [BufferFiles.getnextallocid]

theorem BufferFiles.getnextallocid_fst (store : BufferFiles) (access : Int → Bool) :
    (store.getnextallocid access).1 = searchAllocid access allocTurns store.lastallocedid := by
  grind [BufferFiles.getnextallocid]

def allocReply : Int := 0x1210

structure Alloc where
  mtype : Int
  mwid : Int
  size : Int
  pages : Int
  bufferid : Int
deriving DecidableEq, Repr

/-- How the file operations of one request go: whether the directory can be searched and the file
be made, what the two writes return, and whether the file can be as long as is asked for. -/
structure FileOutcomes where
  searchable : Bool
  opens : Bool
  headWritten : Int
  seeks : Bool
  lastWritten : Int
deriving DecidableEq, Repr

/-- An unsigned long as a `long`. -/
def toLong (value : Int) : Int := value.bmod 18446744073709551616

def FileOutcomes.lseek (outcomes : FileOutcomes) (position : Int) : Int :=
  if position < 0 ∨ outcomes.seeks = false then -1 else position

/-- What the handler returns, or none when an assertion fails, what it sends, each message with
its receiver, and the files it leaves. -/
structure AllocDone where
  rc : Option Int
  sent : List (Int × Alloc)
  store : BufferFiles

def BufferFiles.setFile (store : BufferFiles) (id length : Int) : BufferFiles :=
  { store with files := setAt store.files id (some length) }

/-- `s / get_pagesize() + ((s % get_pagesize())?1:0)`, of an unsigned long. -/
def pagesOf (pagesize : Nat) (length : Int) : Int :=
  length / pagesize + if length % pagesize ≠ 0 then 1 else 0

section Handler

variable (pagesize : Nat) (outcomes : FileOutcomes)

def allocFile (store : BufferFiles) (allocmesg : Alloc) (id ps : Int) : AllocDone :=
  if outcomes.headWritten ≠ sizeofChunkhead then
    ⟨none, [], store.setFile id (max 0 outcomes.headWritten)⟩
  else
    let s := toLong (sizeT (ps * pagesize) - 1)
    let n := outcomes.lseek s
    if n ≠ s then ⟨none, [], store.setFile id sizeofChunkhead⟩
    else if outcomes.lastWritten ≠ 1 then ⟨none, [], store.setFile id sizeofChunkhead⟩
    else
      -- A seek that has failed leaves the position behind the head.
      let place := if n = -1 then sizeofChunkhead else n
      ⟨some 0, [(allocmesg.mwid, { allocmesg with bufferid := id, pages := ps })],
        store.setFile id (max sizeofChunkhead (place + 1))⟩

def doAlloc (store : BufferFiles) (request : Alloc) : AllocDone :=
  let allocmesg := { request with mtype := allocReply }
  match store.getnextallocid fun id => outcomes.searchable && (store.files id).isSome with
  | (none, store) =>
      ⟨some (rcOf .EINVAL), [(allocmesg.mwid, { allocmesg with bufferid := -1 })], store⟩
  | (some id, store) =>
      if allocmesg.size > longMax then ⟨some (rcOf .ENOMEM), [], store⟩
      else
        let s := toLong (sizeT (allocmesg.size + sizeofChunkhead))
        let ps := toLong (pagesOf pagesize (sizeT s))
        if outcomes.searchable && outcomes.opens && (store.files id).isNone then
          allocFile pagesize outcomes store allocmesg id ps
        else ⟨some (rcOf .ENOMEM), [], store⟩

end Handler

/-- `_mwalloc` from its request on, with the answers that come: none while it waits for one. -/
def mwallocLarge (attachMmap : Int → Option Int) : List Alloc → Option (Option Int)
  | [] => none
  | allocmesg :: _ =>
      if allocmesg.bufferid < lowLargeBufferNumber then some none
      else some ((attachMmap allocmesg.bufferid).map (· + sizeofChunkhead))

/-- The file is new, and as long as the fewest pages that hold the head and the data. -/
structure Granted (pagesize : Nat) (store after : BufferFiles) (request reply : Alloc) : Prop where
  large : lowLargeBufferNumber < reply.bufferid
  isNew : store.files reply.bufferid = none
  made : ∃ pages : Nat, after.files = setAt store.files reply.bufferid (some (pages * pagesize)) ∧
    request.size + sizeofChunkhead ≤ pages * pagesize ∧
    ∀ fewer : Nat, request.size + sizeofChunkhead ≤ fewer * pagesize → pages ≤ fewer

structure Refused (store after : BufferFiles) (reply : Alloc) : Prop where
  negative : reply.bufferid < 0
  same : after.files = store.files

/-- The requester gets one answer, which grants or refuses, and `_mwalloc` returns. -/
structure Answered (pagesize : Nat) (store : BufferFiles) (request : Alloc) (done : AllocDone) :
    Prop where
  answer : ∃ reply, done.sent = [(request.mwid, reply)] ∧ reply.mtype = allocReply ∧
    (Granted pagesize store done.store request reply ∨ Refused store done.store reply)
  returns : ∀ attachMmap, (mwallocLarge attachMmap (done.sent.map Prod.snd)).isSome = true

def FileOutcomes.Succeed (outcomes : FileOutcomes) : Prop :=
  outcomes.opens = true ∧ outcomes.headWritten = sizeofChunkhead ∧ outcomes.seeks = true ∧
    outcomes.lastWritten = 1

/-- The head and the data are at least a byte, and in whole pages no longer than a file can be. -/
def Fits (pagesize : Nat) (size : Int) : Prop :=
  0 < size + sizeofChunkhead ∧ pagesOf pagesize (size + sizeofChunkhead) * pagesize ≤ longMax + 1

def BufferFiles.AllTaken (store : BufferFiles) : Prop :=
  ∀ id, lowLargeBufferNumber < id → id ≤ intMax → (store.files id).isSome = true

section Pages

variable {pagesize : Nat}

theorem pagesOf_room (somePages : 0 < pagesize) (length : Int) :
    length ≤ pagesOf pagesize length * pagesize := by
  have divided := Int.ediv_mul_add_emod length pagesize
  have below := Int.emod_lt_of_pos length (Int.natCast_pos.mpr somePages)
  unfold pagesOf
  split_ifs with whole
  · grind
  · rw [Int.add_zero]
    omega

theorem pagesOf_least (somePages : 0 < pagesize) {pages : Int} (room : length ≤ pages * pagesize) :
    pagesOf pagesize length ≤ pages := by
  have divided := Int.ediv_mul_add_emod length pagesize
  have positive := Int.emod_nonneg length (Int.natCast_ne_zero.mpr (Nat.ne_of_gt somePages))
  unfold pagesOf
  split_ifs with whole
  · have fewer : length / pagesize * pagesize < pages * pagesize := by omega
    exact Int.lt_of_mul_lt_mul_right fewer (Int.natCast_nonneg pagesize)
  · have fewer : length / pagesize * pagesize ≤ pages * pagesize := by omega
    simp_all [Int.add_zero, Int.le_of_mul_le_mul_right]

end Pages

theorem toLong_exact {value : Int} (positive : 0 ≤ value) (small : value ≤ longMax) :
    toLong value = value := by
  simp only [longMax] at small
  exact Int.bmod_eq_of_le_mul_two (by omega) (by omega)

theorem toLong_le (value : Int) : toLong value ≤ longMax := by
  grind [toLong, longMax]

theorem sizeT_toLong (value : Int) : sizeT (toLong value) = sizeT value :=
  Int.bmod_emod

theorem sizeT_exact {value : Int} (positive : 0 ≤ value) (small : value < 18446744073709551616) :
    sizeT value = value :=
  Int.emod_eq_of_lt positive small

theorem toLong_sizeT_pred (value : Int) : toLong (sizeT value - 1) = toLong (value - 1) :=
  Int.emod_sub_bmod value 18446744073709551616

section Request

variable {pagesize : Nat} {size : Int}

theorem somePages (headFits : sizeofChunkhead ≤ pagesize) : 0 < pagesize := by
  grind [sizeofChunkhead]

theorem pagesOf_pos (headFits : sizeofChunkhead ≤ pagesize) (positive : 0 < length) :
    0 < pagesOf pagesize length := by
  have room := pagesOf_room (somePages headFits) length
  exact pos_of_mul_pos_left (Int.lt_of_lt_of_le positive room) (Int.natCast_nonneg pagesize)

/-- The pages of a request that is at least a byte with its head. -/
theorem pages_exact (headFits : sizeofChunkhead ≤ pagesize)
    (positive : 0 < size + sizeofChunkhead) (small : size ≤ longMax) :
    toLong (pagesOf pagesize (sizeT (toLong (sizeT (size + sizeofChunkhead))))) =
      pagesOf pagesize (size + sizeofChunkhead) := by
  have inRange : sizeT (size + sizeofChunkhead) = size + sizeofChunkhead := by
    grind [longMax, sizeofChunkhead, sizeT_exact]
  have few : size + sizeofChunkhead ≤ 1152921504606846977 * (pagesize : Int) := by
    grind [longMax, sizeofChunkhead]
  have least := pagesOf_least (somePages headFits) few
  have some := pagesOf_pos headFits positive
  grind [sizeT_toLong, longMax, toLong_exact]

end Request

section File

variable {pagesize : Nat} {outcomes : FileOutcomes} {store : BufferFiles} {request : Alloc}
  {id ps : Int}

/-- An answer says that all went well, and that the file is at most as long as a file can be. -/
theorem allocFile_sent (sent : (allocFile pagesize outcomes store request id ps).sent ≠ []) :
    outcomes.headWritten = sizeofChunkhead ∧ outcomes.lastWritten = 1 ∧
      outcomes.lseek (toLong (sizeT (ps * pagesize) - 1)) = toLong (sizeT (ps * pagesize) - 1) ∧
      ∃ length, sizeofChunkhead ≤ length ∧ length ≤ longMax + 1 ∧
        allocFile pagesize outcomes store request id ps =
          ⟨some 0, [(request.mwid, { request with bufferid := id, pages := ps })],
            store.setFile id length⟩ := by
  have short := toLong_le (sizeT (ps * pagesize) - 1)
  unfold allocFile at sent ⊢
  dsimp only at sent ⊢
  generalize toLong (sizeT (ps * pagesize) - 1) = s at sent short ⊢
  split_ifs at sent ⊢ with head seek last place
  · exact absurd rfl sent
  · exact absurd rfl sent
  · exact absurd rfl sent
  · refine ⟨not_not.mp head, not_not.mp last, not_not.mp seek, _, Int.le_max_left _ _, ?_, rfl⟩
    decide
  · refine ⟨not_not.mp head, not_not.mp last, not_not.mp seek, _, Int.le_max_left _ _, ?_, rfl⟩
    rw [not_not.mp seek]
    exact Int.max_le.mpr ⟨by decide, by omega⟩

theorem seeks_of_lseek {position : Int} (seek : outcomes.lseek position = position)
    (inFile : 0 ≤ position) : outcomes.seeks = true := by
  unfold FileOutcomes.lseek at seek
  grind

/-- The file has the length that is asked for, if that is a `long`. -/
theorem allocFile_whole (head : outcomes.headWritten = sizeofChunkhead)
    (seeks : outcomes.seeks = true) (last : outcomes.lastWritten = 1)
    (long : sizeofChunkhead ≤ ps * pagesize) (fits : ps * pagesize ≤ longMax + 1) :
    allocFile pagesize outcomes store request id ps =
      ⟨some 0, [(request.mwid, { request with bufferid := id, pages := ps })],
        store.setFile id (ps * pagesize)⟩ := by
  have exact : toLong (sizeT (ps * pagesize) - 1) = ps * pagesize - 1 := by
    grind [toLong_sizeT_pred, sizeofChunkhead, toLong_exact]
  have positive : 0 ≤ ps * pagesize - 1 := by
    grind [sizeofChunkhead]
  have seek : outcomes.lseek (ps * pagesize - 1) = ps * pagesize - 1 := by
    refine if_neg (not_or.mpr ⟨Int.not_lt.mpr positive, ?_⟩)
    rw [seeks]
    decide
  unfold allocFile
  grind

end File

section Answers

variable {pagesize : Nat} {outcomes : FileOutcomes} {store : BufferFiles} {request : Alloc}

theorem BufferFiles.getnextallocid_some {id : Int}
    (found : (store.getnextallocid access).1 = some id) :
    lowLargeBufferNumber < id ∧ id ≤ intMax ∧ access id = false := by
  rw [store.getnextallocid_fst access] at found
  exact searchAllocid_some store.low store.high found

theorem BufferFiles.getnextallocid_none (notFound : (store.getnextallocid access).1 = none)
    (id : Int) (large : lowLargeBufferNumber < id) (within : id ≤ intMax) : access id = true := by
  rw [store.getnextallocid_fst access] at notFound
  exact searchAllocid_all store.low store.high notFound id large within

theorem doAlloc_refused (notFound : (store.getnextallocid fun id =>
    outcomes.searchable && (store.files id).isSome).1 = none) :
    doAlloc pagesize outcomes store request =
      ⟨some (rcOf .EINVAL), [(request.mwid, { request with mtype := allocReply, bufferid := -1 })],
        (store.getnextallocid fun id => outcomes.searchable && (store.files id).isSome).2⟩ := by
  grind [doAlloc]

/-- With an id the answer depends on the file. -/
theorem doAlloc_found {id : Int} (found : (store.getnextallocid fun id =>
    outcomes.searchable && (store.files id).isSome).1 = some id) :
    ∃ after, after.files = store.files ∧ doAlloc pagesize outcomes store request =
      if request.size > longMax then ⟨some (rcOf .ENOMEM), [], after⟩
      else if outcomes.searchable && outcomes.opens && (store.files id).isNone then
        allocFile pagesize outcomes after { request with mtype := allocReply } id
          (toLong (pagesOf pagesize (sizeT (toLong (sizeT (request.size + sizeofChunkhead))))))
      else ⟨some (rcOf .ENOMEM), [], after⟩ := by
  have files := store.getnextallocid_files fun id =>
    outcomes.searchable && (store.files id).isSome
  grind [doAlloc]

theorem Answered.of_sent {done : AllocDone} {reply : Alloc}
    (sent : done.sent = [(request.mwid, reply)]) (isReply : reply.mtype = allocReply)
    (outcome : Granted pagesize store done.store request reply ∨
      Refused store done.store reply) : Answered pagesize store request done where
  answer := ⟨reply, sent, isReply, outcome⟩
  returns := by
    intro attachMmap
    grind [List.map_cons, mwallocLarge]

theorem Answered.sent_ne_nil {done : AllocDone} (answered : Answered pagesize store request done) :
    done.sent ≠ [] := by
  rcases answered.answer with ⟨reply, sent, -⟩
  rw [sent]
  exact List.cons_ne_nil _ _

theorem setAt_eq {α : Type} (map : Int → α) (key : Int) (value : α) : setAt map key value key = value :=
  if_pos rfl

/-- The file of a granted request is as long as was asked for. -/
theorem Granted.fits {after : BufferFiles} {reply : Alloc} (headFits : sizeofChunkhead ≤ pagesize)
    (granted : Granted pagesize store after request reply)
    (isLength : after.files reply.bufferid = some length) (some : sizeofChunkhead ≤ length)
    (short : length ≤ longMax + 1) : Fits pagesize request.size := by
  rcases granted.made with ⟨pages, made, room, least⟩
  rw [made, setAt_eq, Option.some.injEq] at isLength
  constructor
  · by_contra negative
    have none := least 0 (by omega)
    grind [sizeofChunkhead]
  · have fewer := pagesOf_least (somePages headFits) room
    have product : pagesOf pagesize (request.size + sizeofChunkhead) * pagesize ≤
        (pages : Int) * pagesize :=
      Int.mul_le_mul_of_nonneg_right fewer (Int.natCast_nonneg pagesize)
    omega

/-- The condition is enough when there is an id. -/
theorem doAlloc_granted (headFits : sizeofChunkhead ≤ pagesize) {id : Int}
    (found : (store.getnextallocid fun id =>
      outcomes.searchable && (store.files id).isSome).1 = some id)
    (searchable : outcomes.searchable = true) (succeed : outcomes.Succeed)
    (fits : Fits pagesize request.size) :
    Answered pagesize store request (doAlloc pagesize outcomes store request) := by
  rcases store.getnextallocid_some found with ⟨large, -, free⟩
  rcases doAlloc_found found with ⟨after, files, done⟩
  rcases succeed with ⟨opens, head, seeks, last⟩
  have missing : store.files id = none := by
    simp_all [Bool.true_and]
  have room := pagesOf_room (somePages headFits) (request.size + sizeofChunkhead)
  have some := pagesOf_pos headFits fits.1
  have small : request.size ≤ longMax := by
    have upper := fits.2
    simp only [sizeofChunkhead] at room upper
    omega
  have long : sizeofChunkhead ≤ pagesOf pagesize (request.size + sizeofChunkhead) * pagesize := by
    have one := Int.mul_le_mul_of_nonneg_right some (Int.natCast_nonneg pagesize)
    omega
  rw [done, if_neg (Int.not_lt.mpr small), searchable, opens, missing]
  rw [if_pos (show (true && true && (none : Option Int).isNone) = true from rfl),
    pages_exact headFits fits.1 small, allocFile_whole head seeks last long fits.2]
  refine Answered.of_sent rfl rfl (Or.inl ⟨large, missing, ?_⟩)
  rcases Int.eq_ofNat_of_zero_le (Int.le_of_lt some) with ⟨pages, isPages⟩
  refine ⟨pages, ?_, ?_, ?_⟩
  · rw [isPages, ← files]
    rfl
  · simp_all
  · intro fewer enough
    have least := pagesOf_least (somePages headFits) enough
    omega

/-- An answer with an id needs the condition. -/
theorem Answered.condition (headFits : sizeofChunkhead ≤ pagesize) {id : Int}
    (found : (store.getnextallocid fun id =>
      outcomes.searchable && (store.files id).isSome).1 = some id)
    (answered : Answered pagesize store request (doAlloc pagesize outcomes store request)) :
    outcomes.searchable = true ∧ outcomes.Succeed ∧ Fits pagesize request.size := by
  rcases store.getnextallocid_some found with ⟨large, -, -⟩
  rcases doAlloc_found found with ⟨after, files, done⟩
  have sent := answered.sent_ne_nil
  rw [done] at sent answered
  split_ifs at sent answered with tooLarge opened
  · exact absurd rfl sent
  · rcases allocFile_sent sent with ⟨head, last, seek, length, holdsHead, short, file⟩
    rw [file] at answered
    rcases answered.answer with ⟨reply, isSent, -, outcome⟩
    simp only [List.cons.injEq, Prod.mk.injEq, and_true, true_and] at isSent
    have granted : Granted pagesize store (after.setFile id length) request reply := by
      rcases outcome with granted | refused
      · exact granted
      · have negative := refused.negative
        grind [lowLargeBufferNumber]
    have isLength : (after.setFile id length).files reply.bufferid = some length := by
      rw [← isSent]
      exact setAt_eq _ _ _
    have fits := granted.fits headFits isLength holdsHead short
    simp only [Bool.and_eq_true] at opened
    have pages := pagesOf_pos headFits fits.1
    have someLength : 0 < pagesOf pagesize (request.size + sizeofChunkhead) * pagesize :=
      Int.mul_pos pages (Int.natCast_pos.mpr (somePages headFits))
    have upper := fits.2
    rw [pages_exact headFits fits.1 (Int.not_lt.mp tooLarge), toLong_sizeT_pred,
      toLong_exact (by omega) (by omega)] at seek
    exact ⟨opened.1.1, ⟨opened.1.2, head, seeks_of_lseek seek (by omega), last⟩, fits⟩
  · exact absurd rfl sent

/-- A request is answered exactly when the directory can be searched and either no id is free, or
the file operations succeed and the file is not too long. -/
theorem doAlloc_answered_iff (headFits : sizeofChunkhead ≤ pagesize) :
    Answered pagesize store request (doAlloc pagesize outcomes store request) ↔
      outcomes.searchable = true ∧
        (store.AllTaken ∨ outcomes.Succeed ∧ Fits pagesize request.size) := by
  cases found : (store.getnextallocid fun id =>
      outcomes.searchable && (store.files id).isSome).1 with
  | none =>
      have taken := store.getnextallocid_none found
      have allTaken : outcomes.searchable = true ∧ store.AllTaken := by
        have first := taken (lowLargeBufferNumber + 1) (by decide) (by decide)
        refine ⟨(Bool.and_eq_true_iff.mp first).1, ?_⟩
        intro id large within
        exact (Bool.and_eq_true_iff.mp (taken id large within)).2
      have answered : Answered pagesize store request
          (doAlloc pagesize outcomes store request) := by
        rw [doAlloc_refused found]
        exact Answered.of_sent rfl rfl (Or.inr ⟨show (-1 : Int) < 0 by decide,
          store.getnextallocid_files _⟩)
      exact ⟨fun _ => ⟨allTaken.1, Or.inl allTaken.2⟩, fun _ => answered⟩
  | some id =>
      constructor
      · intro answered
        rcases answered.condition headFits found with ⟨searchable, succeed, fits⟩
        exact ⟨searchable, Or.inr ⟨succeed, fits⟩⟩
      · rintro ⟨searchable, allTaken | ⟨succeed, fits⟩⟩
        · rcases store.getnextallocid_some found with ⟨large, within, free⟩
          rw [searchable, allTaken id large within] at free
          cases free
        · exact doAlloc_granted headFits found searchable succeed fits

end Answers

/-- `mwd` as it starts. -/
def noFiles : BufferFiles := ⟨fun _ => none, lowLargeBufferNumber, Int.le_refl _, by decide⟩

def allSucceed : FileOutcomes := ⟨true, true, sizeofChunkhead, true, 1⟩

/-- A request for 5000 bytes of a process. -/
theorem doAlloc_answered_iff_twoPages :
    Answered 4096 noFiles ⟨0x1200, 17, 5000, 0, -1⟩
        (doAlloc 4096 allSucceed noFiles ⟨0x1200, 17, 5000, 0, -1⟩) ↔
      allSucceed.searchable = true ∧
        (noFiles.AllTaken ∨ allSucceed.Succeed ∧ Fits 4096 5000) :=
  doAlloc_answered_iff (by decide)

/-- A file that cannot be opened leaves the requester waiting. -/
theorem openFails_unanswered : ¬∀ (outcomes : FileOutcomes) (store : BufferFiles) (request : Alloc),
    Answered 4096 store request (doAlloc 4096 outcomes store request) := by
  intro all
  have answered := (all { allSucceed with opens := false } noFiles
    ⟨0x1200, 17, 5000, 0, -1⟩).sent_ne_nil
  exact answered (by decide)

/-- A request for nearly `LONG_MAX` bytes ends `mwd`. -/
example : (doAlloc 4096 allSucceed noFiles ⟨0x1200, 17, longMax, 0, -1⟩).rc = none := by decide

end MidWay.Mwd

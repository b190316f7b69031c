import MidWay.CLib.Errno
import MidWay.CLib.Format

/-!
Contract: what `mwfetch` collects from the replies to one call.

Without `MWMULTIPLE` the data of all replies is joined. The pointer and the length that
the protocol stores to are kept from one turn to the next, and only `MWFAIL` is taken for
an error: another one has whatever is there joined once more.

Owns: `mwfetch`, and when it gives back what was fetched.
-/

namespace MidWay.Client

open MidWay.CLib

def mwFail : Int := 0
def mwSuccess : Int := 1
def mwMore : Int := 2

def mwMultiple : UInt32 := 0x00000040

/-- The data of a reply: the block it is in, none for no data, and its length. -/
structure Reply where
  block : Option (List Byte)
  len : Nat
  appreturncode : Int
  fits : len ≤ (block.getD []).length

/-- What one fetch of the protocol does. An error leaves the data that was stored before, or frees
it; it may store a length. -/
inductive Fetch where
  | reply (rc : Int) (reply : Reply)
  | error (rc : Int) (negative : rc < 0) (len : Option Nat) (freed : Bool)

def Fetch.rc : Fetch → Int
  | .reply rc _ => rc
  | .error rc _ _ _ => rc

def Reply.bytes (reply : Reply) : List Byte := (reply.block.getD []).take reply.len

def Fetch.bytes : Fetch → List Byte
  | .reply _ stored => stored.bytes
  | .error _ _ _ _ => []

/-- The caller's data and length, those the protocol stores to, and whether this is the first
turn. -/
structure FetchState where
  data : Option (List Byte)
  len : Nat
  appreturncode : Int
  pdata : Option (List Byte)
  pdatalen : Nat
  first : Bool

def Fetch.apply (state : FetchState) : Fetch → FetchState
  | .reply _ stored =>
      { state with
        pdata := stored.block
        pdatalen := stored.len
        appreturncode := stored.appreturncode }
  | .error _ _ len freed =>
      { state with
        pdata := if freed then none else state.pdata
        pdatalen := len.getD state.pdatalen }

section Loop

variable (garbage : Nat → Byte)

/-- The first bytes of a block, and what lies behind it, or in a block that is no more. -/
def readBlock (block : Option (List Byte)) (size : Nat) : List Byte :=
  (List.range size).map fun index => (block.getD []).getD index (garbage index)

/-- `realloc`: what a block held, and anything behind. -/
def realloc (block : Option (List Byte)) (size : Nat) : List Byte := readBlock garbage block size

def memcpy (dest : List Byte) (offset : Nat) (src : List Byte) : List Byte :=
  dest.take offset ++ src ++ dest.drop (offset + src.length)

/-- The data of the turn is joined to what was collected. -/
def FetchState.join (state : FetchState) : FetchState :=
  let block := realloc garbage state.data (state.len + state.pdatalen + 1)
  { state with
    first := false
    data := some (memcpy block state.len (readBlock garbage state.pdata state.pdatalen))
    len := state.len + state.pdatalen }

/-- `(*data)[*len] = '\\0'`. -/
def FetchState.terminate (state : FetchState) : FetchState :=
  { state with data := state.data.map fun block => block.set state.len 0 }

/-- The loop over the fetches; there is no result while it waits for one. -/
def collectReplies : FetchState → List Fetch → Option (Int × FetchState)
  | _, [] => none
  | state, fetch :: rest =>
      let state := fetch.apply state
      if fetch.rc = mwFail then some (fetch.rc, state)
      else if fetch.rc ≠ mwMore ∧ state.first = true then
        some (fetch.rc, { state with data := state.pdata, len := state.pdatalen })
      else if fetch.rc = mwMore then collectReplies (state.join garbage) rest
      else some (fetch.rc, (state.join garbage).terminate)

/-- `pointers` tells that no argument is a null pointer. -/
def mwfetch (pointers connected : Bool) (flags : UInt32) (data : Option (List Byte)) (len : Nat)
    (appreturncode : Int) (fetches : List Fetch) : Option (Int × FetchState) :=
  let state : FetchState := ⟨data, len, appreturncode, none, 0, true⟩
  if pointers = false then some (rcOf .EINVAL, state)
  else if connected = false then some (rcOf .ENOTCONN, state)
  else if flags &&& mwMultiple = 0 then collectReplies garbage { state with len := 0 } fetches
  else
    match fetches with
    | [] => none
    | fetch :: _ =>
        let state := fetch.apply { state with pdata := data, pdatalen := len }
        some (fetch.rc, { state with data := state.pdata, len := state.pdatalen })

end Loop

/-- The fetches for one handle: replies that more will follow, and the one that ends them. -/
structure Fetches where
  more : List Reply
  last : Fetch
  ended : last.rc ≠ mwMore

def Fetches.all (fetches : Fetches) : List Fetch :=
  fetches.more.map (Fetch.reply mwMore) ++ [fetches.last]

/-- The bytes of the replies before the last fetch. -/
def Fetches.before (fetches : Fetches) : List Byte := fetches.more.flatMap Reply.bytes

/-- The bytes are collected: they begin the data, and a NUL is behind them. Without any byte there
may be no data. -/
def Collected (state : FetchState) (bytes : List Byte) : Prop :=
  state.len = bytes.length ∧ ((state.data = none ∧ bytes = []) ∨
    ∃ block, state.data = some block ∧ block.take state.len = bytes ∧ block[state.len]? = some 0)

/-- On success everything is collected; else nothing is behind the earlier replies but what the
last fetch delivered. -/
structure Complete (fetches : Fetches) (rc : Int) (state : FetchState) : Prop where
  code : rc = fetches.last.rc
  success : rc = mwSuccess → Collected state (fetches.before ++ fetches.last.bytes)
  failure : rc ≠ mwSuccess → ∃ tail, tail <+: fetches.last.bytes ∧
    state.len = (fetches.before ++ tail).length ∧
    (state.data.getD []).take state.len = fetches.before ++ tail

/-- Whatever the caller and the memory hold, the fetches are collected. -/
def CollectsAll (fetches : Fetches) : Prop :=
  ∀ garbage data len appreturncode flags, flags &&& mwMultiple = 0 → ∃ rc state,
    mwfetch garbage true true flags data len appreturncode fetches.all = some (rc, state) ∧
      Complete fetches rc state

def Fetches.lengthBefore (fetches : Fetches) : Nat :=
  (fetches.more.getLast?.map Reply.len).getD 0

/-- A single reply has a NUL behind its data, and an error leaves no length. -/
structure Fetches.Clean (fetches : Fetches) : Prop where
  single : ∀ reply, fetches.more = [] → fetches.last = .reply mwSuccess reply →
    ∀ block, reply.block = some block → block[reply.len]? = some 0
  error : ∀ rc negative len freed, fetches.last = .error rc negative len freed →
    len.getD fetches.lengthBefore = 0

section Blocks

variable (garbage : Nat → Byte)

@[simp] theorem length_readBlock (block : Option (List Byte)) (size : Nat) :
    (readBlock garbage block size).length = size := by
  rw [readBlock, List.length_map, List.length_range]

theorem readBlock_take {block : Option (List Byte)} {size count : Nat} (few : count ≤ size)
    (inside : count ≤ (block.getD []).length) :
    (readBlock garbage block size).take count = (block.getD []).take count := by
  apply List.ext_getElem?
  grind [readBlock]

theorem Reply.readBlock (reply : Reply) :
    Client.readBlock garbage reply.block reply.len = reply.bytes := by
  have whole := readBlock_take garbage (Nat.le_refl reply.len) reply.fits
  rw [List.take_of_length_le (by rw [length_readBlock])] at whole
  exact whole

theorem length_memcpy {dest src : List Byte} {offset : Nat}
    (room : offset + src.length ≤ dest.length) : (memcpy dest offset src).length = dest.length := by
  grind [memcpy, List.length_append, List.length_take, List.length_drop]

theorem memcpy_take {dest src : List Byte} {offset : Nat} (room : offset ≤ dest.length) :
    (memcpy dest offset src).take (offset + src.length) = dest.take offset ++ src := by
  grind [memcpy, List.length_append, List.length_take, Nat.min_eq_left, List.take_left']

end Blocks

structure FetchState.Holds (state : FetchState) (bytes : List Byte) : Prop where
  len : state.len = bytes.length
  begins : (state.data.getD []).take state.len = bytes

section Turn

variable {garbage : Nat → Byte} {state : FetchState} {bytes : List Byte}

theorem FetchState.Holds.inside (holds : state.Holds bytes) :
    state.len ≤ (state.data.getD []).length := by
  have length := congrArg List.length holds.begins
  rw [List.length_take, ← holds.len] at length
  omega

variable (garbage) in
/-- A join appends what the protocol's pointer and length give, and leaves room for the NUL. -/
theorem FetchState.Holds.join (holds : state.Holds bytes) :
    ∃ block, (state.join garbage).data = some block ∧
      block.length = (state.join garbage).len + 1 ∧
      (state.join garbage).Holds (bytes ++ readBlock garbage state.pdata state.pdatalen) := by
  have grown : (realloc garbage state.data (state.len + state.pdatalen + 1)).length =
      state.len + state.pdatalen + 1 := length_readBlock _ _ _
  have read : (readBlock garbage state.pdata state.pdatalen).length = state.pdatalen :=
    length_readBlock _ _ _
  refine ⟨_, rfl, ?_, ?_, ?_⟩
  · rw [length_memcpy (by omega), grown]
    rfl
  · rw [List.length_append, read, ← holds.len]
    rfl
  · have start := @memcpy_take _ (readBlock garbage state.pdata state.pdatalen) state.len
      (show state.len ≤ (realloc garbage state.data (state.len + state.pdatalen + 1)).length by
        omega)
    rw [read, realloc, readBlock_take garbage (by omega) holds.inside, holds.begins] at start
    exact start

theorem FetchState.Holds.apply (holds : state.Holds bytes) (fetch : Fetch) :
    (fetch.apply state).Holds bytes := by
  cases fetch with
  | reply rc reply => exact ⟨holds.len, holds.begins⟩
  | error rc negative len freed => exact ⟨holds.len, holds.begins⟩

theorem collectReplies_more (reply : Reply) (rest : List Fetch) :
    collectReplies garbage state (.reply mwMore reply :: rest) =
      collectReplies garbage (((Fetch.reply mwMore reply).apply state).join garbage) rest := by
  rfl

variable (garbage) in
/-- The replies that more follow are all joined. -/
theorem collectReplies_replies (holds : state.Holds bytes) (more : List Reply) :
    ∃ next, (∀ rest, collectReplies garbage state (more.map (Fetch.reply mwMore) ++ rest) =
        collectReplies garbage next rest) ∧
      next.Holds (bytes ++ more.flatMap Reply.bytes) ∧
      next.pdatalen = (more.getLast?.map Reply.len).getD state.pdatalen ∧
      (more = [] → next = state) ∧ (more ≠ [] → next.first = false) := by
  induction more generalizing state bytes with
  | nil =>
      simp [List.flatMap_nil, List.append_nil, holds]
  | cons reply rest ih =>
      rcases (holds.apply (.reply mwMore reply)).join garbage with ⟨_, -, -, joined⟩
      have isReply : readBlock garbage ((Fetch.reply mwMore reply).apply state).pdata
          ((Fetch.reply mwMore reply).apply state).pdatalen = reply.bytes := reply.readBlock garbage
      rw [isReply] at joined
      rcases ih joined with ⟨next, runs, collected, length, same, later⟩
      refine ⟨next, ?_, ?_, ?_, fun empty => absurd empty (List.cons_ne_nil _ _), fun _ => ?_⟩
      · simp [List.map_cons, List.cons_append, collectReplies_more, runs]
      · simp_all [List.flatMap_cons, List.append_assoc]
      · rw [length, List.getLast?_cons]
        cases rest.getLast? <;> rfl
      · by_cases none : rest = []
        · rw [same none]
          rfl
        · exact later none

end Turn

/-- What the last fetch does to the state that the earlier ones leave. -/
def Fetches.settle (garbage : Nat → Byte) (next : FetchState) (fetches : Fetches) : FetchState :=
  let state := fetches.last.apply next
  if fetches.last.rc = mwFail then state
  else if next.first = true then { state with data := state.pdata, len := state.pdatalen }
  else (state.join garbage).terminate

structure Prepared (fetches : Fetches) (next : FetchState) : Prop where
  holds : next.Holds fetches.before
  isFirst : next.first = true ↔ fetches.more = []
  length : next.pdatalen = fetches.lengthBefore

section Last

variable {garbage : Nat → Byte} {fetches : Fetches} {next : FetchState}

theorem collectReplies_last (next : FetchState) (fetches : Fetches) :
    collectReplies garbage next [fetches.last] =
      some (fetches.last.rc, fetches.settle garbage next) := by
  have first : (fetches.last.apply next).first = next.first := by
    cases fetches.last with
    | reply rc reply => rfl
    | error rc negative len freed => rfl
  rw [collectReplies, Fetches.settle, first]
  by_cases fails : fetches.last.rc = mwFail
  · rw [if_pos fails, if_pos fails]
  · rw [if_neg fails, if_neg fails]
    by_cases isFirst : next.first = true
    · rw [if_pos ⟨fetches.ended, isFirst⟩, if_pos isFirst]
    · rw [if_neg (fun both => isFirst both.2), if_neg isFirst, if_neg fetches.ended]

theorem FetchState.Holds.terminate {state : FetchState} {bytes block : List Byte}
    (holds : state.Holds bytes) (isBlock : state.data = some block)
    (room : block.length = state.len + 1) : Collected state.terminate bytes := by
  refine ⟨holds.len, Or.inr ⟨block.set state.len 0, ?_, ?_, ?_⟩⟩
  · rw [FetchState.terminate, isBlock]
    rfl
  · have begins := holds.begins
    rw [isBlock, Option.getD_some] at begins
    exact (List.take_set_of_le (Nat.le_refl _)).trans begins
  · show (block.set state.len 0)[state.len]? = some 0
    rw [List.getElem?_set_self (by omega)]

theorem Collected.holds {state : FetchState} {bytes : List Byte}
    (collected : Collected state bytes) : state.Holds bytes := by
  rcases collected with ⟨len, ⟨none, empty⟩ | ⟨block, isBlock, begins, -⟩⟩
  · refine ⟨len, ?_⟩
    rw [none, empty, Option.getD_none, List.take_nil]
  · refine ⟨len, ?_⟩
    rw [isBlock]
    exact begins

variable (garbage) in
theorem FetchState.Holds.joined {bytes : List Byte} (holds : next.Holds bytes) (fetch : Fetch) :
    Collected ((fetch.apply next).join garbage).terminate
      (bytes ++ readBlock garbage (fetch.apply next).pdata (fetch.apply next).pdatalen) := by
  rcases (holds.apply fetch).join garbage with ⟨block, isBlock, room, joined⟩
  exact joined.terminate isBlock room

theorem Complete.of_failure {rc : Int} {state : FetchState} (tail : List Byte)
    (code : rc = fetches.last.rc) (fails : rc ≠ mwSuccess) (delivered : tail <+: fetches.last.bytes)
    (holds : state.Holds (fetches.before ++ tail)) : Complete fetches rc state :=
  ⟨code, fun success => absurd success fails, fun _ => ⟨tail, delivered, holds.len, holds.begins⟩⟩

theorem Complete.of_collected {rc : Int} {state : FetchState} (code : rc = fetches.last.rc)
    (collected : Collected state (fetches.before ++ fetches.last.bytes)) :
    Complete fetches rc state :=
  ⟨code, fun _ => collected, fun _ =>
    ⟨_, List.prefix_rfl, collected.holds.len, collected.holds.begins⟩⟩

theorem before_of_single (single : fetches.more = []) : fetches.before = [] := by
  rw [Fetches.before, single, List.flatMap_nil]

/-- A sequence that ends in a reply is collected, if a single one has a NUL behind it. -/
theorem complete_reply (prepared : Prepared fetches next) {rc : Int} {reply : Reply}
    (isLast : fetches.last = .reply rc reply)
    (single : fetches.more = [] → rc = mwSuccess →
      ∀ block, reply.block = some block → block[reply.len]? = some 0) :
    Complete fetches rc (fetches.settle garbage next) := by
  have code : rc = fetches.last.rc := by rw [isLast, Fetch.rc]
  have bytes : fetches.last.bytes = reply.bytes := by rw [isLast, Fetch.bytes]
  rw [Fetches.settle, ← code, isLast]
  by_cases fails : rc = mwFail
  · have appended : next.Holds (fetches.before ++ []) := by
      rw [List.append_nil]
      exact prepared.holds
    rw [if_pos fails]
    exact .of_failure [] code (fails ▸ by decide) List.nil_prefix (appended.apply _)
  rw [if_neg fails]
  by_cases isFirst : next.first = true
  · rw [if_pos isFirst]
    have alone := prepared.isFirst.mp isFirst
    have inside : reply.len = reply.bytes.length := by
      rw [Reply.bytes, List.length_take, Nat.min_eq_left reply.fits]
    by_cases success : rc = mwSuccess
    · refine .of_collected code ?_
      rw [before_of_single alone, bytes, List.nil_append]
      refine ⟨inside, ?_⟩
      cases isBlock : reply.block with
      | none =>
          refine Or.inl ⟨isBlock, ?_⟩
          rw [Reply.bytes, isBlock, Option.getD_none, List.take_nil]
      | some block =>
          refine Or.inr ⟨block, isBlock, ?_, single alone success block isBlock⟩
          show block.take reply.len = reply.bytes
          rw [Reply.bytes, isBlock, Option.getD_some]
    · refine .of_failure reply.bytes code success (bytes ▸ List.prefix_rfl) ?_
      rw [before_of_single alone, List.nil_append]
      exact ⟨inside, rfl⟩
  · rw [if_neg isFirst]
    refine .of_collected code ?_
    have joined := prepared.holds.joined garbage (.reply rc reply)
    have read : readBlock garbage ((Fetch.reply rc reply).apply next).pdata
        ((Fetch.reply rc reply).apply next).pdatalen = reply.bytes := reply.readBlock garbage
    rw [read] at joined
    rw [bytes]
    exact joined

/-- With an error nothing was delivered, so no length may be left. -/
theorem complete_error_iff (prepared : Prepared fetches next) {rc : Int} {negative : rc < 0}
    {len : Option Nat} {freed : Bool} (isLast : fetches.last = .error rc negative len freed) :
    Complete fetches rc (fetches.settle garbage next) ↔ len.getD fetches.lengthBefore = 0 := by
  have code : rc = fetches.last.rc := by rw [isLast, Fetch.rc]
  have delivered : fetches.last.bytes = [] := by rw [isLast, Fetch.bytes]
  have fails : rc ≠ mwFail := Int.ne_of_lt negative
  have unsuccessful : rc ≠ mwSuccess := Int.ne_of_lt (Int.lt_trans negative (by decide))
  have stored : (fetches.last.apply next).pdatalen = len.getD fetches.lengthBefore := by
    rw [isLast, ← prepared.length, Fetch.apply]
  have appends : (fetches.settle garbage next).len =
      fetches.before.length + len.getD fetches.lengthBefore := by
    rw [Fetches.settle, ← code, if_neg fails]
    by_cases isFirst : next.first = true
    · simp [before_of_single, stored, isFirst, prepared.isFirst.mp]
    · rw [if_neg isFirst, ← stored, ← (prepared.holds.apply fetches.last).len]
      rfl
  constructor
  · intro complete
    rcases complete.failure unsuccessful with ⟨tail, isDelivered, isLen, -⟩
    grind
  · intro nothing
    refine .of_failure [] code unsuccessful List.nil_prefix ?_
    rw [nothing] at stored
    rw [List.append_nil, Fetches.settle, ← code, if_neg fails]
    by_cases isFirst : next.first = true
    · rw [if_pos isFirst, before_of_single (prepared.isFirst.mp isFirst)]
      refine ⟨stored, ?_⟩
      grind
    · rw [if_neg isFirst]
      have joined := (prepared.holds.joined garbage fetches.last).holds
      grind [List.append_nil, readBlock]

theorem single_of_complete (prepared : Prepared fetches next) {reply : Reply} {block : List Byte}
    (alone : fetches.more = []) (isLast : fetches.last = .reply mwSuccess reply)
    (isBlock : reply.block = some block)
    (complete : Complete fetches mwSuccess (fetches.settle garbage next)) :
    block[reply.len]? = some 0 := by
  have settled : fetches.settle garbage next =
      { (Fetch.reply mwSuccess reply).apply next with data := some block, len := reply.len } := by
    have succeeds : ¬(Fetch.reply mwSuccess reply).rc = mwFail := show ¬mwSuccess = mwFail by decide
    rw [Fetches.settle, isLast, if_neg succeeds, if_pos (prepared.isFirst.mpr alone), ← isBlock]
    rfl
  rcases (complete.success rfl).2 with ⟨isNone, -⟩ | ⟨_, isData, -, terminated⟩
  · simp [settled] at isNone
  · simp_all

/-- What the code makes of any fetches, once the earlier ones are joined. -/
theorem complete_iff (prepared : Prepared fetches next) :
    Complete fetches fetches.last.rc (fetches.settle garbage next) ↔ fetches.Clean := by
  cases isLast : fetches.last with
  | reply rc reply =>
      constructor
      · intro complete
        refine ⟨fun stored alone isStored block isBlock => ?_, fun _ _ _ _ isError => ?_⟩
        · rw [isLast] at isStored
          cases isStored
          exact single_of_complete prepared alone isLast isBlock complete
        · simp [isLast] at isError
      · intro clean
        refine complete_reply prepared isLast fun alone success => ?_
        subst success
        exact clean.single reply alone isLast
  | error rc negative len freed =>
      rw [Fetch.rc, complete_error_iff prepared isLast]
      constructor
      · intro nothing
        refine ⟨fun stored _ isStored => ?_, fun _ _ _ _ isError => ?_⟩
        · simp [isLast] at isStored
        · simp_all
      · intro clean
        exact clean.error rc negative len freed isLast

end Last

theorem collectReplies_all (garbage : Nat → Byte) (data : Option (List Byte)) (code : Int)
    (fetches : Fetches) :
    ∃ next, Prepared fetches next ∧
      collectReplies garbage ⟨data, 0, code, none, 0, true⟩ fetches.all =
        some (fetches.last.rc, fetches.settle garbage next) := by
  have empty : FetchState.Holds ⟨data, 0, code, none, 0, true⟩ [] := ⟨rfl, List.take_zero⟩
  rcases collectReplies_replies garbage empty fetches.more with
    ⟨next, runs, holds, length, same, later⟩
  refine ⟨next, ⟨holds, ⟨fun isFirst => ?_, fun alone => by rw [same alone]⟩, length⟩, ?_⟩
  · simp_all
  · rw [Fetches.all, runs, collectReplies_last]

/-- The replies are collected exactly where a single one brings its NUL and an error leaves no
length. -/
theorem mwfetch_collects_iff (fetches : Fetches) : CollectsAll fetches ↔ fetches.Clean := by
  have collects : ∀ garbage data len code flags, flags &&& mwMultiple = 0 →
      mwfetch garbage true true flags data len code fetches.all =
        collectReplies garbage ⟨data, 0, code, none, 0, true⟩ fetches.all := by
    intro garbage data len code flags single
    simp only [mwfetch, if_pos single, Bool.true_eq_false, if_false]
  constructor
  · intro all
    rcases all (fun _ => 0) none 0 0 0 (by decide) with ⟨rc, state, ran, complete⟩
    rcases collectReplies_all (fun _ => 0) none 0 fetches with ⟨next, prepared, runs⟩
    rw [collects _ _ _ _ _ (by decide), runs] at ran
    cases ran
    exact (complete_iff prepared).mp complete
  · intro clean garbage data len code flags single
    rcases collectReplies_all garbage data code fetches with ⟨next, prepared, runs⟩
    refine ⟨_, _, (collects garbage data len code flags single).trans runs, ?_⟩
    exact (complete_iff prepared).mpr clean

/-- A byte of data with more to follow, and nothing more yet. -/
def laterAgain : Fetches :=
  { more := [⟨some [97, 0], 1, 0, by decide⟩]
    last := .error (rcOf .EAGAIN) (by decide) none false
    ended := by decide }

/-- The data is joined once more. -/
theorem mwfetch_repeats : ¬CollectsAll laterAgain := by
  intro all
  rcases all (fun _ => 0) none 0 0 0 (by decide) with ⟨rc, state, ran, complete⟩
  have result : mwfetch (fun _ => 0) true true 0 none 0 0 laterAgain.all =
      some (-11, ⟨some [97, 97, 0], 2, 0, some [97, 0], 1, false⟩) := rfl
  rw [result] at ran
  cases ran
  rcases complete.failure (by decide) with ⟨tail, isDelivered, isLen, -⟩
  have nothing : tail = [] := List.prefix_nil.mp isDelivered
  rw [nothing] at isLen
  cases isLen

end MidWay.Client

import MidWay.Mwd.Consistency

/-!
Contract: which service `mwunprovide` withdraws.

The id that is sent to `mwd` comes from the lookup that routes calls. It prefers
the first provider that is idle, and without one takes the last provider; whose
services these are does not matter to it, nor to `do_unprovide`.

Owns: `_mw_get_service_byname`, `mwunprovide`, what the lookup prefers, and the
exact case in which the service withdrawn is the caller's own.
-/

namespace MidWay.Mwd

open MidWay.CLib

variable {tables : Tables} {name : List Byte} {idx : Nat}

/-- `strncmp` of two service names. -/
def sameSvcname (first second : List Byte) : Bool := copySvcname first == copySvcname second

/-- The server behind an entry, where the entry is one of this name and type. -/
def Tables.serverOf (tables : Tables) (type : Int) (svcname : List Byte) (index : Nat) :
    Option Int :=
  let entry := tables.svctbl index
  if entry.server = unassigned then none
  else if entry.type ≠ type then none
  else if sameSvcname entry.servicename svcname then tables.getServerById entry.server else none

/-- The loop of the lookup, with `count` entries to go. -/
def Tables.selectService (tables : Tables) (type : Int) (svcname : List Byte) :
    Option Nat → Nat → Nat → Option Nat
  | selected, _, 0 => selected
  | selected, index, count + 1 =>
      match tables.serverOf type svcname index with
      | none => tables.selectService type svcname selected (index + 1) count
      | some srvidx =>
          if (tables.srvtbl srvidx).nowserving < 0 then some index
          else tables.selectService type svcname (some index) (index + 1) count

def Tables.getServiceByname (tables : Tables) (svcname : List Byte) (conv : Bool) : Int :=
  let type := if conv then mwConvSvc else mwCallSvc
  match tables.selectService type svcname none 0 tables.svctblLength with
  | none => rcOf .ENOENT
  | some index => orMask mwServiceMask index

/-- What a server process knows of itself: the number of services it has provided, and its id. -/
structure ServerProcess where
  attached : Bool
  provided : Int
  serverid : Int
  isServer : srvidOf serverid ≠ unassigned

/-- The message of `_mw_ipcsend_unprovide_for_id`, for an id of a server. -/
def ServerProcess.unprovideRequest (process : ServerProcess) (svcid : Int) : Provide :=
  ⟨srvidOf process.serverid, svcid, gwidOf process.serverid, [], 0, false, 0⟩

/-- The return code, the process and the tables after `mwd` has handled the request. -/
def mwunprovide (service : List Byte) (process : ServerProcess) (tables : Tables) :
    Int × ServerProcess × Tables :=
  if process.attached = false then (rcOf .ENOTCONN, process, tables)
  else if process.provided = 0 then (rcOf .ENOENT, process, tables)
  else
    let svcid := tables.getServiceByname service false
    if svcid < 0 then (svcid, process, tables)
    else
      let (reply, tables) := tables.doUnprovide (process.unprovideRequest svcid)
      (reply.returncode, { process with provided := process.provided - 1 }, tables)

/-- A call service of this name whose server is attached. -/
structure Candidate (tables : Tables) (name : List Byte) (idx : Nat) : Prop where
  inside : idx < tables.svctblLength
  assigned : (tables.svctbl idx).server ≠ unassigned
  isCall : (tables.svctbl idx).type = mwCallSvc
  named : copySvcname (tables.svctbl idx).servicename = copySvcname name
  server : ∃ srvidx, tables.getServerById (tables.svctbl idx).server = some srvidx

def Idle (tables : Tables) (idx : Nat) : Prop :=
  ∃ srvidx, tables.getServerById (tables.svctbl idx).server = some srvidx ∧
    (tables.srvtbl srvidx).nowserving < 0

/-- The first idle candidate, or the last one where none is idle. -/
structure Preferred (tables : Tables) (name : List Byte) (idx : Nat) : Prop where
  candidate : Candidate tables name idx
  first : Idle tables idx → ∀ earlier, earlier < idx → Candidate tables name earlier →
    ¬Idle tables earlier
  last : ¬Idle tables idx → ∀ other, Candidate tables name other →
    ¬Idle tables other ∧ other ≤ idx

theorem Preferred.unique {one two : Nat} (first : Preferred tables name one)
    (second : Preferred tables name two) : one = two := by
  by_cases oneIdle : Idle tables one
  · by_cases twoIdle : Idle tables two
    · apply Nat.le_antisymm
      · by_contra before
        exact first.first oneIdle two (by omega) second.candidate twoIdle
      · by_contra before
        exact second.first twoIdle one (by omega) first.candidate oneIdle
    · exact absurd oneIdle (second.last twoIdle one first.candidate).1
  · by_cases twoIdle : Idle tables two
    · exact absurd twoIdle (first.last oneIdle two second.candidate).1
    · exact Nat.le_antisymm (second.last twoIdle one first.candidate).2
        (first.last oneIdle two second.candidate).2

theorem serverOf_some {srvidx : Int} (inside : idx < tables.svctblLength)
    (found : tables.serverOf mwCallSvc name idx = some srvidx) :
    Candidate tables name idx ∧
      tables.getServerById (tables.svctbl idx).server = some srvidx := by
  unfold Tables.serverOf at found
  dsimp only at found
  split_ifs at found with free other named
  exact ⟨⟨inside, free, not_not.mp other, eq_of_beq named, srvidx, found⟩, found⟩

theorem serverOf_none (notFound : tables.serverOf mwCallSvc name idx = none) :
    ¬Candidate tables name idx := by
  intro candidate
  rcases candidate.server with ⟨srvidx, found⟩
  unfold Tables.serverOf at notFound
  dsimp only at notFound
  rw [if_neg candidate.assigned, if_neg (not_not.mpr candidate.isCall), sameSvcname,
    candidate.named, beq_self_eq_true, if_pos rfl, found] at notFound
  cases notFound

/-- What the loop has found after the entries from `index` on. -/
inductive Selected (tables : Tables) (name : List Byte) (selected : Option Nat) (index stop : Nat) :
    Option Nat → Prop
  | idle {idx : Nat} (lower : index ≤ idx) (candidate : Candidate tables name idx)
      (isIdle : Idle tables idx)
      (first : ∀ earlier, index ≤ earlier → earlier < idx → Candidate tables name earlier →
        ¬Idle tables earlier) : Selected tables name selected index stop (some idx)
  | busy {idx : Nat} (lower : index ≤ idx) (candidate : Candidate tables name idx)
      (noneIdle : ∀ other, index ≤ other → other < stop → Candidate tables name other →
        ¬Idle tables other ∧ other ≤ idx) : Selected tables name selected index stop (some idx)
  | old (none : ∀ other, index ≤ other → other < stop → ¬Candidate tables name other) :
      Selected tables name selected index stop selected

theorem selectService_selected (tables : Tables) (name : List Byte) (selected : Option Nat)
    (index count : Nat) (within : index + count ≤ tables.svctblLength) :
    Selected tables name selected index (index + count)
      (tables.selectService mwCallSvc name selected index count) := by
  induction count generalizing selected index with
  | zero =>
      apply Selected.old
      intro other lower upper
      omega
  | succ count ih =>
      have rest (again : Option Nat) := ih again (index + 1) (by omega)
      have stop : index + 1 + count = index + (count + 1) := by omega
      rw [stop] at rest
      rw [Tables.selectService]
      cases here : tables.serverOf mwCallSvc name index with
      | none =>
          have notHere := serverOf_none here
          have later {other : Nat} (lower : index ≤ other) (candidate : Candidate tables name other) :
              index + 1 ≤ other := by
            by_contra before
            have same : other = index := by omega
            rw [same] at candidate
            exact notHere candidate
          have found := rest selected
          dsimp only
          generalize tables.selectService mwCallSvc name selected (index + 1) count = result
            at found ⊢
          cases found with
          | idle lower candidate isIdle first =>
              grind [Selected.idle]
          | busy lower candidate noneIdle =>
              grind [Selected.busy]
          | old none =>
              grind [Selected.old]
      | some srvidx =>
          rcases serverOf_some (by omega) here with ⟨candidate, isServer⟩
          dsimp only
          split_ifs with isIdle
          · apply Selected.idle (Nat.le_refl _) candidate ⟨srvidx, isServer, isIdle⟩
            intro earlier lower upper
            omega
          · have hereBusy : ¬Idle tables index := by
              intro idle
              rcases idle with ⟨other, isOther, otherIdle⟩
              rw [isServer] at isOther
              cases isOther
              exact isIdle otherIdle
            have found := rest (some index)
            generalize tables.selectService mwCallSvc name (some index) (index + 1) count = result
              at found ⊢
            cases found with
            | idle lower nextCandidate nextIdle first =>
                grind [Selected.idle]
            | busy lower nextCandidate noneIdle =>
                grind [Selected.busy]
            | old none =>
                grind [Selected.busy]

/-- The lookup finds what it prefers, where there is a candidate. -/
theorem selectService_cases (tables : Tables) (name : List Byte) :
    (∃ idx, tables.selectService mwCallSvc name none 0 tables.svctblLength = some idx ∧
        Preferred tables name idx) ∨
      (tables.selectService mwCallSvc name none 0 tables.svctblLength = none ∧
        ∀ idx, ¬Candidate tables name idx) := by
  have found := selectService_selected tables name none 0 tables.svctblLength (by omega)
  rw [Nat.zero_add] at found
  generalize tables.selectService mwCallSvc name none 0 tables.svctblLength = result at found ⊢
  cases found with
  | @idle idx lower candidate isIdle first =>
      refine Or.inl ⟨idx, rfl, candidate, ?_, fun busy => absurd isIdle busy⟩
      simp_all [first]
  | @busy idx lower candidate noneIdle =>
      refine Or.inl ⟨idx, rfl, candidate, ?_, ?_⟩
      · intro isIdle
        exact absurd isIdle (noneIdle idx (Nat.zero_le _) candidate.inside candidate).1
      · intro _ other isCandidate
        exact noneIdle other (Nat.zero_le _) isCandidate.inside isCandidate
  | old none =>
      refine Or.inr ⟨rfl, ?_⟩
      intro idx candidate
      exact none idx (Nat.zero_le _) candidate.inside candidate

structure ProvidedBy (serverid : Int) (name : List Byte) (tables : Tables) (idx : Nat) : Prop where
  inside : idx < tables.svctblLength
  inUse : (tables.svctbl idx).type ≠ unassigned
  server : (tables.svctbl idx).server = serverid
  named : copySvcname (tables.svctbl idx).servicename = copySvcname name

/-- One service of the server is withdrawn and all other entries stay; where it has none, all
entries stay. -/
structure WithdrawsOwn (serverid : Int) (name : List Byte) (before after : Tables) : Prop where
  one : (∃ idx, ProvidedBy serverid name before idx) →
    ∃ idx, ProvidedBy serverid name before idx ∧ (after.svctbl idx).type = unassigned ∧
      ∀ other : Int, other ≠ idx → after.svctbl other = before.svctbl other
  none : (∀ idx, ¬ProvidedBy serverid name before idx) → after.svctbl = before.svctbl

/-- The lookup names an entry of the caller, or the caller has none and nothing is sent. -/
def FindsOwn (process : ServerProcess) (name : List Byte) (tables : Tables) : Prop :=
  (process.attached = true ∧ process.provided ≠ 0 ∧
      ∃ idx : Nat, Preferred tables name idx ∧ (tables.svctbl idx).server = process.serverid) ∨
    ((∀ idx, ¬ProvidedBy process.serverid name tables idx) ∧
      (process.attached = false ∨ process.provided = 0 ∨ ∀ idx, ¬Candidate tables name idx))

/-- The request clears the entry it names. -/
theorem doUnprovide_clears (inside : idx < tables.svctblLength) {pmesg : Provide}
    (names : pmesg.svcid = orMask mwServiceMask idx) :
    (tables.doUnprovide pmesg).2.svctbl =
      Function.update tables.svctbl idx (tables.svctbl idx).cleared := by
  have fits := tables.svctblFits
  have lower : (0 : Int) ≤ idx := Int.natCast_nonneg idx
  have upper : (idx : Int) < 16777216 := by omega
  have id : orMask mwServiceMask (idx : Int) = idx + mwServiceMask :=
    orMask_index isMask_service lower upper
  have filtered : svcidOf pmesg.svcid = idx + mwServiceMask := by
    rw [names, id]
    exact filterId_add isMask_service lower upper
  have index : indexOf pmesg.svcid = idx := by
    rw [names, id]
    exact indexOf_add isMask_service lower upper
  have found : tables.getserviceentry (svcidOf pmesg.svcid) = some (idx : Int) := by
    have positive : (idx : Int) + mwServiceMask ≠ 0 := by
      grind [mwServiceMask]
    unfold Tables.getserviceentry getEntry
    rw [filtered, if_pos positive]
    dsimp only
    rw [id2idx_add isMask_service lower upper, if_neg (by rw [unassigned]; omega),
      if_neg (by omega)]
  have isService : svcidOf pmesg.svcid ≠ unassigned := by
    grind [add_mask_ne_unassigned, isMask_service]
  unfold Tables.doUnprovide
  rw [found]
  dsimp only
  rw [(delservice_deleted isService _).1, index,
    (useProvider_unchanged _ (tables.svctbl idx)).svctbl]
  rfl

theorem getServiceByname_some
    (found : tables.selectService mwCallSvc name none 0 tables.svctblLength = some idx) :
    tables.getServiceByname name false = orMask mwServiceMask idx := by
  simp [found, Tables.getServiceByname]

theorem getServiceByname_none
    (found : tables.selectService mwCallSvc name none 0 tables.svctblLength = none) :
    tables.getServiceByname name false = rcOf .ENOENT := by
  simp [found, Tables.getServiceByname]

/-- A request is sent for the entry the lookup prefers. -/
theorem mwunprovide_preferred {process : ServerProcess} (attached : process.attached = true)
    (provided : process.provided ≠ 0) (preferred : Preferred tables name idx) :
    (mwunprovide name process tables).2.2.svctbl =
      Function.update tables.svctbl idx (tables.svctbl idx).cleared := by
  rcases selectService_cases tables name with ⟨other, found, otherPreferred⟩ | ⟨_, none⟩
  · rw [otherPreferred.unique preferred] at found
    have fits := tables.svctblFits
    have inside := preferred.candidate.inside
    have positive : ¬orMask mwServiceMask (idx : Int) < 0 := by
      grind [orMask_index, mwServiceMask, isMask_service, Int.natCast_nonneg]
    unfold mwunprovide
    rw [attached, if_neg (by decide), if_neg provided]
    dsimp only
    rw [getServiceByname_some found, if_neg positive]
    exact doUnprovide_clears inside rfl
  · exact absurd preferred.candidate (none idx)

/-- Without a request the tables stay. -/
theorem mwunprovide_silent {process : ServerProcess}
    (silent : process.attached = false ∨ process.provided = 0 ∨ ∀ idx, ¬Candidate tables name idx) :
    (mwunprovide name process tables).2.2 = tables := by
  unfold mwunprovide
  split_ifs with notAttached noneProvided
  · rfl
  · rfl
  · rcases silent with detached | empty | noCandidate
    · exact absurd detached notAttached
    · exact absurd empty noneProvided
    · rcases selectService_cases tables name with ⟨idx, _, preferred⟩ | ⟨found, _⟩
      · exact absurd preferred.candidate (noCandidate idx)
      · dsimp only
        rw [getServiceByname_none found, if_pos (rcOf_neg .ENOENT)]

theorem cleared_ne {entry : Serviceentry} (inUse : entry.type ≠ unassigned) :
    entry.cleared ≠ entry := by
  intro same
  exact inUse (congrArg Serviceentry.type same).symm

theorem Candidate.inUse (candidate : Candidate tables name idx) :
    (tables.svctbl idx).type ≠ unassigned := by
  rw [candidate.isCall]
  decide

/-- `mwunprovide` withdraws one service of its caller, and nothing else, exactly where the entry
preferred for calls is one of the caller's, or where the caller has none and sends nothing. -/
theorem unprovide_withdraws_own (process : ServerProcess) (name : List Byte) (tables : Tables) :
    WithdrawsOwn process.serverid name tables (mwunprovide name process tables).2.2 ↔
      FindsOwn process name tables := by
  constructor
  · intro withdraws
    by_cases silent :
        process.attached = false ∨ process.provided = 0 ∨ ∀ idx, ¬Candidate tables name idx
    · refine Or.inr ⟨?_, silent⟩
      intro idx provided
      rcases withdraws.one ⟨idx, provided⟩ with ⟨removed, isProvided, gone, _⟩
      rw [mwunprovide_silent silent] at gone
      exact isProvided.inUse gone
    · rw [not_or, not_or, not_forall_not] at silent
      rcases silent with ⟨attached, provided, _, candidate⟩
      have isAttached : process.attached = true := eq_true_of_ne_false attached
      rcases selectService_cases tables name with ⟨idx, _, preferred⟩ | ⟨_, noCandidate⟩
      · have cleared := mwunprovide_preferred isAttached provided preferred
        have changed : (mwunprovide name process tables).2.2.svctbl idx ≠ tables.svctbl idx := by
          simp [cleared, Function.update_self, cleared_ne, preferred.candidate.inUse]
        by_cases own : ∃ idx, ProvidedBy process.serverid name tables idx
        · rcases withdraws.one own with ⟨removed, isProvided, _, others⟩
          have same : (idx : Int) = removed := by
            grind
          refine Or.inl ⟨isAttached, provided, idx, preferred, ?_⟩
          rw [same]
          exact isProvided.server
        · have stays := withdraws.none (not_exists.mp own)
          exact absurd (congrFun stays idx) changed
      · exact absurd candidate (noCandidate _)
  · intro finds
    rcases finds with ⟨attached, provided, idx, preferred, own⟩ | ⟨noneOwn, silent⟩
    · have candidate := preferred.candidate
      have isProvided : ProvidedBy process.serverid name tables idx :=
        ⟨candidate.inside, candidate.inUse, own, candidate.named⟩
      have cleared := mwunprovide_preferred attached provided preferred
      constructor
      · intro _
        refine ⟨idx, isProvided, ?_, ?_⟩
        · rw [cleared, Function.update_self]
          rfl
        · simp_all [Function.update_of_ne]
      · grind
    · constructor
      · simp [noneOwn]
      · simp_all [mwunprovide_silent]

/-- Two servers that provide the service `S`; the first one is idle. -/
def twoProviders : Tables :=
  { emptyTables with
    srvtbl := fun idx => ⟨5, 100 + idx, 0, unassigned⟩
    svctbl := fun idx => ⟨mwCallSvc, gwLocal, idx + mwServerMask, unassigned, 0, [83]⟩ }

def secondServer : ServerProcess := ⟨true, 1, 1 + mwServerMask, by decide⟩

theorem unprovide_withdraws_others :
    ¬WithdrawsOwn secondServer.serverid [83] twoProviders
      (mwunprovide [83] secondServer twoProviders).2.2 := by
  intro withdraws
  have own : ProvidedBy secondServer.serverid [83] twoProviders 1 :=
    ⟨by decide, by decide, by decide, by decide⟩
  rcases withdraws.one ⟨1, own⟩ with ⟨idx, isProvided, gone, _⟩
  have second : idx = 1 := by
    have server := isProvided.server
    change (idx : Int) + mwServerMask = 1 + mwServerMask at server
    omega
  rw [second] at gone
  exact absurd gone (by decide)

end MidWay.Mwd

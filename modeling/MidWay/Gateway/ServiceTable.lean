import MidWay.CLib.Errno
import MidWay.Gateway.CallStore

/-!
Contract: where the gateway looks for a provider: in the tables of `ipctables.c` and in
the list of imports of `impexp.c`, and the queues behind them.

An entry of the tables of clients, servers and gateways is the id of its message
queue, none when the entry is not in use. `msgsnd` is a parameter: the error of each
try, none when the message is on the queue.

Owns: `mwGetBestService`, `mwGetProviderByServiceid`, `mwGetMqidByMwid`,
`impfindpeerconn`, `ipcSendmessage`, and which entry of the service table a call
goes to.
-/

namespace MidWay.Gateway

open MidWay.CLib MidWay.Url MidWay.Srb

def mwServerMask : UInt32 := 0x01000000
def mwServiceMask : UInt32 := 0x08000000
def mwIndexMask : UInt32 := 0x00FFFFFF

def mwConv : UInt32 := 0x00010000

def isNonNegative (id : UInt32) : Bool := id &&& 0x80000000 == 0

/-- `MWCALLSVC`, `MWCONVSVC` or `UNASSIGNED`. -/
inductive ServiceType where
  | callsvc
  | convsvc
  | unassigned
deriving DecidableEq, Repr

inductive Location where
  | gwlocal
  | gwpeer
  | gwremote
  | gwclient
  | unassigned
deriving DecidableEq, Repr

structure Serviceentry where
  type : ServiceType
  location : Location
  server : UInt32
  gateway : UInt32
  servicename : List Byte
deriving DecidableEq, Repr

/-- `attached` tells whether there is a `ipcmain`. An index has 24 bits, and no server has
the index of `UNASSIGNED`. -/
structure IpcTables where
  attached : Bool
  svctbl : List Serviceentry
  srvtbl : List (Option Int)
  clttbl : List (Option Int)
  gwtbl : List (Option Int)
  mwdMqid : Int
  short : svctbl.length ≤ 16777216
  servers : srvtbl.length < 16777216

/-- `strncmp` of two service names. -/
def sameService (name other : List Byte) : Bool :=
  (cstr name).take mwMaxSvcName == (cstr other).take mwMaxSvcName

/-- The loop over the entries, with their index. A peer's service is taken only when
another was taken before it. -/
def bestServiceFrom (type : ServiceType) (svcname : List Byte) :
    UInt32 → List (Nat × Serviceentry) → UInt32
  | sid, [] => sid
  | sid, (index, entry) :: rest =>
      if entry.type ≠ type then bestServiceFrom type svcname sid rest
      else if sameService entry.servicename svcname then
        if entry.location = .gwlocal then UInt32.ofNat index
        else if entry.location = .gwpeer ∧ sid ≠ unassigned then
          bestServiceFrom type svcname (UInt32.ofNat index) rest
        else bestServiceFrom type svcname sid rest
      else bestServiceFrom type svcname sid rest

section Tables

variable (tables : IpcTables)

/-- The entries from a place in the table on, and around to it. -/
def IpcTables.entriesFrom (start : Nat) : List (Nat × Serviceentry) :=
  (List.range tables.svctbl.length).filterMap fun i =>
    let index := (start + i) % tables.svctbl.length
    (tables.svctbl[index]?).map fun entry => (index, entry)

def wantedType (flags : UInt32) : ServiceType :=
  if flags &&& mwConv ≠ 0 then .convsvc else .callsvc

/-- `start` is the random number. -/
def IpcTables.mwGetBestService (start : Nat) (svcname : List Byte) (flags : UInt32) : UInt32 :=
  if tables.attached = false then unassigned
  else
    bestServiceFrom (wantedType flags) svcname unassigned (tables.entriesFrom start) |||
      mwServiceMask

def Serviceentry.provider (entry : Serviceentry) : UInt32 :=
  if isNonNegative entry.server then entry.server
  else if isNonNegative entry.gateway then entry.gateway
  else unassigned

def IpcTables.mwGetProviderByServiceid (svcid : UInt32) : UInt32 :=
  if tables.attached = false then unassigned
  else if svcid &&& mwServiceMask = 0 ∨ svcid = unassigned then unassigned
  else
    match tables.svctbl[(svcid &&& mwIndexMask).toNat]? with
    | none => unassigned
    | some entry => entry.provider

/-- The queue of an agent, as `_mw_get_server_byid` and its siblings find it. -/
def IpcTables.mqidOf (table : List (Option Int)) (id : UInt32) : Int :=
  if tables.attached = false then -1
  else
    match table[(id &&& mwIndexMask).toNat]? with
    | some (some mqid) => mqid
    | _ => -1

def IpcTables.mwGetMqidByMwid (dest : UInt32) : Int :=
  let found (qid : Int) : Int := if qid = -1 then -Errno.ENOENT.code else qid
  if dest &&& mwServerMask ≠ 0 then found (tables.mqidOf tables.srvtbl dest)
  else if dest &&& mwClientMask ≠ 0 then found (tables.mqidOf tables.clttbl dest)
  else if dest &&& mwGatewayMask ≠ 0 then found (tables.mqidOf tables.gwtbl dest)
  else if dest = 0 then
    found (if tables.attached = false then -Errno.EILSEQ.code else tables.mwdMqid)
  else -Errno.EBADR.code

/-- An interrupted `msgsnd` counts as sent. -/
def IpcTables.mwIpcPutmessage (msgsnd : Option Errno) (dest : UInt32) : Int :=
  let qid := tables.mwGetMqidByMwid dest
  if qid < 0 then qid
  else
    match msgsnd with
    | none => 0
    | some .EINTR => 0
    | some errno => -errno.code

/-- What became of a message: it is on the queue, it was taken for sent after an
interrupt, it waits in the fifo of the gateway, or it was dropped. -/
inductive Posting where
  | onQueue
  | interrupted
  | inFifo
  | dropped
deriving DecidableEq, Repr

/-- `ipc_sendmessage`, with this many tries left. -/
def IpcTables.postFrom (msgsnd : Nat → Option Errno) (id : UInt32) : Nat → Nat → Posting
  | 0, _ => .inFifo
  | left + 1, turn =>
      let rc := tables.mwIpcPutmessage (msgsnd turn) id
      if rc = 0 then if msgsnd turn = none then .onQueue else .interrupted
      else if rc = -Errno.EAGAIN.code then IpcTables.postFrom msgsnd id left (turn + 1)
      else .dropped

def IpcTables.ipcSendmessage (msgsnd : Nat → Option Errno) (id : UInt32) : Posting :=
  tables.postFrom msgsnd id 3 0

/-- There is a queue, and it has room at one of the three tries. -/
def IpcTables.Takes (msgsnd : Nat → Option Errno) (id : UInt32) : Prop :=
  0 ≤ tables.mwGetMqidByMwid id ∧
    ∃ turn < 3, msgsnd turn = none ∧ ∀ earlier < turn, msgsnd earlier = some .EAGAIN

end Tables

structure Peerlink where
  svcid : UInt32
  conn : Connection
deriving DecidableEq, Repr

structure Import where
  servicename : List Byte
  peerlist : List Peerlink
deriving DecidableEq, Repr

/-- The connection to the peer that provides the service under this id. -/
def impfindpeerconn (importlist : List Import) (service : List Byte) (svcid : UInt32) :
    Option Connection :=
  ((importlist.filter fun entry => cstr service == cstr entry.servicename).flatMap
    Import.peerlist).find? (fun link => link.svcid == svcid) |>.map Peerlink.conn

/-- The entry is a local service of this name and type. -/
def Serviceentry.Serves (entry : Serviceentry) (service : List Byte) (flags : UInt32) : Prop :=
  entry.type = wantedType flags ∧ sameService entry.servicename service ∧
    entry.location = .gwlocal

instance (entry : Serviceentry) (service : List Byte) (flags : UInt32) :
    Decidable (entry.Serves service flags) :=
  inferInstanceAs (Decidable (_ ∧ _ ∧ _))

/-- The first such entry from a place in the table on. -/
def IpcTables.localEntry (tables : IpcTables) (start : Nat) (service : List Byte)
    (flags : UInt32) : Option (Nat × Serviceentry) :=
  (tables.entriesFrom start).find? fun place => place.2.Serves service flags

theorem bestServiceFrom_eq (svcname : List Byte) (flags : UInt32)
    (entries : List (Nat × Serviceentry)) :
    bestServiceFrom (wantedType flags) svcname unassigned entries =
      ((entries.find? fun place => place.2.Serves svcname flags).map fun place =>
        UInt32.ofNat place.1).getD unassigned := by
  induction entries with
  | nil => rfl
  | cons place rest ih =>
      rcases place with ⟨index, entry⟩
      rw [bestServiceFrom, List.find?_cons]
      by_cases isType : entry.type = wantedType flags
      · rw [if_neg (not_not.mpr isType)]
        by_cases isName : sameService entry.servicename svcname
        · rw [if_pos isName]
          by_cases isLocal : entry.location = .gwlocal
          · have serves : entry.Serves svcname flags := ⟨isType, isName, isLocal⟩
            simp [isLocal, if_true, serves, decide_true]
          · have foreign : ¬ entry.Serves svcname flags := fun serves => isLocal serves.2.2
            simp [isLocal, if_false, foreign, decide_false, ne_eq, not_true_eq_false, and_false, ih]
        · have foreign : ¬ entry.Serves svcname flags := fun serves => isName serves.2.1
          simp [isName, foreign, decide_false, ih]
      · have foreign : ¬ entry.Serves svcname flags := fun serves => isType serves.1
        simp_all [if_pos, foreign, decide_false, ih]

section Routing

variable (tables : IpcTables) (start : Nat)

theorem IpcTables.mem_entriesFrom {index : Nat} {entry : Serviceentry}
    (member : (index, entry) ∈ tables.entriesFrom start) :
    tables.svctbl[index]? = some entry := by
  rcases List.mem_filterMap.mp member with ⟨i, -, isPlace⟩
  grind

/-- The index of an entry is read back from its service id. -/
theorem index_of_serviceid {index : Nat} (short : index < 16777216) :
    (UInt32.ofNat index ||| mwServiceMask) &&& mwServiceMask ≠ 0 ∧
      UInt32.ofNat index ||| mwServiceMask ≠ unassigned ∧
      ((UInt32.ofNat index ||| mwServiceMask) &&& mwIndexMask).toNat = index := by
  have same : (UInt32.ofNat index).toNat = index := by
    grind [UInt32.toNat_ofNat', Nat.mod_eq_of_lt]
  have joined : (UInt32.ofNat index ||| mwServiceMask).toNat = 134217728 + index := by
    rw [UInt32.toNat_or, same, Nat.or_comm]
    exact (Nat.two_pow_add_eq_or_of_lt (i := 27) (by omega) 1).symm
  refine ⟨?_, ?_, ?_⟩
  · intro isZero
    have bits : ((UInt32.ofNat index ||| mwServiceMask) &&& mwServiceMask).toNat.testBit 27 =
        false := by
      rw [isZero]
      exact Nat.zero_testBit 27
    have set := Nat.testBit_two_pow_add_eq index 27
    have unset : index.testBit 27 = false := Nat.testBit_lt_two_pow (Nat.lt_trans short (by decide))
    rw [unset] at set
    rw [UInt32.toNat_and, joined, Nat.testBit_and] at bits
    have isSet : (134217728 + index).testBit 27 = true := set
    rw [isSet] at bits
    cases bits
  · intro isUnassigned
    have bits : (UInt32.ofNat index ||| mwServiceMask).toNat = 4294967295 := by
      rw [isUnassigned]
      rfl
    omega
  · have low := Nat.and_two_pow_sub_one_eq_mod (134217728 + index) 24
    rw [UInt32.toNat_and, joined]
    exact low.trans (by omega)

/-- A call goes to the provider of the local entry, if there is one. -/
theorem IpcTables.provider_eq (service : List Byte) (flags : UInt32) :
    tables.mwGetProviderByServiceid (tables.mwGetBestService start service flags) =
      if tables.attached then
        ((tables.localEntry start service flags).map fun place => place.2.provider).getD unassigned
      else unassigned := by
  rw [IpcTables.mwGetProviderByServiceid, IpcTables.mwGetBestService]
  cases isAttached : tables.attached with
  | false => rfl
  | true =>
      simp only [Bool.true_eq_false, if_false, if_true, bestServiceFrom_eq]
      cases found : tables.localEntry start service flags with
      | none =>
          rw [IpcTables.localEntry] at found
          rw [found]
          rfl
      | some place =>
          rcases place with ⟨index, entry⟩
          have isEntry := tables.mem_entriesFrom start (List.mem_of_find?_eq_some found)
          have below : index < tables.svctbl.length := (List.getElem?_eq_some_iff.mp isEntry).1
          have short := tables.short
          have inRange : index < 16777216 := by omega
          rcases index_of_serviceid inRange with ⟨isService, assigned, isIndex⟩
          have isId : ¬ ((UInt32.ofNat index ||| mwServiceMask) &&& mwServiceMask = 0 ∨
              UInt32.ofNat index ||| mwServiceMask = unassigned) := by
            intro either
            rcases either with isZero | isUnassigned
            · exact isService isZero
            · exact assigned isUnassigned
          rw [IpcTables.localEntry] at found
          simp only [found, Option.map_some, Option.getD_some, if_neg isId, isIndex, isEntry]

theorem IpcTables.mwGetMqidByMwid_unassigned (tables : IpcTables) :
    tables.mwGetMqidByMwid unassigned < 0 := by
  have outside : tables.srvtbl[(unassigned &&& mwIndexMask).toNat]? = none := by
    apply List.getElem?_eq_none
    exact Nat.le_of_lt_succ tables.servers
  have noQueue : tables.mqidOf tables.srvtbl unassigned = -1 := by
    simp_all [IpcTables.mqidOf]
  have isServer : unassigned &&& mwServerMask ≠ 0 := by decide
  rw [IpcTables.mwGetMqidByMwid]
  simp only [if_pos isServer, noQueue, if_true]
  decide

theorem IpcTables.postFrom_onQueue {msgsnd : Nat → Option Errno} {id : UInt32}
    (queue : 0 ≤ tables.mwGetMqidByMwid id) (left turn : Nat) :
    tables.postFrom msgsnd id left turn = .onQueue ↔
      ∃ more < left, msgsnd (turn + more) = none ∧
        ∀ earlier < more, msgsnd (turn + earlier) = some .EAGAIN := by
  have put : ∀ result, tables.mwIpcPutmessage result id = match result with
      | none => 0
      | some .EINTR => 0
      | some errno => -errno.code := fun _ => if_neg (Int.not_lt.mpr queue)
  induction left generalizing turn with
  | zero =>
      constructor
      · intro posted
        cases posted
      · omega
  | succ left ih =>
      rw [IpcTables.postFrom, put]
      by_cases sent : msgsnd turn = none
      · simp only [sent, if_true, true_iff]
        refine ⟨0, Nat.succ_pos left, sent, ?_⟩
        omega
      · have notZero : ∀ {more : Nat}, msgsnd (turn + more) = none → more ≠ 0 := by
          intro more isSent isZero
          rw [isZero] at isSent
          exact sent isSent
        by_cases full : msgsnd turn = some .EAGAIN
        · have isFull : ¬ (-(Errno.EAGAIN.code : Int) = 0) := by decide
          simp only [full, if_neg isFull, if_true, ih (turn + 1)]
          constructor
          · intro found
            rcases found with ⟨more, below, isSent, before⟩
            refine ⟨more + 1, Nat.succ_lt_succ below, ?_, ?_⟩
            · grind
            · intro earlier isEarlier
              cases earlier with
              | zero => exact full
              | succ earlier =>
                  grind
          · intro found
            rcases found with ⟨more, below, isSent, before⟩
            cases more with
            | zero => exact absurd rfl (notZero isSent)
            | succ more =>
                grind
        · have neverHere : ¬ ∃ more < left + 1, msgsnd (turn + more) = none ∧
              ∀ earlier < more, msgsnd (turn + earlier) = some .EAGAIN := by
            intro found
            rcases found with ⟨more, below, isSent, before⟩
            have positive := Nat.pos_of_ne_zero (notZero isSent)
            exact full (before 0 positive)
          rw [iff_false_right neverHere]
          cases result : msgsnd turn with
          | none => exact absurd result sent
          | some errno =>
              rw [result] at full
              cases errno with
              | EAGAIN => exact absurd rfl full
              | _ => simp [Errno.code]

theorem IpcTables.postFrom_noQueue {msgsnd : Nat → Option Errno} {id : UInt32}
    (noQueue : tables.mwGetMqidByMwid id < 0) (left turn : Nat) :
    tables.postFrom msgsnd id left turn ≠ .onQueue := by
  have put : ∀ result, tables.mwIpcPutmessage result id = tables.mwGetMqidByMwid id :=
    fun _ => if_pos noQueue
  induction left generalizing turn with
  | zero =>
      intro posted
      cases posted
  | succ left ih =>
      rw [IpcTables.postFrom, put, if_neg (Int.ne_of_lt noQueue)]
      split_ifs
      · exact ih (turn + 1)
      · decide

theorem IpcTables.ipcSendmessage_onQueue (msgsnd : Nat → Option Errno) (id : UInt32) :
    tables.ipcSendmessage msgsnd id = .onQueue ↔ tables.Takes msgsnd id := by
  by_cases queue : 0 ≤ tables.mwGetMqidByMwid id
  · rw [IpcTables.ipcSendmessage, tables.postFrom_onQueue queue, IpcTables.Takes,
      and_iff_right queue]
    simp only [Nat.zero_add]
  · refine iff_of_false (tables.postFrom_noQueue (Int.not_le.mp queue) 3 0) ?_
    intro takes
    exact queue takes.1

end Routing

end MidWay.Gateway

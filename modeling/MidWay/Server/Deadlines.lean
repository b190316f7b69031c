import MidWay.Server.MainLoop

/-!
Contract: which requests are served in time.

`_mw_set_deadline` gives the microseconds of a deadline as those of the issue
time and a million for each millisecond that the timeout is over whole seconds.
It asks for the time that is left in milliseconds, as an `int`.

Owns: `do_call` of `mwd`, the values that `_mw_set_deadline` puts in an `int`,
and the exact condition under which the deadline is right and a request is
refused when it is past and served when it is not.
-/

namespace MidWay.Server

open MidWay.CLib MidWay.Srb

/-- The `mwsvcinfo` on the stack of `do_call`. The result of
`_mw_getbuffer_from_call_to_svcinfo` is not looked at: `data` may keep what it was. -/
def callSvcinfo (view : View) (call : Call) : Svcinfo :=
  let times := mwSetDeadline view.now call
  { view.malloced with
    cltid := call.cltid
    srvid := call.srvid
    svcid := call.svcid
    data := (mwGetbufferFromCall view call).getD view.malloced.data
    datalen := call.datalen
    flags := call.flags
    service := strncpyName call.service
    deadline := times.2.1
    udeadline := times.2.2 }

def doCall (process : Process) (turn : Turn) (call : Call) (state : State) :
    Option (Int × State) :=
  let state := { state with callmesg := call }
  if (mwSetDeadline turn.view.now call).1 < 0 then
    some (rcOf .ETIME,
      if turn.delivery.put = 0 then state.send call.cltid (.svccall call) else state)
  else
    mwCallCServiceFunction process turn (callSvcinfo turn.view call)
      { state with requestpending := !call.noReply || state.requestpending }

def Timeval.micros (time : Timeval) : Int := time.sec * 1000000 + time.usec

def Call.issue (call : Call) : Timeval := ⟨call.issued, call.uissued⟩

def Call.due (call : Call) : Int := call.issue.micros + call.timeout * 1000

/-- What `waitmsec` is set to, before it is cut to an `int`. -/
def Call.waited (now : Timeval) (call : Call) : Int :=
  (now.sec - call.issued) * 1000 + (now.usec - call.uissued).tdiv 1000

/-- The values that `_mw_set_deadline` puts in an `int`, before they are cut. -/
def intValues (now : Timeval) (call : Call) : List Int :=
  let fraction := call.timeout.tmod 1000 * 1000000
  let seconds := call.issued + call.timeout.tdiv 1000 - now.sec
  let bounded := (if seconds > 1000000 then 1000000 else seconds) * 1000
  [fraction, call.uissued + fraction, call.waited now, seconds, bounded,
    bounded + (call.uissued + fraction - now.usec).tdiv 1000]

def NoIntOverflow (now : Timeval) (call : Call) : Prop :=
  ∀ value ∈ intValues now call, -2147483648 ≤ value ∧ value < 2147483648

structure Process.Ready (process : Process) : Prop where
  attached : process.attached = true
  provided : process.provided ≠ 0
  ipcmain : process.ipcmain = true

/-- A server and `mwd` refuse the request of this message. -/
structure Refused (turn : Turn) (call : Call) : Prop where
  server : turn.view.service call.svcid = true → ∀ process : Process, process.Ready →
    ∀ noblock state rest,
      (mwGetServiceRequest process noblock state (turn :: rest)).got = .failed .ETIME
  mwd : ∀ process state, ∃ after, doCall process turn call state = some (rcOf .ETIME, after)

/-- A server hands the request of this message to its service function if the data is there, and
`mwd` calls it. -/
structure Accepted (turn : Turn) (call : Call) : Prop where
  server : turn.view.service call.svcid = true → ∀ data, mwGetbufferFromCall turn.view call = some data →
    ∀ process : Process, process.Ready → ∀ noblock state rest,
      (mwGetServiceRequest process noblock state (turn :: rest)).got =
        .request turn (fillSvcinfo turn.view call data)
  mwd : ∀ process state, doCall process turn call state =
    mwCallCServiceFunction process turn (callSvcinfo turn.view call)
      { state with
        callmesg := call
        requestpending := !call.noReply || state.requestpending }

/-- The deadline is the issue time and the timeout, and decides which requests are served. -/
structure DeadlineKept (now : Timeval) (call : Call) : Prop where
  normal : 0 ≤ (mwSetDeadline now call).2.2 ∧ (mwSetDeadline now call).2.2 < 1000000
  exact_due : Timeval.micros ⟨(mwSetDeadline now call).2.1, (mwSetDeadline now call).2.2⟩ = call.due
  past : call.due + 1000 < now.micros → (mwSetDeadline now call).1 < 0
  ahead : now.micros < call.due → 0 ≤ (mwSetDeadline now call).1
  noOverflow : NoIntOverflow now call
  refused : call.due + 1000 < now.micros → ∀ turn : Turn, turn.message = .svccall call →
    turn.view.now = now → Refused turn call
  accepted : now.micros < call.due → ∀ turn : Turn, turn.message = .svccall call →
    turn.view.now = now → Accepted turn call

theorem tdiv_1000_of_nonneg {value : Int} (nonneg : 0 ≤ value) :
    value - 999 ≤ 1000 * value.tdiv 1000 ∧ 1000 * value.tdiv 1000 ≤ value := by
  grind

theorem tdiv_1000_of_nonpos {value : Int} (nonpos : value ≤ 0) :
    value ≤ 1000 * value.tdiv 1000 ∧ 1000 * value.tdiv 1000 ≤ value + 999 := by
  grind

/-- The issue time and the timeout are as a client sends them, and the clock has not gone back. -/
structure Issued (now : Timeval) (call : Call) : Prop where
  uissued : 0 ≤ call.uissued ∧ call.uissued < 1000000
  timeout : 0 < call.timeout ∧ call.timeout < 2147483648
  usec : 0 ≤ now.usec ∧ now.usec < 1000000
  notBefore : call.issue.micros ≤ now.micros

section

variable {now : Timeval} {call : Call}

/-- Where nothing is cut the sums are those of the source. -/
theorem mwSetDeadline_of_noOverflow (positive : 0 < call.timeout)
    (fits : NoIntOverflow now call) :
    mwSetDeadline now call =
      ((if call.issued + call.timeout.tdiv 1000 - now.sec > 1000000 then 1000000
          else call.issued + call.timeout.tdiv 1000 - now.sec) * 1000 +
        (call.uissued + call.timeout.tmod 1000 * 1000000 - now.usec).tdiv 1000,
      call.issued + call.timeout.tdiv 1000,
      call.uissued + call.timeout.tmod 1000 * 1000000) := by
  have cut : ∀ value ∈ intValues now call, toInt32 value = value := by
    intro value member
    exact toInt32_self (fits value member).1 (fits value member).2
  simp_all [intValues, List.forall_mem_cons, mwSetDeadline, if_pos]

/-- Whole seconds of timeout, and a request that is not too old. -/
theorem noOverflow_of_whole (issued : Issued now call) (whole : call.timeout % 1000 = 0)
    (young : call.waited now < 2147483648) : NoIntOverflow now call := by
  obtain ⟨uissued, timeout, usec, notBefore⟩ := issued
  have noFraction : call.timeout.tmod 1000 = 0 := by
    simp [Int.tmod_eq_emod_of_nonneg, whole, Int.le_of_lt, timeout]
  have seconds : call.timeout.tdiv 1000 = call.timeout / 1000 :=
    Int.tdiv_eq_ediv_of_nonneg (Int.le_of_lt timeout.1)
  simp only [Call.issue, Timeval.micros] at notBefore
  simp only [Call.waited] at young
  have left : (call.uissued - now.usec).tdiv 1000 = -(now.usec - call.uissued).tdiv 1000 := by
    rw [← Int.neg_tdiv, Int.neg_sub]
  simp only [NoIntOverflow, intValues, Call.waited, noFraction, seconds, Int.zero_mul,
    Int.add_zero, left, List.forall_mem_cons]
  grind

theorem whole_of_normal (issued : Issued now call)
    (fits : NoIntOverflow now call)
    (normal : 0 ≤ (mwSetDeadline now call).2.2 ∧ (mwSetDeadline now call).2.2 < 1000000) :
    call.timeout % 1000 = 0 := by
  rw [mwSetDeadline_of_noOverflow issued.timeout.1 fits,
    Int.tmod_eq_emod_of_nonneg (Int.le_of_lt issued.timeout.1)] at normal
  dsimp only at normal
  have uissued := issued.uissued
  omega

theorem remaining_sign (issued : Issued now call) (whole : call.timeout % 1000 = 0)
    (fits : NoIntOverflow now call) :
    (call.due + 1000 < now.micros → (mwSetDeadline now call).1 < 0) ∧
      (now.micros < call.due → 0 ≤ (mwSetDeadline now call).1) := by
  rw [mwSetDeadline_of_noOverflow issued.timeout.1 fits,
    Int.tmod_eq_emod_of_nonneg (Int.le_of_lt issued.timeout.1), whole,
    Int.tdiv_eq_ediv_of_nonneg (Int.le_of_lt issued.timeout.1)]
  obtain ⟨uissued, timeout, usec, _⟩ := issued
  simp only [Call.due, Call.issue, Timeval.micros, Int.zero_mul, Int.add_zero]
  grind

theorem refused_of_neg {turn : Turn} (isCall : turn.message = .svccall call)
    (past : (mwSetDeadline turn.view.now call).1 < 0) : Refused turn call := by
  constructor
  · intro known process ready noblock state rest
    have verdict : examine turn.view call = .expired := by
      rw [examine, known, if_neg (by decide), if_pos past]
    have outcome : turn.outcome = .stop .ETIME := by
      simp [Turn.outcome, isCall, verdict]
    rw [mwGetServiceRequest, ready.attached, ready.ipcmain, if_neg (by decide),
      if_neg ready.provided, if_neg (by decide), receive_cons,
      if_neg (Nat.not_lt.mpr turn.message.length_le), outcome]
  · simp_all [doCall]

theorem accepted_of_nonneg {turn : Turn} (isCall : turn.message = .svccall call)
    (ahead : 0 ≤ (mwSetDeadline turn.view.now call).1) : Accepted turn call := by
  constructor
  · intro known data isData process ready noblock state rest
    have verdict : examine turn.view call = .handed (fillSvcinfo turn.view call data) := by
      rw [examine, known, if_neg (by decide), if_neg (Int.not_lt.mpr ahead), isData]
    have outcome : turn.outcome = .hand (fillSvcinfo turn.view call data) := by
      simp [Turn.outcome, isCall, verdict]
    rw [mwGetServiceRequest, ready.attached, ready.ipcmain, if_neg (by decide),
      if_neg ready.provided, if_neg (by decide), receive_cons,
      if_neg (Nat.not_lt.mpr turn.message.length_le), outcome]
  · simp_all [doCall, if_neg]

/-- The deadline is right exactly for timeouts of whole seconds and requests that have waited less
than two to the 31 milliseconds. -/
theorem deadline_kept_iff (now : Timeval) (call : Call) (issued : Issued now call) :
    DeadlineKept now call ↔ call.timeout % 1000 = 0 ∧ call.waited now < 2147483648 := by
  constructor
  · intro kept
    refine ⟨whole_of_normal issued kept.noOverflow kept.normal, ?_⟩
    exact (kept.noOverflow (call.waited now) (by simp [intValues])).2
  · intro right
    obtain ⟨whole, young⟩ := right
    have fits := noOverflow_of_whole issued whole young
    have sign := remaining_sign issued whole fits
    have values := mwSetDeadline_of_noOverflow issued.timeout.1 fits
    rw [Int.tmod_eq_emod_of_nonneg (Int.le_of_lt issued.timeout.1), whole, Int.zero_mul,
      Int.add_zero, Int.tdiv_eq_ediv_of_nonneg (Int.le_of_lt issued.timeout.1)] at values
    refine ⟨?_, ?_, sign.1, sign.2, fits, ?_, ?_⟩
    · simp [values, issued.uissued]
    · grind [Call.due, Call.issue, Timeval.micros]
    · simp_all [refused_of_neg]
    · simp_all [accepted_of_nonneg]

end

def timedCall (timeout : Int) : Call :=
  ⟨1, 1, -1, 1, 1, 0, [], 100, 0, timeout, 0, 0, 0, 0, 0, 0⟩

theorem deadline_kept_iff_seconds : DeadlineKept ⟨101, 5⟩ (timedCall 2000) :=
  (deadline_kept_iff ⟨101, 5⟩ (timedCall 2000)
    ⟨by decide, by decide, by decide, by decide⟩).mpr ⟨by decide, by decide⟩

/-- Half a second of timeout is five hundred seconds, so that after a minute the request is still
served. -/
theorem half_second_not_kept :
    Issued ⟨160, 0⟩ (timedCall 500) ∧
      mwSetDeadline ⟨160, 0⟩ (timedCall 500) = (440000, 100, 500000000) ∧
      (timedCall 500).due + 1000 < Timeval.micros ⟨160, 0⟩ ∧
      ¬DeadlineKept ⟨160, 0⟩ (timedCall 500) := by
  refine ⟨⟨by decide, by decide, by decide, by decide⟩, by decide, by decide, ?_⟩
  intro kept
  exact absurd kept.normal (by decide)

end MidWay.Server

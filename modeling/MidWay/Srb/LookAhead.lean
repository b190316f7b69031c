import MidWay.Srb.Connection

/-!
Contract: what a gateway learns about the messages that are left in a buffer.

`_mw_srb_recvmessage` looks ahead when it returns a message or meets the end of the
stream, and enqueues the connection in the read fifo when it finds a boundary. A call
that finds nothing to read has searched all that is pending.

Owns: `HoldsMessage`, `enqueues`, and that no complete message is overlooked.
-/

namespace MidWay.Srb

open MidWay.CLib MidWay.Url

variable {srbmsg : Option SRBmessage} {after : Connection} {errno : Option Errno} {turn : Turn}

def Connection.pending (conn : Connection) : List Byte :=
  (conn.memory.drop conn.som).take conn.leftover.toNat

def Connection.HoldsMessage (conn : Connection) : Prop :=
  strstr conn.pending srbMessageBoundry ≠ none

/-- Whether a call that returned so has enqueued the connection: it looked ahead unless it found
nothing to read, and found a boundary. -/
def enqueues (srbmsg : Option SRBmessage) (errno : Option Errno) (conn : Connection) : Bool :=
  (srbmsg.isSome || (errno = some .EPIPE && conn.fd ≠ -1)) && conn.nextMessageBoundryMarker.isSome

structure Connection.Bounded (conn : Connection) : Prop where
  pending : conn.som + conn.leftover ≤ conn.memory.length
  buffer : bufferStart ≤ conn.memory.length

theorem length_terminateMessage (memory : List Byte) (message msglen : Nat) :
    (terminateMessage memory message msglen).1.length = memory.length := by
  grind [terminateMessage, List.length_set]

theorem length_replaceEndMarker (memory : List Byte) (szTmp : Option Nat) :
    (replaceEndMarker memory szTmp).length = memory.length := by
  cases szTmp with
  | none => rfl
  | some place => rw [replaceEndMarker, List.length_set, List.length_set]

theorem length_decoded (uninit memory : List Byte) (message msglen : Nat) :
    (mwSrbdecodemessage uninit memory message msglen).memory.length = memory.length := by
  have size := length_terminateMessage memory message msglen
  grind [mwSrbdecodemessage, findMarker, terminateMessage, length_replaceEndMarker]

theorem decoded_isSome {uninit memory : List Byte} {message msglen : Nat}
    (clean : (mwSrbdecodemessage uninit memory message msglen).errno = none) :
    (mwSrbdecodemessage uninit memory message msglen).srbmsg.isSome := by
  simp only [mwSrbdecodemessage] at clean ⊢
  grind

variable {uninit : List Byte} {conn : Connection}

theorem Connection.pending_nothing (nothing : conn.leftover ≤ 0) : ¬conn.HoldsMessage := by
  have noBytes : conn.pending = [] := by
    rw [Connection.pending, show conn.leftover.toNat = 0 by omega, List.take_zero]
  intro holds
  rw [Connection.HoldsMessage, noBytes] at holds
  exact holds rfl

theorem Connection.HoldsMessage.searched (holds : conn.HoldsMessage) :
    (searchBoundry conn).isSome := by
  rcases Option.ne_none_iff_exists'.mp holds with ⟨place, found⟩
  grind [Connection.pending, List.take_append_drop, searchBoundry, strstr_append]

structure PassedOver (conn : Connection) (srbmsg : Option SRBmessage) (after : Connection) :
    Prop where
  bounded : after.Bounded
  fd : after.fd = conn.fd
  nothing : srbmsg = none → ¬after.HoldsMessage

/-- The pending bytes are moved to the front of the buffer. -/
theorem moved_pending (bounded : conn.Bounded) (nonneg : 0 ≤ conn.leftover) :
    ({ conn with
      memory := memmove conn.memory bufferStart conn.som conn.leftover.toNat
      som := bufferStart
      nextMessageBoundryMarker := none } : Connection).pending = conn.pending ∧
    bufferStart + conn.leftover ≤
      (memmove conn.memory bufferStart conn.som conn.leftover.toNat).length := by
  have size : conn.pending.length = conn.leftover.toNat := by
    have inside := bounded.pending
    grind [Connection.pending, List.length_take, List.length_drop]
  have front : bufferStart = (conn.memory.take bufferStart).length := by
    rw [List.length_take, Nat.min_eq_left bounded.buffer]
  grind [memmove, overwrite, List.append_assoc, bufferStart, Connection.pending]

theorem read_passes (bounded : conn.Bounded)
    (result : readMessageFromConnbuffer uninit conn = .ok (srbmsg, after)) :
    PassedOver conn srbmsg after := by
  have buffer := bounded.buffer
  unfold readMessageFromConnbuffer at result
  by_cases fresh : conn.allocated = false
  · rw [if_pos fresh] at result
    cases result
    exact ⟨⟨by simpa using buffer, buffer⟩, rfl, fun _ => Connection.pending_nothing (Int.le_refl 0)⟩
  rw [if_neg fresh] at result
  by_cases empty : conn.leftover = 0
  · rw [if_pos empty] at result
    cases result
    refine ⟨⟨?_, buffer⟩, rfl, fun _ => Connection.pending_nothing (Int.le_of_eq empty)⟩
    simp only [empty]
    omega
  rw [if_neg empty] at result
  cases found : conn.nextMessageBoundryMarker.or (searchBoundry conn) with
  | none =>
      rw [found] at result
      simp only at result
      split_ifs at result with negative
      cases result
      rcases moved_pending bounded (by omega) with ⟨same, inside⟩
      have longEnough : bufferStart ≤
          (memmove conn.memory bufferStart conn.som conn.leftover.toNat).length := by
        omega
      refine ⟨⟨inside, longEnough⟩, rfl, fun _ holds => ?_⟩
      have before : conn.HoldsMessage := by
        simp_all [Connection.HoldsMessage]
      have searched := before.searched
      simp_all
  | some marker =>
      rw [found] at result
      simp only at result
      have decodedLength := length_decoded uninit conn.memory conn.som (marker - conn.som)
      have inside := bounded.pending
      split_ifs at result with tooShort tooLong
      · cases result
        refine ⟨⟨?_, buffer⟩, rfl, fun _ => Connection.pending_nothing (Int.le_refl 0)⟩
        simp only
        omega
      · have decodedSome := @decoded_isSome uninit conn.memory conn.som (marker - conn.som)
        generalize mwSrbdecodemessage uninit conn.memory conn.som (marker - conn.som) = decoded
          at result decodedLength decodedSome
        cases clean : decoded.errno with
        | some errno =>
            rw [clean] at result
            cases result
            refine ⟨⟨?_, ?_⟩, rfl, fun _ => Connection.pending_nothing (Int.le_refl 0)⟩
            · simp_all
            · simp [decodedLength, buffer]
        | none =>
            rw [clean] at result
            cases result
            refine ⟨⟨?_, ?_⟩, rfl, fun isNone => ?_⟩
            · grind
            · simp [decodedLength, buffer]
            · simp_all

def Turn.Looked (fd : Int) : Turn → Prop
  | .returned srbmsg errno conn =>
      conn.Bounded ∧ conn.fd = fd ∧ (fd ≠ -1 → conn.HoldsMessage → enqueues srbmsg errno conn)
  | .reading conn => conn.Bounded ∧ conn.fd = fd ∧ ¬conn.HoldsMessage

theorem lookAhead_looked {fd : Int} (bounded : conn.Bounded) (sameFd : conn.fd = fd)
    (looks : srbmsg.isSome ∨ errno = some .EPIPE) :
    (Turn.returned srbmsg errno (lookAhead conn)).Looked fd := by
  refine ⟨⟨bounded.pending, bounded.buffer⟩, sameFd, ?_⟩
  intro isOpen holds
  have holdsHere : conn.HoldsMessage := holds
  have searched := holdsHere.searched
  simp only [enqueues, lookAhead, searched, Bool.and_true, Bool.or_eq_true, Bool.and_eq_true,
    decide_eq_true_eq, sameFd]
  rcases looks with isSome | isEof
  · exact Or.inl isSome
  · exact Or.inr ⟨isEof, isOpen⟩

theorem recvEnter_looked (bounded : conn.Bounded) (result : recvEnter uninit conn = .ok turn) :
    turn.Looked conn.fd := by
  unfold recvEnter at result
  cases read : readMessageFromConnbuffer uninit conn with
  | error failure =>
      simp [read] at result
  | ok passed =>
      rcases passed with ⟨srbmsg, after⟩
      have passes := read_passes bounded read
      rw [read] at result
      cases srbmsg with
      | some srbmsg =>
          cases result
          exact lookAhead_looked passes.bounded passes.fd (Or.inl rfl)
      | none =>
          simp only at result
          split_ifs at result with closed
          · cases result
            exact ⟨passes.bounded, passes.fd, fun isOpen => absurd (passes.fd.symm.trans closed) isOpen⟩
          · cases result
            exact ⟨passes.bounded, passes.fd, passes.nothing rfl⟩

theorem recvSearch_looked (bounded : conn.Bounded) {eof : Bool}
    (result : recvSearch uninit eof conn = .ok turn) : turn.Looked conn.fd := by
  unfold recvSearch at result
  cases read : readMessageFromConnbuffer uninit conn with
  | error failure =>
      simp [read] at result
  | ok passed =>
      rcases passed with ⟨srbmsg, after⟩
      have passes := read_passes bounded read
      rw [read] at result
      simp only at result
      split_ifs at result with atEnd isSome
      · cases result
        exact lookAhead_looked passes.bounded passes.fd (Or.inr rfl)
      · cases result
        exact lookAhead_looked passes.bounded passes.fd (Or.inl isSome)
      · cases result
        exact ⟨passes.bounded, passes.fd, passes.nothing (by simpa using isSome)⟩

/-- What is received stays in the memory. -/
theorem mwConnRead_bounded (bounded : conn.Bounded) {received : Received}
    (result : mwConnRead conn received = .ok after) : after.Bounded ∧ after.fd = conn.fd := by
  cases received with
  | failed errno =>
      cases result
      exact ⟨bounded, rfl⟩
  | bytes bytes =>
      simp only [mwConnRead, storeReceived] at result
      split_ifs at result with nothing outside
      · simp_all
      · cases result
        have inside : (conn.som + conn.leftover).toNat + (bytes ++ [0]).length ≤
            conn.memory.length := by
          rw [List.length_append, List.length_singleton]
          omega
        have size : (overwrite conn.memory (conn.som + conn.leftover).toNat (bytes ++ [0])).length =
            conn.memory.length := by
          simp only [overwrite, List.length_append, List.length_take, List.length_drop] at inside ⊢
          omega
        refine ⟨⟨?_, ?_⟩, rfl⟩
        · grind
        · simp [size, bounded.buffer]

theorem recvTurn_looked (bounded : conn.Bounded) (nothing : ¬conn.HoldsMessage)
    {received : Received} (result : recvTurn uninit false conn received = .ok turn) :
    turn.Looked conn.fd := by
  unfold recvTurn at result
  by_cases noData : received = .failed .EAGAIN
  · rw [if_pos ⟨noData, rfl⟩] at result
    cases result
    exact ⟨bounded, rfl, fun _ holds => absurd holds nothing⟩
  · rw [if_neg fun both => noData both.1] at result
    cases read : mwConnRead conn received with
    | error failure =>
        simp [read] at result
    | ok after =>
        rcases mwConnRead_bounded bounded read with ⟨boundedAfter, sameFd⟩
        grind [recvSearch_looked]

theorem recvLoop_looked (bounded : conn.Bounded) (nothing : ¬conn.HoldsMessage) {turns : Nat}
    {socket later : List Arrival}
    (result : recvLoop uninit false turns conn socket = .returned srbmsg errno after later) :
    (Turn.returned srbmsg errno after).Looked conn.fd := by
  induction turns generalizing conn socket with
  | zero => cases result
  | succ turns ih =>
      unfold recvLoop at result
      split_ifs at result
      cases arrived : recvfrom false conn.mcast (maxrecvlen conn) socket with
      | none =>
          simp [arrived] at result
      | some delivered =>
          rcases delivered with ⟨received, rest⟩
          rw [arrived] at result
          simp only at result
          cases turned : recvTurn uninit false conn received with
          | error failure =>
              rw [turned] at result
              cases result
          | ok turn =>
              have looked := recvTurn_looked bounded nothing turned
              rw [turned] at result
              cases turn with
              | returned message code returned =>
                  cases result
                  exact looked
              | reading reading =>
                  rcases looked with ⟨boundedReading, sameFd, nothingYet⟩
                  rw [← sameFd]
                  exact ih boundedReading nothingYet result

/-- A call of the gateway that leaves a complete message in the buffer has enqueued the
connection. -/
theorem mwSrbRecvmessage_looked (bounded : conn.Bounded) {socket later : List Arrival}
    (result : mwSrbRecvmessage uninit false conn socket = .returned srbmsg errno after later) :
    (Turn.returned srbmsg errno after).Looked conn.fd := by
  unfold mwSrbRecvmessage at result
  cases entered : recvEnter uninit conn with
  | error failure =>
      rw [entered] at result
      cases result
  | ok turn =>
      have looked := recvEnter_looked bounded entered
      rw [entered] at result
      cases turn with
      | returned message code returned =>
          cases result
          exact looked
      | reading reading =>
          rcases looked with ⟨boundedReading, sameFd, nothing⟩
          rw [← sameFd]
          exact recvLoop_looked boundedReading nothing result

end MidWay.Srb

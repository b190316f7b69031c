import MidWay.Srb.EncodeBounds
import MidWay.Srb.Framing
import MidWay.Srb.Rejection

/-!
Contract: the limits of the sender and those of the reader.

The encoder accepts a line of 3499 bytes in front of its boundary; the reader has room for
3500 bytes with the boundary, and takes the empty read it then gets for the end of the
stream. A command that fills its array is not terminated, and is sent with two markers. What
else the reader does not give back is a command with a marker or a line end in it, a reject,
and an empty map.

Owns: `ReceivedAs`, `Deliverable`, and that an accepted message is received if and only if it is
deliverable.
-/

namespace MidWay.Srb

open MidWay.CLib MidWay.Lib MidWay.Url

variable {text memory : List Byte} {place : Nat} {c : Byte}

structure Built (srbmsg : SRBmessage) : Prop where
  command : srbmsg.command.length ≤ commandSize
  string : 0 ∉ srbmsg.command
  marker : isMarker srbmsg.marker = true
  keysOk : ∀ entry ∈ srbmsg.map, KeyOk entry.key
  valued : ∀ entry ∈ srbmsg.map, entry.value ≠ none

def SRBmessage.line (srbmsg : SRBmessage) : List Byte := srbmsg.head ++ urlmapencode srbmsg.map

/-- A call of the reader that stands in front of the text, wherever the pieces of the stream are
cut, returns the message, and the reader stands behind the text. -/
def ReceivedAs (encoded : List Byte) (srbmsg : SRBmessage) : Prop :=
  ∀ (uninit : List Byte) (blocking : Bool) (conn : Connection) (pending : List Byte)
    (chunks : List (List Byte)) (bound : Nat) (remaining : List Byte),
    Unread conn pending chunks bound (encoded ++ remaining) →
    ∃ errno next rest later,
      mwSrbRecvmessage uninit blocking conn (pieces chunks) =
        .returned (some srbmsg) errno next (pieces later) ∧
      Unread next rest later bound remaining

structure Deliverable (srbmsg : SRBmessage) : Prop where
  commandShort : srbmsg.command.length < commandSize
  commandPlain : ∀ c ∈ srbmsg.command, isMarker c = false
  commandLine : findSub srbMessageBoundry srbmsg.command = none
  notReject : srbmsg.marker ≠ srbRejectMarker
  nonempty : srbmsg.map ≠ []
  room : srbmsg.head.length + srbmsg.map.foldl pairEnd 0 ≠ 3499

section Line

variable {srbmsg : SRBmessage} (built : Built srbmsg)
include built

theorem Built.marker_ne (noMark : isMarker c = false) : srbmsg.marker ≠ c := by
  intro same
  have isMark := built.marker
  rw [same, noMark] at isMark
  cases isMark

theorem Built.nul_not_mem_map : 0 ∉ urlmapencode srbmsg.map := by
  cases shape : srbmsg.map with
  | nil => exact List.not_mem_nil
  | cons first rest =>
      have keysOk := built.keysOk
      rw [shape] at keysOk
      rw [urlmapencode_text keysOk]
      simp [tailText, pairText_free, show (0 : Byte) ≠ ampersand by decide]

theorem Built.head_eq : srbmsg.head =
    if srbmsg.command.length < commandSize then srbmsg.command ++ [srbmsg.marker]
    else srbmsg.command ++ [srbmsg.marker, srbmsg.marker] := by
  have fits := built.command
  rw [SRBmessage.head, SRBmessage.commandString]
  split_ifs
  · grind [List.take_of_length_le, commandSize, mwMaxSvcName]
  · rw [List.take_of_length_le, List.append_assoc]
    · rfl
    · rw [commandSize] at fits
      rw [mwMaxSvcName, List.length_append, List.length_singleton]
      omega

theorem Built.line_eq : ∃ fields, srbmsg.line = srbmsg.command ++ srbmsg.marker :: fields ∧
    carriageReturn ∉ fields ∧ 0 ∉ fields := by
  have noReturn := carriageReturn_not_mem_urlmapencode built.keysOk
  have noNul := built.nul_not_mem_map
  have notReturn := built.marker_ne (show isMarker carriageReturn = false by decide)
  have notNul := built.marker_ne (show isMarker 0 = false by decide)
  rw [SRBmessage.line, built.head_eq]
  grind

end Line

theorem findSub_no_return (noReturn : carriageReturn ∉ text) :
    findSub srbMessageBoundry text = none := by
  cases found : findSub srbMessageBoundry text with
  | none => rfl
  | some place =>
      grind [srbMessageBoundry, absurd, findSub_some]

/-- No boundary starts in the text or across its end. -/
theorem findSub_behind {rest : List Byte} {next : Byte}
    (noBoundry : findSub srbMessageBoundry text = none) (noReturn : carriageReturn ∉ next :: rest)
    (notFeed : next ≠ lineFeed) : findSub srbMessageBoundry (text ++ next :: rest) = none := by
  induction text with
  | nil => exact findSub_no_return noReturn
  | cons head tail ih =>
      rw [findSub] at noBoundry
      split_ifs at noBoundry with starts
      have later := ih (Option.map_eq_none_iff.mp noBoundry)
      have notHere : ¬ srbMessageBoundry.isPrefixOf (head :: (tail ++ next :: rest)) = true := by
        cases tail with
        | nil => simp [srbMessageBoundry, Ne.symm notFeed]
        | cons second tail => simpa [srbMessageBoundry] using starts
      simp_all [List.cons_append, findSub]

section Wire

variable {srbmsg : SRBmessage} (built : Built srbmsg)
include built

theorem Built.line_whole (commandLine : findSub srbMessageBoundry srbmsg.command = none) :
    findSub srbMessageBoundry srbmsg.line = none := by
  rcases built.line_eq with ⟨fields, shape, noReturn, -⟩
  have notReturn := built.marker_ne (show isMarker carriageReturn = false by decide)
  rw [shape]
  apply findSub_behind commandLine
  · grind
  · exact built.marker_ne (by decide)

theorem Built.nul_not_mem_line : 0 ∉ srbmsg.line := by
  rcases built.line_eq with ⟨fields, shape, -, noNul⟩
  have notNul := built.marker_ne (show isMarker 0 = false by decide)
  rw [shape]
  simp [built.string, noNul, Ne.symm notNul]

theorem Built.encoded_eq {encoded : List Byte}
    (accepted : mwSrbencodemessage srbmsg (srbMessageMaxLen + 1) = .ok encoded) :
    encoded = srbmsg.line ++ srbMessageBoundry ∧ srbmsg.line.length ≤ 3499 := by
  rcases (mwSrbencodemessage_iff_sendBuffer srbmsg
    (fun entry member => (built.keysOk entry member).2) encoded).mp accepted with ⟨sent, text⟩
  refine ⟨?_, ((sendBuffer_accepted srbmsg).mp sent).2⟩
  rw [← text, sendBuffer_text srbmsg sent]
  rfl

end Wire

theorem length_line (srbmsg : SRBmessage) : srbmsg.line.length =
    srbmsg.head.length + srbmsg.map.foldl pairEnd 0 := by
  simp [SRBmessage.line, List.length_append, urlmapencode, length_urlmapencodeFrom]

structure ReadFrom (uninit text : List Byte) (srbmsg : SRBmessage) (commandlen : Nat) : Prop where
  found : findMarker text = some commandlen
  notReject : srbmsg.marker ≠ srbRejectMarker
  command : srbmsg.command = cstr (text.take commandlen)
  marker : srbmsg.marker = text.getD commandlen 0
  map : (urlmapdecode uninit (text.drop (commandlen + 1))).map = some srbmsg.map

theorem decodeText_readFrom {uninit : List Byte} {srbmsg : SRBmessage}
    (decoded : (decodeText uninit text).1 = some srbmsg) :
    ∃ commandlen, ReadFrom uninit text srbmsg commandlen := by
  rw [decodeText] at decoded
  cases found : findMarker text with
  | none =>
      simp [found] at decoded
  | some commandlen =>
      simp only [found] at decoded
      split_ifs at decoded with isReject
      cases map : (urlmapdecode uninit (text.drop (commandlen + 1))).map with
      | none =>
          simp [map] at decoded
      | some fields =>
          rw [map] at decoded
          cases decoded
          exact ⟨commandlen, found, isReject, rfl, rfl, map⟩

theorem findMarker_first (found : findMarker text = some place) :
    ∀ c ∈ text.take place, isMarker c = false := by
  induction text generalizing place with
  | nil => cases found
  | cons head tail ih =>
      rw [findMarker.eq_def] at found
      simp only at found
      split_ifs at found with isMark
      · grind
      · cases tail with
        | nil => cases found
        | cons next tail =>
            simp only at found
            split_ifs at found
            rcases Option.map_eq_some_iff.mp found with ⟨later, foundLater, same⟩
            grind

theorem urlmapdecode_first {uninit list : List Byte} {map : Urlmap}
    (decoded : (urlmapdecode uninit list).map = some map) :
    ∃ entry rest, map = entry :: rest ∧ entry.key = keyString uninit (urldecode list) := by
  rw [urlmapdecode, urlmapdecodeFrom] at decoded
  split at decoded
  · cases decoded
  · cases found : strchr list ampersand with
    | none =>
        grind [MapDecoded.push]
    | some amp =>
        simp only [found, MapDecoded.push] at decoded
        rcases Option.map_eq_some_iff.mp decoded with ⟨rest, -, same⟩
        exact ⟨_, rest, same.symm, rfl⟩

/-- A character that is none of the five special ones is read as it stands. -/
theorem urldecode_cons (notNul : c ≠ 0) (notAmp : c ≠ ampersand) (notEq : c ≠ equals)
    (notPercent : c ≠ percent) (notPlus : c ≠ plus) (text : List Byte) :
    urldecode (c :: text) = (urldecode text).store c := by
  have length : fieldLength (c :: text) = fieldLength text + 1 := by
    have clipped (len : Nat) (found : Option Nat) :
        clip (len + 1) (found.map (· + 1)) = clip len found + 1 := by
      cases found with
      | none => rfl
      | some place =>
          simp only [Option.map_some, clip, Nat.add_lt_add_iff_right]
          split_ifs
          · rfl
          · rfl
    have search (other : Byte) (different : c ≠ other) :
        strchr (c :: text) other = (strchr text other).map (· + 1) :=
      @strchr_append [c] (by simpa using Ne.symm notNul) other (by simpa using Ne.symm different)
        text
    simp_all [fieldLength, strlen, cstr_cons, List.length_cons]
  rw [urldecode, length, urldecodeFrom.eq_def]
  simp only [if_neg notPercent, if_neg notPlus]
  rfl

theorem patched_append {front back : List Byte} (long : 2 ≤ back.length)
    (noReturn : carriageReturn ∉ back) : patched (front ++ back) = front ++ back := by
  apply if_neg
  grind

theorem nonempty_of_decode {uninit : List Byte} {srbmsg : SRBmessage}
    (decoded : (decodeAlone uninit srbmsg.line).srbmsg = some srbmsg) : srbmsg.map ≠ [] := by
  have text := congrArg Prod.fst (decodeAlone_eq_decodeText uninit srbmsg.line)
  rcases decodeText_readFrom (text.symm.trans decoded) with ⟨commandlen, readFrom⟩
  rcases urlmapdecode_first readFrom.map with ⟨entry, rest, shape, -⟩
  rw [shape]
  exact List.cons_ne_nil entry rest

theorem drop_command (command fields : List Byte) (marker : Byte) :
    (command ++ marker :: fields).drop (command.length + 1) = fields := by
  simp

section Read

variable {srbmsg : SRBmessage} (built : Built srbmsg)
include built

theorem Built.two_le_length_map (nonempty : srbmsg.map ≠ []) :
    2 ≤ (urlmapencode srbmsg.map).length := by
  have keysOk := built.keysOk
  have valued := built.valued
  rcases List.exists_cons_of_ne_nil nonempty with ⟨first, rest, shape⟩
  rw [shape] at keysOk valued ⊢
  have long := two_le_length_pairText (keysOk first List.mem_cons_self) fun swallowed =>
    valued first List.mem_cons_self swallowed.1
  simp_all [urlmapencode_text, List.length_append, Nat.le_add_right_of_le]

theorem Built.read_line (nonempty : srbmsg.map ≠ []) (uninit : List Byte) :
    ((decodeAlone uninit srbmsg.line).srbmsg, (decodeAlone uninit srbmsg.line).errno) =
      decodeText uninit (srbmsg.head ++ (urlmapencode srbmsg.map ++ 0 :: 10 :: [0])) := by
  rw [decodeAlone_eq_decodeText, SRBmessage.line, patched_append (built.two_le_length_map nonempty)
    (carriageReturn_not_mem_urlmapencode built.keysOk), terminated, List.append_assoc]

/-- The map behind a second marker is not read back. -/
theorem Built.two_markers (nonempty : srbmsg.map ≠ []) (uninit behind : List Byte) :
    (urlmapdecode uninit (srbmsg.marker :: (urlmapencode srbmsg.map ++ 0 :: behind))).map ≠
      some srbmsg.map := by
  have keysOk := built.keysOk
  rcases List.exists_cons_of_ne_nil nonempty with ⟨first, rest, shape⟩
  rw [shape] at keysOk
  intro decoded
  rcases urlmapdecode_first decoded with ⟨entry, others, sameMap, key⟩
  have sameEntry : entry = first := by
    simp_all
  have firstOk := keysOk first List.mem_cons_self
  have firstKey : urldecode (urlmapencode srbmsg.map ++ 0 :: behind) = ⟨first.key, true⟩ := by
    rw [shape, urlmapencode_text keysOk]
    cases rest with
    | nil =>
        have ends : EndsPair 0 := Or.inl rfl
        simpa [tailText] using urldecode_key first ends behind
    | cons second rest =>
        have ends : EndsPair ampersand := Or.inr rfl
        simpa [tailText] using urldecode_key first ends _
  have nulFree : 0 ∉ srbmsg.marker :: first.key := by
    intro member
    rcases List.mem_cons.mp member with same | inKey
    · exact built.marker_ne (show isMarker 0 = false by decide) same.symm
    · exact firstOk.2 inKey
  rw [urldecode_cons (built.marker_ne (by decide)) (built.marker_ne (by decide))
    (built.marker_ne (by decide)) (built.marker_ne (by decide)) (built.marker_ne (by decide)),
    firstKey, sameEntry] at key
  have longer : first.key = srbmsg.marker :: first.key := by
    rw [Decoded.store, keyString, if_pos rfl, cstr_eq_self nulFree] at key
    exact key
  exact absurd (congrArg List.length longer) (by simp)

/-- The head that is read back. -/
theorem Built.head_of_decode {uninit : List Byte}
    (decoded : (decodeAlone uninit srbmsg.line).srbmsg = some srbmsg) :
    (∀ c ∈ srbmsg.command, isMarker c = false) ∧ srbmsg.marker ≠ srbRejectMarker ∧
      srbmsg.command.length < commandSize := by
  have nonempty := nonempty_of_decode decoded
  have text := congrArg Prod.fst (built.read_line nonempty uninit)
  rcases decodeText_readFrom (text.symm.trans decoded) with ⟨commandlen, readFrom⟩
  have map := readFrom.map
  have command := readFrom.command
  have before := findMarker_first readFrom.found
  have long : srbmsg.command.length ≤ commandlen := by
    grind [List.length_take, cstr_begins]
  have plain : ∀ c ∈ srbmsg.command, isMarker c = false := by
    grind [cstr_begins]
  refine ⟨plain, readFrom.notReject, ?_⟩
  by_contra full
  have found := readFrom.found
  have shape : srbmsg.head = srbmsg.command ++ [srbmsg.marker, srbmsg.marker] := by
    rw [built.head_eq, if_neg full]
  have split : srbmsg.head ++ (urlmapencode srbmsg.map ++ 0 :: 10 :: [0]) =
      srbmsg.command ++ srbmsg.marker ::
        (srbmsg.marker :: (urlmapencode srbmsg.map ++ 0 :: 10 :: [0])) := by
    rw [shape]
    simp
  rw [split] at found map
  rw [findMarker_append _ (fun c member =>
    ⟨fun isNul => built.string (isNul ▸ member), plain c member⟩) built.marker] at found
  cases found
  rw [drop_command] at map
  exact built.two_markers nonempty uninit _ map

/-- A head and a map that are read back. -/
theorem Built.decode (plain : ∀ c ∈ srbmsg.command, isMarker c = false)
    (notReject : srbmsg.marker ≠ srbRejectMarker) (short : srbmsg.command.length < commandSize)
    (nonempty : srbmsg.map ≠ []) (uninit : List Byte) :
    (decodeAlone uninit srbmsg.line).srbmsg = some srbmsg ∧
      (decodeAlone uninit srbmsg.line).errno = none := by
  have text := built.read_line nonempty uninit
  have shape : srbmsg.head ++ (urlmapencode srbmsg.map ++ 0 :: 10 :: [0]) =
      srbmsg.command ++ srbmsg.marker :: (urlmapencode srbmsg.map ++ 0 :: 10 :: [0]) := by
    rw [built.head_eq, if_pos short]
    simp
  have nulFree : ∀ c ∈ srbmsg.command, c ≠ 0 ∧ isMarker c = false := fun c member =>
    ⟨fun isNul => built.string (isNul ▸ member), plain c member⟩
  have fits : ¬ srbmsg.command.length > 32 := by
    grind [commandSize]
  have marker (behind : List Byte) :
      (srbmsg.command ++ srbmsg.marker :: behind).getD srbmsg.command.length 0 = srbmsg.marker := by
    simp
  have command (behind : List Byte) :
      cstr ((srbmsg.command ++ srbmsg.marker :: behind).take srbmsg.command.length) =
        srbmsg.command := by
    rw [List.take_left, cstr_eq_self built.string]
  have map := urlmapdecode_valued uninit (10 :: [0]) nonempty built.keysOk built.valued
  rw [shape, decodeText, findMarker_append _ nulFree built.marker] at text
  simp_all

end Read

def leftInSocket (chunk : List Byte) : List (List Byte) :=
  if chunk.length ≤ srbMessageMaxLen then [] else [chunk.drop srbMessageMaxLen]

theorem first_turn (uninit : List Byte) (blocking : Bool) {chunk : List Byte}
    (nonempty : chunk ≠ []) :
    ∃ arrived, mwSrbRecvmessage uninit blocking (Connection.fresh 0 zeroPage) (pieces [chunk]) =
        afterTurn (fun reader => recvLoop uninit blocking (chunk.length + 1) reader
            (pieces (leftInSocket chunk)))
          (pieces (leftInSocket chunk)) (recvSearch uninit false arrived) ∧
      Arrived arrived (chunk.take srbMessageMaxLen) := by
  have positive := List.length_pos_iff.mpr nonempty
  rcases enter_fresh uninit (show (0 : Int) ≠ -1 by decide) zeroPage_size with
    ⟨reader, entered, reading, opened⟩
  have space : maxrecvlen reader = srbMessageMaxLen := by
    simp [reading.maxrecvlen_eq, reading.som, List.length_nil]
  have delivered : recvfrom blocking false srbMessageMaxLen (pieces [chunk]) =
      some (.bytes (chunk.take srbMessageMaxLen), pieces (leftInSocket chunk)) := by
    rw [leftInSocket]
    by_cases fits : chunk.length ≤ srbMessageMaxLen
    · rw [if_pos fits, List.take_of_length_le fits]
      exact if_pos fits
    · rw [if_neg fits]
      exact if_neg fits
  have some : chunk.take srbMessageMaxLen ≠ [] := by
    rw [← List.length_pos_iff, List.length_take]
    exact Nat.lt_min.mpr ⟨by decide, positive⟩
  have fits : (chunk.take srbMessageMaxLen).length ≤ maxrecvlen reader := by
    grind
  rcases recvTurn_bytes uninit blocking reading opened some fits with ⟨arrived, turn, holds⟩
  rw [List.nil_append] at holds
  refine ⟨arrived, ?_, holds⟩
  rw [mwSrbRecvmessage, entered]
  change recvLoop uninit blocking (chunk.length + 1 + 0 + 1) reader (pieces [chunk]) = _
  rw [recvLoop, if_neg (by simp [reading.stream]), reading.stream, space, delivered]
  simp only [turn]

theorem memmove_self {count : Nat} (inside : place + count ≤ memory.length) :
    memmove memory place place count = memory := by
  have length : ((memory.drop place).take count).length = count := by
    grind
  grind [memmove, overwrite, List.drop_drop, List.append_assoc, List.take_append_drop]

/-- Without a boundary nothing changes. -/
theorem Arrived.read_again (uninit : List Byte) {conn : Connection} {pending : List Byte}
    (arrived : Arrived conn pending) (nonempty : pending ≠ [])
    (noBoundry : strstr pending srbMessageBoundry = none) :
    readMessageFromConnbuffer uninit conn = .ok (none, conn) := by
  have notFound : searchBoundry conn = none := by
    rw [searchBoundry_stopped arrived.stopped, noBoundry]
    rfl
  have positive := List.length_pos_iff.mpr nonempty
  have leftover := arrived.leftover
  have within := arrived.within
  have size := arrived.size
  have still : memmove conn.memory bufferStart conn.som conn.leftover.toNat = conn.memory := by
    rw [arrived.som]
    apply memmove_self
    rw [leftover, Int.toNat_natCast]
    rw [arrived.som] at within
    simp only [bufferSize] at size
    omega
  rw [readMessageFromConnbuffer, if_neg (by simp [arrived.allocated]), if_neg (by omega),
    arrived.marker, notFound]
  simp only [Option.or_none]
  rw [if_neg (by omega), still]
  rcases conn with ⟨fd, mcast, allocated, memory, pendingLength, som, marker⟩
  have start : som = bufferStart := arrived.som
  have noMarker : marker = none := arrived.marker
  rw [start, noMarker]

/-- A line of 3499 bytes: the buffer is full before its line feed, and the read of no bytes is
taken for the end of the stream. -/
theorem full_line_lost (uninit : List Byte) (blocking : Bool) {line : List Byte}
    (full : line.length = 3499) (noBoundry : findSub srbMessageBoundry line = none) :
    ∃ conn socket, mwSrbRecvmessage uninit blocking (Connection.fresh 0 zeroPage)
      (pieces [line ++ srbMessageBoundry]) = .returned none (some .EPIPE) conn socket := by
  have whole : (line ++ srbMessageBoundry).length = 3501 := by
    rw [List.length_append, full]
    rfl
  have nonempty : line ++ srbMessageBoundry ≠ [] := by
    grind
  rcases first_turn uninit blocking nonempty with ⟨arrived, call, holds⟩
  have front : (line ++ srbMessageBoundry).take srbMessageMaxLen = line ++ [carriageReturn] := by
    have split : line ++ srbMessageBoundry = (line ++ [carriageReturn]) ++ [lineFeed] := by
      simp [srbMessageBoundry]
    rw [split]
    apply List.take_left'
    rw [List.length_append, full]
    rfl
  have behind : leftInSocket (line ++ srbMessageBoundry) = [[lineFeed]] := by
    have split : line ++ srbMessageBoundry = (line ++ [carriageReturn]) ++ [lineFeed] := by
      simp [srbMessageBoundry]
    rw [leftInSocket, if_neg (by rw [whole]; decide), split]
    grind
  rw [front] at holds
  have absent : strstr (line ++ [carriageReturn]) srbMessageBoundry = none :=
    strstr_incomplete noBoundry (by simp [srbMessageBoundry]) (List.cons_ne_nil lineFeed [])
  have again := holds.read_again uninit (by simp) absent
  have space : maxrecvlen arrived = 0 := by
    rw [holds.maxrecvlen_eq, holds.som, List.length_append, full]
    rfl
  have searched : recvSearch uninit false arrived = .ok (.reading arrived) := by
    simp [recvSearch, again]
  have ended : recvTurn uninit blocking arrived (.bytes []) =
      .ok (.returned none (some .EPIPE) (lookAhead arrived)) := by
    rw [recvTurn, if_neg (by simp)]
    simp only [mwConnRead, storeReceived, if_true, recvSearch, again]
    rfl
  rw [call, searched, behind]
  refine ⟨lookAhead arrived, pieces [[lineFeed]], ?_⟩
  change recvLoop uninit blocking ((line ++ srbMessageBoundry).length + 1) arrived
    (pieces [[lineFeed]]) = _
  rw [recvLoop, if_neg (by simp [holds.stream]), holds.stream, space]
  change afterTurn _ _ (recvTurn uninit blocking arrived (.bytes [])) = _
  rw [ended]
  rfl

theorem length_cstr_take_le {stop : Nat} (stops : ∀ c, text[stop]? = some c → c = 0) (count : Nat) :
    (cstr (text.take count)).length ≤ stop := by
  by_contra longer
  have front := cstr_begins (text.take count)
  have within : stop < (cstr (text.take count)).length := by omega
  have same : (cstr (text.take count))[stop] = 0 := by
    apply stops
    simp [List.getElem_take, front.getElem]
  grind [nul_notMem_cstr]

theorem eq_zero_of_set (isByte : (memory.set place 0)[place]? = some c) : c = 0 := by
  grind

/-- A command is not longer than the message it is read from. -/
theorem length_command_le {uninit : List Byte} {message msglen : Nat} {srbmsg : SRBmessage}
    (decoded : (mwSrbdecodemessage uninit memory message msglen).srbmsg = some srbmsg) :
    srbmsg.command.length ≤ msglen := by
  have text := mwSrbdecodemessage_eq_decodeText uninit memory message msglen
  have stops : ∀ c, ((terminateMessage memory message msglen).1.drop message)[msglen]? = some c →
      c = 0 := by
    intro c isByte
    rw [List.getElem?_drop] at isByte
    simp only [terminateMessage] at isByte
    split_ifs at isByte
    · grind
    · exact eq_zero_of_set isByte
  rcases decodeText_readFrom ((congrArg Prod.fst text).symm.trans decoded) with
    ⟨commandlen, readFrom⟩
  rw [readFrom.command]
  exact length_cstr_take_le stops commandlen

structure Stale (distance : Nat) (conn : Connection) : Prop where
  allocated : conn.allocated = true
  som : conn.som = bufferStart
  marker : conn.nextMessageBoundryMarker = some (bufferStart + distance)

section StaleReader

variable {uninit : List Byte} {distance : Nat} {conn next : Connection} {srbmsg : SRBmessage}

/-- It stays remembered until a message is read in front of it. -/
theorem Stale.read_cases (stale : Stale distance conn) {srbmsg : Option SRBmessage}
    (result : readMessageFromConnbuffer uninit conn = .ok (srbmsg, next)) :
    (srbmsg = none ∧ Stale distance next) ∨
      ∃ message, srbmsg = some message ∧ message.command.length ≤ distance := by
  have remembered : conn.nextMessageBoundryMarker.or (searchBoundry conn) =
      some (bufferStart + distance) := by
    rw [stale.marker]
    rfl
  rw [readMessageFromConnbuffer, if_neg (by simp [stale.allocated]), remembered] at result
  by_cases empty : conn.leftover = 0
  · rw [if_pos empty] at result
    cases result
    exact Or.inl ⟨rfl, stale.allocated, rfl, stale.marker⟩
  · rw [if_neg empty] at result
    simp only [stale.som, Nat.add_sub_cancel_left] at result
    split_ifs at result
    · cases result
      exact Or.inl ⟨rfl, stale.allocated, rfl, rfl⟩
    · cases refused : (mwSrbdecodemessage uninit conn.memory bufferStart distance).errno with
      | some errno =>
          rw [refused] at result
          cases result
          exact Or.inl ⟨rfl, stale.allocated, rfl, rfl⟩
      | none =>
          rw [refused] at result
          cases result
          rcases mwSrbdecodemessage_accepted refused with ⟨message, decoded⟩
          exact Or.inr ⟨message, decoded, length_command_le decoded⟩

theorem Stale.mwConnRead (stale : Stale distance conn) {received : Received}
    (result : mwConnRead conn received = .ok next) : Stale distance next := by
  cases received with
  | failed errno =>
      cases result
      exact stale
  | bytes bytes =>
      change storeReceived conn bytes = .ok next at result
      rw [storeReceived] at result
      by_cases empty : bytes = []
      · simp_all
      · rw [if_neg empty] at result
        simp only at result
        split_ifs at result
        cases result
        exact ⟨stale.allocated, stale.som, stale.marker⟩

def StaleTurn (distance : Nat) : Except Failure Turn → Prop
  | .error _ => True
  | .ok (.returned srbmsg _ _) => ∀ message, srbmsg = some message → message.command.length ≤ distance
  | .ok (.reading conn) => Stale distance conn

theorem Stale.recvSearch (stale : Stale distance conn) (eof : Bool) :
    StaleTurn distance (recvSearch uninit eof conn) := by
  rw [Srb.recvSearch]
  cases result : readMessageFromConnbuffer uninit conn with
  | error failure => trivial
  | ok outcome =>
      rcases outcome with ⟨srbmsg, next⟩
      rcases stale.read_cases result with ⟨none, still⟩ | ⟨message, found, short⟩
      · rw [none]
        simp only [Option.isSome_none, Bool.false_eq_true, if_false]
        split_ifs
        · intro message impossible
          cases impossible
        · exact still
      · rw [found]
        simp only [Option.isSome_some, if_true]
        split_ifs
        · intro other same
          cases same
          exact short
        · intro other same
          cases same
          exact short

theorem Stale.recvTurn (stale : Stale distance conn) (uninit : List Byte) (blocking : Bool) (received : Received) :
    StaleTurn distance (recvTurn uninit blocking conn received) := by
  rw [Srb.recvTurn]
  split_ifs
  · intro message impossible
    cases impossible
  · cases result : Srb.mwConnRead conn received with
    | error failure => trivial
    | ok next => exact (stale.mwConnRead result).recvSearch _

/-- Behind a refused line no longer command is returned. -/
theorem Stale.recvLoop (stale : Stale distance conn) {blocking : Bool} {turns : Nat}
    {socket later : List Arrival} {errno : Option Errno}
    (result : recvLoop uninit blocking turns conn socket = .returned (some srbmsg) errno next later) :
    srbmsg.command.length ≤ distance := by
  induction turns generalizing conn socket with
  | zero => cases result
  | succ turns ih =>
      rw [Srb.recvLoop] at result
      split_ifs at result
      cases delivery : recvfrom blocking conn.mcast (maxrecvlen conn) socket with
      | none =>
          simp [delivery] at result
      | some delivered =>
          rcases delivered with ⟨received, rest⟩
          have turn := stale.recvTurn uninit blocking received
          simp only [delivery] at result
          cases outcome : Srb.recvTurn uninit blocking conn received with
          | error failure =>
              rw [outcome] at result
              cases result
          | ok step =>
              rw [outcome] at result turn
              cases step with
              | returned found code reader =>
                  cases result
                  exact turn srbmsg rfl
              | reading reader => exact ih turn result

end StaleReader

/-- A boundary in the command: what the reader returns has a shorter one. -/
theorem broken_command_lost (uninit : List Byte) (blocking : Bool) {command behind : List Byte}
    {place : Nat} (found : findSub srbMessageBoundry command = some place) (string : 0 ∉ command)
    (fits : command.length ≤ commandSize) {srbmsg : SRBmessage} {errno : Option Errno}
    {next : Connection} {later : List Arrival}
    (result : mwSrbRecvmessage uninit blocking (Connection.fresh 0 zeroPage)
      (pieces [command ++ behind]) = .returned (some srbmsg) errno next later) :
    srbmsg.command.length < command.length := by
  rcases findSub_some found with ⟨before, after, shape, placed⟩
  have long : place + 2 ≤ command.length := by
    rw [shape, List.length_append, List.length_append, placed]
    exact Nat.le_add_right _ _
  have nonempty : command ++ behind ≠ [] := by
    grind [List.length_pos_iff, List.length_append]
  rcases first_turn uninit blocking nonempty with ⟨arrived, call, holds⟩
  have front : (command ++ behind).take srbMessageMaxLen =
      command ++ behind.take (srbMessageMaxLen - command.length) := by
    rw [List.take_append, List.take_of_length_le]
    rw [commandSize] at fits
    rw [srbMessageMaxLen]
    omega
  rw [front] at holds
  generalize behind.take (srbMessageMaxLen - command.length) = rest at holds
  have boundry : arrived.nextMessageBoundryMarker.or (searchBoundry arrived) =
      some (arrived.som + before.length) := by
    rw [holds.marker, searchBoundry_stopped holds.stopped, strstr, cstr_append string,
      findSub_append found, placed]
    rfl
  have line : command ++ rest = before ++ srbMessageBoundry ++ (after ++ rest) := by
    simp [shape]
  have read := read_line uninit holds.toHolds line boundry
  rw [call, recvSearch, read] at result
  by_cases clean :
      (mwSrbdecodemessage uninit arrived.memory arrived.som before.length).errno = none
  · rcases mwSrbdecodemessage_accepted clean with ⟨message, decoded⟩
    rw [if_pos clean, decoded] at result
    cases result
    have short := length_command_le decoded
    omega
  · rw [if_neg clean] at result
    have stale : Stale place (arrived.refused uninit before) := by
      refine ⟨holds.allocated, rfl, ?_⟩
      rw [Connection.refused, holds.som, placed]
    have short := stale.recvLoop result
    omega

section Agreement

variable {srbmsg : SRBmessage} (built : Built srbmsg)
include built

theorem Built.line_ne_nil : srbmsg.line ≠ [] := by
  rcases built.line_eq with ⟨fields, shape, -, -⟩
  rw [shape]
  simp

/-- A line that is refused leaves the call waiting for the next one. -/
theorem Built.refused_waits (commandLine : findSub srbMessageBoundry srbmsg.command = none)
    (short : srbmsg.line.length + 2 ≤ srbMessageMaxLen) {uninit : List Byte}
    (refused : (decodeAlone uninit srbmsg.line).errno ≠ none) {conn : Connection}
    {chunks : List (List Byte)} {bound : Nat}
    (unread : Unread conn [] chunks bound (srbmsg.line ++ srbMessageBoundry ++ [])) :
    ∃ reader, mwSrbRecvmessage uninit true conn (pieces chunks) = .waiting reader := by
  rcases recvmessage_refused uninit true unread (built.line_whole commandLine) short
    built.nul_not_mem_line (refused_of_decodeAlone built.line_ne_nil refused []) with
    ⟨fewer, reader, rest, later, marker, call, holds, -, -, -, -, stream, -, laterNonempty, -,
      enough⟩
  have nothing : later = [] := eq_nil_of_flatten laterNonempty (List.append_eq_nil_iff.mp stream).2
  rw [nothing] at call enough
  refine ⟨reader, ?_⟩
  rw [call]
  cases fewer with
  | zero => exact absurd enough (Nat.not_lt_zero _)
  | succ turns =>
      rw [recvLoop, if_neg (by simp [holds.stream])]
      rfl

end Agreement

theorem unread_piece (nonempty : text ≠ []) :
    Unread (Connection.fresh 0 zeroPage) [] [text] (text.length + 1) (text ++ []) :=
  unread_fresh (by decide) zeroPage_size (by simp [nonempty]) (Nat.succ_pos text.length) (by simp)

theorem full_line_not_received {line : List Byte} (full : line.length = 3499)
    (noBoundry : findSub srbMessageBoundry line = none) (srbmsg : SRBmessage) :
    ¬ ReceivedAs (line ++ srbMessageBoundry) srbmsg := by
  intro received
  have nonempty : line ++ srbMessageBoundry ≠ [] := by
    grind [List.length_pos_iff, List.length_append]
  rcases received [] true _ _ _ _ _ (unread_piece nonempty) with ⟨errno, next, rest, later, call, -⟩
  rcases full_line_lost [] true full noBoundry with ⟨conn, socket, lost⟩
  rw [lost] at call
  cases call

/-- An accepted message is received if and only if it is deliverable. -/
theorem encoded_received_iff {srbmsg : SRBmessage} (built : Built srbmsg) {encoded : List Byte}
    (accepted : mwSrbencodemessage srbmsg (srbMessageMaxLen + 1) = .ok encoded) :
    ReceivedAs encoded srbmsg ↔ Deliverable srbmsg := by
  rcases built.encoded_eq accepted with ⟨text, limit⟩
  have length := length_line srbmsg
  rw [text]
  constructor
  · intro received
    have unread := unread_piece (List.append_ne_nil_of_left_ne_nil built.line_ne_nil
      srbMessageBoundry)
    rcases received [] true _ _ _ _ _ unread with ⟨errno, next, rest, later, call, -⟩
    have commandLine : findSub srbMessageBoundry srbmsg.command = none := by
      cases found : findSub srbMessageBoundry srbmsg.command with
      | none => rfl
      | some place =>
          rcases built.line_eq with ⟨fields, shape, -, -⟩
          rw [shape, List.append_assoc] at call
          exact absurd (broken_command_lost [] true found built.string built.command call)
            (Nat.lt_irrefl _)
    have room : srbmsg.line.length ≠ 3499 := fun full =>
      full_line_not_received full (built.line_whole commandLine) srbmsg received
    have short : srbmsg.line.length + 2 ≤ srbMessageMaxLen := by
      grind [srbMessageMaxLen]
    have decoded : (decodeAlone [] srbmsg.line).srbmsg = some srbmsg := by
      by_cases clean : (decodeAlone [] srbmsg.line).errno = none
      · rcases (decodeAlone_accepted clean).2 with ⟨message, isMessage⟩
        rcases recvmessage_accepted [] true unread (built.line_whole commandLine) short
          built.nul_not_mem_line built.line_ne_nil isMessage clean with
          ⟨_, _, _, _, returned, -⟩
        rw [returned, Call.returned.injEq] at call
        exact isMessage.trans call.1
      · rcases built.refused_waits commandLine short clean unread with ⟨reader, waits⟩
        rw [waits] at call
        cases call
    rcases built.head_of_decode decoded with ⟨plain, notReject, commandShort⟩
    exact ⟨commandShort, plain, commandLine, notReject, nonempty_of_decode decoded,
      by rwa [← length]⟩
  · intro deliverable uninit blocking conn pending chunks bound remaining unread
    have room := deliverable.room
    rw [← length] at room
    have short : srbmsg.line.length + 2 ≤ srbMessageMaxLen := by
      grind [srbMessageMaxLen]
    rcases built.decode deliverable.commandPlain deliverable.notReject deliverable.commandShort
      deliverable.nonempty uninit with ⟨decoded, clean⟩
    exact recvmessage_accepted uninit blocking unread (built.line_whole deliverable.commandLine)
      short built.nul_not_mem_line built.line_ne_nil decoded clean

/-- `A?k=v`. -/
def smallMessage : SRBmessage := ⟨[65], srbRequestMarker, [⟨[107], some [118]⟩]⟩

theorem encoded_received_small :
    mwSrbencodemessage smallMessage (srbMessageMaxLen + 1) = .ok [65, 63, 107, 61, 118, 13, 10] ∧
      ReceivedAs [65, 63, 107, 61, 118, 13, 10] smallMessage := by
  have built : Built smallMessage :=
    ⟨by decide, by decide, by decide, by simp [smallMessage, KeyOk], by simp [smallMessage]⟩
  have accepted : mwSrbencodemessage smallMessage (srbMessageMaxLen + 1) =
      .ok [65, 63, 107, 61, 118, 13, 10] := by decide
  have deliverable : Deliverable smallMessage :=
    ⟨by decide, List.forall_mem_singleton.mpr rfl, by decide, by decide, by decide, by decide⟩
  exact ⟨accepted, (encoded_received_iff built accepted).mpr deliverable⟩

def longCommand : SRBmessage :=
  ⟨List.replicate 32 65, srbRequestMarker, [⟨[107], some [118]⟩]⟩

/-- The line of 3499 bytes is not received; a command of 32 bytes comes with another key. -/
theorem encoded_received_not_full :
    (∃ encoded, Built fullMessage ∧
        mwSrbencodemessage fullMessage (srbMessageMaxLen + 1) = .ok encoded ∧
        ¬ ReceivedAs encoded fullMessage) ∧
      ∃ encoded, Built longCommand ∧
        mwSrbencodemessage longCommand (srbMessageMaxLen + 1) = .ok encoded ∧
        recvCalls [] [true] (Connection.fresh 0 zeroPage) (pieces [encoded]) =
          [some { longCommand with map := [⟨[63, 107], some [118]⟩] }] := by
  constructor
  · have built : Built fullMessage :=
      ⟨by decide, by decide, by decide, List.forall_mem_singleton.mpr ⟨by decide, by decide⟩,
        List.forall_mem_singleton.mpr (Option.some_ne_none _)⟩
    have passes : Passes (3500 - fullMessage.head.length) 0 fullMessage.map :=
      ⟨by decide, by decide +kernel, trivial⟩
    have length : fullMessage.line.length = 3499 := by
      rw [length_line]
      decide +kernel
    have sent : (sendBuffer fullMessage).errno = none :=
      (sendBuffer_accepted fullMessage).mpr ⟨passes, Nat.le_of_eq length⟩
    refine ⟨fullMessage.text, built, ?_, ?_⟩
    · grind [mwSrbencodemessage_iff_sendBuffer, fullMessage, sendBuffer_text]
    · exact full_line_not_received length (built.line_whole (by decide)) fullMessage
  · refine ⟨longCommand.text, ?_, by decide, by decide +kernel⟩
    exact ⟨by decide, by decide, by decide, List.forall_mem_singleton.mpr ⟨by decide, by decide⟩,
      List.forall_mem_singleton.mpr (Option.some_ne_none _)⟩

end MidWay.Srb

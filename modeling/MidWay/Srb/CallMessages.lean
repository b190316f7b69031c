import MidWay.Srb.MessageRoundTrip
import MidWay.Srb.ServiceCall

/-!
Contract: the messages of a service call, field by field, and that the wire
carries them.

With a limit of at most 1000 bytes of data the longest message stays below 3500
bytes, even when every byte of data and of the service name needs an escape. So
the gateway reads every message as it was built.

Owns: `callMessage`, `dataMessage`, `transmit`, the shape of what
`mwSrbsendcall` sends, and that `transmit` changes none of it.
-/

namespace MidWay.Srb

open MidWay.CLib MidWay.Url

/-- The fields of a call that are only there sometimes. -/
def optionalField (key : List Byte) (value : Option Int) : Urlmap :=
  value.toList.map fun number => ⟨key, some (sprintfD number)⟩

/-- The first message of a call that wants a reply. -/
def callMessage (hdl svcname : List Byte) (total : Option Int) (data : List Byte)
    (secstolive : Option Int) : SRBmessage :=
  ⟨srbSvccall, srbRequestMarker,
    [⟨srbHandle, some hdl⟩, ⟨srbSvcname, some svcname⟩] ++ optionalField srbDatatotal total ++
      [⟨srbData, some data⟩] ++ optionalField srbSectolive secstolive ++
      [⟨srbHops, some (sprintfD 0)⟩]⟩

def dataMessage (hdl data : List Byte) : SRBmessage :=
  ⟨srbSvcdata, srbNotificationMarker, [⟨srbHandle, some hdl⟩, ⟨srbData, some data⟩]⟩

theorem mwSrbNsetfield_dataMessage (hdl old data : List Byte) :
    mwSrbNsetfield (dataMessage hdl old) srbData data = dataMessage hdl data := by
  rfl

/-- The data messages carry the data in pieces, none of them empty. -/
structure Chunked (limit : Nat) (data : List Byte) (chunks : List (List Byte)) : Prop where
  whole : chunks.flatten = data
  nonempty : ∀ chunk ∈ chunks, chunk ≠ []
  short : ∀ chunk ∈ chunks, chunk.length ≤ limit

theorem senddataFrom_chunked {limit : Nat} (positive : 0 < limit) {hdl : List Byte} (turns : Nat)
    {srbmsg : SRBmessage}
    (named : ∀ data, mwSrbNsetfield srbmsg srbData data = dataMessage hdl data) {data : List Byte}
    (nonempty : data ≠ []) (enough : data.length < turns) :
    ∃ chunks, senddataFrom limit turns srbmsg data = chunks.map (dataMessage hdl) ∧
      Chunked limit data chunks := by
  induction turns generalizing srbmsg data with
  | zero => exact absurd enough (Nat.not_lt_zero _)
  | succ turns ih =>
      have length := List.length_pos_iff.mpr nonempty
      have firstNonempty : data.take (min limit data.length) ≠ [] := by
        grind [List.length_pos_iff, List.length_take]
      have firstShort : (data.take (min limit data.length)).length ≤ limit := by
        grind
      simp only [senddataFrom, named]
      split_ifs with more
      · have restNonempty := List.length_pos_iff.mp more
        have restShort : (data.drop (min limit data.length)).length < turns := by
          grind
        rcases ih (mwSrbNsetfield_dataMessage hdl _) restNonempty restShort with
          ⟨chunks, sent, chunked⟩
        refine ⟨data.take (min limit data.length) :: chunks, by rw [sent, List.map_cons], ?_, ?_, ?_⟩
        · rw [List.flatten_cons, chunked.whole, List.take_append_drop]
        · exact List.forall_mem_cons.mpr ⟨firstNonempty, chunked.nonempty⟩
        · exact List.forall_mem_cons.mpr ⟨firstShort, chunked.short⟩
      · have all : data.take (min limit data.length) = data := by
          apply List.take_of_length_le
          rw [List.length_drop] at more
          omega
        refine ⟨[data.take (min limit data.length)], rfl, ?_, ?_, ?_⟩
        · rw [List.flatten_singleton, all]
        · exact List.forall_mem_singleton.mpr firstNonempty
        · exact List.forall_mem_singleton.mpr firstShort

theorem mwSrbsenddata_chunked {limit : Nat} (positive : 0 < limit) (hdl : List Byte)
    {data : List Byte} (nonempty : data ≠ []) :
    ∃ chunks, mwSrbsenddata limit hdl data = chunks.map (dataMessage hdl) ∧
      Chunked limit data chunks := by
  apply senddataFrom_chunked positive _ _ nonempty (Nat.lt_succ_self _)
  intro chunk
  rfl

section Call

variable {limit : Nat} {flags : UInt32} (wantsReply : flags &&& mwNoreplyFlag = 0)
  (secstolive : Option Int) (uninit : List Byte) (handle : UInt32) (svcname : List Byte)
  {data : List Byte}
include wantsReply

theorem mwSrbsendcall_short (fits : data.length ≤ limit) :
    mwSrbsendcall limit secstolive uninit handle svcname (some data) flags =
      [callMessage (sprintfUpperX handle) svcname none data secstolive] := by
  have oneMessage : ¬ data.length > limit := by omega
  cases secstolive with
  | none =>
      simp +decide [mwSrbsendcall, wantsReply, oneMessage, mwSrbSetfield, mwSrbSetfieldi, mwSrbInit,
        mwSrbNsetfield, urlmapnadd, callMessage, optionalField]
  | some timeleft =>
      simp +decide [mwSrbsendcall, wantsReply, oneMessage, mwSrbSetfield, mwSrbSetfieldi, mwSrbInit,
        mwSrbNsetfield, urlmapnadd, callMessage, optionalField]

/-- The length is announced as an `int`. -/
theorem mwSrbsendcall_long (exceeds : limit < data.length) (isInt : data.length < 2147483648) :
    mwSrbsendcall limit secstolive uninit handle svcname (some data) flags =
      callMessage (sprintfUpperX handle) svcname (some data.length) (data.take limit) secstolive ::
        mwSrbsenddata limit (sprintfUpperX handle) (data.drop limit) := by
  have announced : toInt32 data.length = data.length := toInt32_self (by omega) (by omega)
  have left : toInt32 ((data.length : Int) - limit) = data.length - limit :=
    toInt32_self (by omega) (by omega)
  have whole : (data.drop limit).take (data.length - limit) = data.drop limit := by
    simp [List.length_drop, List.take_of_length_le]
  cases secstolive with
  | none =>
      simp +decide [mwSrbsendcall, wantsReply, exceeds, mwSrbSetfield, mwSrbSetfieldi, mwSrbInit,
        mwSrbNsetfield, urlmapnadd, callMessage, optionalField, announced, left, whole]
  | some timeleft =>
      simp +decide [mwSrbsendcall, wantsReply, exceeds, mwSrbSetfield, mwSrbSetfieldi, mwSrbInit,
        mwSrbNsetfield, urlmapnadd, callMessage, optionalField, announced, left, whole]

end Call

/-- What the peer reads, when the message can be encoded. `urlmapnadd` does not
terminate a value, so the text of an empty one is not determined. -/
def transmit (srbmsg : SRBmessage) : Option SRBmessage :=
  if srbmsg.map.any fun entry => entry.value == some [] then none
  else
    match mwSrbencodemessage srbmsg (srbMessageMaxLen + 1) with
    | .error _ => none
    | .ok encoded => (mwSrbdecodemessage [] encoded 0 (encoded.length - 2)).srbmsg

/-- At most this many bytes of text, with the separator. -/
def entrySize (entry : UrlmapEntry) : Nat :=
  3 * entry.key.length + 3 * (entry.value.getD []).length + 2

def mapSize : Urlmap → Nat
  | [] => 0
  | entry :: rest => entrySize entry + mapSize rest

theorem mapSize_append (front back : Urlmap) :
    mapSize (front ++ back) = mapSize front + mapSize back := by
  induction front with
  | nil => simp [mapSize]
  | cons entry rest ih =>
      grind [mapSize]

theorem length_encodeBytes_le (bytes : List Byte) :
    (encodeBytes bytes).length ≤ 3 * bytes.length := by
  induction bytes with
  | nil => simp [encodeBytes]
  | cons c rest ih =>
      have head := length_encodeByte c
      grind [encodeBytes, List.flatMap_cons, List.length_append, List.length_cons]

theorem length_separate_le (list : List Byte) : (separate list).length ≤ list.length + 1 := by
  grind [separate]

/-- The encoder accepts a map that is sure to fit. -/
theorem urlmapnencodeFrom_fits {len : Nat} {list : List Byte} {map : Urlmap}
    (keysOk : ∀ entry ∈ map, KeyOk entry.key) (fits : list.length + mapSize map + 1 ≤ len) :
    ∃ text, urlmapnencodeFrom len list map = .ok text ∧
      text.length ≤ list.length + mapSize map := by
  induction map generalizing list with
  | nil => exact ⟨list, rfl, Nat.le_add_right _ _⟩
  | cons entry rest ih =>
      rcases entry with ⟨key, value⟩
      have separated := length_separate_le list
      have keyText := urlencode_key (keysOk _ List.mem_cons_self).2
      have keyLength := length_encodeBytes_le key
      simp only [mapSize, entrySize] at fits
      have keyFits : ¬ ((3 * key.length : Nat) : Int) + (separate list).length + 2 > len := by
        omega
      have restOk : ∀ other ∈ rest, KeyOk other.key :=
        fun other member => keysOk other (List.mem_cons_of_mem _ member)
      simp only [urlmapnencodeFrom, if_neg keyFits, keyText]
      cases value with
      | none =>
          grind [List.length_nil, List.length_append, mapSize, entrySize]
      | some value =>
          simp only [Option.getD_some] at fits
          have valueLength := length_encodeBytes_le value
          have valueFits : ¬ (value.length : Int) +
              (separate list ++ encodeBytes key ++ [equals]).length + 1 > len := by
            simp only [List.length_append, List.length_singleton]
            omega
          have shorter : (separate list ++ encodeBytes key ++ [equals] ++ encodeBytes value).length ≤
              list.length + (3 * key.length + 3 * value.length + 2) := by
            simp only [List.length_append, List.length_singleton]
            omega
          rcases @ih
            (separate list ++ encodeBytes key ++ [equals] ++ encodeBytes value) restOk
            (by omega) with ⟨text, accepted, bound⟩
          refine ⟨text, ?_, ?_⟩
          · simp_all [if_neg, urlnencode_block]
          · grind [mapSize, entrySize]

/-- The encoder writes a message that is sure to fit. -/
theorem mwSrbencodemessage_fits {srbmsg : SRBmessage}
    (commandShort : srbmsg.command.length < commandSize)
    (keysOk : ∀ entry ∈ srbmsg.map, KeyOk entry.key)
    (fits : srbmsg.command.length + mapSize srbmsg.map + 2 ≤ srbMessageMaxLen) :
    ∃ text, mwSrbencodemessage srbmsg (srbMessageMaxLen + 1) =
        .ok (srbmsg.command ++ [srbmsg.marker] ++ text ++ srbMessageBoundry) ∧
      text.length ≤ mapSize srbmsg.map := by
  have clipped : srbmsg.commandString.take mwMaxSvcName = srbmsg.command := by
    rw [SRBmessage.commandString, if_pos commandShort]
    exact List.take_of_length_le (by simp only [commandSize, mwMaxSvcName] at *; omega)
  have room : (srbMessageMaxLen : Int) - (srbmsg.command ++ [srbmsg.marker]).length =
      ((srbMessageMaxLen - (srbmsg.command.length + 1) : Nat) : Int) := by
    rw [List.length_append, List.length_singleton]
    omega
  rcases @urlmapnencodeFrom_fits (srbMessageMaxLen - (srbmsg.command.length + 1)) [] srbmsg.map
    keysOk (by rw [List.length_nil]; omega) with ⟨text, accepted, bound⟩
  rw [List.length_nil, Nat.zero_add] at bound
  refine ⟨text, ?_, bound⟩
  have wide : ¬ ((srbMessageMaxLen : Int) + 1 < mwMaxSvcName + 2) := by decide
  have long : ¬ ((srbmsg.command ++ [srbmsg.marker] ++ text).length : Int) >
      (srbMessageMaxLen : Int) + 1 - 2 := by
    simp only [List.length_append, List.length_singleton]
    omega
  have positive : ¬ ((srbMessageMaxLen - (srbmsg.command.length + 1) : Nat) : Int) < 1 := by
    omega
  simp_all [mwSrbencodemessage, if_neg, clipped, room, urlmapnencode, accepted]

/-- A message that is sure to fit comes through as it is. -/
theorem transmit_self {srbmsg : SRBmessage} (sendable : Sendable srbmsg)
    (nonempty : ∀ entry ∈ srbmsg.map, entry.value ≠ some [])
    (fits : srbmsg.command.length + mapSize srbmsg.map + 2 ≤ srbMessageMaxLen) :
    transmit srbmsg = some srbmsg := by
  have determined : ¬ (srbmsg.map.any fun entry => entry.value == some []) = true := by
    simp_all [List.any_eq_true]
  rcases mwSrbencodemessage_fits sendable.commandShort sendable.keysOk fits with ⟨text, encoded, -⟩
  have isText := mwSrbencodemessage_ok sendable.commandShort encoded
  rw [transmit, if_neg determined, encoded, isText]
  simp only
  have memory : messageText srbmsg ++ srbMessageBoundry =
      [] ++ messageText srbmsg ++ carriageReturn :: [lineFeed] := rfl
  have length : ([] ++ messageText srbmsg ++ carriageReturn :: [lineFeed]).length - 2 =
      (messageText srbmsg).length := by
    simp
  have decoded := sendable.decode [] [] [lineFeed] carriageReturn
  rw [memory, length, ← List.length_nil, decoded]

theorem sprintfUpperX_ne_nil (handle : UInt32) : sprintfUpperX handle ≠ [] := by
  grind [List.length_pos_iff, sprintfUpperX, length_printHex]

theorem names_plain :
    (∀ c ∈ srbSvccall, c ≠ 0 ∧ c ≠ carriageReturn ∧ c ≠ lineFeed ∧ isMarker c = false) ∧
    (∀ c ∈ srbSvcdata, c ≠ 0 ∧ c ≠ carriageReturn ∧ c ≠ lineFeed ∧ isMarker c = false) ∧
    ∀ key ∈ [srbHandle, srbSvcname, srbDatatotal, srbData, srbSectolive, srbHops],
      key ≠ [] ∧ 0 ∉ key := by
  decide +kernel

theorem sendable_dataMessage (hdl data : List Byte) : Sendable (dataMessage hdl data) := by
  have keys := names_plain.2.2
  refine ⟨by change srbSvcdata.length < _; decide, names_plain.2.1, Or.inr (Or.inr rfl),
    List.cons_ne_nil _ _, ?_, ?_⟩
  · intro entry member
    simp only [dataMessage, List.mem_cons, List.not_mem_nil, or_false] at member
    rcases member with rfl | rfl
    · exact keys srbHandle (by simp)
    · exact keys srbData (by simp)
  · simp [dataMessage]

theorem mem_optionalField {key : List Byte} {value : Option Int} {entry : UrlmapEntry}
    (member : entry ∈ optionalField key value) :
    entry.key = key ∧ ∃ number, entry.value = some (sprintfD number) := by
  rcases List.mem_map.mp member with ⟨number, -, rfl⟩
  exact ⟨rfl, number, rfl⟩

theorem mem_callMessage {hdl svcname data : List Byte} {total secstolive : Option Int}
    {entry : UrlmapEntry} (member : entry ∈ (callMessage hdl svcname total data secstolive).map) :
    entry = ⟨srbHandle, some hdl⟩ ∨ entry = ⟨srbSvcname, some svcname⟩ ∨
      entry = ⟨srbData, some data⟩ ∨
      ((entry.key = srbDatatotal ∨ entry.key = srbSectolive ∨ entry.key = srbHops) ∧
        ∃ number, entry.value = some (sprintfD number)) := by
  simp only [callMessage, List.mem_append, List.mem_cons, List.not_mem_nil, or_false] at member
  rcases member with ((((isHandle | isSvcname) | isTotal) | isData) | isSectolive) | isHops
  · exact Or.inl isHandle
  · exact Or.inr (Or.inl isSvcname)
  · rcases mem_optionalField isTotal with ⟨key, value⟩
    exact Or.inr (Or.inr (Or.inr ⟨Or.inl key, value⟩))
  · exact Or.inr (Or.inr (Or.inl isData))
  · rcases mem_optionalField isSectolive with ⟨key, value⟩
    exact Or.inr (Or.inr (Or.inr ⟨Or.inr (Or.inl key), value⟩))
  · simp_all [Or.inr]

theorem sendable_callMessage (hdl svcname data : List Byte) (total secstolive : Option Int) :
    Sendable (callMessage hdl svcname total data secstolive) := by
  have keys := names_plain.2.2
  refine ⟨by change srbSvccall.length < _; decide, names_plain.1, Or.inl rfl, ?_, ?_, ?_⟩
  · simp [callMessage]
  · intro entry member
    rcases mem_callMessage member with rfl | rfl | rfl | ⟨isKey | isKey | isKey, -⟩
    · exact keys srbHandle (by simp)
    · exact keys srbSvcname (by simp)
    · exact keys srbData (by simp)
    · exact isKey ▸ keys srbDatatotal (by simp)
    · exact isKey ▸ keys srbSectolive (by simp)
    · exact isKey ▸ keys srbHops (by simp)
  · intro entry member
    rcases mem_callMessage member with rfl | rfl | rfl | ⟨-, number, isNumber⟩
    · exact Option.some_ne_none _
    · exact Option.some_ne_none _
    · exact Option.some_ne_none _
    · simp [isNumber, Option.some_ne_none]

theorem mapSize_optionalField (key : List Byte) (value : Option Int) :
    mapSize (optionalField key value) ≤ 3 * key.length + 35 := by
  cases value with
  | none => exact Nat.zero_le _
  | some number =>
      have digits := length_sprintfD_le number
      simp only [optionalField, mapSize, entrySize, Option.toList_some, List.map_cons, List.map_nil,
        Option.getD_some]
      omega

section Transmit

variable (handle : UInt32) {data : List Byte} (nonempty : data ≠ []) (short : data.length ≤ 1000)
include nonempty short

theorem transmit_dataMessage :
    transmit (dataMessage (sprintfUpperX handle) data) =
      some (dataMessage (sprintfUpperX handle) data) := by
  have hdl : (sprintfUpperX handle).length = 8 := length_printHex upperHexDigit 8 handle.toNat
  have names : srbSvcdata.length = 7 ∧ srbHandle.length = 6 ∧ srbData.length = 4 := by decide
  apply transmit_self (sendable_dataMessage _ _)
  · simp [dataMessage, nonempty, sprintfUpperX_ne_nil]
  · grind [dataMessage, mapSize, entrySize, srbMessageMaxLen]

theorem transmit_callMessage {svcname : List Byte} (named : svcname ≠ [])
    (nameLength : svcname.length ≤ 32) (total secstolive : Option Int) :
    transmit (callMessage (sprintfUpperX handle) svcname total data secstolive) =
      some (callMessage (sprintfUpperX handle) svcname total data secstolive) := by
  have hdl : (sprintfUpperX handle).length = 8 := length_printHex upperHexDigit 8 handle.toNat
  have names : srbSvccall.length = 7 ∧ srbHandle.length = 6 ∧ srbSvcname.length = 7 ∧
      srbDatatotal.length = 9 ∧ srbData.length = 4 ∧ srbSectolive.length = 9 ∧
      srbHops.length = 4 := by
    decide
  apply transmit_self (sendable_callMessage _ _ _ _ _)
  · intro entry member
    rcases mem_callMessage member with rfl | rfl | rfl | ⟨-, number, isNumber⟩
    · simpa using sprintfUpperX_ne_nil handle
    · simpa using named
    · simpa using nonempty
    · simp [isNumber, sprintfD_ne_nil]
  · have totalSize := mapSize_optionalField srbDatatotal total
    have timeSize := mapSize_optionalField srbSectolive secstolive
    have hops := length_sprintfD_le 0
    simp only [names] at totalSize timeSize
    simp only [callMessage, mapSize_append, mapSize, entrySize, Option.getD_some, hdl, names,
      srbMessageMaxLen]
    omega

end Transmit

/-- The data of a call, split over its messages. The total is announced unless the
first message has all of the data. -/
structure SentCall (limit : Nat) (handle : UInt32) (svcname data : List Byte)
    (secstolive : Option Int) (messages : List SRBmessage) (total : Option Int)
    (first : List Byte) (chunks : List (List Byte)) : Prop where
  listed : messages = callMessage (sprintfUpperX handle) svcname total first secstolive ::
    chunks.map (dataMessage (sprintfUpperX handle))
  joined : first ++ chunks.flatten = data
  firstOk : first ≠ [] ∧ first.length ≤ limit
  chunksOk : ∀ chunk ∈ chunks, chunk ≠ [] ∧ chunk.length ≤ limit
  announced : (total = none ∧ first = data) ∨ total = some (data.length : Int)

theorem mwSrbsendcall_sentCall {limit : Nat} (positive : 0 < limit) {flags : UInt32}
    (wantsReply : flags &&& mwNoreplyFlag = 0) (secstolive : Option Int) (uninit : List Byte)
    (handle : UInt32) (svcname : List Byte) {data : List Byte} (nonempty : data ≠ [])
    (isInt : data.length < 2147483648) :
    ∃ total first chunks, SentCall limit handle svcname data secstolive
      (mwSrbsendcall limit secstolive uninit handle svcname (some data) flags) total first chunks := by
  by_cases fits : data.length ≤ limit
  · refine ⟨none, data, [], ?_, List.append_nil data, ⟨nonempty, fits⟩, ?_, Or.inl ⟨rfl, rfl⟩⟩
    · exact mwSrbsendcall_short wantsReply secstolive uninit handle svcname fits
    · simp
  · have exceeds : limit < data.length := Nat.lt_of_not_le fits
    have restNonempty : data.drop limit ≠ [] := by
      simp_all
    rcases mwSrbsenddata_chunked positive (sprintfUpperX handle) restNonempty with
      ⟨chunks, sent, chunked⟩
    refine ⟨some data.length, data.take limit, chunks, ?_, ?_, ⟨?_, List.length_take_le _ _⟩, ?_,
      Or.inr rfl⟩
    · rw [mwSrbsendcall_long wantsReply secstolive uninit handle svcname exceeds isInt, sent]
    · rw [chunked.whole, List.take_append_drop]
    · grind [List.length_pos_iff, List.length_take]
    · intro chunk member
      exact ⟨chunked.nonempty chunk member, chunked.short chunk member⟩

/-- The gateway reads every message of a call as it was built. -/
theorem SentCall.transmit {limit : Nat} (small : limit ≤ 1000) {handle : UInt32}
    {svcname data : List Byte} (named : svcname ≠ []) (nameLength : svcname.length ≤ 32)
    {secstolive : Option Int} {messages : List SRBmessage} {total : Option Int}
    {first : List Byte} {chunks : List (List Byte)}
    (sent : SentCall limit handle svcname data secstolive messages total first chunks) :
    ∀ srbmsg ∈ messages, transmit srbmsg = some srbmsg := by
  intro srbmsg member
  rw [sent.listed] at member
  rcases List.mem_cons.mp member with rfl | isData
  · exact transmit_callMessage handle sent.firstOk.1 (sent.firstOk.2.trans small) named nameLength
      total secstolive
  · rcases List.mem_map.mp isData with ⟨chunk, isChunk, rfl⟩
    rcases sent.chunksOk chunk isChunk with ⟨nonempty, short⟩
    exact transmit_dataMessage handle nonempty (short.trans small)

end MidWay.Srb

import MidWay.Srb.CallMessages

/-!
Contract: the messages of every service call, with or without data and reply, and whether
the encoder has room for them.

The names, numbers and data of a call leave room for a third escape of every byte. What has
no bound is a text that was never written: the value of an empty field, which `urlmapnadd`
does not terminate, and the handle of a call without reply.

Owns: `callFields`, the shape of all that `mwSrbsendcall` sends, `SRBmessage.stored`, and
when every message of a call fits.
-/

namespace MidWay.Srb

open MidWay.CLib MidWay.Url

variable {srbmsg : SRBmessage} {entry : UrlmapEntry}

def textField (key : List Byte) (value : Option (List Byte)) : Urlmap :=
  value.toList.map fun text => ⟨key, some text⟩

def callFields (hdl : Option (List Byte)) (svcname : List Byte) (total : Option Int)
    (data : Option (List Byte)) (secstolive : Option Int) : Urlmap :=
  textField srbHandle hdl ++ [⟨srbSvcname, some svcname⟩] ++ optionalField srbDatatotal total ++
    textField srbData data ++ optionalField srbSectolive secstolive ++
    [⟨srbHops, some (sprintfD 0)⟩]

def announced (limit : Nat) (bytes : List Byte) : Option Int :=
  if bytes.length > limit then some (toInt32 bytes.length) else none

def remaining (limit : Nat) (hdlbuf bytes : List Byte) : List SRBmessage :=
  if bytes.length > limit ∧ toInt32 ((bytes.length : Int) - limit) > 0 then
    mwSrbsenddata limit hdlbuf
      ((bytes.drop limit).take (toInt32 ((bytes.length : Int) - limit)).toNat)
  else []

section Shape

variable (limit : Nat) (secstolive : Option Int) (uninit : List Byte) (handle : UInt32)
  (svcname : List Byte) (data : Option (List Byte)) {flags : UInt32}

theorem mwSrbsendcall_request (wantsReply : flags &&& mwNoreplyFlag = 0) :
    mwSrbsendcall limit secstolive uninit handle svcname data flags =
      ⟨srbSvccall, srbRequestMarker, callFields (some (sprintfUpperX handle)) svcname
          (announced limit (data.getD [])) (data.map (List.take limit)) secstolive⟩ ::
        remaining limit (sprintfUpperX handle) (data.getD []) := by
  cases data with
  | none =>
      cases secstolive <;>
        simp +decide [mwSrbsendcall, wantsReply, mwSrbSetfield, mwSrbSetfieldi, mwSrbInit,
          mwSrbNsetfield, urlmapnadd, callFields, textField, optionalField, announced, remaining]
  | some data =>
      by_cases exceeds : data.length > limit
      · cases secstolive <;>
          simp +decide [mwSrbsendcall, wantsReply, exceeds, mwSrbSetfield, mwSrbSetfieldi,
            mwSrbInit, mwSrbNsetfield, urlmapnadd, callFields, textField, optionalField, announced,
            remaining]
      · have whole : data.take limit = data := List.take_of_length_le (Nat.not_lt.mp exceeds)
        cases secstolive <;>
          simp +decide [mwSrbsendcall, wantsReply, exceeds, whole, mwSrbSetfield, mwSrbSetfieldi,
            mwSrbInit, mwSrbNsetfield, urlmapnadd, callFields, textField, optionalField, announced,
            remaining]

theorem mwSrbsendcall_notification (noreply : flags &&& mwNoreplyFlag ≠ 0) :
    mwSrbsendcall limit secstolive uninit handle svcname data flags =
      ⟨srbSvccall, srbNotificationMarker, callFields none svcname
          (announced limit (data.getD [])) (data.map (List.take limit)) secstolive⟩ ::
        remaining limit uninit (data.getD []) := by
  cases data with
  | none =>
      cases secstolive <;>
        simp +decide [mwSrbsendcall, noreply, mwSrbSetfield, mwSrbSetfieldi, mwSrbInit,
          mwSrbNsetfield, urlmapnadd, callFields, textField, optionalField, announced, remaining]
  | some data =>
      by_cases exceeds : data.length > limit
      · cases secstolive <;>
          simp +decide [mwSrbsendcall, noreply, exceeds, mwSrbSetfield, mwSrbSetfieldi,
            mwSrbInit, mwSrbNsetfield, urlmapnadd, callFields, textField, optionalField, announced,
            remaining]
      · have whole : data.take limit = data := List.take_of_length_le (Nat.not_lt.mp exceeds)
        cases secstolive <;>
          simp +decide [mwSrbsendcall, noreply, exceeds, whole, mwSrbSetfield, mwSrbSetfieldi,
            mwSrbInit, mwSrbNsetfield, urlmapnadd, callFields, textField, optionalField, announced,
            remaining]

end Shape

theorem senddataFrom_data (limit : Nat) {hdl : List Byte} (turns : Nat)
    (named : ∀ data, mwSrbNsetfield srbmsg srbData data = dataMessage hdl data) (data : List Byte) :
    ∃ chunks : List (List Byte),
      senddataFrom limit turns srbmsg data = chunks.map (dataMessage hdl) := by
  induction turns generalizing srbmsg data with
  | zero => exact ⟨[], rfl⟩
  | succ turns ih =>
      rw [senddataFrom, named]
      split_ifs with more
      · rcases ih (mwSrbNsetfield_dataMessage hdl _)
          (data.drop (min limit data.length)) with ⟨chunks, sent⟩
        exact ⟨data.take (min limit data.length) :: chunks, by rw [sent, List.map_cons]⟩
      · exact ⟨[data.take (min limit data.length)], rfl⟩

theorem remaining_data (limit : Nat) (hdl bytes : List Byte) :
    ∃ chunks : List (List Byte), remaining limit hdl bytes = chunks.map (dataMessage hdl) := by
  rw [remaining]
  split_ifs with more
  · apply senddataFrom_data
    intro chunk
    rfl
  · exact ⟨[], rfl⟩

/-- With a length that is an `int`, what remains is all of the rest. -/
theorem remaining_chunked {limit : Nat} (positive : 0 < limit) (hdl : List Byte)
    {bytes : List Byte} (isInt : bytes.length ≤ 2147483647) :
    ∃ chunks, remaining limit hdl bytes = chunks.map (dataMessage hdl) ∧
      Chunked limit (bytes.drop limit) chunks := by
  have left : toInt32 ((bytes.length : Int) - limit) = bytes.length - limit ∨
      bytes.length ≤ limit := by
    by_cases fits : bytes.length ≤ limit
    · exact Or.inr fits
    · exact Or.inl (toInt32_self (by omega) (by omega))
  rw [remaining]
  split_ifs with more
  · rcases left with isLeft | fits
    · have whole : (bytes.drop limit).take (bytes.length - limit) = bytes.drop limit := by
        apply List.take_of_length_le
        rw [List.length_drop]
      have count : ((bytes.length : Int) - limit).toNat = bytes.length - limit := by omega
      rw [isLeft, count, whole]
      apply mwSrbsenddata_chunked positive
      rw [← List.length_pos_iff, List.length_drop]
      omega
    · exact absurd more.1 (Nat.not_lt.mpr fits)
  · have none : bytes.drop limit = [] := by
      rw [List.drop_eq_nil_iff]
      rcases left with isLeft | fits
      · omega
      · exact fits
    refine ⟨[], rfl, ?_, ?_, ?_⟩
    · simp [none]
    · exact fun chunk member => absurd member List.not_mem_nil
    · exact fun chunk member => absurd member List.not_mem_nil

/-- The message as its blocks hold it. The text of an empty value is whatever is at its block. -/
def SRBmessage.stored (memory : List Byte → List Byte) (srbmsg : SRBmessage) : SRBmessage :=
  { srbmsg with
    map := srbmsg.map.map fun entry =>
      if entry.value = some [] then { entry with value := some (cstr (memory entry.key)) }
      else entry }

def SRBmessage.Fits (srbmsg : SRBmessage) : Prop :=
  ∃ text, mwSrbencodemessage srbmsg (srbMessageMaxLen + 1) = .ok text ∧
    text.length ≤ srbMessageMaxLen

def srbdataPerMessage : Nat := 1000

structure ServiceCall where
  handle : UInt32
  svcname : List Byte
  data : Option (List Byte)
  secstolive : Option Int
  flags : UInt32
  nameOk : svcname.length ≤ 32 ∧ 0 ∉ svcname
  dataOk : (data.getD []).length ≤ 2147483647

def ServiceCall.bytes (call : ServiceCall) : List Byte := call.data.getD []

def ServiceCall.messages (call : ServiceCall) (hdlbuf : List Byte) : List SRBmessage :=
  mwSrbsendcall srbdataPerMessage call.secstolive (cstr hdlbuf) call.handle call.svcname call.data
    call.flags

/-- Whatever is in the handle buffer and in the blocks of empty values, the messages of the call
fit, and so do those for its data under its handle. -/
def ServiceCall.AllFit (call : ServiceCall) : Prop :=
  ∀ hdlbuf memory, (∀ srbmsg ∈ call.messages hdlbuf, (srbmsg.stored memory).Fits) ∧
    (call.bytes ≠ [] → ∀ srbmsg ∈ mwSrbsenddata srbdataPerMessage (sprintfUpperX call.handle)
      call.bytes, (srbmsg.stored memory).Fits)

/-- Nothing is sent that was not written: no empty value, and no handle without one. -/
structure ServiceCall.Written (call : ServiceCall) : Prop where
  named : call.svcname ≠ []
  data : call.data ≠ some []
  handle : call.flags &&& mwNoreplyFlag = 0 ∨ call.bytes.length ≤ srbdataPerMessage

theorem stored_self (memory : List Byte → List Byte)
    (nonempty : ∀ entry ∈ srbmsg.map, entry.value ≠ some []) : srbmsg.stored memory = srbmsg := by
  have same : (srbmsg.map.map fun entry => if entry.value = some [] then
      { entry with value := some (cstr (memory entry.key)) } else entry) = srbmsg.map :=
    (List.map_congr_left fun entry member => if_neg (nonempty entry member)).trans (List.map_id _)
  rw [SRBmessage.stored, same]

theorem fits_of_size (commandShort : srbmsg.command.length < commandSize)
    (keysOk : ∀ entry ∈ srbmsg.map, KeyOk entry.key)
    (size : srbmsg.command.length + mapSize srbmsg.map + 3 ≤ srbMessageMaxLen) : srbmsg.Fits := by
  rcases mwSrbencodemessage_fits commandShort keysOk (by omega) with ⟨text, encoded, short⟩
  refine ⟨_, encoded, ?_⟩
  have boundary : srbMessageBoundry.length = 2 := rfl
  grind

theorem mapSize_textField (key : List Byte) {value : Option (List Byte)} {length : Nat}
    (short : ∀ text, value = some text → text.length ≤ length) :
    mapSize (textField key value) ≤ 3 * key.length + 3 * length + 2 := by
  cases value with
  | none => exact Nat.zero_le _
  | some text =>
      have textShort := short text rfl
      simp only [textField, mapSize, entrySize, Option.toList_some, List.map_cons, List.map_nil,
        Option.getD_some]
      omega

theorem mem_textField {key : List Byte} {value : Option (List Byte)}
    (member : entry ∈ textField key value) : entry.key = key ∧ entry.value = value := by
  rcases List.mem_map.mp member with ⟨text, isText, rfl⟩
  exact ⟨rfl, (Option.mem_toList.mp isText).symm⟩

theorem mem_callFields {hdl data : Option (List Byte)} {svcname : List Byte}
    {total secstolive : Option Int}
    (member : entry ∈ callFields hdl svcname total data secstolive) :
    (entry.key = srbHandle ∧ entry.value = hdl) ∨
      (entry.key = srbSvcname ∧ entry.value = some svcname) ∨
      (entry.key = srbData ∧ entry.value = data) ∨
      ((entry.key = srbDatatotal ∨ entry.key = srbSectolive ∨ entry.key = srbHops) ∧
        ∃ number, entry.value = some (sprintfD number)) := by
  simp only [callFields, List.mem_append, List.mem_singleton] at member
  rcases member with ((((isHandle | isSvcname) | isTotal) | isData) | isSectolive) | isHops
  · exact Or.inl (mem_textField isHandle)
  · exact Or.inr (Or.inl ⟨by rw [isSvcname], by rw [isSvcname]⟩)
  · rcases mem_optionalField isTotal with ⟨key, value⟩
    exact Or.inr (Or.inr (Or.inr ⟨Or.inl key, value⟩))
  · exact Or.inr (Or.inr (Or.inl (mem_textField isData)))
  · rcases mem_optionalField isSectolive with ⟨key, value⟩
    exact Or.inr (Or.inr (Or.inr ⟨Or.inr (Or.inl key), value⟩))
  · simp_all [Or.inr]

section Fits

variable {hdl svcname data : List Byte}

theorem fits_dataMessage (memory : List Byte → List Byte) (written : hdl.length = 8)
    (nonempty : data ≠ []) (short : data.length ≤ 1000) :
    ((dataMessage hdl data).stored memory).Fits := by
  have names : srbSvcdata.length = 7 ∧ srbHandle.length = 6 ∧ srbData.length = 4 := by decide
  have some : hdl ≠ [] := List.ne_nil_of_length_pos (by omega)
  have sendable := sendable_dataMessage hdl data
  rw [stored_self memory (by simp [dataMessage, nonempty, some])]
  apply fits_of_size sendable.commandShort sendable.keysOk
  grind [dataMessage, mapSize, entrySize, Option.getD_some, srbMessageMaxLen]

theorem fits_callFields (memory : List Byte → List Byte) (marker : Byte)
    {handle chunk : Option (List Byte)} (written : ∀ text, handle = some text → text.length = 8)
    (named : svcname ≠ []) (short : svcname.length ≤ 32)
    (chunkOk : ∀ bytes, chunk = some bytes → bytes ≠ [] ∧ bytes.length ≤ 1000)
    (total secstolive : Option Int) :
    (SRBmessage.stored memory
      ⟨srbSvccall, marker, callFields handle svcname total chunk secstolive⟩).Fits := by
  have keys := names_plain.2.2
  have names : srbSvccall.length = 7 ∧ srbHandle.length = 6 ∧ srbSvcname.length = 7 ∧
      srbDatatotal.length = 9 ∧ srbData.length = 4 ∧ srbSectolive.length = 9 ∧
      srbHops.length = 4 := by
    decide
  rw [stored_self]
  · apply fits_of_size
    · grind [commandSize]
    · intro entry member
      rcases mem_callFields member with
        ⟨key, -⟩ | ⟨key, -⟩ | ⟨key, -⟩ | ⟨key | key | key, -⟩
      · exact key ▸ keys srbHandle (by simp)
      · exact key ▸ keys srbSvcname (by simp)
      · exact key ▸ keys srbData (by simp)
      · exact key ▸ keys srbDatatotal (by simp)
      · exact key ▸ keys srbSectolive (by simp)
      · exact key ▸ keys srbHops (by simp)
    · have handleSize := mapSize_textField srbHandle fun text isText => (written text isText).le
      have totalSize := mapSize_optionalField srbDatatotal total
      have dataSize := mapSize_textField srbData fun bytes isBytes => (chunkOk bytes isBytes).2
      have timeSize := mapSize_optionalField srbSectolive secstolive
      have hops := length_sprintfD_le 0
      simp only [names] at handleSize totalSize dataSize timeSize
      simp only [callFields, mapSize_append, mapSize, entrySize, Option.getD_some, names,
        srbMessageMaxLen]
      omega
  · intro entry member
    rcases mem_callFields member with ⟨-, value⟩ | ⟨-, value⟩ | ⟨-, value⟩ | ⟨-, number, value⟩
    · grind
    · simp_all
    · grind
    · simp [value, sprintfD_ne_nil]

end Fits

theorem urlmapnencodeFrom_values {len : Int} {list text : List Byte} {map : Urlmap}
    (encoded : urlmapnencodeFrom len list map = .ok text) :
    ∀ entry ∈ map, ∀ value, entry.value = some value → (value.length : Int) < len := by
  induction map generalizing list with
  | nil => exact fun entry member => absurd member List.not_mem_nil
  | cons entry rest ih =>
      grind [urlmapnencodeFrom]

theorem SRBmessage.Fits.value (fits : srbmsg.Fits) (member : entry ∈ srbmsg.map) {value : List Byte}
    (isValue : entry.value = some value) :
    value.length < srbMessageMaxLen := by
  rcases fits with ⟨text, encoded, -⟩
  rw [mwSrbencodemessage, if_neg (by decide)] at encoded
  cases isText : urlmapnencode (srbMessageMaxLen - (srbmsg.commandString.take mwMaxSvcName ++
      [srbmsg.marker]).length) srbmsg.map with
  | error errno =>
      simp_all
  | ok fields =>
      rw [urlmapnencode] at isText
      split_ifs at isText with tooShort
      have short := urlmapnencodeFrom_values isText entry member value isValue
      simp only [List.length_append] at short
      omega

def longText : List Byte := List.replicate srbMessageMaxLen 97

theorem cstr_longText : cstr longText = longText :=
  cstr_eq_self fun member => absurd (List.eq_of_mem_replicate member) (by decide)

theorem length_longText : longText.length = srbMessageMaxLen := List.length_replicate

theorem not_fits_longText (member : entry ∈ srbmsg.map) (isLong : entry.value = some longText) :
    ¬srbmsg.Fits := by
  intro fits
  have short := fits.value member isLong
  rw [length_longText] at short
  exact Nat.lt_irrefl _ short

theorem not_fits_empty {key : List Byte} (member : ⟨key, some []⟩ ∈ srbmsg.map) :
    ¬(srbmsg.stored fun _ => longText).Fits := by
  have stored : ⟨key, some longText⟩ ∈ (srbmsg.stored fun _ => longText).map := by
    refine List.mem_map.mpr ⟨⟨key, some []⟩, member, ?_⟩
    rw [if_pos rfl, cstr_longText]
  exact not_fits_longText stored rfl

section Call

variable {call : ServiceCall}

theorem dataMessages_fit (memory : List Byte → List Byte) (handle : UInt32) {bytes : List Byte}
    {chunks : List (List Byte)} (chunked : Chunked srbdataPerMessage bytes chunks) :
    ∀ srbmsg ∈ chunks.map (dataMessage (sprintfUpperX handle)), (srbmsg.stored memory).Fits := by
  intro srbmsg member
  rcases List.mem_map.mp member with ⟨chunk, isChunk, rfl⟩
  exact fits_dataMessage memory (length_printHex upperHexDigit 8 handle.toNat)
    (chunked.nonempty chunk isChunk) (chunked.short chunk isChunk)

theorem ServiceCall.Written.chunkOk (written : call.Written) : ∀ bytes,
    call.data.map (List.take srbdataPerMessage) = some bytes → bytes ≠ [] ∧ bytes.length ≤ 1000 := by
  intro bytes isFirst
  rcases Option.map_eq_some_iff.mp isFirst with ⟨data, isData, rfl⟩
  refine ⟨fun isEmpty => ?_, List.length_take_le _ _⟩
  rcases List.take_eq_nil_iff.mp isEmpty with noLimit | noData
  · cases noLimit
  · exact written.data (noData ▸ isData)

theorem ServiceCall.Written.allFit (written : call.Written) : call.AllFit := by
  intro hdlbuf memory
  constructor
  · rw [ServiceCall.messages]
    by_cases wantsReply : call.flags &&& mwNoreplyFlag = 0
    · rw [mwSrbsendcall_request _ _ _ _ _ _ wantsReply]
      refine List.forall_mem_cons.mpr ⟨?_, ?_⟩
      · refine fits_callFields memory _ (fun text isText => ?_) written.named call.nameOk.1
          written.chunkOk _ _
        rw [← Option.some.inj isText]
        exact length_printHex upperHexDigit 8 call.handle.toNat
      · rcases @remaining_chunked srbdataPerMessage (by decide) (sprintfUpperX call.handle) _
          call.dataOk with ⟨chunks, isRest, chunked⟩
        grind [dataMessages_fit]
    · have fits := written.handle.resolve_left wantsReply
      have noRest : remaining srbdataPerMessage (cstr hdlbuf) (call.data.getD []) = [] :=
        if_neg fun both => absurd both.1 (Nat.not_lt.mpr fits)
      rw [mwSrbsendcall_notification _ _ _ _ _ _ wantsReply, noRest]
      refine List.forall_mem_cons.mpr ⟨?_, fun _ member => absurd member List.not_mem_nil⟩
      exact fits_callFields memory _ (fun text isText => by cases isText) written.named
        call.nameOk.1 written.chunkOk _ _
  · intro nonempty
    rcases @mwSrbsenddata_chunked srbdataPerMessage (by decide) (sprintfUpperX call.handle) _
      nonempty with ⟨chunks, sent, chunked⟩
    rw [sent]
    exact dataMessages_fit memory call.handle chunked

/-- The fields of the first message do not depend on the handle buffer. -/
theorem ServiceCall.first (call : ServiceCall) (hdlbuf : List Byte) :
    ∃ first ∈ call.messages hdlbuf, ⟨srbSvcname, some call.svcname⟩ ∈ first.map ∧
      ∀ data, call.data = some data → ⟨srbData, some (data.take srbdataPerMessage)⟩ ∈ first.map := by
  have fields : ∀ handle, ⟨srbSvcname, some call.svcname⟩ ∈ callFields handle call.svcname
      (announced srbdataPerMessage (call.data.getD [])) (call.data.map (List.take srbdataPerMessage))
      call.secstolive ∧ ∀ data, call.data = some data →
      ⟨srbData, some (data.take srbdataPerMessage)⟩ ∈ callFields handle call.svcname
        (announced srbdataPerMessage (call.data.getD []))
        (call.data.map (List.take srbdataPerMessage)) call.secstolive := by
    intro handle
    refine ⟨by simp [callFields], fun data isData => ?_⟩
    rw [isData]
    simp [callFields, textField]
  rw [ServiceCall.messages]
  by_cases wantsReply : call.flags &&& mwNoreplyFlag = 0
  · simp_all [mwSrbsendcall_request]
  · simp_all [mwSrbsendcall_notification]

theorem ServiceCall.AllFit.written (allFit : call.AllFit) : call.Written := by
  rcases call.first [] with ⟨first, member, isNamed, hasData⟩
  have firstFits := (allFit [] fun _ => longText).1 first member
  refine ⟨fun noName => ?_, fun noData => ?_, ?_⟩
  · rw [noName] at isNamed
    exact not_fits_empty isNamed firstFits
  · exact not_fits_empty (hasData [] noData) firstFits
  · by_contra neither
    rcases not_or.mp neither with ⟨noreply, exceeds⟩
    rcases @remaining_chunked srbdataPerMessage (by decide) longText _ call.dataOk with
      ⟨chunks, isRest, chunked⟩
    have fits := (allFit longText fun _ => []).1
    rw [ServiceCall.messages, mwSrbsendcall_notification _ _ _ _ _ _ noreply, cstr_longText,
      isRest] at fits
    cases chunks with
    | nil =>
        have whole := congrArg List.length chunked.whole
        grind [List.flatten_nil, List.length_nil, List.length_drop, ServiceCall.bytes]
    | cons chunk others =>
        have second := fits (dataMessage longText chunk)
          (List.mem_cons_of_mem _ (List.mem_map_of_mem List.mem_cons_self))
        have written : longText ≠ [] := by
          apply List.ne_nil_of_length_pos
          rw [length_longText]
          decide
        have isHandle : ⟨srbHandle, some longText⟩ ∈
            ((dataMessage longText chunk).stored fun _ => []).map := by
          refine List.mem_map.mpr ⟨⟨srbHandle, some longText⟩, List.mem_cons_self, if_neg ?_⟩
          exact fun isEmpty => written (Option.some.inj isEmpty)
        exact not_fits_longText isHandle rfl second

end Call

/-- The messages of a call fit exactly when nothing is sent that was not written. -/
theorem call_allFit_iff (call : ServiceCall) : call.AllFit ↔ call.Written :=
  ⟨ServiceCall.AllFit.written, ServiceCall.Written.allFit⟩

def emptyDataCall : ServiceCall where
  handle := 1
  svcname := [101]
  data := some []
  secstolive := none
  flags := 0
  nameOk := by decide
  dataOk := by decide

theorem emptyDataCall_overflows : ¬emptyDataCall.AllFit := fun allFit => allFit.written.data rfl

end MidWay.Srb

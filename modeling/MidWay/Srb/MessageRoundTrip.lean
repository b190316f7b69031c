import MidWay.Srb.Message
import MidWay.Url.MapRoundTrip

/-!
Contract: `_mw_srbdecodemessage` reads back what `_mw_srbencodemessage` wrote.

`messageText` is the text in front of the boundary. It has no carriage return,
so the decoder terminates it at its end and nowhere else, and its first marker
is the one behind the command.

Owns: the message round trip, for maps in which every pair has a value.
-/

namespace MidWay.Srb

open MidWay.CLib MidWay.Url

theorem urlmapnencodeFrom_ok {len : Int} {list text : List Byte} {map : Urlmap}
    (accepted : urlmapnencodeFrom len list map = .ok text) :
    text = urlmapencodeFrom list map := by
  induction map generalizing list with
  | nil => simpa [urlmapnencodeFrom, urlmapencodeFrom] using accepted.symm
  | cons entry rest ih =>
      obtain ⟨key, value⟩ := entry
      simp only [urlmapnencodeFrom] at accepted
      split_ifs at accepted
      cases value with
      | none => exact ih accepted
      | some value =>
          simp only at accepted
          split_ifs at accepted
          exact ih accepted

theorem urlmapnencode_ok {len : Int} {text : List Byte} {map : Urlmap}
    (accepted : urlmapnencode len map = .ok text) : text = urlmapencode map := by
  unfold urlmapnencode at accepted
  split_ifs at accepted
  exact urlmapnencodeFrom_ok accepted

/-- The text of a message in front of its boundary. -/
def messageText (srbmsg : SRBmessage) : List Byte :=
  srbmsg.command ++ srbmsg.marker :: urlmapencode srbmsg.map

theorem mwSrbencodemessage_ok {srbmsg : SRBmessage} {bufflen : Int} {encoded : List Byte}
    (short : srbmsg.command.length < commandSize)
    (accepted : mwSrbencodemessage srbmsg bufflen = .ok encoded) :
    encoded = messageText srbmsg ++ srbMessageBoundry := by
  have clipped : srbmsg.commandString.take mwMaxSvcName = srbmsg.command := by
    rw [SRBmessage.commandString, if_pos short]
    exact List.take_of_length_le (by simp only [commandSize, mwMaxSvcName] at *; omega)
  simp only [mwSrbencodemessage, clipped] at accepted
  split_ifs at accepted
  split at accepted
  · cases accepted
  · grind [urlmapnencode_ok, messageText]

theorem findMarker_append {command : List Byte} {marker : Byte} (rest : List Byte)
    (plain : ∀ c ∈ command, c ≠ 0 ∧ isMarker c = false) (isMark : isMarker marker = true) :
    findMarker (command ++ marker :: rest) = some command.length := by
  have markNotNul : marker ≠ 0 := by
    rintro rfl
    revert isMark
    decide
  induction command with
  | nil => simp [findMarker, isMark]
  | cons head tail ih =>
      have later := ih fun c member => plain c (by simp [member])
      have headPlain := (plain head (by simp)).2
      -- The loop goes on because the byte behind `head` is not a NUL.
      cases tail with
      | nil => simp [findMarker, headPlain, isMark, markNotNul]
      | cons next tail =>
          simp_all [List.cons_append, findMarker]

theorem getElem?_middle {α : Type} (before text behind : List α) (index : Nat)
    (within : index < text.length) :
    (before ++ text ++ behind)[before.length + index]? = text[index]? := by
  grind

theorem set_behind {α : Type} (text : List α) (old new : α) (behind : List α) :
    (text ++ old :: behind).set text.length new = text ++ new :: behind := by
  rw [List.set_append_right _ _ (Nat.le_refl _), Nat.sub_self, List.set_cons_zero]

theorem terminateMessage_plain (before behind : List Byte) {text : List Byte} (stop : Byte)
    (long : 2 ≤ text.length) (noReturn : carriageReturn ∉ text) :
    terminateMessage (before ++ text ++ stop :: behind) before.length text.length =
      (before ++ text ++ 0 :: behind, none) := by
  have patched : (before ++ text ++ stop :: behind).set (before.length + text.length) 0 =
      before ++ text ++ 0 :: behind := by
    rw [← List.length_append]
    exact set_behind _ stop 0 behind
  have looked : (before ++ text ++ 0 :: behind)[before.length + text.length - 2]? =
      text[text.length - 2]? := by
    rw [Nat.add_sub_assoc long]
    exact getElem?_middle before text (0 :: behind) _ (by omega)
  have absent : text[text.length - 2]? ≠ some carriageReturn := fun found =>
    noReturn (List.mem_of_getElem? found)
  simp only [terminateMessage, patched, looked, if_neg absent]

/-- The decoder on a command, a marker and the text of a map. -/
theorem mwSrbdecodemessage_text (uninit before behind : List Byte) (stop : Byte)
    {command fields : List Byte} {marker : Byte}
    (plain : ∀ c ∈ command, c ≠ 0 ∧ isMarker c = false) (short : command.length ≤ 32)
    (isMark : isMarker marker = true) (notReject : marker ≠ srbRejectMarker)
    (long : 2 ≤ (command ++ marker :: fields).length)
    (noReturn : carriageReturn ∉ command ++ marker :: fields) :
    mwSrbdecodemessage uninit (before ++ (command ++ marker :: fields) ++ stop :: behind)
        before.length (command ++ marker :: fields).length =
      match (urlmapdecode uninit (fields ++ 0 :: behind)).map with
      | none => ⟨none, some .EBADMSG,
          some (cstr (command ++ marker :: fields ++ 0 :: behind), -1),
          before ++ (command ++ marker :: fields) ++ 0 :: behind⟩
      | some map => ⟨some ⟨command, marker, map⟩,
          (urlmapdecode uninit (fields ++ 0 :: behind)).errno, none,
          before ++ (command ++ marker :: fields) ++ 0 :: behind⟩ := by
  have nulFree : 0 ∉ command := fun member => (plain 0 member).1 rfl
  have shape : command ++ marker :: fields ++ 0 :: behind =
      command ++ marker :: (fields ++ 0 :: behind) := by
    simp
  have marked : findMarker (command ++ marker :: fields ++ 0 :: behind) =
      some command.length := by
    rw [shape]
    exact findMarker_append _ plain isMark
  have markerAt : (command ++ marker :: fields ++ 0 :: behind).getD command.length 0 =
      marker := by
    rw [shape]
    simp
  have commandRead : cstr ((command ++ marker :: fields ++ 0 :: behind).take command.length) =
      command := by
    rw [shape, List.take_left, cstr_eq_self nulFree]
  have fieldsRead : (command ++ marker :: fields ++ 0 :: behind).drop (command.length + 1) =
      fields ++ 0 :: behind := by
    rw [shape, show command ++ marker :: (fields ++ 0 :: behind) =
      (command ++ [marker]) ++ (fields ++ 0 :: behind) by simp, List.drop_left' (by simp)]
  rw [mwSrbdecodemessage, terminateMessage_plain before behind stop long noReturn]
  simp only [List.append_assoc before, List.drop_left]
  rw [marked]
  simp only [markerAt, commandRead, fieldsRead, if_neg notReject,
    if_neg (show ¬ command.length > 32 by omega)]
  cases (urlmapdecode uninit (fields ++ 0 :: behind)).map <;> rfl

theorem Encoded.ne_carriageReturn {c : Byte} (encoded : Encoded c) : c ≠ carriageReturn := by
  rintro rfl
  rcases encoded with alnum | isPercent
  · revert alnum
    decide
  · revert isPercent
    decide

theorem carriageReturn_not_mem_pairText (entry : UrlmapEntry) :
    carriageReturn ∉ pairText entry := by
  have free : ∀ bytes, carriageReturn ∉ encodeBytes bytes := fun bytes member =>
    Encoded.ne_carriageReturn (encodeBytes_encoded bytes _ member) rfl
  obtain ⟨key, value⟩ := entry
  cases value with
  | none => simp [pairText, valueText, free]
  | some value =>
      simp [pairText, valueText, free, show carriageReturn ≠ equals by decide]

theorem carriageReturn_not_mem_urlmapencode {map : Urlmap}
    (keysOk : ∀ entry ∈ map, KeyOk entry.key) : carriageReturn ∉ urlmapencode map := by
  cases map with
  | nil => simp [urlmapencode, urlmapencodeFrom]
  | cons first rest =>
      rw [urlmapencode_text keysOk]
      simp [tailText, carriageReturn_not_mem_pairText,
        show carriageReturn ≠ ampersand by decide]

theorem urlmapencode_ne_nil {map : Urlmap} (nonempty : map ≠ [])
    (keysOk : ∀ entry ∈ map, KeyOk entry.key) : urlmapencode map ≠ [] := by
  obtain ⟨first, rest, rfl⟩ := List.exists_cons_of_ne_nil nonempty
  rw [urlmapencode_text keysOk]
  simp [pairText_ne_nil (keysOk first (by simp))]

theorem urlmapdecode_valued (uninit behind : List Byte) {map : Urlmap} (nonempty : map ≠ [])
    (keysOk : ∀ entry ∈ map, KeyOk entry.key) (valued : ∀ entry ∈ map, entry.value ≠ none) :
    urlmapdecode uninit (urlmapencode map ++ 0 :: behind) = ⟨some map, none⟩ := by
  obtain ⟨first, rest, rfl⟩ := List.exists_cons_of_ne_nil nonempty
  have kept : readBack rest = rest := by
    rw [readBack_eq_self fun entry member => keysOk entry (by simp [member])]
    intro entry member swallowed
    exact valued entry (by simp [List.dropLast_subset rest member]) swallowed.1
  rw [urlmapencode_text keysOk, urlmapdecode_text uninit behind keysOk, kept]

/-- The messages that survive the wire: a command that fits the array and has no
marker or line end in it, a marker other than the reject, and a value for every
key. -/
structure Sendable (srbmsg : SRBmessage) : Prop where
  commandShort : srbmsg.command.length < commandSize
  commandPlain : ∀ c ∈ srbmsg.command,
    c ≠ 0 ∧ c ≠ carriageReturn ∧ c ≠ lineFeed ∧ isMarker c = false
  marker : srbmsg.marker = srbRequestMarker ∨ srbmsg.marker = srbResponseMarker ∨
    srbmsg.marker = srbNotificationMarker
  mapNonempty : srbmsg.map ≠ []
  keysOk : ∀ entry ∈ srbmsg.map, KeyOk entry.key
  valued : ∀ entry ∈ srbmsg.map, entry.value ≠ none

section

variable {srbmsg : SRBmessage} (sendable : Sendable srbmsg)
include sendable

theorem Sendable.isMarker_marker : isMarker srbmsg.marker = true := by
  rcases sendable.marker with same | same | same <;> rw [same] <;> decide

theorem Sendable.marker_ne_reject : srbmsg.marker ≠ srbRejectMarker := by
  rcases sendable.marker with same | same | same <;> rw [same] <;> decide

theorem Sendable.carriageReturn_not_mem : carriageReturn ∉ messageText srbmsg := by
  have inCommand : carriageReturn ∉ srbmsg.command := fun member =>
    (sendable.commandPlain _ member).2.1 rfl
  have inMap := carriageReturn_not_mem_urlmapencode sendable.keysOk
  have notMarker : carriageReturn ≠ srbmsg.marker := by
    intro same
    have isMark := sendable.isMarker_marker
    rw [← same] at isMark
    revert isMark
    decide
  simp [messageText, inCommand, inMap, notMarker]

theorem Sendable.two_le_length : 2 ≤ (messageText srbmsg).length := by
  have fields := List.length_pos_iff.mpr (urlmapencode_ne_nil sendable.mapNonempty sendable.keysOk)
  simp only [messageText, List.length_append, List.length_cons]
  omega

/-- The decoder on the text of a sendable message, whatever byte follows it. -/
theorem Sendable.decode (uninit before behind : List Byte) (stop : Byte) :
    mwSrbdecodemessage uninit (before ++ messageText srbmsg ++ stop :: behind)
        before.length (messageText srbmsg).length =
      ⟨some srbmsg, none, none, before ++ messageText srbmsg ++ 0 :: behind⟩ := by
  have plain : ∀ c ∈ srbmsg.command, c ≠ 0 ∧ isMarker c = false := fun c member =>
    ⟨(sendable.commandPlain c member).1, (sendable.commandPlain c member).2.2.2⟩
  have short : srbmsg.command.length ≤ 32 := by
    have := sendable.commandShort
    simp only [commandSize] at this
    omega
  have noReturn := sendable.carriageReturn_not_mem
  have long := sendable.two_le_length
  unfold messageText at noReturn long ⊢
  rw [mwSrbdecodemessage_text uninit before behind stop plain short sendable.isMarker_marker
    sendable.marker_ne_reject long noReturn, urlmapdecode_valued uninit behind
      sendable.mapNonempty sendable.keysOk sendable.valued]

end

/-- An accepted message comes back from its encoding, with command, marker and
map as they were. -/
theorem mwSrbdecodemessage_mwSrbencodemessage (uninit before behind : List Byte)
    (srbmsg : SRBmessage) (bufflen : Int) (encoded : List Byte)
    (commandLength : srbmsg.command.length ≤ 31)
    (commandPlain : ∀ c ∈ srbmsg.command,
      c ≠ 0 ∧ c ≠ carriageReturn ∧ c ≠ lineFeed ∧ isMarker c = false)
    (marker : srbmsg.marker = srbRequestMarker ∨ srbmsg.marker = srbResponseMarker ∨
      srbmsg.marker = srbNotificationMarker)
    (mapNonempty : srbmsg.map ≠ [])
    (keysOk : ∀ entry ∈ srbmsg.map, KeyOk entry.key)
    (valued : ∀ entry ∈ srbmsg.map, entry.value ≠ none)
    (accepted : mwSrbencodemessage srbmsg bufflen = .ok encoded) :
    (mwSrbdecodemessage uninit (before ++ encoded ++ behind) before.length
        (encoded.length - 2)).srbmsg = some srbmsg ∧
      encoded.drop (encoded.length - 2) = srbMessageBoundry := by
  have commandShort : srbmsg.command.length < commandSize := by
    grind [commandSize]
  have sendable : Sendable srbmsg :=
    ⟨commandShort, commandPlain, marker, mapNonempty, keysOk, valued⟩
  have text := mwSrbencodemessage_ok sendable.commandShort accepted
  have textLength : encoded.length - 2 = (messageText srbmsg).length := by
    simp [text, srbMessageBoundry]
  have memory : before ++ encoded ++ behind =
      before ++ messageText srbmsg ++ carriageReturn :: (lineFeed :: behind) := by
    simp [text, srbMessageBoundry]
  rw [memory, textLength, sendable.decode uninit before]
  exact ⟨rfl, by rw [text, List.drop_left]⟩

/-- The request `A` with a value of NUL, CR, LF, ampersand and 255. -/
theorem mwSrbdecodemessage_mwSrbencodemessage_binary :
    (mwSrbdecodemessage [] (ascii "A?k=%00%0D%0A%26%FF\r\n".toList) 0 19).srbmsg =
      some ⟨[65], 63, [⟨[107], some [0, 13, 10, 38, 255]⟩]⟩ := by
  have accepted : mwSrbencodemessage ⟨[65], 63, [⟨[107], some [0, 13, 10, 38, 255]⟩]⟩ 3500 =
      .ok (ascii "A?k=%00%0D%0A%26%FF\r\n".toList) := by
    decide
  have commandPlain : ∀ c ∈ ([65] : List Byte),
      c ≠ 0 ∧ c ≠ carriageReturn ∧ c ≠ lineFeed ∧ isMarker c = false :=
    List.forall_mem_singleton.mpr (by decide)
  exact (mwSrbdecodemessage_mwSrbencodemessage [] [] [] _ 3500 _ (by decide) commandPlain
    (by decide) (by decide) (by simp [KeyOk]) (by simp) accepted).1

end MidWay.Srb

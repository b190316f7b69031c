import MidWay.Srb.MessageRoundTrip
import MidWay.Srb.ServiceCall
import MidWay.Url.MapBounds

/-!
Contract: where `_mw_srbencodemessage` stores a message.

The send buffer has `SRBMESSAGEMAXLEN+1` bytes. Command and marker are printed to its front,
the map is encoded behind them, and the boundary is printed last, with the terminator
`sprintf` adds. The reject of a message that could not be read repeats that message, whatever
the peer sent.

Owns: `mwSrbencodemessageStores`, `mwSrbsendrejectSz`, and the messages for which the encoder
stays inside the send buffer.
-/

namespace MidWay.Srb

open MidWay.CLib MidWay.Lib MidWay.Url

def SRBmessage.head (srbmsg : SRBmessage) : List Byte :=
  srbmsg.commandString.take mwMaxSvcName ++ [srbmsg.marker]

/-- `buffer` has `size` bytes. -/
def mwSrbencodemessageStores (srbmsg : SRBmessage) (size bufflen : Int) : Encoding :=
  if bufflen < mwMaxSvcName + 2 then ⟨Writing.start size, some .EMSGSIZE⟩
  else
    let buffer := (Writing.start size).field srbmsg.head
    let fields := urlmapnencodeStores (size - srbmsg.head.length)
      (srbMessageMaxLen - srbmsg.head.length) srbmsg.map
    let buffer := buffer.append fields.writing
    match fields.errno with
    | some errno => ⟨buffer, some errno⟩
    | none =>
        if buffer.text.length > bufflen - 2 then ⟨buffer, some .EMSGSIZE⟩
        else ⟨buffer.field srbMessageBoundry, none⟩

/-- The message in the buffer of `_mw_srbsendmessage`. -/
def sendBuffer (srbmsg : SRBmessage) : Encoding :=
  mwSrbencodemessageStores srbmsg (srbMessageMaxLen + 1) (srbMessageMaxLen + 1)

def srbReject : List Byte := ascii "REJECT".toList
def srbMessage : List Byte := ascii "MESSAGE".toList
def srbOffset : List Byte := ascii "OFFSET".toList

def mwSrbsendrejectSz (rejects : Bool) (message : List Byte) (offset : Int) : Option SRBmessage :=
  if rejects = false then none
  else
    let srbmsg := mwSrbSetfield (mwSrbSetfield (mwSrbInit srbReject srbNotificationMarker)
      srbReason (mwSrbReason srbProtoFormat)) srbMessage (cstr message)
    let srbmsg := mwSrbSetfieldi srbmsg srbReasoncode srbProtoFormat
    some (if offset > 0 then mwSrbSetfieldi srbmsg srbOffset offset else srbmsg)

def SRBmessage.text (srbmsg : SRBmessage) : List Byte :=
  srbmsg.head ++ urlmapencode srbmsg.map ++ srbMessageBoundry

/-- Nothing is stored past the send buffer, and a text that is too long is an error. -/
def Contained (srbmsg : SRBmessage) : Prop :=
  (sendBuffer srbmsg).writing.Inside ∧
    (srbMessageMaxLen + 1 < srbmsg.text.length → (sendBuffer srbmsg).result = -1)

/-- Every key and every value that passes its test fits, and the text that passes all of them
leaves room for the boundary and its terminator. -/
structure Roomy (srbmsg : SRBmessage) : Prop where
  fits : Fits (3500 - srbmsg.head.length) (3501 - srbmsg.head.length) 0 srbmsg.map
  boundary : Passes (3500 - srbmsg.head.length) 0 srbmsg.map →
    srbmsg.head.length + srbmsg.map.foldl pairEnd 0 ≠ 3499

section Encode

variable (srbmsg : SRBmessage)

theorem length_head_le : srbmsg.head.length ≤ 34 := by
  rw [SRBmessage.head, List.length_append, List.length_take, List.length_singleton]
  exact Nat.succ_le_succ (Nat.min_le_left _ _)

def fieldStores : Encoding :=
  urlmapnencodeStores (3501 - srbmsg.head.length) (3500 - srbmsg.head.length) srbmsg.map

theorem fieldStores_inside : (fieldStores srbmsg).writing.Inside ↔
    Fits (3500 - srbmsg.head.length) (3501 - srbmsg.head.length) 0 srbmsg.map := by
  have short := length_head_le srbmsg
  rw [fieldStores, urlmapnencodeStores_inside _ _ (by omega), imp_iff_right (by omega)]

theorem fieldStores_accepted : (fieldStores srbmsg).errno = none ↔
    Passes (3500 - srbmsg.head.length) 0 srbmsg.map := by
  have short := length_head_le srbmsg
  rw [fieldStores, urlmapnencodeStores, if_neg (by omega)]
  exact errno_eq_none_iff _ _

theorem fieldStores_text (accepted : (fieldStores srbmsg).errno = none) :
    (fieldStores srbmsg).writing.text = urlmapencode srbmsg.map := by
  have short := length_head_le srbmsg
  rw [fieldStores, urlmapnencodeStores, if_neg (by omega)] at accepted ⊢
  exact text_urlmapnencodeStoresFrom accepted

def unfinished : Writing Byte :=
  ((Writing.start 3501).field srbmsg.head).append (fieldStores srbmsg).writing

theorem unfinished_inside : (unfinished srbmsg).Inside ↔ (fieldStores srbmsg).writing.Inside := by
  have short := length_head_le srbmsg
  have head : ((Writing.start 3501).field srbmsg.head).Inside := by
    apply (Writing.inside_field _ _).mpr
    refine ⟨Writing.inside_start 3501, ?_⟩
    change ((0 + srbmsg.head.length : Nat) : Int) < 3501
    omega
  rw [unfinished, Writing.inside_append, and_iff_right head]

theorem unfinished_text (accepted : (fieldStores srbmsg).errno = none) :
    (unfinished srbmsg).text = srbmsg.head ++ urlmapencode srbmsg.map := by
  rw [unfinished, Writing.append, Writing.text_field, fieldStores_text srbmsg accepted]
  rfl

theorem sendBuffer_eq : sendBuffer srbmsg =
    match (fieldStores srbmsg).errno with
    | some errno => ⟨unfinished srbmsg, some errno⟩
    | none =>
        if ((unfinished srbmsg).text.length : Int) > 3499 then ⟨unfinished srbmsg, some .EMSGSIZE⟩
        else ⟨(unfinished srbmsg).field srbMessageBoundry, none⟩ := by
  rfl

theorem size_unfinished : (unfinished srbmsg).size = 3501 := by
  rw [unfinished, Writing.append, Writing.size_field]
  rfl

theorem length_unfinished (accepted : (fieldStores srbmsg).errno = none) :
    (unfinished srbmsg).text.length = srbmsg.head.length + srbmsg.map.foldl pairEnd 0 := by
  simp_all [unfinished_text, List.length_append, urlmapencode, length_urlmapencodeFrom]

/-- The boundary takes two bytes and a terminator. -/
theorem sendBuffer_inside : (sendBuffer srbmsg).writing.Inside ↔ Roomy srbmsg := by
  have fields := (unfinished_inside srbmsg).trans (fieldStores_inside srbmsg)
  have accepted := fieldStores_accepted srbmsg
  rw [sendBuffer_eq]
  cases refused : (fieldStores srbmsg).errno with
  | some errno =>
      rw [refused] at accepted
      simp only [fields]
      constructor
      · intro fits
        exact ⟨fits, fun passes => absurd (accepted.mpr passes) (Option.some_ne_none errno)⟩
      · intro roomy
        exact roomy.fits
  | none =>
      have length := length_unfinished srbmsg refused
      have passes := accepted.mp refused
      simp only
      split_ifs with tooLong
      · rw [fields]
        constructor
        · intro fits
          exact ⟨fits, fun _ => by omega⟩
        · intro roomy
          exact roomy.fits
      · rw [Writing.inside_field, fields, size_unfinished, length]
        change _ ∧ ((srbmsg.head.length + srbmsg.map.foldl pairEnd 0 + 2 : Nat) : Int) < 3501 ↔ _
        constructor
        · intro both
          exact ⟨both.1, fun _ => by omega⟩
        · intro roomy
          have room := roomy.boundary passes
          exact ⟨roomy.fits, by omega⟩

theorem sendBuffer_refuses (tooLong : srbMessageMaxLen + 1 < srbmsg.text.length) :
    (sendBuffer srbmsg).result = -1 := by
  rw [sendBuffer_eq]
  cases refused : (fieldStores srbmsg).errno with
  | some errno => rfl
  | none =>
      have text := unfinished_text srbmsg refused
      have exceeds : ((unfinished srbmsg).text.length : Int) > 3499 := by
        rw [SRBmessage.text, ← text, List.length_append] at tooLong
        change 3501 < (unfinished srbmsg).text.length + 2 at tooLong
        omega
      simp only [if_pos exceeds]
      rfl

theorem contained_iff : Contained srbmsg ↔ Roomy srbmsg := by
  rw [Contained, sendBuffer_inside, and_iff_left (sendBuffer_refuses srbmsg)]

theorem sendBuffer_accepted : (sendBuffer srbmsg).errno = none ↔
    Passes (3500 - srbmsg.head.length) 0 srbmsg.map ∧
      (srbmsg.head ++ urlmapencode srbmsg.map).length ≤ 3499 := by
  rw [sendBuffer_eq, ← fieldStores_accepted]
  cases refused : (fieldStores srbmsg).errno with
  | some errno => exact iff_of_false (Option.some_ne_none errno) fun both => nomatch both.1
  | none =>
      rw [← unfinished_text srbmsg refused, and_iff_right rfl]
      grind

theorem sendBuffer_text (accepted : (sendBuffer srbmsg).errno = none) :
    (sendBuffer srbmsg).writing.text = srbmsg.text := by
  rw [sendBuffer_eq] at accepted ⊢
  cases refused : (fieldStores srbmsg).errno with
  | some errno =>
      simp [refused] at accepted
  | none =>
      simp only [refused] at accepted ⊢
      split_ifs at accepted ⊢
      rw [Writing.text_field, unfinished_text srbmsg refused]
      rfl

/-- What is left in the send buffer is the text `mwSrbencodemessage` gives. -/
theorem mwSrbencodemessage_iff_sendBuffer (strings : ∀ entry ∈ srbmsg.map, 0 ∉ entry.key)
    (text : List Byte) :
    mwSrbencodemessage srbmsg (srbMessageMaxLen + 1) = .ok text ↔
      (sendBuffer srbmsg).errno = none ∧ (sendBuffer srbmsg).writing.text = text := by
  have short := length_head_le srbmsg
  have length : (urlmapencode srbmsg.map).length = srbmsg.map.foldl pairEnd 0 :=
    length_urlmapencodeFrom [] srbmsg.map
  have encoded : mwSrbencodemessage srbmsg (srbMessageMaxLen + 1) =
      (urlmapnencodeFrom (3500 - srbmsg.head.length) [] srbmsg.map).bind fun fields =>
        if ((srbmsg.head ++ fields).length : Int) > 3499 then .error .EMSGSIZE
        else .ok (srbmsg.head ++ fields ++ srbMessageBoundry) := by
    have bounded : urlmapnencode (3500 - srbmsg.head.length) srbmsg.map =
        urlmapnencodeFrom (3500 - srbmsg.head.length) [] srbmsg.map := if_neg (by omega)
    rw [← bounded, mwSrbencodemessage, if_neg (by decide)]
    dsimp only
    change _ = (urlmapnencode (srbMessageMaxLen -
      (srbmsg.commandString.take mwMaxSvcName ++ [srbmsg.marker]).length) srbmsg.map).bind _
    cases urlmapnencode (srbMessageMaxLen -
      (srbmsg.commandString.take mwMaxSvcName ++ [srbmsg.marker]).length) srbmsg.map with
    | error errno => rfl
    | ok fields => rfl
  have passes (fits : (srbmsg.head ++ urlmapencode srbmsg.map).length ≤ 3499) :=
    @urlmapnencodeFrom_iff_passes (3500 - srbmsg.head.length) [] srbmsg.map strings (by
      rw [List.length_append, length] at fits
      change srbmsg.map.foldl pairEnd 0 ≤ 1048576
      omega)
  rw [encoded]
  constructor
  · intro sent
    cases fields : urlmapnencodeFrom (3500 - srbmsg.head.length) [] srbmsg.map with
    | error errno =>
        rw [fields] at sent
        cases sent
    | ok body =>
        have whole := urlmapnencodeFrom_ok fields
        rw [fields, Except.bind] at sent
        split_ifs at sent with tooLong
        cases sent
        rw [whole] at tooLong ⊢
        have fits : (srbmsg.head ++ urlmapencode srbmsg.map).length ≤ 3499 := by
          grind [urlmapencode]
        have accepted := (sendBuffer_accepted srbmsg).mpr ⟨(passes fits).mp ⟨body, fields⟩, fits⟩
        exact ⟨accepted, sendBuffer_text srbmsg accepted⟩
  · intro sent
    rcases sent with ⟨accepted, left⟩
    rcases (sendBuffer_accepted srbmsg).mp accepted with ⟨allPass, fits⟩
    rcases (passes fits).mpr allPass with ⟨body, fields⟩
    have whole : body = urlmapencode srbmsg.map := urlmapnencodeFrom_ok fields
    rw [sendBuffer_text srbmsg accepted] at left
    rw [fields, whole, Except.bind, if_neg (by omega), ← left]
    rfl

end Encode

/-- The bounded encoder stores at no index from `len` on, and returns `-1` or less than
`len`. -/
def StaysBelow (len : Int) (map : Urlmap) : Prop :=
  (urlmapnencodeStores len len map).writing.Inside ∧
    ((urlmapnencodeStores len len map).result = -1 ∨ (urlmapnencodeStores len len map).result < len)

theorem staysBelow_iff (len : Int) (map : Urlmap) :
    StaysBelow len map ↔ (1 ≤ len → Fits len len 0 map) := by
  rw [StaysBelow]
  by_cases positive : 1 ≤ len
  · have inside := urlmapnencodeStores_inside len len positive map
    rw [← inside, and_iff_left_of_imp]
    intro stored
    rw [urlmapnencodeStores, if_neg (by omega)] at stored ⊢
    rw [Encoding.result]
    cases accepted : (urlmapnencodeStoresFrom len (Writing.start len) map).errno with
    | some errno => exact Or.inl rfl
    | none => exact Or.inr (length_lt_size accepted stored)
  · rw [urlmapnencodeStores, if_pos (by omega)]
    exact iff_of_true ⟨Writing.inside_start len, Or.inl rfl⟩ fun holds => absurd holds positive

/-- The encoders stay inside their blocks exactly for the pairs that fit where they pass the
test of their length. -/
theorem encoders_stay_inside (len : Int) (map : Urlmap) (srbmsg : SRBmessage) :
    (StaysBelow len map ↔ (1 ≤ len → Fits len len 0 map)) ∧
      ((urlmapencodeStores map).Inside ↔ FitsReserved ⟨0, 65, 64⟩ map) ∧
      (Contained srbmsg ↔ Roomy srbmsg) :=
  ⟨staysBelow_iff len map, urlmapencodeStores_inside map, contained_iff srbmsg⟩

def colons : List Byte := List.replicate 1200 58

def fullMessage : SRBmessage :=
  ⟨[88], srbRequestMarker, [⟨[107], some (List.replicate 3495 97)⟩]⟩

/-- Two exclamation marks in six bytes, sixty in the first block, the reject of the colons,
and the message that fills the buffer. -/
theorem encoders_stay_inside_not_escaped :
    ¬ StaysBelow 6 [⟨[107], some [33, 33]⟩] ∧
      ¬ (urlmapencodeStores [⟨[107], some (List.replicate 60 33)⟩]).Inside ∧
      (∃ reject, mwSrbsendrejectSz true colons (-1) = some reject ∧ ¬ Contained reject) ∧
      ¬ Contained fullMessage := by
  refine ⟨?_, by decide +kernel, ⟨_, rfl, ?_⟩, ?_⟩
  · rw [staysBelow_iff]
    intro fits
    have key := fits (by decide) (by decide)
    have value := key.2 (by decide)
    exact absurd value.1 (by decide)
  · rw [contained_iff]
    intro roomy
    have reason := roomy.fits (by decide)
    have message := (reason.2 (by decide)).2 (by decide)
    have tooLong := message.2 (by decide +kernel)
    exact absurd tooLong.1 (by decide +kernel)
  · rw [contained_iff]
    intro roomy
    apply roomy.boundary
    · exact ⟨by decide, by decide +kernel, trivial⟩
    · decide +kernel

end MidWay.Srb

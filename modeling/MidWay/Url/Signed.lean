import Mathlib.Logic.Function.Basic
import MidWay.Url.Locality

/-!
Contract: the two loops of `urlencoded.c` over their buffers, with signed characters.

A `char` of 0x80 or more is negative: it is no letter and no digit, and `>>` copies its sign.
Both loops have one index into what they read and one into what they write.

Owns: `hex` and `unhex` on signed characters, both loops, that they do to their buffers what
`Url.urlnencode` and `Url.urldecode` say, and that no byte of a field is lost.
-/

namespace MidWay.Url.Signed

open MidWay.CLib

abbrev Buffer := Nat → Byte

def nibble (c : Int8) : Int8 :=
  let c := c &&& 0xf
  if c < 10 then c + 48 else c + 0x37

def hex (c : Int8) (buffer : Buffer) (high low : Nat) : Buffer :=
  let buffer := Function.update buffer low (nibble c).toUInt8
  let c := c >>> 4
  Function.update buffer high (nibble c).toUInt8

def digitValue (digit : Int8) : Option Int8 :=
  if isdigit digit.toUInt8 then some (0xf &&& digit)
  else if isxdigit digit.toUInt8 then some ((0xf &&& digit) + 9)
  else none

def unhex (high low : Int8) : Int :=
  match digitValue high, digitValue low with
  | some high, some low => (high &&& 0xf).toInt * 16 + (low &&& 0xf).toInt
  | _, _ => -1

/-- The turns from `uncoded[i]` on. `encode[j]` is written next. -/
def encodeLoop (uncoded : Buffer) : Nat → Nat → Nat → Buffer → Nat × Buffer
  | 0, _, j, encode => (j, encode)
  | turns + 1, i, j, encode =>
      if isalnum (uncoded i) then
        encodeLoop uncoded turns (i + 1) (j + 1) (Function.update encode j (uncoded i))
      else
        let encode := Function.update encode j percent
        encodeLoop uncoded turns (i + 1) (j + 3) (hex (uncoded i).toInt8 encode (j + 1) (j + 2))

/-- The bytes of a block, and nothing but zeros behind it. -/
def bufferOf (block : List Byte) : Buffer := fun i => block.getD i 0

def urlnencode (encode : Buffer) (uncoded : List Byte) (len : Nat) : Nat × Buffer :=
  let len := if len = 0 then strlen uncoded else len
  let written := encodeLoop (bufferOf uncoded) len 0 0 encode
  (written.1, Function.update written.2 written.1 0)

/-- The turns from `encoded[i]` on. `plain[j]` is written next. -/
def decodeLoop (encoded : Buffer) (len i j : Nat) (plain : Buffer) : Int × Buffer :=
  if i < len then
    if encoded i = percent then
      let c := unhex (encoded (i + 1)).toInt8 (encoded (i + 2)).toInt8
      if c = -1 then (-1, plain)
      else
        decodeLoop encoded len (i + 3) (j + 1) (Function.update plain j (Int8.ofInt c).toUInt8)
    else if encoded i = plus then
      decodeLoop encoded len (i + 1) (j + 1) (Function.update plain j 32)
    else decodeLoop encoded len (i + 1) (j + 1) (Function.update plain j (encoded i))
  else (j, Function.update plain j 0)
termination_by len - i

def urldecode (plain : Buffer) (encoded : List Byte) : Int × Buffer :=
  decodeLoop (bufferOf encoded) (fieldLength encoded) 0 0 plain

/-- The buffer with a text stored from `j` on. -/
def store (buffer : Buffer) : Nat → List Byte → Buffer
  | _, [] => buffer
  | j, c :: text => store (Function.update buffer j c) (j + 1) text

theorem store_below (text : List Byte) {buffer : Buffer} {j k : Nat} (below : k < j) :
    store buffer j text k = buffer k := by
  induction text generalizing buffer j with
  | nil => rfl
  | cons c text ih => rw [store, ih (by omega), Function.update_of_ne (by omega)]

theorem store_behind (text : List Byte) {buffer : Buffer} {j k : Nat}
    (behind : j + text.length ≤ k) :
    store buffer j text k = buffer k := by
  induction text generalizing buffer j with
  | nil => rfl
  | cons c text ih =>
      rw [List.length_cons] at behind
      rw [store, ih (by omega), Function.update_of_ne (by omega)]

theorem store_getElem (text : List Byte) (buffer : Buffer) (j : Nat) {k : Nat}
    (within : k < text.length) :
    store buffer j text (j + k) = text[k] := by
  induction text generalizing buffer j k with
  | nil => cases within
  | cons c text ih =>
      cases k with
      | zero =>
          change store (Function.update buffer j c) (j + 1) text j = c
          rw [store_below text (Nat.lt_succ_self j), Function.update_self]
      | succ k =>
          rw [store, ← Nat.add_assoc, Nat.add_right_comm]
          exact ih _ (j + 1) (Nat.lt_of_succ_lt_succ within)

theorem nibble_signed (c : Byte) : (nibble c.toInt8).toUInt8 = Url.nibble c ∧
    (nibble (c.toInt8 >>> 4)).toUInt8 = Url.nibble (c >>> 4) := by
  revert c
  apply byte_forall
  decide +kernel

theorem digitValue_signed (c : Byte) : digitValue c.toInt8 = (hexValue c).map UInt8.toInt8 ∧
    ∀ value ∈ hexValue c, value < 16 := by
  revert c
  apply byte_forall
  decide +kernel

theorem join_signed (high low : Fin 16) :
    ((UInt8.ofNat high).toInt8 &&& 0xf).toInt * 16 + ((UInt8.ofNat low).toInt8 &&& 0xf).toInt =
      ((((UInt8.ofNat high &&& 0xf) <<< 4) + (UInt8.ofNat low &&& 0xf)).toNat : Int) := by
  revert high low
  decide +kernel

theorem unhex_signed (high low : Byte) : unhex high.toInt8 low.toInt8 =
    ((Url.unhex high low).map fun value => (value.toNat : Int)).getD (-1) := by
  obtain ⟨isHigh, highLess⟩ := digitValue_signed high
  obtain ⟨isLow, lowLess⟩ := digitValue_signed low
  rw [unhex, Url.unhex, isHigh, isLow]
  cases hexHigh : hexValue high with
  | none => rfl
  | some one =>
      cases hexLow : hexValue low with
      | none => rfl
      | some two =>
          have joined :=
            join_signed ⟨one.toNat, highLess one hexHigh⟩ ⟨two.toNat, lowLess two hexLow⟩
          simpa using joined

theorem ofInt_toNat (value : Byte) : (Int8.ofInt value.toNat).toUInt8 = value := by
  revert value
  apply byte_forall
  decide +kernel

/-- What one turn stores is what `encodeByte` says. -/
theorem store_encodeByte (c : Byte) (encode : Buffer) (j : Nat) :
    store encode j (encodeByte c) =
      if isalnum c then Function.update encode j c
      else hex c.toInt8 (Function.update encode j percent) (j + 1) (j + 2) := by
  unfold encodeByte
  by_cases alnum : isalnum c = true
  · rw [if_pos alnum, if_pos alnum]
    rfl
  · rw [if_neg alnum, if_neg alnum]
    simp only [store, hex, Url.hex, nibble_signed]
    exact Function.update_comm (by omega) _ _ _

theorem store_append (front back : List Byte) (buffer : Buffer) (j : Nat) :
    store buffer j (front ++ back) = store (store buffer j front) (j + front.length) back := by
  induction front generalizing buffer j with
  | nil => rfl
  | cons c front ih =>
      rw [List.cons_append, store, store, ih, List.length_cons, Nat.add_assoc, Nat.add_comm 1]

theorem encodeLoop_eq (before text behind : List Byte) (j : Nat) (encode : Buffer) :
    encodeLoop (bufferOf (before ++ (text ++ behind))) text.length before.length j encode =
      (j + (text.flatMap encodeByte).length, store encode j (text.flatMap encodeByte)) := by
  induction text generalizing before j encode with
  | nil => rfl
  | cons c text ih =>
      have here : bufferOf (before ++ (c :: text ++ behind)) before.length = c := by
        simp [bufferOf]
      have later := ih (before ++ [c])
      rw [List.append_assoc, List.length_append] at later
      rw [List.flatMap_cons, store_append, store_encodeByte, List.length_append, List.length_cons,
        encodeLoop, here]
      by_cases alnum : isalnum c = true
      · rw [if_pos alnum, if_pos alnum, encodeByte, if_pos alnum, ← Nat.add_assoc]
        exact later (j + 1) _
      · rw [if_neg alnum, if_neg alnum, encodeByte, if_neg alnum, ← Nat.add_assoc]
        exact later (j + 3) _

theorem urldecodeFrom_percent (remaining : Nat) (rest : List Byte) :
    urldecodeFrom (remaining + 1) (percent :: rest) =
      (Url.unhex (rest.getD 0 0) (rest.getD 1 0)).elim ⟨[], false⟩
        (urldecodeFrom (remaining - 2) (rest.drop 2)).store := by
  rcases rest with _ | ⟨high, _ | ⟨low, rest⟩⟩
  · rfl
  · have noLow : Url.unhex high 0 = none := by
      unfold Url.unhex
      cases hexValue high <;> rfl
    simp [urldecodeFrom, noLow]
  · rw [urldecodeFrom, if_pos rfl]
    cases isUnhex : Url.unhex high low <;> simp [isUnhex]

theorem urldecodeFrom_plus (remaining : Nat) (rest : List Byte) :
    urldecodeFrom (remaining + 1) (plus :: rest) = (urldecodeFrom remaining rest).store 32 := by
  rcases rest with _ | ⟨high, _ | ⟨low, rest⟩⟩ <;> simp [urldecodeFrom, plus, percent]

theorem drop_bufferOf {encoded : List Byte} {i : Nat} (within : i < encoded.length) :
    encoded.drop i = bufferOf encoded i :: encoded.drop (i + 1) := by
  rw [List.drop_eq_getElem_cons within]
  simp [bufferOf, within]

/-- What a loop leaves that has come to `plain[j]`. -/
def Leaves (plain : Buffer) (j : Nat) (decoded : Decoded) (after : Int × Buffer) : Prop :=
  if decoded.complete then
    after = (((j + decoded.plain.length : Nat) : Int),
      Function.update (store plain j decoded.plain) (j + decoded.plain.length) 0)
  else after = (-1, store plain j decoded.plain)

theorem Leaves.store {plain : Buffer} {j : Nat} {c : Byte} {decoded : Decoded}
    {after : Int × Buffer}
    (leaves : Leaves (Function.update plain j c) (j + 1) decoded after) :
    Leaves plain j (decoded.store c) after := by
  unfold Leaves at *
  rw [Decoded.store, Signed.store, List.length_cons, ← Nat.add_assoc, Nat.add_right_comm]
  exact leaves

/-- The loop ends with the terminator, or at the first escape that is none. -/
theorem decodeLoop_leaves (encoded : List Byte) (len : Nat) (within : len ≤ encoded.length)
    (i j : Nat) (plain : Buffer) :
    Leaves plain j (urldecodeFrom (len - i) (encoded.drop i))
      (decodeLoop (bufferOf encoded) len i j plain) := by
  have next {i : Nat} (more : i < len) : len - i = len - (i + 1) + 1 := by omega
  have read (i k : Nat) : (encoded.drop (i + 1)).getD k 0 = bufferOf encoded (i + 1 + k) := by
    simp [bufferOf]
  fun_induction decodeLoop (bufferOf encoded) len i j plain with
  | case1 i j plain more isPercent c isBad =>
      rw [next more, drop_bufferOf (by omega), isPercent, urldecodeFrom_percent, read, read]
      subst c
      rw [unhex_signed] at isBad
      cases isUnhex : Url.unhex (bufferOf encoded (i + 1)) (bufferOf encoded (i + 2)) with
      | none => rfl
      | some value =>
          rw [isUnhex] at isBad
          change (value.toNat : Int) = -1 at isBad
          omega
  | case2 i j plain more isPercent c isGood ih =>
      rw [next more, drop_bufferOf (by omega), isPercent, urldecodeFrom_percent, read, read]
      subst c
      rw [unhex_signed] at isGood ih
      cases isUnhex : Url.unhex (bufferOf encoded (i + 1)) (bufferOf encoded (i + 2)) with
      | none => exact absurd (by rw [isUnhex]; rfl) isGood
      | some value =>
          rw [isUnhex, Option.map_some, Option.getD_some, ofInt_toNat] at ih
          rw [unhex_signed, isUnhex, Option.map_some, Option.getD_some, ofInt_toNat]
          rw [List.drop_drop]
          exact ih.store
  | case3 i j plain more notPercent isPlus ih =>
      rw [next more, drop_bufferOf (by omega), isPlus, urldecodeFrom_plus]
      exact ih.store
  | case4 i j plain more notPercent notPlus ih =>
      rw [next more, drop_bufferOf (by omega), urldecodeFrom_plain notPercent notPlus]
      exact ih.store
  | case5 i j plain done =>
      rw [Nat.sub_eq_zero_of_le (Nat.le_of_not_lt done)]
      simp [urldecodeFrom, Leaves, Signed.store]

theorem length_urldecodeFrom (remaining : Nat) (text : List Byte) :
    (urldecodeFrom remaining text).plain.length ≤ remaining := by
  fun_induction urldecodeFrom remaining text <;> simp_all [Decoded.store] <;> omega

/-- On every text, `urldecode` stores what is decoded in front of the first bad escape, and nothing
behind the place for the terminator of a field that has no escapes. -/
theorem urldecode_leaves (plain : Buffer) (encoded : List Byte) :
    Leaves plain 0 (Url.urldecode encoded) (urldecode plain encoded) ∧
      ∀ k, fieldLength encoded < k → (urldecode plain encoded).2 k = plain k := by
  have leaves := decodeLoop_leaves encoded (fieldLength encoded) (fieldLength_le encoded) 0 0 plain
  rw [Nat.sub_zero, List.drop_zero] at leaves
  refine ⟨leaves, ?_⟩
  intro k behind
  have shorter := length_urldecodeFrom (fieldLength encoded) encoded
  unfold Leaves at leaves
  rw [urldecode]
  split_ifs at leaves
  · rw [leaves]
    dsimp only
    rw [Function.update_of_ne (by omega), store_behind _ (by omega)]
  · rw [leaves]
    exact store_behind _ (by omega)

def isUpperHex (c : Byte) : Bool := isdigit c || (65 ≤ c && c ≤ 70)

/-- Letters, digits, and escapes with two upper-case digits. -/
inductive Escaped : List Byte → Prop where
  | nil : Escaped []
  | alnum {c : Byte} {rest : List Byte} : isalnum c = true → Escaped rest → Escaped (c :: rest)
  | escape {high low : Byte} {rest : List Byte} : isUpperHex high = true → isUpperHex low = true →
      Escaped rest → Escaped (percent :: high :: low :: rest)

theorem isUpperHex_nibble (c : Byte) : isUpperHex (Url.nibble c) = true := by
  revert c
  apply byte_forall
  decide +kernel

theorem encodeBytes_escaped (bytes : List Byte) : Escaped (bytes.flatMap encodeByte) ∧
    (bytes.flatMap encodeByte).length ≤ 3 * bytes.length := by
  induction bytes with
  | nil => exact ⟨.nil, Nat.le_refl 0⟩
  | cons c bytes ih =>
      rw [List.flatMap_cons, encodeByte]
      by_cases alnum : isalnum c = true
      · rw [if_pos alnum]
        refine ⟨.alnum alnum ih.1, ?_⟩
        have shorter := ih.2
        simp only [List.length_append, List.length_cons, List.length_nil]
        omega
      · rw [if_neg alnum]
        refine ⟨.escape (isUpperHex_nibble _) (isUpperHex_nibble _) ih.1, ?_⟩
        have shorter := ih.2
        simp only [List.length_append, List.length_cons, List.length_nil]
        omega

def bytesOf (buffer : Buffer) (count : Nat) : List Byte := (List.range count).map buffer

def terminated (buffer : Buffer) (text : List Byte) : Buffer :=
  Function.update (store buffer 0 text) text.length 0

theorem bytesOf_terminated (buffer : Buffer) (text : List Byte) :
    bytesOf (terminated buffer text) text.length = text := by
  apply List.ext_getElem
  · simp [bytesOf]
  · intro k within inText
    have isStored := store_getElem text buffer 0 inText
    rw [Nat.zero_add] at isStored
    simp [bytesOf, terminated, isStored, Function.update_of_ne inText.ne]

theorem terminated_behind (buffer : Buffer) (text : List Byte) {k : Nat}
    (behind : text.length < k) :
    terminated buffer text k = buffer k := by
  rw [terminated, Function.update_of_ne (by omega), store_behind text (by omega)]

/-- In a block with room for it, the text stands in front of a NUL. -/
theorem bytesOf_room (buffer : Buffer) (text : List Byte) {size : Nat} (room : text.length < size) :
    ∃ behind, bytesOf (terminated buffer text) size = text ++ 0 :: behind := by
  obtain ⟨more, rfl⟩ := Nat.exists_eq_add_of_lt room
  have before := bytesOf_terminated buffer text
  unfold bytesOf at *
  rw [Nat.add_assoc, List.range_add, List.map_append, before, List.range_succ_eq_map, List.map_cons,
    List.map_cons, Nat.add_zero, terminated, Function.update_self]
  exact ⟨_, rfl⟩

/-- Any bytes come back, out of a block that has room for them. -/
theorem urldecode_urlnencode {bytes : List Byte} (nonempty : bytes ≠ []) (behind : List Byte)
    (encode plain : Buffer) {size : Nat} (room : 3 * bytes.length < size) :
    let encoded := urlnencode encode (bytes ++ behind) bytes.length
    let decoded := urldecode plain (bytesOf encoded.2 size)
    (encoded.1 ≤ 3 * bytes.length ∧ Escaped (bytesOf encoded.2 encoded.1) ∧ encoded.2 encoded.1 = 0 ∧
        ∀ k, encoded.1 < k → encoded.2 k = encode k) ∧
      decoded.1 = bytes.length ∧ bytesOf decoded.2 bytes.length = bytes ∧
        decoded.2 bytes.length = 0 ∧ ∀ k, bytes.length < k → decoded.2 k = plain k := by
  obtain ⟨escaped, short⟩ := encodeBytes_escaped bytes
  have written : urlnencode encode (bytes ++ behind) bytes.length =
      ((bytes.flatMap encodeByte).length, terminated encode (bytes.flatMap encodeByte)) := by
    have looped := encodeLoop_eq [] bytes behind 0 encode
    rw [Nat.zero_add] at looped
    rw [urlnencode, if_neg (mt List.length_eq_zero_iff.mp nonempty)]
    exact congrArg (fun made => (made.1, Function.update made.2 made.1 0)) looped
  obtain ⟨rest, isBlock⟩ := bytesOf_room encode (bytes.flatMap encodeByte) (short.trans_lt room)
  dsimp only
  rw [written]
  dsimp only
  have isField := fieldLength_append (encodeBytes_encoded bytes) (Or.inl rfl) rest
  have left := decodeLoop_leaves (bytes.flatMap encodeByte ++ 0 :: rest)
    (bytes.flatMap encodeByte).length (by simp) 0 0 plain
  rw [Nat.sub_zero, List.drop_zero, urldecodeFrom_encodeBytes] at left
  have isDecoded : urldecode plain (bytesOf (terminated encode (bytes.flatMap encodeByte)) size) =
      (((0 + bytes.length : Nat) : Int),
        Function.update (store plain 0 bytes) (0 + bytes.length) 0) := by
    rw [urldecode, isBlock, isField]
    exact left
  rw [Nat.zero_add] at isDecoded
  rw [isDecoded, bytesOf_terminated]
  exact ⟨⟨short, escaped, Function.update_self _ _ _, fun k => terminated_behind _ _⟩, rfl,
    bytesOf_terminated plain bytes, Function.update_self _ _ _, fun k => terminated_behind _ _⟩

/-- A byte with the sign bit. -/
theorem urldecode_urlnencode_signed :
    let encoded := urlnencode (fun _ => 1) ([200] ++ []) 1
    let decoded := urldecode (fun _ => 1) (bytesOf encoded.2 4)
    (encoded.1 ≤ 3 ∧ Escaped (bytesOf encoded.2 encoded.1) ∧ encoded.2 encoded.1 = 0 ∧
        ∀ k, encoded.1 < k → encoded.2 k = 1) ∧
      decoded.1 = (1 : Nat) ∧ bytesOf decoded.2 1 = [200] ∧ decoded.2 1 = 0 ∧
        ∀ k, 1 < k → decoded.2 k = 1 :=
  urldecode_urlnencode (List.cons_ne_nil 200 []) [] (fun _ => 1) (fun _ => 1) (by decide)

end MidWay.Url.Signed

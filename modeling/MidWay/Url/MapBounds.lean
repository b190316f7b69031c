import MidWay.CLib.Format
import MidWay.Lib.Writing
import MidWay.Url.MapRoundTrip

/-!
Contract: where `urlmap.c` stores what it encodes.

`urlmapnencode` writes to a block of its caller and tests the length of each key and value
before it encodes it; `urlmapencode` allocates its own block and makes it larger. Both count
three bytes for a byte of a key, but one for a byte of a value. All lengths are `int`s.

Owns: `urlmapnencodeStores`, `urlmapencodeStores`, and the pairs for which they stay inside
their block.
-/

namespace MidWay.Url

open MidWay.CLib MidWay.Lib

variable {list : Writing Byte} {map : Urlmap}

/-- `keylen + listlen + 2 <= len`. -/
def KeyTest (len : Int) (listlen : Nat) (key : List Byte) : Prop :=
  toInt32 (toInt32 (3 * key.length) + listlen + 2) ≤ len

/-- `valuelen + listlen + 1 <= len`. -/
def ValueTest (len : Int) (listlen : Nat) (value : List Byte) : Prop :=
  toInt32 (value.length + listlen + 1) ≤ len

instance (len : Int) (listlen : Nat) (key : List Byte) : Decidable (KeyTest len listlen key) :=
  inferInstanceAs (Decidable (_ ≤ _))

instance (len : Int) (listlen : Nat) (value : List Byte) :
    Decidable (ValueTest len listlen value) :=
  inferInstanceAs (Decidable (_ ≤ _))

def putSeparator (writing : Writing Byte) : Writing Byte :=
  if writing.text.length ≠ 0 then writing.put ampersand else writing

/-- What was stored, and the `errno` when the result is `-1`. -/
structure Encoding where
  writing : Writing Byte
  errno : Option Errno
deriving DecidableEq, Repr

def Encoding.result (encoding : Encoding) : Int :=
  match encoding.errno with
  | none => encoding.writing.text.length
  | some _ => -1

def urlmapnencodeStoresFrom (len : Int) : Writing Byte → Urlmap → Encoding
  | list, [] => ⟨list.terminate, none⟩
  | list, entry :: rest =>
      let list := putSeparator list
      if KeyTest len list.text.length entry.key then
        let list := list.field (urlencode (entry.key ++ [0]))
        match entry.value with
        | none => urlmapnencodeStoresFrom len list rest
        | some value =>
            let list := list.put equals
            if ValueTest len list.text.length value then
              urlmapnencodeStoresFrom len
                (list.field (urlnencode (value ++ [0]) value.length)) rest
            else ⟨list, some .EOVERFLOW⟩
      else ⟨list, some .EOVERFLOW⟩

/-- The block has `size` bytes; the encoder is told that it has `len`. -/
def urlmapnencodeStores (size len : Int) (map : Urlmap) : Encoding :=
  if len < 1 then ⟨Writing.start size, some .EINVAL⟩
  else urlmapnencodeStoresFrom len (Writing.start size) map

structure Growing where
  list : Writing Byte
  maxlistlen : Int
deriving DecidableEq, Repr

/-- `realloc`, when fewer than `length` bytes and a terminator are left. -/
def Growing.reserve (growing : Growing) (length : Int) : Growing :=
  if toInt32 (length + growing.list.text.length + 1) > growing.maxlistlen then
    let maxlistlen := toInt32 (length + growing.list.text.length + 65)
    ⟨growing.list.resize maxlistlen, maxlistlen⟩
  else growing

def Growing.putKey (growing : Growing) (key : List Byte) : Growing :=
  let growing := { growing with list := putSeparator growing.list }
  let growing := growing.reserve (toInt32 (3 * key.length))
  { growing with list := growing.list.field (urlencode (key ++ [0])) }

def Growing.putValue (growing : Growing) (value : List Byte) : Growing :=
  let growing := { growing with list := growing.list.put equals }
  let growing := growing.reserve value.length
  { growing with list := growing.list.field (urlnencode (value ++ [0]) value.length) }

def urlmapencodeStoresFrom : Growing → Urlmap → Writing Byte
  | growing, [] => growing.list.terminate
  | growing, entry :: rest =>
      let growing := growing.putKey entry.key
      match entry.value with
      | none => urlmapencodeStoresFrom growing rest
      | some value => urlmapencodeStoresFrom (growing.putValue value) rest

/-- `malloc(maxlistlen+1)` at first. -/
def urlmapencodeStores (map : Urlmap) : Writing Byte :=
  urlmapencodeStoresFrom ⟨Writing.start 65, 64⟩ map

/-- Three bytes for every byte that is no letter and no digit. -/
def encodedLength (bytes : List Byte) : Nat :=
  bytes.length + 2 * bytes.countP fun c => !isalnum c

theorem length_encodeBytes (bytes : List Byte) :
    (encodeBytes bytes).length = encodedLength bytes := by
  induction bytes with
  | nil => rfl
  | cons c rest ih =>
      have head := length_encodeByte c
      rw [encodedLength] at ih ⊢
      rw [encodeBytes] at ih ⊢
      rw [List.flatMap_cons, List.length_append, head, ih, List.length_cons,
        List.countP_cons]
      by_cases alnum : isalnum c = true
      · grind
      · grind

theorem length_urlnencode_block (value : List Byte) :
    (urlnencode (value ++ [0]) value.length).length = encodedLength value := by
  rw [urlnencode_block, length_encodeBytes]

theorem length_urlencode_key (key : List Byte) :
    (urlencode (key ++ [0])).length = encodedLength (cstr key) := by
  have string : cstr (key ++ [0]) = cstr key := cstr_append_nul key []
  have front : cstr key = (key ++ [0]).take (cstr key).length :=
    List.prefix_iff_eq_take.mp ((cstr_begins key).trans (List.prefix_append _ _))
  rw [urlencode, urlnencode, if_pos rfl, strlen, string, ← front]
  exact length_encodeBytes (cstr key)

def pairStart (listlen : Nat) : Nat := if listlen ≠ 0 then listlen + 1 else listlen

theorem length_putSeparator (list : Writing Byte) :
    (putSeparator list).text.length = pairStart list.text.length := by
  grind [putSeparator, pairStart, Writing.text_put, List.length_append, List.length_singleton]

theorem size_putSeparator (list : Writing Byte) : (putSeparator list).size = list.size := by
  rw [putSeparator]
  split_ifs
  · rfl
  · rfl

theorem inside_putSeparator (inside : list.Inside) (room : (list.text.length : Int) < list.size) :
    (putSeparator list).Inside := by
  rw [putSeparator]
  split_ifs
  · exact (list.inside_put ampersand).mpr ⟨inside, room⟩
  · exact inside

theorem inside_of_putSeparator (inside : (putSeparator list).Inside) :
    list.Inside := by
  rw [putSeparator] at inside
  split_ifs at inside
  · exact ((list.inside_put ampersand).mp inside).1
  · exact inside

/-- Every key and every value that passes its test fits, encoded and with a terminator, in a
block of `size` bytes. -/
def Fits (len size : Int) : Nat → Urlmap → Prop
  | _, [] => True
  | listlen, entry :: rest =>
      KeyTest len (pairStart listlen) entry.key →
        let listlen := pairStart listlen + encodedLength (cstr entry.key)
        (listlen : Int) < size ∧
          match entry.value with
          | none => Fits len size listlen rest
          | some value =>
              ValueTest len (listlen + 1) value →
                let listlen := listlen + 1 + encodedLength value
                (listlen : Int) < size ∧ Fits len size listlen rest

section Bounded

variable {len : Int}

theorem inside_of_stores (inside : (urlmapnencodeStoresFrom len list map).writing.Inside) :
    list.Inside := by
  induction map generalizing list with
  | nil => exact (list.inside_terminate.mp inside).1
  | cons entry rest ih =>
      apply inside_of_putSeparator
      grind [urlmapnencodeStoresFrom, Writing.inside_put, putSeparator, Writing.inside_field]

/-- After a text with its terminator, when the pairs that follow are known. -/
theorem inside_behind {rest : Urlmap}
    (known : ∀ {list : Writing Byte}, list.Inside → (list.text.length : Int) < list.size →
      ((urlmapnencodeStoresFrom len list rest).writing.Inside ↔
        Fits len list.size list.text.length rest))
    {list : Writing Byte} (inside : list.Inside) (text : List Byte) :
    (urlmapnencodeStoresFrom len (list.field text) rest).writing.Inside ↔
      ((list.text.length + text.length : Nat) : Int) < list.size ∧
        Fits len list.size (list.text.length + text.length) rest := by
  have stored := list.inside_field text
  have shape : (list.field text).text.length = list.text.length + text.length := by
    rw [Writing.text_field, List.length_append]
  by_cases fits : ((list.text.length + text.length : Nat) : Int) < list.size
  · simp_all [Writing.size_field, and_iff_right]
  · apply iff_of_false
    · grind [inside_of_stores]
    · omega

/-- The same for the equal sign and a value, behind a key that fits. -/
theorem inside_value {rest : Urlmap}
    (known : ∀ {list : Writing Byte}, list.Inside → (list.text.length : Int) < list.size →
      ((urlmapnencodeStoresFrom len list rest).writing.Inside ↔
        Fits len list.size list.text.length rest))
    {list : Writing Byte} (inside : list.Inside) (room : (list.text.length : Int) < list.size)
    (value : List Byte) :
    (if ValueTest len (list.put equals).text.length value then
        urlmapnencodeStoresFrom len
          ((list.put equals).field (urlnencode (value ++ [0]) value.length)) rest
      else ⟨list.put equals, some .EOVERFLOW⟩ : Encoding).writing.Inside ↔
      (ValueTest len (list.text.length + 1) value →
        ((list.text.length + 1 + encodedLength value : Nat) : Int) < list.size ∧
          Fits len list.size (list.text.length + 1 + encodedLength value) rest) := by
  have stored : (list.put equals).Inside := (list.inside_put equals).mpr ⟨inside, room⟩
  have shape : (list.put equals).text.length = list.text.length + 1 := List.length_append
  have valueLength := length_urlnencode_block value
  rw [shape, ← valueLength]
  by_cases valuePasses : ValueTest len (list.text.length + 1) value
  · simp_all [inside_behind]
  · simp_all

theorem urlmapnencodeStoresFrom_inside (len : Int) (map : Urlmap) (inside : list.Inside)
    (room : (list.text.length : Int) < list.size) :
    (urlmapnencodeStoresFrom len list map).writing.Inside ↔
      Fits len list.size list.text.length map := by
  induction map generalizing list with
  | nil => exact iff_of_true (list.inside_terminate.mpr ⟨inside, room⟩) trivial
  | cons entry rest ih =>
      have separated := inside_putSeparator inside room
      have start := length_putSeparator list
      have size := size_putSeparator list
      have keyLength := length_urlencode_key entry.key
      rw [urlmapnencodeStoresFrom, Fits, ← start, ← size, ← keyLength]
      generalize putSeparator list = list at separated start size ⊢
      generalize urlencode (entry.key ++ [0]) = key at keyLength ⊢
      by_cases keyPasses : KeyTest len list.text.length entry.key
      · rw [if_pos keyPasses, imp_iff_right keyPasses]
        cases entry.value with
        | none => exact inside_behind ih separated key
        | some value =>
            have stored := list.inside_field key
            have shape : (list.field key).text.length = list.text.length + key.length := by
              rw [Writing.text_field, List.length_append]
            by_cases fits : ((list.text.length + key.length : Nat) : Int) < list.size
            · have continued := inside_value ih (stored.mpr ⟨separated, fits⟩)
                (by rwa [shape, Writing.size_field]) value
              simp_all [shape, Writing.size_field, continued.trans]
            · apply iff_of_false
              · intro all
                apply fits
                apply (stored.mp _).2
                apply ((list.field key).inside_put equals).mp _ |>.1
                grind [Writing.inside_field, inside_of_stores]
              · omega
      · simp_all

theorem length_lt_size (accepted : (urlmapnencodeStoresFrom len list map).errno = none)
    (inside : (urlmapnencodeStoresFrom len list map).writing.Inside) :
    ((urlmapnencodeStoresFrom len list map).writing.text.length : Int) < list.size := by
  induction map generalizing list with
  | nil => exact (list.inside_terminate.mp inside).2
  | cons entry rest ih =>
      grind [urlmapnencodeStoresFrom, Writing.size_field, Writing.size_put, size_putSeparator]

def Passes (len : Int) : Nat → Urlmap → Prop
  | _, [] => True
  | listlen, entry :: rest =>
      KeyTest len (pairStart listlen) entry.key ∧
        let listlen := pairStart listlen + encodedLength (cstr entry.key)
        match entry.value with
        | none => Passes len listlen rest
        | some value =>
            ValueTest len (listlen + 1) value ∧
              Passes len (listlen + 1 + encodedLength value) rest

theorem text_putSeparator (list : Writing Byte) :
    (putSeparator list).text = separate list.text := by
  rw [putSeparator, separate]
  split_ifs
  · rfl
  · rfl

theorem errno_eq_none_iff (list : Writing Byte) (map : Urlmap) :
    (urlmapnencodeStoresFrom len list map).errno = none ↔ Passes len list.text.length map := by
  induction map generalizing list with
  | nil => exact iff_of_true rfl trivial
  | cons entry rest ih =>
      have start := length_putSeparator list
      have keyLength := length_urlencode_key entry.key
      rw [urlmapnencodeStoresFrom, Passes, ← start, ← keyLength]
      split_ifs with keyPasses
      · rw [and_iff_right keyPasses]
        cases entry.value with
        | none =>
            simp only [ih, Writing.text_field, List.length_append]
        | some value =>
            have valueLength := length_urlnencode_block value
            simp only [Writing.text_put, Writing.text_field, List.length_append,
              List.length_singleton, ← valueLength]
            split_ifs with valuePasses
            · rw [and_iff_right valuePasses, ih]
              simp only [Writing.text_put, Writing.text_field, List.length_append,
                List.length_singleton]
            · exact iff_of_false not_false fun both => valuePasses both.1
      · exact iff_of_false not_false fun both => keyPasses both.1

theorem text_urlmapnencodeStoresFrom
    (accepted : (urlmapnencodeStoresFrom len list map).errno = none) :
    (urlmapnencodeStoresFrom len list map).writing.text = urlmapencodeFrom list.text map := by
  induction map generalizing list with
  | nil => rfl
  | cons entry rest ih =>
      have separated := text_putSeparator list
      rw [urlmapnencodeStoresFrom] at accepted ⊢
      rw [urlmapencodeFrom, ← separated]
      split_ifs at accepted ⊢
      cases absent : entry.value with
      | none =>
          simp only [absent] at accepted ⊢
          rw [ih accepted, Writing.text_field]
      | some value =>
          simp only [absent] at accepted ⊢
          split_ifs at accepted ⊢
          rw [ih accepted, Writing.text_field, Writing.text_put,
            Writing.text_field]

end Bounded

def pairEnd (listlen : Nat) (entry : UrlmapEntry) : Nat :=
  match entry.value with
  | none => pairStart listlen + encodedLength (cstr entry.key)
  | some value => pairStart listlen + encodedLength (cstr entry.key) + 1 + encodedLength value

theorem length_separate (list : List Byte) : (separate list).length = pairStart list.length := by
  grind [separate, pairStart, List.length_append]

theorem length_urlmapencodeFrom (list : List Byte) (map : Urlmap) :
    (urlmapencodeFrom list map).length = map.foldl pairEnd list.length := by
  induction map generalizing list with
  | nil => rfl
  | cons entry rest ih =>
      have start := length_separate list
      have keyLength := length_urlencode_key entry.key
      rw [urlmapencodeFrom, List.foldl_cons, pairEnd, ← start, ← keyLength]
      cases entry.value with
      | none => rw [ih, List.length_append]
      | some value =>
          grind [List.length_append, List.length_singleton, length_urlnencode_block]

theorem length_le_encodedLength (bytes : List Byte) : bytes.length ≤ encodedLength bytes :=
  Nat.le_add_right _ _

theorem le_pairStart (listlen : Nat) : listlen ≤ pairStart listlen := by
  rw [pairStart]
  split_ifs
  · exact Nat.le_succ _
  · exact Nat.le_refl _

theorem le_pairEnd (listlen : Nat) (entry : UrlmapEntry) : listlen ≤ pairEnd listlen entry := by
  grind [pairEnd, Nat.le_add_right_of_le, le_pairStart]

theorem le_foldl_pairEnd (listlen : Nat) (map : Urlmap) : listlen ≤ map.foldl pairEnd listlen := by
  induction map generalizing listlen with
  | nil => exact Nat.le_refl _
  | cons entry rest ih =>
      exact (le_pairEnd listlen entry).trans (ih _)

/-! ### Short texts

No `int` overflows, and the tests are those of `urlmapnencodeFrom`. -/

theorem keyTest_iff (len : Int) {listlen : Nat} {key : List Byte}
    (short : 3 * key.length + listlen + 2 < 2147483648) :
    KeyTest len listlen key ↔ ((3 * key.length : Nat) : Int) + listlen + 2 ≤ len := by
  grind [KeyTest, toInt32_self]

theorem valueTest_iff (len : Int) {listlen : Nat} {value : List Byte}
    (short : value.length + listlen + 1 < 2147483648) :
    ValueTest len listlen value ↔ (value.length : Int) + listlen + 1 ≤ len := by
  rw [ValueTest, toInt32_self (by omega) (by omega)]

/-- A text of a megabyte at most is accepted by both models of the bounded encoder, or by
none. -/
theorem urlmapnencodeFrom_iff_passes {len : Int} {list : List Byte} {map : Urlmap}
    (strings : ∀ entry ∈ map, 0 ∉ entry.key) (short : map.foldl pairEnd list.length ≤ 1048576) :
    (∃ text, urlmapnencodeFrom len list map = .ok text) ↔ Passes len list.length map := by
  induction map generalizing list with
  | nil => exact iff_of_true ⟨list, rfl⟩ trivial
  | cons entry rest ih =>
      rcases entry with ⟨key, value⟩
      have nulFree : 0 ∉ key := strings _ List.mem_cons_self
      have others : ∀ entry ∈ rest, 0 ∉ entry.key :=
        fun entry member => strings entry (List.mem_cons_of_mem _ member)
      have start := length_separate list
      have keyLength := length_urlencode_key key
      have keyRoom := length_le_encodedLength key
      have keyShape : (separate list ++ urlencode (key ++ [0])).length =
          pairStart list.length + encodedLength key := by
        rw [List.length_append, start, keyLength, cstr_eq_self nulFree]
      rw [List.foldl_cons, pairEnd, cstr_eq_self nulFree, ← keyShape] at short
      rw [Passes, cstr_eq_self nulFree, ← keyShape, ← start, urlmapnencodeFrom]
      dsimp only at short ⊢
      generalize separate list ++ urlencode (key ++ [0]) = text at *
      have ends : text.length ≤ 1048576 := by
        grind [le_foldl_pairEnd]
      rw [keyTest_iff len (by omega)]
      by_cases passes : ((3 * key.length : Nat) : Int) + (separate list).length + 2 ≤ len
      · rw [and_iff_right passes, if_neg (by omega)]
        cases value with
        | none => exact ih others short
        | some value =>
            have valueRoom := length_le_encodedLength value
            have further := (le_foldl_pairEnd _ rest).trans short
            have signShape : (text ++ [equals]).length = text.length + 1 := List.length_append
            have valueShape : (text ++ [equals] ++ urlnencode (value ++ [0]) value.length).length =
                text.length + 1 + encodedLength value := by
              rw [List.length_append, signShape, length_urlnencode_block]
            dsimp only at short further ⊢
            rw [signShape, valueTest_iff len (by omega), ← valueShape]
            rw [← valueShape] at short
            by_cases valuePasses : (value.length : Int) + ((text.length + 1 : Nat) : Int) + 1 ≤ len
            · simp_all [and_iff_right, if_neg]
            · grind
      · grind

/-- The length of the text, the size of the block, and the size the encoder believes in. -/
structure Room where
  listlen : Nat
  size : Int
  maxlistlen : Int
deriving DecidableEq, Repr

def Room.reserve (room : Room) (length : Int) : Room :=
  if toInt32 (length + room.listlen + 1) > room.maxlistlen then
    let maxlistlen := toInt32 (length + room.listlen + 65)
    ⟨room.listlen, maxlistlen, maxlistlen⟩
  else room

def Room.advance (room : Room) (length : Nat) : Room :=
  { room with listlen := room.listlen + length }

def Room.Holds (room : Room) : Prop := (room.listlen : Int) < room.size

def Room.withKey (room : Room) (key : List Byte) : Room :=
  (Room.reserve { room with listlen := pairStart room.listlen }
    (toInt32 (3 * key.length))).advance (encodedLength (cstr key))

def Room.withValue (room : Room) (value : List Byte) : Room :=
  ((room.advance 1).reserve value.length).advance (encodedLength value)

/-- Every key and every value fits, encoded and with a terminator, in what is reserved for
it. -/
def FitsReserved : Room → Urlmap → Prop
  | _, [] => True
  | room, entry :: rest =>
      (room.withKey entry.key).Holds ∧
        match entry.value with
        | none => FitsReserved (room.withKey entry.key) rest
        | some value =>
            ((room.withKey entry.key).withValue value).Holds ∧
              FitsReserved ((room.withKey entry.key).withValue value) rest

def Growing.room (growing : Growing) : Room :=
  ⟨growing.list.text.length, growing.list.size, growing.maxlistlen⟩

section Growth

variable {growing : Growing}

theorem room_reserve (growing : Growing) (length : Int) :
    (growing.reserve length).room = growing.room.reserve length := by
  rw [Growing.reserve, Room.reserve]
  change Growing.room (if _ then _ else _) = if toInt32 (length + growing.list.text.length + 1) >
    growing.maxlistlen then _ else _
  split_ifs
  · rfl
  · rfl

theorem inside_reserve (length : Int) :
    (growing.reserve length).list.Inside ↔ growing.list.Inside := by
  rw [Growing.reserve]
  split_ifs
  · exact Iff.rfl
  · exact Iff.rfl

theorem room_field (growing : Growing) (text : List Byte) :
    Growing.room { growing with list := growing.list.field text } =
      growing.room.advance text.length := by
  rw [Growing.room, Writing.text_field, Writing.size_field, List.length_append]
  rfl

theorem room_putKey (growing : Growing) (key : List Byte) :
    (growing.putKey key).room = growing.room.withKey key := by
  have start := length_putSeparator growing.list
  have size := size_putSeparator growing.list
  have separated : Growing.room { growing with list := putSeparator growing.list } =
      { growing.room with listlen := pairStart growing.room.listlen } := by
    simp only [Growing.room, start, size]
  rw [Growing.putKey, room_field, room_reserve, length_urlencode_key, separated, Room.withKey]

theorem room_putValue (growing : Growing) (value : List Byte) :
    (growing.putValue value).room = growing.room.withValue value := by
  have signed : Growing.room { growing with list := growing.list.put equals } =
      growing.room.advance 1 := by
    rw [Growing.room, Writing.text_put, List.length_append]
    rfl
  simp [Growing.putValue, room_field, room_reserve, length_urlnencode_block, signed, Room.withValue]

theorem inside_reserved (growing : Growing) (inside : growing.list.Inside) (length : Int)
    (text : List Byte) :
    ((growing.reserve length).list.field text).Inside ↔
      (Growing.room { growing.reserve length with
        list := (growing.reserve length).list.field text }).Holds := by
  rw [Writing.inside_field, and_iff_right ((inside_reserve length).mpr inside), room_field]
  exact Iff.rfl

theorem inside_putKey (inside : growing.list.Inside) (holds : growing.room.Holds)
    (key : List Byte) : (growing.putKey key).list.Inside ↔ (growing.putKey key).room.Holds :=
  inside_reserved { growing with list := putSeparator growing.list }
    (inside_putSeparator inside holds) _ _

theorem inside_putValue (inside : growing.list.Inside) (holds : growing.room.Holds)
    (value : List Byte) :
    (growing.putValue value).list.Inside ↔ (growing.putValue value).room.Holds :=
  inside_reserved { growing with list := growing.list.put equals }
    ((growing.list.inside_put equals).mpr ⟨inside, holds⟩) _ _

theorem inside_of_putKey {key : List Byte} (inside : (growing.putKey key).list.Inside) :
    growing.list.Inside :=
  inside_of_putSeparator ((inside_reserve _).mp ((Writing.inside_field _ _).mp inside).1)

theorem inside_of_putValue {value : List Byte} (inside : (growing.putValue value).list.Inside) :
    growing.list.Inside :=
  ((Writing.inside_put _ _).mp ((inside_reserve _).mp ((Writing.inside_field _ _).mp inside).1)).1

theorem inside_of_storesReserved (inside : (urlmapencodeStoresFrom growing map).Inside) :
    growing.list.Inside := by
  induction map generalizing growing with
  | nil => exact (growing.list.inside_terminate.mp inside).1
  | cons entry rest ih =>
      grind [urlmapencodeStoresFrom, inside_of_putKey, inside_of_putValue]

theorem urlmapencodeStoresFrom_inside (map : Urlmap) (inside : growing.list.Inside)
    (holds : growing.room.Holds) :
    (urlmapencodeStoresFrom growing map).Inside ↔ FitsReserved growing.room map := by
  induction map generalizing growing with
  | nil => exact iff_of_true (growing.list.inside_terminate.mpr ⟨inside, holds⟩) trivial
  | cons entry rest ih =>
      have keyInside := inside_putKey inside holds entry.key
      rw [urlmapencodeStoresFrom, FitsReserved, ← room_putKey]
      by_cases keyHolds : (growing.putKey entry.key).room.Holds
      · rw [and_iff_right keyHolds]
        cases entry.value with
        | none => exact ih (keyInside.mpr keyHolds) keyHolds
        | some value =>
            have valueInside := inside_putValue (keyInside.mpr keyHolds) keyHolds value
            simp only [← room_putValue]
            by_cases valueHolds : ((growing.putKey entry.key).putValue value).room.Holds
            · simp_all [and_iff_right]
            · apply iff_of_false
              · grind [inside_of_storesReserved]
              · simp [valueHolds]
      · apply iff_of_false
        · grind [inside_of_storesReserved, inside_of_putValue]
        · simp [keyHolds]

def roomBehind : Room → Urlmap → Room
  | room, [] => room
  | room, entry :: rest =>
      match entry.value with
      | none => roomBehind (room.withKey entry.key) rest
      | some value => roomBehind ((room.withKey entry.key).withValue value) rest

theorem room_storesFrom (growing : Growing) (map : Urlmap) :
    (urlmapencodeStoresFrom growing map).text.length = (roomBehind growing.room map).listlen ∧
      (urlmapencodeStoresFrom growing map).size = (roomBehind growing.room map).size := by
  induction map generalizing growing with
  | nil => exact ⟨rfl, rfl⟩
  | cons entry rest ih =>
      grind [urlmapencodeStoresFrom, roomBehind, room_putKey, room_putValue]

theorem text_reserve (growing : Growing) (length : Int) :
    (growing.reserve length).list.text = growing.list.text := by
  unfold Growing.reserve
  split_ifs
  · rfl
  · rfl

/-- The stores are those of the text. -/
theorem text_storesFrom (growing : Growing) (map : Urlmap) :
    (urlmapencodeStoresFrom growing map).text = urlmapencodeFrom growing.list.text map := by
  have keyText (growing : Growing) (key : List Byte) : (growing.putKey key).list.text =
      separate growing.list.text ++ urlencode (key ++ [0]) := by
    rw [Growing.putKey, Writing.text_field, text_reserve, text_putSeparator]
  induction map generalizing growing with
  | nil => rfl
  | cons entry rest ih =>
      rw [urlmapencodeStoresFrom, urlmapencodeFrom]
      cases entry.value with
      | none =>
          simp [keyText, ih]
      | some value =>
          have valueText : ((growing.putKey entry.key).putValue value).list.text =
              separate growing.list.text ++ urlencode (entry.key ++ [0]) ++ [equals] ++
                urlnencode (value ++ [0]) value.length := by
            rw [Growing.putValue, Writing.text_field, text_reserve, Writing.text_put, keyText]
          simp [valueText, ih]

end Growth

theorem urlmapnencodeStores_inside (size len : Int) (nonempty : 0 < size) (map : Urlmap) :
    (urlmapnencodeStores size len map).writing.Inside ↔ (1 ≤ len → Fits len size 0 map) := by
  rw [urlmapnencodeStores]
  split_ifs with empty
  · exact iff_of_true (Writing.inside_start size) fun positive => by omega
  · have known := urlmapnencodeStoresFrom_inside len map (Writing.inside_start size) nonempty
    rw [imp_iff_right (by omega)]
    exact known

theorem urlmapencodeStores_inside (map : Urlmap) :
    (urlmapencodeStores map).Inside ↔ FitsReserved ⟨0, 65, 64⟩ map :=
  urlmapencodeStoresFrom_inside map (Writing.inside_start 65) (show (0 : Int) < 65 by decide)

end MidWay.Url

import MidWay.Url.BadEscapes

/-!
Contract: `urlmapdecode` with the array it fills and the blocks it allocates.

The array has two entries more than there are pairs, and is not cleared: an entry is as
`malloc` left it until a key is stored in it, and the array ends at its first NULL key.
`urlmapfree` goes by that NULL key, which is not there yet when a value is refused. A
refused key is no reason to stop. Lengths are numbers without a bound, where the program
counts in `int`; `malloc` gives what it is asked for.

Owns: `urlmapdecode` and `urlmapfree` over the array, that the array is read as the map of
`urlmapdecode`, and for which texts a bad escape is refused in order.
-/

namespace MidWay.Url

open MidWay.CLib

/-- An entry; its pointers are the numbers of blocks. -/
structure MapCell where
  key : Option Nat
  value : Option Nat
  valuelen : Int
  written : Bool
deriving DecidableEq, Repr

inductive MapFault where
  /-- An entry outside of the array. -/
  | outside
  /-- `free` of a pointer that is no block, or is freed already. -/
  | wild
  | endless
deriving DecidableEq, Repr

/-- `unwritten` are the entries that were read before a key was stored in them. -/
structure MapMemory where
  cells : List MapCell
  blocks : List Decoded
  freed : List Nat
  unwritten : List Nat
deriving DecidableEq

def MapMemory.store (memory : MapMemory) (idx : Nat) (change : MapCell → MapCell) :
    Except MapFault MapMemory :=
  match memory.cells[idx]? with
  | none => .error .outside
  | some cell => .ok { memory with cells := memory.cells.set idx (change cell) }

/-- What `urldecodedup` returns. -/
def decodedLength (decoded : Decoded) : Int :=
  if decoded.complete then decoded.plain.length else -1

def MapMemory.urldecodedup (memory : MapMemory) (encoded : List Byte) : Nat × Int × MapMemory :=
  (memory.blocks.length, decodedLength (urldecode encoded),
    { memory with blocks := memory.blocks ++ [urldecode encoded] })

def MapMemory.free (memory : MapMemory) : Option Nat → Except MapFault MapMemory
  | none => .ok memory
  | some block =>
      if block < memory.blocks.length ∧ block ∉ memory.freed then
        .ok { memory with freed := memory.freed ++ [block] }
      else .error .wild

/-- The loop of `urlmapfree`. The NULL pointers it stores are not looked at again: the array is
freed behind it. -/
def urlmapfreeFrom : Nat → List MapCell → MapMemory → Except MapFault MapMemory
  | _, [], _ => .error .outside
  | idx, cell :: rest, memory =>
      let memory :=
        if cell.written then memory else { memory with unwritten := memory.unwritten ++ [idx] }
      match cell.key with
      | none => .ok memory
      | some key =>
          match memory.free (some key) with
          | .error fault => .error fault
          | .ok memory =>
              match memory.free cell.value with
              | .error fault => .error fault
              | .ok memory => urlmapfreeFrom (idx + 1) rest memory

def urlmapfree (memory : MapMemory) : Except MapFault MapMemory :=
  urlmapfreeFrom 0 memory.cells memory

/-- One pair, and whether its value is taken. The result for the key is not looked at. -/
def MapMemory.decodePair (memory : MapMemory) (idx : Nat) (next : List Byte) :
    Except MapFault (Bool × MapMemory) :=
  let (key, _, memory) := memory.urldecodedup next
  match memory.store idx fun cell => { cell with key := some key, written := true } with
  | .error fault => .error fault
  | .ok memory =>
      match keyEnd next with
      | some equal =>
          let (value, valuelen, memory) := memory.urldecodedup (next.drop (equal + 1))
          match memory.store idx fun cell =>
            { cell with value := some value, valuelen := valuelen } with
          | .error fault => .error fault
          | .ok memory => .ok (valuelen != -1, memory)
      | none =>
          match memory.store idx fun cell => { cell with value := none, valuelen := 0 } with
          | .error fault => .error fault
          | .ok memory => .ok (true, memory)

/-- The loop over the pairs, with whether a map is returned, or NULL. -/
def MapMemory.decodeFrom : Nat → MapMemory → Nat → List Byte → Except MapFault (Bool × MapMemory)
  | 0, _, _, _ => .error .endless
  | turns + 1, memory, idx, next =>
      match memory.decodePair idx next with
      | .error fault => .error fault
      | .ok (false, memory) => (urlmapfree memory).map fun memory => (false, memory)
      | .ok (true, memory) =>
          match strchr next ampersand with
          | some amp => memory.decodeFrom turns (idx + 1) (skipExcess (next.drop (amp + 1)))
          | none =>
              (memory.store (idx + 1) fun _ => ⟨none, none, 0, true⟩).map fun memory =>
                (true, memory)

/-- The array that `malloc` gives; `left` is what was in its entries. -/
def mallocMap (left : Nat → MapCell) (count : Nat) : MapMemory :=
  ⟨(List.range (count + 2)).map fun idx => { left idx with written := false }, [], [], []⟩

/-- `list` is the text with its terminator and what is behind that. -/
def urlmapdecodeArray (left : Nat → MapCell) (list : List Byte) :
    Except MapFault (Bool × MapMemory) :=
  (mallocMap left ((cstr list).count ampersand + 1)).decodeFrom (list.length + 1) 0 list

/-- The entry that a caller finds, if its pointers are blocks. -/
def readCell (uninit : List Byte) (blocks : List Decoded) (cell : MapCell) (key : Nat) :
    Option UrlmapEntry :=
  (blocks[key]?).bind fun name =>
    match cell.value with
    | none => some ⟨keyString uninit name, none⟩
    | some value => (blocks[value]?).map fun bytes =>
        ⟨keyString uninit name, some (bytes.plain.take cell.valuelen.toNat)⟩

def readMap (uninit : List Byte) (blocks : List Decoded) : List MapCell → Option Urlmap
  | [] => none
  | cell :: rest =>
      match cell.key with
      | none => some []
      | some key => (readCell uninit blocks cell key).bind fun entry =>
          (readMap uninit blocks rest).map (entry :: ·)

/-- The array has `length` entries and ends there. -/
def EndsAt (cells : List MapCell) (length : Nat) : Prop :=
  ∃ front terminator back, cells = front ++ terminator :: back ∧ front.length = length ∧
    (∀ cell ∈ front, cell.written = true ∧ cell.key ≠ none) ∧
    terminator.written = true ∧ terminator.key = none

/-- Either a map that ends, or NULL for a bad escape, with every block freed, each once. -/
def Refuses (text : List Byte) (result : Except MapFault (Bool × MapMemory)) : Prop :=
  ∃ isMap memory, result = .ok (isMap, memory) ∧ (isMap = false ↔ HasBadEscape text) ∧
    (isMap = false → memory.freed.Perm (List.range memory.blocks.length) ∧
      memory.unwritten = []) ∧
    (isMap = true → ∃ length ≤ text.count ampersand + 1, EndsAt memory.cells length)

def Field.blocks (field : Field) : List Decoded := field.key :: field.value.toList

/-- The entry of a field whose key is in block `block`. -/
def Field.cell (field : Field) (block : Nat) : MapCell :=
  ⟨some block, field.value.map fun _ => block + 1, (field.value.map decodedLength).getD 0, true⟩

/-- The memory with a field behind the entries `front`. -/
def MapMemory.putField (memory : MapMemory) (front : List MapCell) (field : Field)
    (back : List MapCell) : MapMemory :=
  { memory with
    cells := front ++ field.cell memory.blocks.length :: back
    blocks := memory.blocks ++ field.blocks }

theorem cells_putField (memory : MapMemory) (front : List MapCell) (field : Field)
    (back : List MapCell) : (memory.putField front field back).cells =
      (front ++ [field.cell memory.blocks.length]) ++ back := by
  rw [List.append_assoc, List.singleton_append, MapMemory.putField]

theorem decodedLength_eq_neg_one_iff (decoded : Decoded) :
    decodedLength decoded = -1 ↔ ¬decoded.complete = true := by
  simp [decodedLength]

section

variable {memory after : MapMemory} {front back : List MapCell} {idx : Nat} {next : List Byte}

theorem store_at {cell : MapCell} (isArray : memory.cells = front ++ cell :: back)
    (isPlace : front.length = idx) (change : MapCell → MapCell) :
    memory.store idx change = .ok { memory with cells := front ++ change cell :: back } := by
  simp [isArray, isPlace, MapMemory.store, List.set_append_right, List.set_cons_zero]

theorem store_cases {change : MapCell → MapCell} (isArray : memory.cells = front ++ back)
    (isPlace : front.length = idx) (stored : memory.store idx change = .ok after) :
    ∃ cell rest, back = cell :: rest ∧
      after = { memory with cells := front ++ change cell :: rest } := by
  cases back with
  | nil =>
      simp [isArray, List.append_nil, isPlace, MapMemory.store] at stored
  | cons cell rest =>
      grind [store_at]

theorem decodePair_outside (isArray : memory.cells = front) (isPlace : front.length = idx) :
    memory.decodePair idx next = .error .outside := by
  simp [isArray, isPlace, MapMemory.decodePair, MapMemory.urldecodedup, MapMemory.store]

theorem decodePair_at {cell : MapCell} (isArray : memory.cells = front ++ cell :: back)
    (isPlace : front.length = idx) :
    memory.decodePair idx next =
      .ok (decide ¬(fieldAt next).Malformed, memory.putField front (fieldAt next) back) := by
  unfold MapMemory.decodePair MapMemory.urldecodedup MapMemory.putField Field.cell Field.blocks
    Field.Malformed fieldAt
  dsimp only
  rw [@store_at { memory with blocks := memory.blocks ++ [urldecode next] } _ _ _ _ isArray isPlace]
  cases found : keyEnd next with
  | none =>
      grind [store_at]
  | some equal =>
      dsimp only
      rw [@store_at ⟨front ++ _ :: back, _, _, _⟩ _ _ _ _ rfl isPlace, List.append_assoc,
        List.length_append]
      have good : (decodedLength (urldecode (next.drop (equal + 1))) != -1) =
          decide ¬(Option.any (fun value => !value.complete)
            (some (urldecode (next.drop (equal + 1)))) = true) := by
        rw [bne, Bool.eq_iff_iff, Bool.not_eq_true', beq_eq_false_iff_ne, decide_eq_true_iff, ne_eq,
          decodedLength_eq_neg_one_iff, Option.any_some, Bool.not_eq_true', Bool.not_eq_true]
      dsimp only [Option.map_some]
      rw [good]
      rfl

theorem unwritten_free {block : Option Nat} (freed : memory.free block = .ok after) :
    after.unwritten = memory.unwritten := by
  cases block with
  | none =>
      cases freed
      rfl
  | some block =>
      grind [MapMemory.free]

/-- One turn reads the key of its entry, and stops there or goes on. -/
theorem urlmapfreeFrom_cases {cell : MapCell} {rest : List MapCell}
    (freed : urlmapfreeFrom idx (cell :: rest) memory = .ok after) :
    ∃ later, later.unwritten = memory.unwritten ++ (if cell.written then [] else [idx]) ∧
      ((cell.key = none ∧ later = after) ∨
        (cell.key ≠ none ∧ urlmapfreeFrom (idx + 1) rest later = .ok after)) := by
  have read : (if cell.written then memory
      else { memory with unwritten := memory.unwritten ++ [idx] }).unwritten =
        memory.unwritten ++ (if cell.written then [] else [idx]) := by
    split_ifs
    · exact (List.append_nil _).symm
    · rfl
  rw [urlmapfreeFrom] at freed
  generalize (if cell.written then memory
    else { memory with unwritten := memory.unwritten ++ [idx] }) = reading at freed read
  cases isKey : cell.key with
  | none =>
      simp_all
  | some key =>
      rw [isKey] at freed
      dsimp only at freed
      cases keyFreed : reading.free (some key) with
      | error fault =>
          simp [keyFreed] at freed
      | ok middle =>
          rw [keyFreed] at freed
          dsimp only at freed
          cases valueFreed : middle.free cell.value with
          | error fault =>
              simp [valueFreed] at freed
          | ok later =>
              rw [valueFreed] at freed
              refine ⟨later, ?_, .inr ⟨Option.some_ne_none _, freed⟩⟩
              rw [unwritten_free valueFreed, unwritten_free keyFreed, read]

theorem unwritten_kept {cells : List MapCell}
    (freed : urlmapfreeFrom idx cells memory = .ok after) (already : memory.unwritten ≠ []) :
    after.unwritten ≠ [] := by
  induction cells generalizing idx memory with
  | nil => cases freed
  | cons cell rest ih =>
      grind [read, List.append_ne_nil_of_left_ne_nil, urlmapfreeFrom_cases]

/-- The loop goes on to the first entry that was not written. -/
theorem urlmapfreeFrom_unwritten (filled : ∀ cell ∈ front, cell.key ≠ none)
    (fresh : ∀ cell ∈ back, cell.written = false)
    (freed : urlmapfreeFrom idx (front ++ back) memory = .ok after) : after.unwritten ≠ [] := by
  induction front generalizing idx memory with
  | nil =>
      cases back with
      | nil => cases freed
      | cons cell rest =>
          obtain ⟨later, read, next⟩ := urlmapfreeFrom_cases freed
          have isRead : later.unwritten ≠ [] := by
            simp [read, fresh]
          obtain ⟨_, rfl⟩ | ⟨_, goesOn⟩ := next
          · exact isRead
          · exact unwritten_kept goesOn isRead
  | cons cell rest ih =>
      rw [List.forall_mem_cons] at filled
      grind [urlmapfreeFrom_cases]

/-- What one turn of the loop does. -/
theorem decodeFrom_cases {turns : Nat} {isMap : Bool} (isArray : memory.cells = front ++ back)
    (isPlace : front.length = idx)
    (result : memory.decodeFrom (turns + 1) idx next = .ok (isMap, after)) :
    ∃ cell rest, back = cell :: rest ∧
      (((fieldAt next).Malformed ∧ isMap = false ∧
          urlmapfree (memory.putField front (fieldAt next) rest) = .ok after) ∨
        (¬(fieldAt next).Malformed ∧ ∃ amp, strchr next ampersand = some amp ∧
          (memory.putField front (fieldAt next) rest).decodeFrom turns (idx + 1)
            (skipExcess (next.drop (amp + 1))) = .ok (isMap, after)) ∨
        (¬(fieldAt next).Malformed ∧ strchr next ampersand = none ∧ isMap = true ∧
          (memory.putField front (fieldAt next) rest).store (idx + 1)
            (fun _ => ⟨none, none, 0, true⟩) = .ok after)) := by
  rw [MapMemory.decodeFrom] at result
  cases back with
  | nil =>
      simp_all [List.append_nil, decodePair_outside]
  | cons cell rest =>
      refine ⟨cell, rest, rfl, ?_⟩
      rw [decodePair_at isArray isPlace] at result
      by_cases malformed : (fieldAt next).Malformed
      · rw [decide_eq_false (not_not_intro malformed)] at result
        dsimp only at result
        cases freed : urlmapfree (memory.putField front (fieldAt next) rest) with
        | error fault =>
            rw [freed] at result
            cases result
        | ok later =>
            rw [freed] at result
            cases result
            exact .inl ⟨malformed, rfl, rfl⟩
      · rw [decide_eq_true malformed] at result
        dsimp only at result
        cases found : strchr next ampersand with
        | some amp =>
            simp_all
        | none =>
            rw [found] at result
            dsimp only at result
            cases stored : (memory.putField front (fieldAt next) rest).store (idx + 1)
              (fun _ => ⟨none, none, 0, true⟩) with
            | error fault =>
                rw [stored] at result
                cases result
            | ok later =>
                rw [stored] at result
                cases result
                exact .inr (.inr ⟨malformed, rfl, rfl, rfl⟩)

/-- A value is never refused in order. -/
theorem decodeFrom_refused {turns : Nat} (isArray : memory.cells = front ++ back)
    (isPlace : front.length = idx) (filled : ∀ cell ∈ front, cell.key ≠ none)
    (fresh : ∀ cell ∈ back, cell.written = false)
    (result : memory.decodeFrom turns idx next = .ok (false, after)) : after.unwritten ≠ [] := by
  induction turns generalizing memory idx next front back with
  | zero => cases result
  | succ turns ih =>
      obtain ⟨cell, rest, rfl, turn⟩ := decodeFrom_cases isArray isPlace result
      have isFilled : ∀ cell ∈ front ++ [(fieldAt next).cell memory.blocks.length],
          cell.key ≠ none := by
        rw [List.forall_mem_append, List.forall_mem_singleton]
        exact ⟨filled, Option.some_ne_none _⟩
      have later := cells_putField memory front (fieldAt next) rest
      rw [List.forall_mem_cons] at fresh
      obtain ⟨_, _, freed⟩ | ⟨_, amp, _, goesOn⟩ | ⟨_, _, isMap, _⟩ := turn
      · grind [urlmapfree, urlmapfreeFrom_unwritten]
      · grind
      · cases isMap

end

section

variable {memory after : MapMemory} {front back : List MapCell} {idx : Nat} {next : List Byte}

/-- A field is found in its entry. -/
theorem readCell_field (uninit : List Byte) {field : Field} (wellFormed : ¬field.Malformed)
    {before blocks : List Decoded} (stored : before ++ field.blocks <+: blocks) :
    readCell uninit blocks (field.cell before.length) before.length =
      some (field.entry uninit) := by
  obtain ⟨behind, rfl⟩ := stored
  obtain ⟨key, value⟩ := field
  have keyBlock : (before ++ Field.blocks ⟨key, value⟩ ++ behind)[before.length]? = some key := by
    rw [List.append_assoc, List.getElem?_append_right (Nat.le_refl _), Nat.sub_self]
    rfl
  rw [readCell, keyBlock]
  cases value with
  | none => rfl
  | some value =>
      have valueBlock : (before ++ Field.blocks ⟨key, some value⟩ ++ behind)[before.length + 1]? =
          some value := by
        rw [List.append_assoc, List.getElem?_append_right (Nat.le_succ _), Nat.succ_sub (Nat.le_refl _),
          Nat.sub_self]
        rfl
      have complete : value.complete = true := by
        simp_all [Field.Malformed, Option.any_some]
      dsimp only [Option.bind_some, Field.cell, Option.map_some, Option.getD_some, Field.entry]
      rw [valueBlock, decodedLength, if_pos complete, Int.toNat_natCast, Option.map_some,
        List.take_length]

theorem readMap_field (uninit : List Byte) {field : Field} (wellFormed : ¬field.Malformed)
    {before blocks : List Decoded} (stored : before ++ field.blocks <+: blocks)
    (later : List MapCell) :
    readMap uninit blocks (field.cell before.length :: later) =
      (readMap uninit blocks later).map (field.entry uninit :: ·) := by
  have isKey : (field.cell before.length).key = some before.length := rfl
  simp_all [readMap, isKey, readCell_field, Option.bind_some]

/-- The array is read as the map, and NULL is returned when there is none. -/
theorem decodeFrom_reads (uninit : List Byte) {turns : Nat} {isMap : Bool}
    (isArray : memory.cells = front ++ back) (isPlace : front.length = idx)
    (result : memory.decodeFrom turns idx next = .ok (isMap, after)) :
    (isMap = false → (urlmapdecodeFrom uninit turns next).map = none) ∧
      (isMap = true → ∃ later entries, after.cells = front ++ later ∧
        memory.blocks <+: after.blocks ∧ readMap uninit after.blocks later = some entries ∧
        (urlmapdecodeFrom uninit turns next).map = some entries) := by
  induction turns generalizing memory idx next front back with
  | zero => cases result
  | succ turns ih =>
      obtain ⟨cell, rest, rfl, turn⟩ := decodeFrom_cases isArray isPlace result
      have fills := cells_putField memory front (fieldAt next) rest
      obtain ⟨malformed, rfl, _⟩ | ⟨wellFormed, amp, found, goesOn⟩ |
        ⟨wellFormed, absent, rfl, stored⟩ := turn
      · simp_all [urlmapdecodeFrom_malformed]
      · have nextPlace : (front ++ [(fieldAt next).cell memory.blocks.length]).length = idx + 1 := by
          rw [List.length_append, isPlace, List.length_singleton]
        obtain ⟨refused, taken⟩ := ih fills nextPlace goesOn
        rw [urlmapdecodeFrom_wellFormed wellFormed, found]
        dsimp only [Option.elim, MapDecoded.push]
        constructor
        · simp_all [Option.map_none]
        · intro isSome
          obtain ⟨later, entries, cells, blocks, reads, decoded⟩ := taken isSome
          refine ⟨(fieldAt next).cell memory.blocks.length :: later,
            (fieldAt next).entry uninit :: entries, ?_, ?_, ?_, ?_⟩
          · exact cells.trans (List.append_assoc ..)
          · exact (List.prefix_append _ _).trans blocks
          · rw [readMap_field uninit wellFormed blocks, reads, Option.map_some]
          · rw [decoded, Option.map_some]
      · rw [urlmapdecodeFrom_wellFormed wellFormed, absent]
        refine ⟨fun isFalse => (nomatch isFalse), fun _ => ?_⟩
        have nextPlace : (front ++ [(fieldAt next).cell memory.blocks.length]).length = idx + 1 := by
          rw [List.length_append, isPlace, List.length_singleton]
        obtain ⟨last, others, rfl, rfl⟩ := store_cases fills nextPlace stored
        refine ⟨(fieldAt next).cell memory.blocks.length :: ⟨none, none, 0, true⟩ :: others,
          [(fieldAt next).entry uninit], ?_, List.prefix_append _ _, ?_, rfl⟩
        · exact List.append_assoc ..
        · exact readMap_field uninit wellFormed (List.prefix_refl _) _

end

section

variable {memory : MapMemory} {front back : List MapCell} {idx : Nat} {text : List Byte}

theorem not_hasBadEscape_nil : ¬HasBadEscape [] :=
  mt (hasBadEscape_single List.not_mem_nil).mp not_badPair_nil

/-- The pairs of a text without bad escapes fit in the array, and the terminator behind them. -/
theorem decodeFrom_clean {turns : Nat} {next : Byte} (rest : List Byte)
    (enough : text.length < turns) (nulFree : 0 ∉ text) (clean : ¬HasBadEscape text)
    (quiet : ¬(text.getLast? = some ampersand ∧ next = ampersand))
    (isArray : memory.cells = front ++ back) (isPlace : front.length = idx)
    (filled : ∀ cell ∈ front, cell.written = true ∧ cell.key ≠ none)
    (room : text.count ampersand + 2 ≤ back.length) :
    ∃ after, memory.decodeFrom turns idx (text ++ 0 :: next :: rest) = .ok (true, after) ∧
      ∃ length ≤ idx + text.count ampersand + 1, EndsAt after.cells length := by
  induction turns generalizing memory idx text front back with
  | zero => exact absurd enough (Nat.not_lt_zero _)
  | succ turns ih =>
      obtain _ | ⟨cell, back⟩ := back
      · exact absurd room (Nat.not_succ_le_zero _)
      · rw [MapMemory.decodeFrom, decodePair_at isArray isPlace]
        have fills := cells_putField memory front (fieldAt (text ++ 0 :: next :: rest)) back
        have nextPlace : (front ++ [(fieldAt (text ++ 0 :: next :: rest)).cell
            memory.blocks.length]).length = idx + 1 := by
          rw [List.length_append, isPlace, List.length_singleton]
        have isFilled : ∀ cell ∈ front ++ [(fieldAt (text ++ 0 :: next :: rest)).cell
            memory.blocks.length], cell.written = true ∧ cell.key ≠ none := by
          rw [List.forall_mem_append, List.forall_mem_singleton]
          exact ⟨filled, rfl, Option.some_ne_none _⟩
        rw [List.length_cons] at room
        by_cases more : ampersand ∈ text
        · obtain ⟨pair, others, rfl, ampFree⟩ := List.eq_append_cons_of_mem more
          rw [hasBadEscape_append ampFree, not_or, BadPair, not_or] at clean
          rw [List.mem_append, not_or, List.mem_cons, not_or] at nulFree
          rw [List.length_append, List.length_cons] at enough
          rw [List.count_append, List.count_cons_self] at room ⊢
          rw [List.append_assoc, List.cons_append] at fills nextPlace isFilled ⊢
          have wellFormed := mt (fieldAt_pair nulFree.1 ampFree (.inr rfl)
            (others ++ 0 :: next :: rest)).2.mp clean.1.2
          rw [decide_eq_true wellFormed, strchr_ampersand nulFree.1 ampFree]
          dsimp only
          rw [drop_behind]
          by_cases atEnd : others = []
          · -- the next field is the terminator, where no ampersand follows
            obtain rfl := atEnd
            rw [List.getLast?_append_of_ne_nil _ (List.cons_ne_nil _ _)] at quiet
            have notAmp : next ≠ ampersand := fun isAmp => quiet ⟨rfl, isAmp⟩
            have stays : skipExcess ([] ++ 0 :: next :: rest) = [] ++ 0 :: next :: rest :=
              if_neg notAmp
            rw [stays]
            obtain ⟨after, result, length, within, ends⟩ := ih
              (show ([] : List Byte).length < turns by rw [List.length_nil]; omega)
              List.not_mem_nil not_hasBadEscape_nil
              (fun both => Option.some_ne_none _ both.1.symm) fills nextPlace isFilled
              (by rw [List.count_nil] at room ⊢; omega)
            grind
          · have within := skipExcess_suffix others
            have shorter := within.length_le
            have fewer := within.sublist.count_le ampersand
            rw [List.getLast?_append_of_ne_nil _ (List.cons_ne_nil _ _),
              List.getLast?_cons_of_ne_nil atEnd, ← getLast?_skipExcess atEnd] at quiet
            rw [(skipExcess_ended atEnd).1]
            obtain ⟨after, result, length, bound, ends⟩ := ih (by omega)
              (fun member => nulFree.2.2 (within.subset member))
              (mt hasBadEscape_of_skipExcess clean.2) quiet fills nextPlace isFilled (by omega)
            exact ⟨after, result, length, by omega, ends⟩
        · rw [hasBadEscape_single more, BadPair, not_or] at clean
          have wellFormed := mt (fieldAt_pair nulFree more (.inl rfl) (next :: rest)).2.mp clean.2
          have absent : strchr (text ++ 0 :: next :: rest) ampersand = none := by
            rw [strchr_append nulFree more, strchr_nul, Option.map_none]
          obtain _ | ⟨last, back⟩ := back
          · simp [List.length_nil] at room
          · rw [decide_eq_true wellFormed, absent]
            dsimp only
            rw [store_at fills nextPlace]
            refine ⟨_, rfl, idx + 1, by omega, _, _, back, rfl, nextPlace, isFilled, rfl, rfl⟩

end

section

variable {memory : MapMemory}

end

theorem mallocMap_fresh (left : Nat → MapCell) (count : Nat) :
    ∀ cell ∈ (mallocMap left count).cells, cell.written = false := by
  intro cell member
  obtain ⟨idx, _, rfl⟩ := List.mem_map.mp member
  rfl

theorem length_mallocMap (left : Nat → MapCell) (count : Nat) :
    (mallocMap left count).cells.length = count + 2 := by
  rw [mallocMap, List.length_map, List.length_range]

theorem urlmapdecodeArray_refused {left : Nat → MapCell} {list : List Byte} {after : MapMemory}
    (result : urlmapdecodeArray left list = .ok (false, after)) : after.unwritten ≠ [] :=
  @decodeFrom_refused _ _ [] _ _ _ _ rfl rfl (fun _ member => nomatch member)
    (mallocMap_fresh left _) result

theorem not_refuses {text : List Byte} (bad : HasBadEscape text) (left : Nat → MapCell)
    (list : List Byte) : ¬Refuses text (urlmapdecodeArray left list) := by
  intro given
  obtain ⟨isMap, after, result, isNull, inOrder, _⟩ := given
  grind [urlmapdecodeArray_refused]

/-- A bad escape is not refused in order, in any text; without one the text gives a map that ends,
unless the scan goes on behind the terminator. `next` is the byte there. -/
theorem urlmapdecode_refuses_iff {text : List Byte} (nulFree : 0 ∉ text) (next : Byte) :
    (∀ left rest, Refuses text (urlmapdecodeArray left (text ++ 0 :: next :: rest))) ↔
      ¬HasBadEscape text ∧ ¬(text.getLast? = some ampersand ∧ next = ampersand) := by
  constructor
  · intro refuses
    have clean : ¬HasBadEscape text := fun bad =>
      not_refuses bad _ _ (refuses (fun _ => ⟨none, none, 0, false⟩) [])
    refine ⟨clean, ?_⟩
    intro given
    obtain ⟨endsAmp, isAmp⟩ := given
    -- a bad escape behind the terminator
    obtain ⟨isMap, after, result, isNull, _⟩ :=
      refuses (fun _ => ⟨none, none, 0, false⟩) [equals, percent]
    obtain ⟨wellFormed, peeks⟩ : (∀ field ∈ (mapScan text).1, ¬field.Malformed) ∧
        ((mapScan text).2 = true ↔ text.getLast? = some ampersand) :=
      scanFields_clean (Nat.lt_succ_self _) nulFree clean
    obtain ⟨turns, enough, decoded⟩ := urlmapdecode_scan [] text [next, equals, percent]
    have noMap : (urlmapdecode [] (text ++ 0 :: next :: [equals, percent])).map = none := by
      rw [decoded, assemble_map _ _ wellFormed, peeks.mpr endsAmp, isAmp,
        beyond_malformed (by omega), Option.map_none]
    obtain ⟨_, taken⟩ := @decodeFrom_reads _ _ [] _ _ _ [] _ _ rfl rfl result
    cases isMap with
    | false => exact clean (isNull.mp rfl)
    | true =>
        obtain ⟨_, entries, _, _, _, isMap⟩ := taken rfl
        exact absurd (noMap.symm.trans isMap) (Option.some_ne_none _).symm
  · intro ⟨clean, quiet⟩ left rest
    have room : text.count ampersand + 2 ≤
        (mallocMap left ((cstr (text ++ 0 :: next :: rest)).count ampersand + 1)).cells.length := by
      rw [length_mallocMap, cstr_terminated nulFree]
      omega
    obtain ⟨after, result, length, within, ends⟩ := @decodeFrom_clean _ [] _ 0 text
      ((text ++ 0 :: next :: rest).length + 1) next rest
      (by rw [List.length_append]; omega) nulFree clean quiet rfl rfl
      (fun _ member => nomatch member) room
    refine ⟨true, after, result, iff_of_false (fun isFalse => (nomatch isFalse)) clean,
      fun isFalse => (nomatch isFalse), fun _ => ⟨length, ?_, ends⟩⟩
    rw [Nat.zero_add] at within
    exact within

/-- The condition for the text of one pair. -/
theorem urlmapdecode_refuses_pair :
    (∀ left rest, Refuses (ascii "a=b".toList)
      (urlmapdecodeArray left (ascii "a=b".toList ++ 0 :: 0 :: rest))) ↔
        ¬HasBadEscape (ascii "a=b".toList) ∧
          ¬((ascii "a=b".toList).getLast? = some ampersand ∧ (0 : Byte) = ampersand) :=
  urlmapdecode_refuses_iff (by decide) 0

/-- A map is returned for a bad escape in a key; for one in a value the second entry is read as
`malloc` left it. -/
theorem urlmapdecode_bad_escapes :
    ((urlmapdecodeArray (fun _ => ⟨none, none, 0, false⟩) (ascii "%zz".toList ++ [0, 0])).map
        fun returned => (returned.1, returned.2.unwritten)) = .ok (true, []) ∧
      ¬Refuses (ascii "%zz".toList) (urlmapdecodeArray (fun _ => ⟨none, none, 0, false⟩)
        (ascii "%zz".toList ++ [0, 0])) ∧
      ((urlmapdecodeArray (fun _ => ⟨none, none, 0, false⟩) (ascii "a=%zz".toList ++ [0, 0])).map
        fun returned => (returned.1, returned.2.unwritten)) = .ok (false, [1]) ∧
      ¬Refuses (ascii "a=%zz".toList) (urlmapdecodeArray (fun _ => ⟨none, none, 0, false⟩)
        (ascii "a=%zz".toList ++ [0, 0])) := by
  have noDigits : ¬∃ high low rest, ascii "zz".toList = high :: low :: rest ∧
      isxdigit high = true ∧ isxdigit low = true := by
    intro given
    obtain ⟨high, low, rest, same, isHigh, _⟩ := given
    cases same
    exact absurd isHigh (by decide)
  have badKey : HasBadEscape (ascii "%zz".toList) :=
    ⟨ascii "%zz".toList, by decide, .inl ⟨[], ascii "zz".toList, by decide, noDigits⟩⟩
  have badValue : HasBadEscape (ascii "a=%zz".toList) :=
    ⟨ascii "a=%zz".toList, by decide, .inr ⟨[], ascii "zz".toList, by decide, noDigits⟩⟩
  exact ⟨rfl, not_refuses badKey _ _, rfl, not_refuses badValue _ _⟩

end MidWay.Url

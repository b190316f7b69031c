import MidWay.Url.Map

/-!
Contract: what `urlmapdecode` reads back from the text of `urlmapencode`.

`pairText` is the text of one pair and `tailText` that of the pairs behind it,
each with its separator. `urlmapdecodeFrom_pair` says what one turn of the
scanner does at the start of a pair; `urlmapdecodeFrom_text` follows the scanner
over a whole map. The only pairs that do not come back are those the skip of
excess ampersands steps over: a pair without a value whose key is one
alphanumeric character, with a pair in front of it and a pair behind it.
-/

namespace MidWay.Url

open MidWay.CLib

variable {entry : UrlmapEntry} {stop : Byte} {rest : Urlmap}

def encodeBytes (bytes : List Byte) : List Byte := bytes.flatMap encodeByte

def valueText : Option (List Byte) → List Byte
  | none => []
  | some value => equals :: encodeBytes value

def pairText (entry : UrlmapEntry) : List Byte :=
  encodeBytes entry.key ++ valueText entry.value

def tailText (rest : Urlmap) : List Byte :=
  rest.flatMap fun entry => ampersand :: pairText entry

/-- A key the text can carry: not empty, and without a NUL. -/
def KeyOk (key : List Byte) : Prop := key ≠ [] ∧ 0 ∉ key

theorem urlnencode_block (value : List Byte) :
    urlnencode (value ++ [0]) value.length = encodeBytes value := by
  simp_all [strlen, urlnencode, encodeBytes]

theorem urlencode_key {key : List Byte} (nulFree : 0 ∉ key) :
    urlencode (key ++ [0]) = encodeBytes key := by
  simp [urlencode, urlnencode, encodeBytes, strlen, cstr_terminated nulFree]

theorem encodeByte_ne_nil (c : Byte) : encodeByte c ≠ [] := by
  grind [encodeByte]

theorem encodeBytes_ne_nil {bytes : List Byte} (nonempty : bytes ≠ []) :
    encodeBytes bytes ≠ [] := by
  obtain ⟨head, tail, rfl⟩ := List.exists_cons_of_ne_nil nonempty
  simp [encodeBytes, encodeByte_ne_nil]

theorem pairText_ne_nil (keyOk : KeyOk entry.key) :
    pairText entry ≠ [] := by
  simp [pairText, encodeBytes_ne_nil keyOk.1]

theorem urlmapencodeFrom_cons (list : List Byte) (rest : Urlmap) (keyOk : KeyOk entry.key) :
    urlmapencodeFrom list (entry :: rest) =
      urlmapencodeFrom (separate list ++ pairText entry) rest := by
  obtain ⟨key, value⟩ := entry
  cases value with
  | none => simp [urlmapencodeFrom, urlencode_key keyOk.2, pairText, valueText]
  | some value =>
      simp [urlmapencodeFrom, urlencode_key keyOk.2, urlnencode_block, pairText, valueText]

theorem separate_of_ne_nil {list : List Byte} (started : list ≠ []) :
    separate list = list ++ [ampersand] := by
  simp [separate, started]

theorem urlmapencodeFrom_text {list : List Byte} (started : list ≠ []) (rest : Urlmap)
    (keysOk : ∀ entry ∈ rest, KeyOk entry.key) :
    urlmapencodeFrom list rest = list ++ tailText rest := by
  induction rest generalizing list with
  | nil => simp [urlmapencodeFrom, tailText]
  | cons entry rest ih =>
      simp_all [urlmapencodeFrom_cons, separate_of_ne_nil, tailText]

theorem urlmapencode_text {first : UrlmapEntry}
    (keysOk : ∀ entry ∈ first :: rest, KeyOk entry.key) :
    urlmapencode (first :: rest) = pairText first ++ tailText rest := by
  have firstOk := keysOk first (by simp)
  rw [urlmapencode, urlmapencodeFrom_cons [] rest firstOk]
  exact urlmapencodeFrom_text (pairText_ne_nil firstOk) rest
    (fun entry member => keysOk entry (by simp [member]))

theorem encodeBytes_free (bytes : List Byte) :
    0 ∉ encodeBytes bytes ∧ ampersand ∉ encodeBytes bytes ∧ equals ∉ encodeBytes bytes :=
  ⟨nul_not_mem (encodeBytes_encoded bytes), ampersand_not_mem (encodeBytes_encoded bytes),
    equals_not_mem (encodeBytes_encoded bytes)⟩

theorem pairText_free (entry : UrlmapEntry) :
    0 ∉ pairText entry ∧ ampersand ∉ pairText entry := by
  obtain ⟨key, value⟩ := entry
  have keyFree := encodeBytes_free key
  cases value with
  | none => simp [pairText, valueText, keyFree]
  | some value =>
      have valueFree := encodeBytes_free value
      have distinct : (0 : Byte) ≠ equals ∧ ampersand ≠ equals := by decide
      simp [pairText, valueText, keyFree, valueFree, distinct]

def EndsPair (stop : Byte) : Prop := stop = 0 ∨ stop = ampersand

theorem strchr_ampersand_pair (entry : UrlmapEntry) (ends : EndsPair stop) (behind : List Byte) :
    strchr (pairText entry ++ stop :: behind) ampersand =
      if stop = ampersand then some (pairText entry).length else none := by
  obtain ⟨nulFree, ampFree⟩ := pairText_free entry
  rw [strchr_append nulFree ampFree]
  rcases ends with rfl | rfl
  · simp [strchr_nul, show ¬ (0 : Byte) = ampersand by decide]
  · simp [strchr_self (show ampersand ≠ 0 by decide)]

theorem urldecode_key (entry : UrlmapEntry) (ends : EndsPair stop) (behind : List Byte) :
    urldecode (pairText entry ++ stop :: behind) = ⟨entry.key, true⟩ := by
  obtain ⟨key, value⟩ := entry
  cases value with
  | none =>
      have separator : stop = 0 ∨ stop = ampersand ∨ stop = equals := by
        rcases ends with isNul | isAmp
        · exact Or.inl isNul
        · exact Or.inr (Or.inl isAmp)
      simpa [pairText, valueText, encodeBytes] using
        urldecode_encodeBytes key behind separator
  | some value =>
      simp [Or.inr, pairText, valueText, encodeBytes, urldecode_encodeBytes]

theorem keyEnd_pair (entry : UrlmapEntry) (ends : EndsPair stop) (behind : List Byte) :
    keyEnd (pairText entry ++ stop :: behind) =
      entry.value.map fun _ => (encodeBytes entry.key).length := by
  obtain ⟨key, value⟩ := entry
  obtain ⟨keyNul, keyAmp, keyEq⟩ := encodeBytes_free key
  cases value with
  | none =>
      have text : pairText ⟨key, none⟩ = encodeBytes key := by simp [pairText, valueText]
      rw [text]
      exact keyEnd_none keyNul keyAmp keyEq ends behind
  | some value =>
      simp_all [pairText, valueText, keyEnd_equals]

theorem urldecode_value (key value : List Byte) (ends : EndsPair stop) (behind : List Byte) :
    urldecode ((pairText ⟨key, some value⟩ ++ stop :: behind).drop
      ((encodeBytes key).length + 1)) = ⟨value, true⟩ := by
  have rest : (pairText ⟨key, some value⟩ ++ stop :: behind).drop
      ((encodeBytes key).length + 1) = encodeBytes value ++ stop :: behind := by
    have shape : pairText ⟨key, some value⟩ ++ stop :: behind =
        (encodeBytes key ++ [equals]) ++ (encodeBytes value ++ stop :: behind) := by
      simp [pairText, valueText]
    rw [shape, List.drop_left' (by simp)]
  have separator : stop = 0 ∨ stop = ampersand ∨ stop = equals := by
    rcases ends with isNul | isAmp
    · exact Or.inl isNul
    · exact Or.inr (Or.inl isAmp)
  rw [rest]
  exact urldecode_encodeBytes value behind separator

/-- One turn at the start of a pair reads that pair, and goes on behind the
ampersand, if there is one. -/
theorem urlmapdecodeFrom_pair (uninit : List Byte) (turns : Nat) (nulFree : 0 ∉ entry.key)
    (ends : EndsPair stop) (behind : List Byte) :
    urlmapdecodeFrom uninit (turns + 1) (pairText entry ++ stop :: behind) =
      MapDecoded.push entry true
        (if stop = ampersand then urlmapdecodeFrom uninit turns (skipExcess behind)
          else ⟨some [], none⟩) := by
  have behindAmp : (pairText entry ++ stop :: behind).drop ((pairText entry).length + 1) =
      behind := by
    rw [show pairText entry ++ stop :: behind = (pairText entry ++ [stop]) ++ behind by simp,
      List.drop_left' (by simp)]
  have keyRead : keyString uninit ⟨entry.key, true⟩ = entry.key := by
    simp [keyString, cstr_eq_self nulFree]
  have ampAt := strchr_ampersand_pair entry ends behind
  rw [urlmapdecodeFrom]
  simp only [urldecode_key entry ends behind, keyEnd_pair entry ends behind, keyRead, ampAt]
  obtain ⟨key, value⟩ := entry
  cases value with
  | none =>
      grind
  | some value =>
      simp only [Option.map_some, urldecode_value key value ends behind]
      by_cases isAmp : stop = ampersand
      · simp only [if_pos isAmp, behindAmp]
      · simp only [if_neg isAmp]

/-- What the scanner reads where it stands on an ampersand. -/
def blank : UrlmapEntry := ⟨[], none⟩

/-- The text of such a pair is one character, so the test for a repeated
ampersand looks across it. -/
def Swallowed (entry : UrlmapEntry) : Prop :=
  entry.value = none ∧ entry.key.length = 1 ∧ entry.key.all isalnum = true

instance (entry : UrlmapEntry) : Decidable (Swallowed entry) :=
  inferInstanceAs (Decidable (_ ∧ _ ∧ _))

theorem pairText_of_swallowed (swallowed : Swallowed entry) :
    pairText entry = entry.key := by
  obtain ⟨absent, single, alnum⟩ := swallowed
  obtain ⟨c, key⟩ := List.length_eq_one_iff.mp single
  simp_all [pairText, absent, valueText, key, encodeBytes, encodeByte]

theorem length_encodeByte (c : Byte) :
    (encodeByte c).length = if isalnum c = true then 1 else 3 := by
  grind [encodeByte]

/-- Every other pair has at least two characters. -/
theorem two_le_length_pairText (keyOk : KeyOk entry.key) (notSwallowed : ¬ Swallowed entry) :
    2 ≤ (pairText entry).length := by
  obtain ⟨key, value⟩ := entry
  obtain ⟨first, others, shape⟩ := List.exists_cons_of_ne_nil keyOk.1
  have keyShape : key = first :: others := shape
  subst keyShape
  have firstLength := length_encodeByte first
  cases value with
  | some value =>
      simp only [pairText, valueText, encodeBytes, List.flatMap_cons, List.length_append,
        List.length_cons]
      split_ifs at firstLength <;> omega
  | none =>
      simp only [pairText, valueText, encodeBytes, List.flatMap_cons, List.length_append,
        List.length_nil]
      cases others with
      | nil =>
          have notAlnum : ¬ isalnum first = true := fun alnum =>
            notSwallowed ⟨rfl, rfl, by simpa using alnum⟩
          rw [if_neg notAlnum] at firstLength
          omega
      | cons second others =>
          grind [List.length_append, length_encodeByte]

theorem skipExcess_stay {current next : Byte} (notAmp : next ≠ ampersand) (rest : List Byte) :
    skipExcess (current :: next :: rest) = current :: next :: rest := by
  simp [skipExcess, notAmp]

theorem skipExcess_long {text : List Byte} (ampFree : ampersand ∉ text)
    (long : 2 ≤ text.length) (behind : List Byte) :
    skipExcess (text ++ behind) = text ++ behind := by
  match text, long with
  | current :: next :: rest, _ =>
      grind [skipExcess_stay]

theorem skipExcess_last (keyOk : KeyOk entry.key) (behind : List Byte) :
    skipExcess (pairText entry ++ 0 :: behind) = pairText entry ++ 0 :: behind := by
  have ampFree := (pairText_free entry).2
  by_cases swallowed : Swallowed entry
  · obtain ⟨c, key⟩ := List.length_eq_one_iff.mp swallowed.2.1
    rw [pairText_of_swallowed swallowed, key, List.singleton_append]
    exact skipExcess_stay (by decide) behind
  · exact skipExcess_long ampFree (two_le_length_pairText keyOk swallowed) _

/-- At the start of a pair with another behind it, a pair of one character is
skipped and the scanner stops on the ampersand in front of the next one. -/
theorem skipExcess_inner {next : UrlmapEntry} (keyOk : KeyOk entry.key) (nextOk : KeyOk next.key)
    (behind : List Byte) :
    skipExcess (pairText entry ++ ampersand :: (pairText next ++ behind)) =
      pairText (if Swallowed entry then blank else entry) ++
        ampersand :: (pairText next ++ behind) := by
  by_cases swallowed : Swallowed entry
  · obtain ⟨c, key⟩ := List.length_eq_one_iff.mp swallowed.2.1
    obtain ⟨first, others, nextText⟩ := List.exists_cons_of_ne_nil (pairText_ne_nil nextOk)
    have notAmp : first ≠ ampersand := fun same =>
      (pairText_free next).2 (by simp [nextText, same])
    rw [pairText_of_swallowed swallowed, if_pos swallowed, key, nextText]
    have stepOn : skipExcess (c :: ampersand :: first :: (others ++ behind)) =
        skipExcess (ampersand :: first :: (others ++ behind)) := by
      simp [skipExcess]
    simp only [List.cons_append, List.nil_append]
    rw [stepOn, skipExcess_stay notAmp]
    simp [pairText, blank, valueText, encodeBytes]
  · rw [if_neg swallowed]
    exact skipExcess_long (pairText_free entry).2 (two_le_length_pairText keyOk swallowed) _

/-- What is read of the pairs behind the first one. -/
def readBack : Urlmap → Urlmap
  | [] => []
  | [last] => [last]
  | entry :: next :: rest => (if Swallowed entry then blank else entry) :: readBack (next :: rest)

theorem readBack_eq_self (keysOk : ∀ entry ∈ rest, KeyOk entry.key) :
    readBack rest = rest ↔ ∀ entry ∈ rest.dropLast, ¬ Swallowed entry := by
  induction rest with
  | nil => simp [readBack]
  | cons entry rest ih =>
      cases rest with
      | nil => simp [readBack]
      | cons next rest =>
          have keyOk := keysOk entry (by simp)
          have tail := ih fun other member => keysOk other (by simp [member])
          have notBlank : blank ≠ entry := fun same => keyOk.1 (by rw [← same]; rfl)
          simp [readBack, notBlank, tail]

private theorem blank_or_nulFree {entry : UrlmapEntry} (keyOk : KeyOk entry.key) :
    0 ∉ (if Swallowed entry then blank else entry).key := by
  split_ifs
  · simp [blank]
  · exact keyOk.2

/-- The scanner over the pairs behind the first one. The induction is on the
pairs; each turn is one pair, entered through the skip. -/
theorem urlmapdecodeFrom_skipExcess (uninit behind : List Byte)
    (keysOk : ∀ other ∈ entry :: rest, KeyOk other.key) {turns : Nat}
    (enough : rest.length < turns) :
    urlmapdecodeFrom uninit turns
        (skipExcess (pairText entry ++ tailText rest ++ 0 :: behind)) =
      ⟨some (readBack (entry :: rest)), none⟩ := by
  induction rest generalizing entry turns with
  | nil =>
      have keyOk := keysOk entry (by simp)
      obtain ⟨turns, rfl⟩ : ∃ fewer, turns = fewer + 1 := ⟨turns - 1, by omega⟩
      rw [tailText, List.flatMap_nil, List.append_nil, skipExcess_last keyOk,
        urlmapdecodeFrom_pair uninit turns keyOk.2 (Or.inl rfl)]
      simp [MapDecoded.push, readBack, show ¬ (0 : Byte) = ampersand by decide]
  | cons next rest ih =>
      have keyOk := keysOk entry (by simp)
      have nextOk := keysOk next (by simp)
      rw [List.length_cons] at enough
      obtain ⟨turns, rfl⟩ : ∃ fewer, turns = fewer + 1 := ⟨turns - 1, by omega⟩
      have shape : pairText entry ++ tailText (next :: rest) ++ 0 :: behind =
          pairText entry ++ ampersand :: (pairText next ++ (tailText rest ++ 0 :: behind)) := by
        simp [tailText]
      have laterOk : ∀ other ∈ next :: rest, KeyOk other.key := by
        simp_all
      have later := ih laterOk (show rest.length < turns by omega)
      rw [shape, skipExcess_inner keyOk nextOk,
        urlmapdecodeFrom_pair uninit turns (blank_or_nulFree keyOk) (Or.inr rfl), if_pos rfl,
        ← List.append_assoc (pairText next), later]
      simp [MapDecoded.push, readBack]

/-- The scanner over the text of a whole map. -/
theorem urlmapdecode_text (uninit behind : List Byte) {first : UrlmapEntry}
    (keysOk : ∀ entry ∈ first :: rest, KeyOk entry.key) :
    urlmapdecode uninit (pairText first ++ tailText rest ++ 0 :: behind) =
      ⟨some (first :: readBack rest), none⟩ := by
  have firstOk := keysOk first (by simp)
  have restOk : ∀ entry ∈ rest, KeyOk entry.key := fun entry member =>
    keysOk entry (by simp [member])
  rw [urlmapdecode]
  cases rest with
  | nil =>
      rw [tailText, List.flatMap_nil, List.append_nil,
        urlmapdecodeFrom_pair uninit _ firstOk.2 (Or.inl rfl)]
      simp [MapDecoded.push, readBack, show ¬ (0 : Byte) = ampersand by decide]
  | cons next rest =>
      have shape : pairText first ++ tailText (next :: rest) ++ 0 :: behind =
          pairText first ++ ampersand :: (pairText next ++ tailText rest ++ 0 :: behind) := by
        simp [tailText]
      have tailLength : rest.length ≤ (tailText rest).length := by
        clear restOk keysOk shape
        induction rest with
        | nil => simp
        | cons head tail ih =>
            grind [tailText, List.length_append, List.length_cons]
      have enough : rest.length <
          (pairText first ++ ampersand :: (pairText next ++ tailText rest ++ 0 :: behind)).length
            := by
        simp only [List.length_append, List.length_cons]
        omega
      rw [shape, urlmapdecodeFrom_pair uninit _ firstOk.2 (Or.inr rfl), if_pos rfl,
        urlmapdecodeFrom_skipExcess uninit behind restOk enough]
      simp [MapDecoded.push]

end MidWay.Url

import MidWay.CLib.Errno
import MidWay.Url.Encoded

/-!
Contract: `urlmap.c`, the array of key and value pairs.

A `urlmap` array ends at its NULL key, so it is the list of the entries before
that. A key is a C string; a value is absent or a block of `valuelen` bytes of
any content. The block of an empty value holds its terminator.

Owns: the pair encoders `urlmapencode` and `urlmapnencode`, the pair scanner
`urlmapdecode`, and the lookups and updates of a map. The size of the blocks the
encoders write to is not modelled here; only the text they produce is.
-/

namespace MidWay.Url

open MidWay.CLib

structure UrlmapEntry where
  key : List Byte
  value : Option (List Byte)
deriving DecidableEq, Repr

abbrev Urlmap := List UrlmapEntry

/-- The separator goes in front of every pair but one that starts the text. -/
def separate (list : List Byte) : List Byte :=
  if list.length ≠ 0 then list ++ [ampersand] else list

def urlmapencodeFrom : List Byte → Urlmap → List Byte
  | list, [] => list
  | list, entry :: rest =>
      let list := separate list ++ urlencode (entry.key ++ [0])
      match entry.value with
      | none => urlmapencodeFrom list rest
      | some value =>
          urlmapencodeFrom
            (list ++ [equals] ++ urlnencode (value ++ [0]) value.length) rest

def urlmapencode (map : Urlmap) : List Byte := urlmapencodeFrom [] map

/-- The bounded encoder. It tests for three bytes per key byte, but for only
one byte per value byte. -/
def urlmapnencodeFrom (len : Int) : List Byte → Urlmap → Except Errno (List Byte)
  | list, [] => .ok list
  | list, entry :: rest =>
      let list := separate list
      let keylen := 3 * entry.key.length
      if keylen + list.length + 2 > len then .error .EOVERFLOW
      else
        let list := list ++ urlencode (entry.key ++ [0])
        match entry.value with
        | none => urlmapnencodeFrom len list rest
        | some value =>
            let list := list ++ [equals]
            if value.length + list.length + 1 > len then .error .EOVERFLOW
            else
              urlmapnencodeFrom len
                (list ++ urlnencode (value ++ [0]) value.length) rest

def urlmapnencode (len : Int) (map : Urlmap) : Except Errno (List Byte) :=
  if len < 1 then .error .EINVAL else urlmapnencodeFrom len [] map

/-- The result of `urlmapdecode` and the `errno` it leaves: NULL when a value
has a malformed escape; when a key has one, only `errno` tells. -/
structure MapDecoded where
  map : Option Urlmap
  errno : Option Errno
deriving DecidableEq, Repr

/-- `while(value_end[1] == '&') value_end++`: the test looks one byte further
than the byte `value_end` points at. -/
def skipExcess : List Byte → List Byte
  | current :: next :: rest =>
      if next = ampersand then skipExcess (next :: rest) else current :: next :: rest
  | short => short

/-- The equal sign belongs to this pair unless an ampersand comes before it. -/
def keyEnd (next : List Byte) : Option Nat :=
  match strchr next equals, strchr next ampersand with
  | some equal, some amp => if equal > amp then none else some equal
  | found, _ => found

section KeyEnd

variable {text : List Byte} (nulFree : 0 ∉ text) (ampFree : ampersand ∉ text)
  (equalsFree : equals ∉ text)
include nulFree ampFree equalsFree

theorem keyEnd_equals (behind : List Byte) :
    keyEnd (text ++ equals :: behind) = some text.length := by
  unfold keyEnd
  rw [strchr_append nulFree equalsFree, strchr_append nulFree ampFree,
    strchr_self (by decide), Option.map_some, Nat.zero_add]
  cases strchr (equals :: behind) ampersand with
  | none => rfl
  | some amp => exact if_neg (Nat.not_lt.mpr (Nat.le_add_left _ _))

theorem keyEnd_none {stop : Byte} (ends : stop = 0 ∨ stop = ampersand) (behind : List Byte) :
    keyEnd (text ++ stop :: behind) = none := by
  unfold keyEnd
  rw [strchr_append nulFree equalsFree, strchr_append nulFree ampFree]
  obtain rfl | rfl := ends
  · rfl
  · have later : strchr (ampersand :: behind) equals = (strchr behind equals).map (· + 1) :=
      strchr_append (by decide : (0 : Byte) ∉ [ampersand]) (by decide) behind
    rw [later, strchr_self (by decide), Option.map_some]
    cases strchr behind equals with
    | none => rfl
    | some equal =>
        simp

end KeyEnd

/-- The string a key buffer holds. A malformed escape leaves the buffer
unterminated, so it reads on into `uninit`, what `malloc` left there. -/
def keyString (uninit : List Byte) (key : Decoded) : List Byte :=
  if key.complete then cstr key.plain else cstr (key.plain ++ uninit)

/-- Put one pair in front of the pairs that follow it. -/
def MapDecoded.push (entry : UrlmapEntry) (keyComplete : Bool) (rest : MapDecoded) :
    MapDecoded :=
  ⟨rest.map.map (entry :: ·), if keyComplete then rest.errno else some .EINVAL⟩

/-- The loop over the pairs. Every turn consumes at least one byte, so `turns`
is never used up when it exceeds the number of bytes. -/
def urlmapdecodeFrom (uninit : List Byte) : Nat → List Byte → MapDecoded
  | 0, _ => ⟨some [], none⟩
  | turns + 1, next =>
      let key := urldecode next
      let value := (keyEnd next).map fun equal => urldecode (next.drop (equal + 1))
      match value with
      | some ⟨_, false⟩ => ⟨none, some .EINVAL⟩
      | _ =>
          let entry : UrlmapEntry := ⟨keyString uninit key, value.map Decoded.plain⟩
          match strchr next ampersand with
          | none => MapDecoded.push entry key.complete ⟨some [], none⟩
          | some amp =>
              (urlmapdecodeFrom uninit turns (skipExcess (next.drop (amp + 1)))).push
                entry key.complete

def urlmapdecode (uninit list : List Byte) : MapDecoded :=
  urlmapdecodeFrom uninit (list.length + 1) list

/-- Index of the first pair with this key, in either case. -/
def urlmapget (map : Urlmap) (key : List Byte) : Option Nat :=
  map.findIdx? fun entry => strcaseeq key entry.key

def urlmapgetvalue (map : Urlmap) (key : List Byte) : Option (List Byte) :=
  match urlmapget map key with
  | none => none
  | some index => (map[index]?).bind UrlmapEntry.value

/-- Replace the value of the first pair with this key. -/
def urlmapnset : Urlmap → List Byte → Option (List Byte) → Option Urlmap
  | [], _, _ => none
  | entry :: rest, key, value =>
      if strcaseeq key entry.key then some ({ entry with value := value } :: rest)
      else (urlmapnset rest key value).map (entry :: ·)

/-- Append a pair; refused when the very same key is present. -/
def urlmapnadd (map : Urlmap) (key : List Byte) (value : Option (List Byte)) :
    Option Urlmap :=
  if map.any fun entry => key == entry.key then none else some (map ++ [⟨key, value⟩])

/-- Index of the last pair with this key, in either case. -/
def lastIndex (map : Urlmap) (key : List Byte) : Option Nat :=
  (map.reverse.findIdx? fun entry => strcaseeq key entry.key).map (map.length - 1 - ·)

theorem lastIndex_some {map : Urlmap} {key : List Byte} {index : Nat}
    (isLast : lastIndex map key = some index) :
    ∃ entry, map[index]? = some entry ∧ strcaseeq key entry.key = true := by
  rcases Option.map_eq_some_iff.mp isLast with ⟨back, found, isIndex⟩
  rcases List.findIdx?_eq_some_iff_getElem.mp found with ⟨below, isKey, -⟩
  grind

/-- Remove the last pair with this key; the last pair of the map takes its
place. -/
def urlmapdel (map : Urlmap) (key : List Byte) : Urlmap :=
  match lastIndex map key, map.getLast? with
  | some index, some last => (map.set index last).dropLast
  | _, _ => map

end MidWay.Url

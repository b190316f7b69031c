import Mathlib.Data.List.Sigma
import MidWay.Srb.ServiceCall

/-!
Contract: the fields of a message as a map whose keys differ in more than their
case, under any sequence of edits.

Getting, setting and deleting compare keys in either case, adding compares them
byte for byte, and a set is an add that falls back on setting. A key that is there
in another spelling is therefore added once more.

Owns: the setters with their null values, `Edit` and what it does to a message and
to the map, and the condition under which the two agree.
-/

namespace MidWay.Srb

open MidWay.CLib MidWay.Url

/-- `_mw_srb_nsetfield`, also for a null pointer as the value. -/
def mwSrbNsetvalue (srbmsg : SRBmessage) (key : List Byte) (value : Option (List Byte)) :
    SRBmessage :=
  match urlmapnadd srbmsg.map key value with
  | some map => { srbmsg with map := map }
  | none => { srbmsg with map := (urlmapnset srbmsg.map key value).getD srbmsg.map }

def mwSrbSetfieldx (srbmsg : SRBmessage) (key : List Byte) (value : UInt32) : SRBmessage :=
  mwSrbNsetfield srbmsg key (sprintfLowerX value)

/-- The field with this key: none, or a field and its value. The value of a field is
absent or a block with its length. -/
def fieldOf (srbmsg : SRBmessage) (key : List Byte) : Option (Option (List Byte)) :=
  (urlmapget srbmsg.map key).bind fun index => (srbmsg.map[index]?).map UrlmapEntry.value

def mwSrbGetfield (srbmsg : SRBmessage) (key : List Byte) : Option (List Byte) :=
  urlmapgetvalue srbmsg.map key

/-- A call of one of the setters. A string value ends at its first NUL; a value of
`none` is a null pointer. -/
inductive Edit
  | setfield (key : List Byte) (value : Option (List Byte))
  | nsetfield (key : List Byte) (value : Option (List Byte))
  | setfieldi (key : List Byte) (value : Int)
  | setfieldx (key : List Byte) (value : UInt32)
  | delfield (key : List Byte)
deriving DecidableEq, Repr

def Edit.key : Edit → List Byte
  | setfield key _ | nsetfield key _ | setfieldi key _ | setfieldx key _ | delfield key => key

/-- The value the field is to have; `none` when the field is to go. -/
def Edit.sets : Edit → Option (Option (List Byte))
  | setfield _ value => some (value.map cstr)
  | nsetfield _ value => some value
  | setfieldi _ value => some (some (sprintfD value))
  | setfieldx _ value => some (some (sprintfLowerX value))
  | delfield _ => none

def Edit.apply (srbmsg : SRBmessage) : Edit → SRBmessage
  | setfield key (some value) => mwSrbSetfield srbmsg key (cstr value)
  | setfield key none => mwSrbNsetvalue srbmsg key none
  | nsetfield key value => mwSrbNsetvalue srbmsg key value
  | setfieldi key value => mwSrbSetfieldi srbmsg key value
  | setfieldx key value => mwSrbSetfieldx srbmsg key value
  | delfield key => mwSrbDelfield srbmsg key

/-- What an edit does to a map whose keys have no case. -/
def Edit.update (fields : List Byte → Option (Option (List Byte))) (edit : Edit) :
    List Byte → Option (Option (List Byte)) :=
  fun key => if strcaseeq edit.key key then edit.sets else fields key

variable {edit : Edit}

theorem Edit.apply_sets {value : Option (List Byte)} (isSet : edit.sets = some value)
    (srbmsg : SRBmessage) : edit.apply srbmsg = mwSrbNsetvalue srbmsg edit.key value := by
  cases edit with
  | setfield key given =>
      cases isSet
      cases given with
      | none => rfl
      | some text => rfl
  | nsetfield key given =>
      cases isSet
      rfl
  | setfieldi key number =>
      cases isSet
      rfl
  | setfieldx key number =>
      cases isSet
      rfl
  | delfield key => cases isSet

theorem Edit.apply_deletes (isDelete : edit.sets = none) (srbmsg : SRBmessage) :
    edit.apply srbmsg = mwSrbDelfield srbmsg edit.key := by
  cases edit with
  | setfield key given => cases isDelete
  | nsetfield key given => cases isDelete
  | setfieldi key number => cases isDelete
  | setfieldx key number => cases isDelete
  | delfield key => rfl

def DistinctKeys (map : Urlmap) : Prop :=
  map.Pairwise fun entry other => strcaseeq entry.key other.key = false

instance (map : Urlmap) : Decidable (DistinctKeys map) :=
  inferInstanceAs (Decidable (List.Pairwise _ _))

def pairs (map : Urlmap) : List (Sigma fun _ : List Byte => Option (List Byte)) :=
  map.map fun entry => ⟨entry.key.map tolower, entry.value⟩

theorem pairs_cons (entry : UrlmapEntry) (map : Urlmap) :
    pairs (entry :: map) = ⟨entry.key.map tolower, entry.value⟩ :: pairs map := rfl

theorem pairs_append (map more : Urlmap) : pairs (map ++ more) = pairs map ++ pairs more :=
  List.map_append

variable {map : Urlmap}

theorem mem_keys_pairs {key : List Byte} :
    key.map tolower ∈ (pairs map).keys ↔ ∃ entry ∈ map, strcaseeq key entry.key = true := by
  constructor
  · intro present
    rcases List.mem_map.mp present with ⟨pair, inPairs, isKey⟩
    rcases List.mem_map.mp inPairs with ⟨entry, member, isPair⟩
    refine ⟨entry, member, beq_iff_eq.mpr ?_⟩
    rw [← isKey, ← isPair]
  · rintro ⟨entry, member, isKey⟩
    rw [beq_iff_eq.mp isKey]
    exact List.mem_map_of_mem (List.mem_map_of_mem member)

theorem distinctKeys_iff (map : Urlmap) : DistinctKeys map ↔ (pairs map).NodupKeys := by
  rw [List.nodupKeys_iff_pairwise, pairs, List.pairwise_map, DistinctKeys]
  constructor
  · intro distinct
    exact distinct.imp fun apart => beq_eq_false_iff_ne.mp apart
  · intro distinct
    exact distinct.imp fun apart => beq_eq_false_iff_ne.mpr apart

theorem fieldOf_eq_dlookup (srbmsg : SRBmessage) (key : List Byte) :
    fieldOf srbmsg key = (pairs srbmsg.map).dlookup (key.map tolower) := by
  rw [fieldOf, urlmapget]
  induction srbmsg.map with
  | nil => rfl
  | cons entry rest ih =>
      rw [List.findIdx?_cons, pairs_cons]
      by_cases here : strcaseeq key entry.key = true
      · have same : key.map tolower = entry.key.map tolower := beq_iff_eq.mp here
        rw [if_pos here, same, List.dlookup_cons_eq]
        rfl
      · have apart : key.map tolower ≠ entry.key.map tolower := fun same => here (beq_iff_eq.mpr same)
        rw [if_neg here, List.dlookup_cons_ne _ _ apart, Option.bind_map]
        exact ih

theorem set_dropLast_perm {α : Type} (front : List α) (removed : α) {back : List α} {last : α}
    (isLast : (front ++ removed :: back).getLast? = some last) :
    ((front ++ removed :: back).set front.length last).dropLast.Perm (front ++ back) := by
  rw [List.set_append_right _ _ (Nat.le_refl _), Nat.sub_self, List.set_cons_zero]
  rcases List.eq_nil_or_concat back with isNil | ⟨middle, final, isBack⟩
  · rw [isNil, List.dropLast_concat, List.append_nil]
  · have same : final = last := by
      rw [isBack, List.concat_eq_append, ← List.cons_append, ← List.append_assoc,
        List.getLast?_concat] at isLast
      exact Option.some.inj isLast
    rw [isBack, same, List.concat_eq_append, ← List.cons_append, ← List.append_assoc,
      List.dropLast_concat]
    exact List.Perm.append_left front (List.perm_append_singleton last middle).symm

/-- Deleting is erasing, up to the order of the pairs. -/
theorem pairs_urlmapdel (distinct : DistinctKeys map) (key : List Byte) :
    (pairs (urlmapdel map key)).Perm ((pairs map).kerase (key.map tolower)) := by
  rw [urlmapdel]
  cases isLast : lastIndex map key with
  | none =>
      have absent : key.map tolower ∉ (pairs map).keys := by
        intro present
        rcases mem_keys_pairs.mp present with ⟨entry, member, isKey⟩
        have missed := List.findIdx?_eq_none_iff.mp (Option.map_eq_none_iff.mp isLast) entry
          (List.mem_reverse.mpr member)
        rw [isKey] at missed
        cases missed
      rw [List.kerase_of_notMem_keys absent]
  | some index =>
      rcases lastIndex_some isLast with ⟨entry, isEntry, isKey⟩
      rcases List.getElem?_eq_some_iff.mp isEntry with ⟨below, isValue⟩
      have split : map = map.take index ++ entry :: map.drop (index + 1) := by
        rw [← isValue, List.getElem_cons_drop, List.take_append_drop]
      have length : (map.take index).length = index := by
        grind
      cases ending : map.getLast? with
      | none =>
          grind
      | some last =>
          change (pairs (map.set index last).dropLast).Perm _
          generalize map.take index = front at split length
          generalize map.drop (index + 1) = back at split
          subst length
          subst split
          have moved := (set_dropLast_perm front entry ending).map
            fun entry : UrlmapEntry => (⟨entry.key.map tolower, entry.value⟩ :
              Sigma fun _ : List Byte => Option (List Byte))
          have isErased : key.map tolower = entry.key.map tolower := beq_iff_eq.mp isKey
          have before : key.map tolower ∉ (pairs front).keys := by
            intro present
            rcases mem_keys_pairs.mp present with ⟨other, member, isOther⟩
            have apart := (List.pairwise_append.mp distinct).2.2 other member entry
              List.mem_cons_self
            simp_all [strcaseeq, beq_iff_eq, isErased, apart]
          refine moved.trans (List.Perm.of_eq ?_)
          change pairs (front ++ back) = _
          simp_all [pairs_append, pairs_cons, List.kerase_append_right, List.kerase_cons_eq]

theorem urlmapnadd_absent {key : List Byte} (value : Option (List Byte))
    (absent : ∀ entry ∈ map, entry.key ≠ key) :
    urlmapnadd map key value = some (map ++ [⟨key, value⟩]) := by
  rw [urlmapnadd, if_neg]
  grind

theorem urlmapnadd_present {entry : UrlmapEntry} (value : Option (List Byte))
    (member : entry ∈ map) : urlmapnadd map entry.key value = none := by
  rw [urlmapnadd, if_pos]
  exact List.any_eq_true.mpr ⟨entry, member, beq_self_eq_true _⟩

/-- Setting keeps every key, and changes the value of the first pair with this key. -/
theorem urlmapnset_pairs {key : List Byte} (value : Option (List Byte))
    (present : ∃ entry ∈ map, strcaseeq key entry.key = true) :
    ∃ changed, urlmapnset map key value = some changed ∧
      changed.map UrlmapEntry.key = map.map UrlmapEntry.key ∧
      ∀ folded, (pairs changed).dlookup folded =
        if key.map tolower = folded then some value else (pairs map).dlookup folded := by
  induction map with
  | nil =>
      simp_all
  | cons entry rest ih =>
      rw [urlmapnset]
      by_cases here : strcaseeq key entry.key = true
      · have same : key.map tolower = entry.key.map tolower := beq_iff_eq.mp here
        rw [if_pos here]
        refine ⟨_, rfl, rfl, ?_⟩
        intro folded
        rw [pairs_cons, pairs_cons, same]
        grind
      · have later : ∃ entry ∈ rest, strcaseeq key entry.key = true := by
          rcases present with ⟨other, member, isKey⟩
          rcases List.mem_cons.mp member with same | inRest
          · simp_all
          · exact ⟨other, inRest, isKey⟩
        rcases ih later with ⟨changed, isChanged, sameKeys, reads⟩
        rw [if_neg here, isChanged]
        refine ⟨entry :: changed, rfl, ?_, ?_⟩
        · rw [List.map_cons, List.map_cons, sameKeys]
        · intro folded
          rw [pairs_cons, pairs_cons]
          by_cases isKey : entry.key.map tolower = folded
          · have apart : ¬ key.map tolower = folded := by
              intro same
              exact here (beq_iff_eq.mpr (same.trans isKey.symm))
            rw [if_neg apart, ← isKey, List.dlookup_cons_eq, List.dlookup_cons_eq]
          · simp [List.dlookup_cons_ne, reads, Ne.symm, isKey]

theorem distinctKeys_congr {changed : Urlmap}
    (sameKeys : changed.map UrlmapEntry.key = map.map UrlmapEntry.key) :
    DistinctKeys changed ↔ DistinctKeys map := by
  have asKeys : ∀ some : Urlmap, DistinctKeys some ↔
      (some.map UrlmapEntry.key).Pairwise fun key other => strcaseeq key other = false := by
    intro some
    rw [DistinctKeys, List.pairwise_map]
  rw [asKeys, asKeys, sameKeys]

/-- The key of an edit that sets a field is spelled as the key that is there. -/
def Edit.Spelled (srbmsg : SRBmessage) (edit : Edit) : Prop :=
  edit.sets.isSome = true →
    ∀ entry ∈ srbmsg.map, strcaseeq edit.key entry.key = true → entry.key = edit.key

instance (srbmsg : SRBmessage) (edit : Edit) : Decidable (edit.Spelled srbmsg) :=
  inferInstanceAs (Decidable (_ → _))

variable {srbmsg : SRBmessage}

theorem setting_spelled (distinct : DistinctKeys srbmsg.map) {key : List Byte}
    (spelled : ∀ entry ∈ srbmsg.map, strcaseeq key entry.key = true → entry.key = key)
    (value : Option (List Byte)) :
    DistinctKeys (mwSrbNsetvalue srbmsg key value).map ∧
      ∀ name, fieldOf (mwSrbNsetvalue srbmsg key value) name =
        if strcaseeq key name then some value else fieldOf srbmsg name := by
  by_cases present : ∃ entry ∈ srbmsg.map, strcaseeq key entry.key = true
  · rcases urlmapnset_pairs value present with ⟨changed, isChanged, sameKeys, reads⟩
    rcases present with ⟨entry, member, isKey⟩
    have refused : urlmapnadd srbmsg.map key value = none := by
      grind [urlmapnadd_present]
    have result : mwSrbNsetvalue srbmsg key value = { srbmsg with map := changed } := by
      simp [mwSrbNsetvalue, refused, isChanged]
    rw [result]
    refine ⟨(distinctKeys_congr sameKeys).mpr distinct, ?_⟩
    simp [fieldOf_eq_dlookup, reads, strcaseeq, if_pos, if_neg]
  · have absent : ∀ entry ∈ srbmsg.map, strcaseeq key entry.key = false := by
      intro entry member
      rw [Bool.eq_false_iff]
      exact fun isKey => present ⟨entry, member, isKey⟩
    have result : mwSrbNsetvalue srbmsg key value =
        { srbmsg with map := srbmsg.map ++ [⟨key, value⟩] } := by
      rw [mwSrbNsetvalue, urlmapnadd_absent]
      intro entry member same
      have apart := absent entry member
      rw [same, strcaseeq_self] at apart
      cases apart
    rw [result]
    constructor
    · refine List.pairwise_append.mpr ⟨distinct, List.pairwise_singleton _ _, ?_⟩
      simp_all [strcaseeq, Bool.beq_comm, absent]
    · intro name
      rw [fieldOf_eq_dlookup, fieldOf_eq_dlookup, pairs_append, List.dlookup_append]
      by_cases isName : strcaseeq key name = true
      · have missing : (pairs srbmsg.map).dlookup (name.map tolower) = none := by
          rw [List.dlookup_eq_none, ← beq_iff_eq.mp isName]
          exact fun found => present (mem_keys_pairs.mp found)
        rw [if_pos isName, missing, Option.none_or, pairs_cons, beq_iff_eq.mp isName,
          List.dlookup_cons_eq]
      · have apart : name.map tolower ≠ key.map tolower :=
          fun same => isName (beq_iff_eq.mpr same.symm)
        rw [if_neg isName, pairs_cons, List.dlookup_cons_ne _ _ apart]
        exact Option.or_none

/-- A key in a new spelling is there twice afterwards. -/
theorem setting_misspelled (distinct : DistinctKeys srbmsg.map) {key : List Byte}
    {entry : UrlmapEntry} (member : entry ∈ srbmsg.map) (isKey : strcaseeq key entry.key = true)
    (differs : entry.key ≠ key) (value : Option (List Byte)) :
    ¬ DistinctKeys (mwSrbNsetvalue srbmsg key value).map := by
  have unseen : ∀ other ∈ srbmsg.map, other.key ≠ key := by
    intro other isOther same
    have both : other = entry := by
      by_contra apart
      have symmetric : Std.Symm fun left right : UrlmapEntry =>
          strcaseeq left.key right.key = false := by
        refine ⟨fun left right unequal => ?_⟩
        rw [strcaseeq, Bool.beq_comm]
        exact unequal
      have unequal := distinct.forall isOther member apart
      rw [same, isKey] at unequal
      cases unequal
    exact differs (both ▸ same)
  have result : mwSrbNsetvalue srbmsg key value =
      { srbmsg with map := srbmsg.map ++ [⟨key, value⟩] } := by
    rw [mwSrbNsetvalue, urlmapnadd_absent value unseen]
  rw [result]
  intro stillDistinct
  have apart := (List.pairwise_append.mp stillDistinct).2.2 entry member _ List.mem_cons_self
  simp_all [strcaseeq, Bool.beq_comm, absurd]

theorem deleting (distinct : DistinctKeys srbmsg.map) (key : List Byte) :
    DistinctKeys (mwSrbDelfield srbmsg key).map ∧
      ∀ name, fieldOf (mwSrbDelfield srbmsg key) name =
        if strcaseeq key name then none else fieldOf srbmsg name := by
  have erased := pairs_urlmapdel distinct key
  have nodup := (distinctKeys_iff srbmsg.map).mp distinct
  have nodupAfter := (List.perm_nodupKeys erased).mpr (nodup.kerase _)
  refine ⟨(distinctKeys_iff _).mpr nodupAfter, ?_⟩
  intro name
  rw [fieldOf_eq_dlookup, fieldOf_eq_dlookup]
  change (pairs (urlmapdel srbmsg.map key)).dlookup _ = _
  rw [List.perm_dlookup _ nodupAfter erased]
  by_cases isName : strcaseeq key name = true
  · rw [if_pos isName, ← beq_iff_eq.mp isName, List.dlookup_kerase _ nodup]
  · rw [if_neg isName, List.dlookup_kerase_ne (fun same => isName (beq_iff_eq.mpr same.symm))]

/-- The keys stay distinct and every key reads as the map says, after each edit. -/
def ActAsMap (srbmsg : SRBmessage) (edits : List Edit) : Prop :=
  ∀ done later, edits = done ++ later →
    DistinctKeys (done.foldl Edit.apply srbmsg).map ∧
      fieldOf (done.foldl Edit.apply srbmsg) = done.foldl Edit.update (fieldOf srbmsg)

/-- Every set meets its field in the spelling it uses. -/
def SameSpelling : SRBmessage → List Edit → Prop
  | _, [] => True
  | srbmsg, edit :: rest => edit.Spelled srbmsg ∧ SameSpelling (edit.apply srbmsg) rest

theorem edit_spelled (distinct : DistinctKeys srbmsg.map) (spelled : edit.Spelled srbmsg) :
    DistinctKeys (edit.apply srbmsg).map ∧
      fieldOf (edit.apply srbmsg) = edit.update (fieldOf srbmsg) := by
  cases isSet : edit.sets with
  | none =>
      grind [Edit.apply_deletes, deleting, Edit.update]
  | some value =>
      have asKey := spelled (by rw [isSet, Option.isSome_some])
      rw [Edit.apply_sets isSet]
      grind [setting_spelled, Edit.update]

theorem actAsMap_cons (srbmsg : SRBmessage) (edit : Edit) (rest : List Edit) :
    ActAsMap srbmsg (edit :: rest) ↔ DistinctKeys srbmsg.map ∧
      ∀ done later, rest = done ++ later →
        DistinctKeys (done.foldl Edit.apply (edit.apply srbmsg)).map ∧
          fieldOf (done.foldl Edit.apply (edit.apply srbmsg)) =
            done.foldl Edit.update (edit.update (fieldOf srbmsg)) := by
  constructor
  · intro acts
    refine ⟨(acts [] (edit :: rest) rfl).1, ?_⟩
    intro done later isRest
    exact acts (edit :: done) later (by rw [isRest, List.cons_append])
  · rintro ⟨distinct, after⟩ done later isEdits
    cases done with
    | nil => exact ⟨distinct, rfl⟩
    | cons first done =>
        simp_all [List.cons_append]

/-- The fields behave as a map exactly when no field is set in another spelling than the
one it has. -/
theorem actAsMap_iff_sameSpelling {srbmsg : SRBmessage} (distinct : DistinctKeys srbmsg.map)
    (edits : List Edit) : ActAsMap srbmsg edits ↔ SameSpelling srbmsg edits := by
  induction edits generalizing srbmsg with
  | nil =>
      refine ⟨fun _ => trivial, ?_⟩
      intro _ done later isEdits
      rw [(List.append_eq_nil_iff.mp isEdits.symm).1]
      exact ⟨distinct, rfl⟩
  | cons edit rest ih =>
      rw [actAsMap_cons]
      constructor
      · rintro ⟨-, after⟩
        have distinctAfter : DistinctKeys (edit.apply srbmsg).map := (after [] rest rfl).1
        have spelled : edit.Spelled srbmsg := by
          intro isSet entry member isKey
          rcases Option.isSome_iff_exists.mp isSet with ⟨value, isValue⟩
          by_contra differs
          rw [Edit.apply_sets isValue] at distinctAfter
          exact setting_misspelled distinct member isKey differs value distinctAfter
        refine ⟨spelled, (ih distinctAfter).mp ?_⟩
        intro done later isRest
        rw [(edit_spelled distinct spelled).2]
        exact after done later isRest
      · rintro ⟨spelled, later⟩
        rcases edit_spelled distinct spelled with ⟨distinctAfter, reads⟩
        refine ⟨distinct, ?_⟩
        rw [← reads]
        exact (ih distinctAfter).mpr later

def lowerHandle : SRBmessage :=
  ⟨srbSvccall, srbRequestMarker, [⟨ascii "handle".toList, some (ascii "1".toList)⟩]⟩

def upperHandleEdit : Edit := .setfield srbHandle (some (ascii "2".toList))

theorem lowerHandle_distinct : DistinctKeys lowerHandle.map := List.pairwise_singleton _ _

theorem actAsMap_iff_sameSpelling_deleted :
    ActAsMap lowerHandle [.delfield srbHandle, upperHandleEdit] ↔
      SameSpelling lowerHandle [.delfield srbHandle, upperHandleEdit] :=
  actAsMap_iff_sameSpelling lowerHandle_distinct [.delfield srbHandle, upperHandleEdit]

/-- The peer spells the handle in lower case. Setting it then adds a second handle, and
getting it gives the value of the peer. -/
theorem upper_case_set_twice :
    (mwSrbdecodemessage [] (ascii "SVCCALL?handle=1\r\n".toList ++ [0]) 0 16).srbmsg =
        some lowerHandle ∧
      DistinctKeys lowerHandle.map ∧
      fieldOf (upperHandleEdit.apply lowerHandle) srbHandle = some (some (ascii "1".toList)) ∧
      ¬ ActAsMap lowerHandle [upperHandleEdit] := by
  refine ⟨by decide +kernel, lowerHandle_distinct, by decide +kernel, ?_⟩
  intro acts
  have distinct := (acts [upperHandleEdit] [] rfl).1
  revert distinct
  decide +kernel

end MidWay.Srb

import MidWay.CLib.Bytes
import MidWay.CLib.Errno

/-!
Contract: which services the access list of a gateway lets clients call.

`acl_clientadd` tests the type of the pattern where it should test the flag, against
`GW_ACL_ALLOW`, which is the type of no pattern: no rule is ever added, and `initacl`,
which would add the first one, is not called. The functions of `fnmatch` and `regex` are
parameters.

Owns: `acl_clientadd`, `acl_testservice`, what a list of rules should answer, and when it
is what is answered.
-/

namespace MidWay.Gateway

open MidWay.CLib

def gwPatternString : Int := 10
def gwPatternRegexpBasic : Int := 20
def gwPatternRegexpExtended : Int := 21
def gwPatternGlob : Int := 30

def gwAclAllow : Int := 1
def gwAclDeny : Int := 2

def fnmNomatch : Int := 1

/-- `fnmatch` with a pattern, a text and `FNM_CASEFOLD`; `regcomp` with a pattern and
`REG_EXTENDED`, where there is no result when it fails; and `regexec`. -/
structure PatternLibrary (Regex : Type) where
  fnmatch : List Byte → List Byte → Bool → Int
  regcomp : List Byte → Bool → Option Regex
  regexec : Regex → List Byte → Int

/-- A `struct acl`. The strings are without their NUL. -/
structure Acl (Regex : Type) where
  pattern : List Byte
  patternType : Int
  icase : Bool
  allowDeny : Int
  regexp : Regex

/-- The slots of `acllist` and the number of them that are in use. -/
structure AccessList (Regex : Type) where
  acllist : List (Acl Regex)
  aclcount : Nat

inductive AclFault where
  | wild
deriving DecidableEq, Repr

section

variable {Regex : Type} (lib : PatternLibrary Regex)

/-- `realloc` to one slot more than are in use; `fresh` is what a new slot holds. -/
def AccessList.grow (acl : AccessList Regex) (fresh : Acl Regex) : AccessList Regex :=
  { acl with acllist := (acl.acllist ++ [fresh]).take (acl.aclcount + 1) }

def AccessList.store (acl : AccessList Regex) (set : Acl Regex → Acl Regex) : AccessList Regex :=
  { acl with acllist := acl.acllist.modify acl.aclcount set }

def AccessList.compile (acl : AccessList Regex) (pattern : List Byte) (type : Int)
    (extended : Bool) : Option (AccessList Regex) :=
  (lib.regcomp pattern extended).map fun regexp =>
    acl.store fun slot => { slot with patternType := type, regexp := regexp }

/-- The result, the `errno` it sets and the list. The case of a basic expression runs on into that
of an extended one. -/
def AccessList.aclClientadd (acl : AccessList Regex) (fresh : Acl Regex) (allowDeny : Int)
    (pattern : Option (List Byte)) (patterntype : Int) :
    Int × Option Errno × AccessList Regex :=
  match pattern with
  | none => (-1, some .EINVAL, acl)
  | some pattern =>
      if patterntype ≠ gwAclAllow ∧ patterntype ≠ gwAclAllow then (-1, some .EINVAL, acl)
      else
        let stored := (acl.grow fresh).store fun slot =>
          { slot with pattern := pattern, icase := false, allowDeny := allowDeny }
        let typed (type : Int) := stored.store fun slot => { slot with patternType := type }
        let added (list : AccessList Regex) : Int × Option Errno × AccessList Regex :=
          (0, none, { list with aclcount := list.aclcount + 1 })
        let extended (list : AccessList Regex) :=
          match list.compile lib pattern gwPatternRegexpExtended true with
          | none => (-1, none, list.store fun slot =>
              { slot with patternType := gwPatternRegexpExtended })
          | some compiled => added compiled
        if patterntype = gwPatternString then added (typed gwPatternString)
        else if patterntype = gwPatternGlob then
          if lib.fnmatch pattern (ascii "dummy string".toList) false ≠ 0 ∧
              lib.fnmatch pattern (ascii "dummy string".toList) false ≠ fnmNomatch then
            (-1, none, stored)
          else added (typed gwPatternGlob)
        else if patterntype = gwPatternRegexpBasic then
          match stored.compile lib pattern gwPatternRegexpBasic false with
          | none => (-1, none, typed gwPatternRegexpBasic)
          | some compiled => extended compiled
        else if patterntype = gwPatternRegexpExtended then extended stored
        else (-1, some .EFAULT, stored)

/-- Whether a slot matches. The expression is that of the first slot that is not in use. -/
def AccessList.slotMatches (acl : AccessList Regex) (service : List Byte) (slot : Acl Regex) :
    Except AclFault Bool :=
  if slot.patternType = gwPatternString then
    .ok (if slot.icase then strcaseeq service slot.pattern else service == slot.pattern)
  else if slot.patternType = gwPatternGlob then
    .ok (lib.fnmatch slot.pattern service slot.icase == 0)
  else if slot.patternType = gwPatternRegexpBasic ∨ slot.patternType = gwPatternRegexpExtended then
    match acl.acllist[acl.aclcount]? with
    | none => .error .wild
    | some unused => .ok (lib.regexec unused.regexp service == 0)
  else .ok false

def AccessList.testFrom (acl : AccessList Regex) (service : List Byte) :
    List (Acl Regex) → Except AclFault Int
  | [] => .error .wild
  | slot :: later =>
      match acl.slotMatches lib service slot with
      | .error fault => .error fault
      | .ok true => .ok slot.allowDeny
      | .ok false => acl.testFrom service later

def AccessList.aclTestservice (acl : AccessList Regex) (service : List Byte) :
    Except AclFault Int :=
  match acl.aclcount with
  | 0 => .ok gwAclDeny
  | last + 1 => acl.testFrom lib service (acl.acllist.drop last)

inductive PatternKind where
  | string
  | glob
  | regexpBasic
  | regexpExtended
deriving DecidableEq, Repr

def PatternKind.code : PatternKind → Int
  | .string => gwPatternString
  | .glob => gwPatternGlob
  | .regexpBasic => gwPatternRegexpBasic
  | .regexpExtended => gwPatternRegexpExtended

structure Rule where
  allow : Bool
  kind : PatternKind
  pattern : List Byte
deriving DecidableEq, Repr

def Rule.allowDeny (rule : Rule) : Int := if rule.allow then gwAclAllow else gwAclDeny

def Rule.valid (rule : Rule) : Bool :=
  match rule.kind with
  | .string => true
  | .glob =>
      lib.fnmatch rule.pattern (ascii "dummy string".toList) false == 0 ||
        lib.fnmatch rule.pattern (ascii "dummy string".toList) false == fnmNomatch
  | .regexpBasic => (lib.regcomp rule.pattern false).isSome
  | .regexpExtended => (lib.regcomp rule.pattern true).isSome

def Rule.matches (rule : Rule) (service : List Byte) : Bool :=
  match rule.kind with
  | .string => service == rule.pattern
  | .glob => lib.fnmatch rule.pattern service false == 0
  | .regexpBasic =>
      ((lib.regcomp rule.pattern false).map fun regexp => lib.regexec regexp service == 0).getD false
  | .regexpExtended =>
      ((lib.regcomp rule.pattern true).map fun regexp => lib.regexec regexp service == 0).getD false

def deciding (rules : List Rule) (service : List Byte) : Option Rule :=
  rules.reverse.find? fun rule => rule.valid lib && rule.matches lib service

structure Addition (Regex : Type) where
  rule : Rule
  fresh : Acl Regex

def AccessList.add (acl : AccessList Regex) (addition : Addition Regex) : AccessList Regex :=
  (acl.aclClientadd lib addition.fresh addition.rule.allowDeny (some addition.rule.pattern)
    addition.rule.kind.code).2.2

def listOf (additions : List (Addition Regex)) : AccessList Regex :=
  additions.foldl (AccessList.add lib) ⟨[], 0⟩

/-- The deciding rule decides, and a rule that is not valid does not change what is answered after
it and those that follow. -/
structure DecidedByRules (additions : List (Addition Regex)) (service : List Byte) : Prop where
  answer : (listOf lib additions).aclTestservice lib service =
    .ok (((deciding lib (additions.map Addition.rule) service).map Rule.allowDeny).getD gwAclDeny)
  refused : ∀ addition later, addition.rule.valid lib = false →
    (listOf lib (additions ++ addition :: later)).aclTestservice lib service =
      (listOf lib (additions ++ later)).aclTestservice lib service

theorem aclClientadd_refuses (acl : AccessList Regex) (fresh : Acl Regex) (allowDeny : Int)
    (pattern : Option (List Byte)) (patterntype : Int) :
    (acl.aclClientadd lib fresh allowDeny pattern patterntype).1 = -1 ∧
      (acl.aclClientadd lib fresh allowDeny pattern patterntype).2.2.aclcount = acl.aclcount := by
  cases pattern with
  | none => exact ⟨rfl, rfl⟩
  | some pattern =>
      by_cases isAllow : patterntype = gwAclAllow
      · -- the type of no pattern: the default case of the switch
        rw [AccessList.aclClientadd, isAllow]
        exact ⟨rfl, rfl⟩
      · simp [AccessList.aclClientadd, isAllow]

theorem listOf_aclcount (additions : List (Addition Regex)) :
    (listOf lib additions).aclcount = 0 := by
  have kept : ∀ acl : AccessList Regex, acl.aclcount = 0 →
      (additions.foldl (AccessList.add lib) acl).aclcount = 0 := by
    induction additions with
    | nil => exact fun acl empty => empty
    | cons addition rest ih =>
        intro acl empty
        apply ih
        exact (aclClientadd_refuses lib acl _ _ _ _).2.trans empty
  exact kept _ rfl

theorem aclTestservice_listOf (additions : List (Addition Regex)) (service : List Byte) :
    (listOf lib additions).aclTestservice lib service = .ok gwAclDeny := by
  rw [AccessList.aclTestservice, listOf_aclcount]

theorem allowDeny_eq_deny {rule : Rule} : rule.allowDeny = gwAclDeny ↔ rule.allow = false := by
  rw [Rule.allowDeny]
  cases rule.allow with
  | true => decide
  | false => decide

/-- The rules decide exactly where none of them allows the service, as the last one that matches. -/
theorem decided_by_rules_iff (additions : List (Addition Regex)) (service : List Byte) :
    DecidedByRules lib additions service ↔
      ∀ rule, deciding lib (additions.map Addition.rule) service = some rule →
        rule.allow = false := by
  constructor
  · intro decided rule decides
    have answer := decided.answer
    rw [aclTestservice_listOf, decides] at answer
    exact allowDeny_eq_deny.mp (Except.ok.inj answer).symm
  · intro denied
    constructor
    · rw [aclTestservice_listOf]
      cases decides : deciding lib (additions.map Addition.rule) service with
      | none => rfl
      | some rule => exact congrArg Except.ok (allowDeny_eq_deny.mpr (denied rule decides)).symm
    · simp [aclTestservice_listOf]

end

def plainPatterns : PatternLibrary (List Byte) where
  fnmatch pattern text _ := if pattern = text then 0 else fnmNomatch
  regcomp pattern _ := some pattern
  regexec regexp text := if regexp = text then 0 else 1

def allowTime : Addition (List Byte) :=
  ⟨⟨true, .string, ascii "time".toList⟩, ⟨[], 0, false, 0, []⟩⟩

/-- A service that the only rule allows by its name is denied. -/
theorem allowed_service_denied :
    deciding plainPatterns [allowTime.rule] (ascii "time".toList) = some allowTime.rule ∧
      (listOf plainPatterns [allowTime]).aclTestservice plainPatterns (ascii "time".toList) =
        .ok gwAclDeny ∧
      ¬DecidedByRules plainPatterns [allowTime] (ascii "time".toList) := by
  refine ⟨by decide, rfl, ?_⟩
  intro decided
  have answer : Except.ok gwAclDeny = (Except.ok gwAclAllow : Except AclFault Int) :=
    decided.answer
  cases answer

end MidWay.Gateway

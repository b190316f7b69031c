import Mathlib.Data.List.Forall2
import MidWay.CLib.Format
import MidWay.Lib.Regex

/-!
Contract: the address of a MidWay instance, as `address.c` decodes it from a URL.

Two expressions give the parts of a URL; numbers are then converted by `atol` to whatever holds
them, and a key of `-1` is none. A URL that is not matched is written over with the text of the
error. What the system knows of users, services and hosts, and which broker answers to a domain,
are parameters; so is the text of `regerror`. The name of an instance lies in a block that the
next call frees. A URL that is NULL, and taken from the environment, is not here.

Owns: `_mwdecode_url`, what a URL denotes, that only one thing is written in it, and that the
expressions match what is written.
-/

namespace MidWay.Client

open MidWay.CLib MidWay.Lib

def slash : Byte := 47
def colon : Byte := 58
def atSign : Byte := 64

def ipcScheme : List Byte := ascii "ipc:".toList
def srbpScheme : List Byte := ascii "srbp:".toList

/-- `REG_ICASE`. -/
def sameLetter (left right : Byte) : Bool := tolower left == tolower right

def isHostLetter (c : Byte) : Bool := isalnum c || c == 92 || c == 46 || c == 45

/-- `RE_IPC`. -/
def reIpc : Regex Byte :=
  .seq (.word sameLetter ipcScheme) (.group 1 (.alt (.group 2 (.many1 isdigit))
    (.group 3 (.seq
      (.opt (.group 4 (.seq (.group 5 (.one (· == slash))) (.group 6 (.many1 isalnum)))))
      (.opt (.group 7 (.seq (.group 8 (.one (· == atSign))) (.group 9 (.many1 isalnum)))))))))

/-- `RE_SRBP`. -/
def reSrbp : Regex Byte :=
  .seq (.word sameLetter srbpScheme) (.seq
    (.opt (.group 1 (.seq
      (.group 2 (.seq (.one (· == slash)) (.one (· == slash))))
      (.seq (.group 3 (.many1 isHostLetter))
        (.opt (.group 4 (.seq (.one (· == colon)) (.group 5 (.many isalnum)))))))))
    (.opt (.group 6 (.seq (.group 7 (.one (· == slash))) (.group 8 (.many1 isalnum))))))

def mwSysvipc : Int := 1
def mwSrbp : Int := 3

def srbBrokerPort : Nat := 1102

def System.mwMaxNameLen : Nat := 65

/-- The pointer `instancename`. -/
inductive NamePointer where
  | null
  /-- A text that is not the decoder's. -/
  | other (text : List Byte)
  /-- The name that the last call decoded. -/
  | decoded (text : List Byte)
  | freed
deriving DecidableEq, Repr

/-- What `free(instance)` leaves of a pointer. -/
def NamePointer.release : NamePointer → NamePointer
  | .decoded _ => .freed
  | pointer => pointer

structure SockaddrIn where
  port : Nat
  addr : List Byte
deriving DecidableEq, Repr

structure MwAddress where
  protocol : Int
  sysvipckey : Int
  domain : Option (List Byte)
  instancename : NamePointer
  ipaddress : Option SockaddrIn
deriving DecidableEq, Repr

structure System where
  getuid : Nat
  getpwnam : List Byte → Option Nat
  /-- The home of an instance, as a process of this user makes it. -/
  instanceHome : Nat → List Byte → List Byte
  ftok : List Byte → Nat → Int
  getservbyname : List Byte → Option Nat
  getaddrinfo : List Byte → Option (List Byte)
  /-- The broker of a domain that answers first. -/
  brokerOf : List Byte → Option SockaddrIn
  /-- What `regerror` says when nothing is matched. -/
  noMatch : List Byte

structure UrlDecoded where
  rc : Int
  mwadr : MwAddress
  outside : Nat
deriving DecidableEq

/-- `regerror(rc, &exp, url, 255)` in a copy of the URL. -/
def System.regerror (system : System) (url : List Byte) : Nat :=
  min (system.noMatch.length + 1) 255 - (url.length + 1)

def atol (digits : List Byte) : Int := clipLong (decimalNumber digits)

def isTooLong (text : Option (List Byte)) : Bool :=
  text.any fun text => System.mwMaxNameLen < text.length

/-- The key of an instance, once the user is known. The user makes no difference for one that has
a name. -/
def System.sysvipckey (system : System) (uid : Nat) : Option (List Byte) → Int
  | none => toInt32 uid
  | some name =>
      if strcaseeq name (ascii "default".toList) then toInt32 uid
      else system.ftok (system.instanceHome system.getuid name) system.getuid

def System.urlDecodeIpc (system : System) (mwadr : MwAddress) (ipcurl : List Byte) : UrlDecoded :=
  let mwadr := { mwadr with instancename := mwadr.instancename.release }
  match reIpc.exec ipcurl with
  | none => ⟨-1, mwadr, system.regerror ipcurl⟩
  | some found =>
      let mwadr := { mwadr with protocol := mwSysvipc }
      let key := (found.lookup 2).elim (-1) fun digits => toInt32 (atol digits)
      let instanceName := found.lookup 6
      if isTooLong instanceName then ⟨-1, mwadr, 0⟩
      else
        let mwadr := { mwadr with
          instancename := instanceName.elim mwadr.instancename NamePointer.decoded }
        let userid := found.lookup 9
        if isTooLong userid then ⟨-1, mwadr, 0⟩
        else if key ≠ -1 then ⟨0, { mwadr with sysvipckey := key }, 0⟩
        else
          match userid.elim (some system.getuid) system.getpwnam with
          | none => ⟨-1, mwadr, 0⟩
          | some uid => ⟨0, { mwadr with sysvipckey := system.sysvipckey uid instanceName }, 0⟩

def System.portOf (system : System) : Option (List Byte) → Option Nat
  | none => some srbBrokerPort
  | some port =>
      if port.all isdigit then some (atol port % 65536).toNat else system.getservbyname port

def System.urlDecodeSrbp (system : System) (mwadr : MwAddress) (srburl : List Byte) : UrlDecoded :=
  match reSrbp.exec srburl with
  | none => ⟨-1, mwadr, system.regerror srburl⟩
  | some found =>
      let ipaddress := found.lookup 3
      let domain := found.lookup 8
      if domain = none ∧ ipaddress = none then ⟨-1, mwadr, 0⟩
      else
        let mwadr := { mwadr with domain := domain.elim mwadr.domain some }
        match system.portOf (found.lookup 5) with
        | none => ⟨-1, mwadr, 0⟩
        | some port =>
            match ipaddress with
            | none =>
                match domain.bind system.brokerOf with
                | none => ⟨-1, mwadr, 0⟩
                | some sin => ⟨0, { mwadr with ipaddress := some sin }, 0⟩
            | some host =>
                match system.getaddrinfo host with
                | none => ⟨-1, mwadr, 0⟩
                | some addr => ⟨0, { mwadr with ipaddress := some ⟨port, addr⟩ }, 0⟩

/-- `strncasecmp(scheme, url, strlen(scheme)) == 0`. -/
def hasScheme (scheme url : List Byte) : Bool := strcaseeq scheme (url.take scheme.length)

def withScheme (url : List Byte) : List Byte :=
  if hasScheme ipcScheme url ∨ hasScheme srbpScheme url then url
  else if hasScheme [slash] url then ipcScheme ++ url
  else ipcScheme ++ slash :: url

def System.mwDecodeUrl (system : System) (mwadr : MwAddress) (url : List Byte) : UrlDecoded :=
  if hasScheme ipcScheme url then system.urlDecodeIpc mwadr url
  else if hasScheme srbpScheme url then
    system.urlDecodeSrbp { mwadr with protocol := mwSrbp } url
  else system.urlDecodeIpc mwadr (withScheme url)

/-- The parts that are written. A broker has a host, with a port or without one, a domain, or both;
the expression lets neither pass too. -/
inductive Written where
  | key (digits : List Byte)
  | named (name user : Option (List Byte))
  | broker (authority : Option (List Byte × Option (List Byte))) (domain : Option (List Byte))
deriving DecidableEq, Repr

def marked (mark : Byte) (text : Option (List Byte)) : List Byte :=
  text.elim [] fun text => mark :: text

def authorityText (authority : Option (List Byte × Option (List Byte))) : List Byte :=
  authority.elim [] fun authority =>
    slash :: slash :: (authority.1 ++ marked colon authority.2)

def IsWord (letter : Byte → Bool) (text : List Byte) : Prop :=
  text ≠ [] ∧ ∀ c ∈ text, letter c = true

inductive Body : List Byte → List Byte → Written → Prop
  | key {digits : List Byte} : IsWord isdigit digits → Body ipcScheme digits (.key digits)
  | named {name user : Option (List Byte)} : (∀ text ∈ name, IsWord isalnum text) →
      (∀ text ∈ user, IsWord isalnum text) →
        Body ipcScheme (marked slash name ++ marked atSign user) (.named name user)
  | broker {authority : Option (List Byte × Option (List Byte))} {domain : Option (List Byte)} :
      (∀ part ∈ authority, IsWord isHostLetter part.1 ∧
        ∀ port ∈ part.2, ∀ c ∈ port, isalnum c = true) →
      (∀ text ∈ domain, IsWord isalnum text) →
        Body srbpScheme (authorityText authority ++ marked slash domain) (.broker authority domain)

def Spells (url : List Byte) (written : Written) : Prop :=
  ∃ scheme front body, url = front ++ body ∧ strcaseeq scheme front = true ∧
    Body scheme body written

/-- The key is an `int`, and the port has two bytes. -/
def Written.Fits : Written → Prop
  | .key digits => decimalNumber digits ≤ 2147483647
  | .named _ _ => True
  | .broker authority _ => ∀ part ∈ authority, ∀ port ∈ part.2, port ≠ [] →
      port.all isdigit = true → decimalNumber port ≤ 65535

def System.keyOf (system : System) (uid : Nat) : Option (List Byte) → Int
  | none => toInt32 uid
  | some name =>
      if strcaseeq name (ascii "default".toList) then toInt32 uid
      else system.ftok (system.instanceHome uid name) uid

def System.uidOf (system : System) (user : Option (List Byte)) : Option Nat :=
  user.elim (some system.getuid) system.getpwnam

/-- The port that is written; where nothing stands behind the colon, that is any. -/
def System.IsPort (system : System) (found : Nat) : Option (List Byte) → Prop
  | none => found = srbBrokerPort
  | some port =>
      port ≠ [] → if port.all isdigit then found = decimalNumber port
        else system.getservbyname port = some found

def System.Denotes (system : System) (mwadr : MwAddress) : Written → Prop
  | .key digits => mwadr.protocol = mwSysvipc ∧ mwadr.sysvipckey = decimalNumber digits
  | .named name user =>
      mwadr.protocol = mwSysvipc ∧ (∀ text ∈ name, mwadr.instancename = .decoded text) ∧
        ∃ uid, system.uidOf user = some uid ∧ mwadr.sysvipckey = system.keyOf uid name
  | .broker authority domain =>
      mwadr.protocol = mwSrbp ∧ (∀ text ∈ domain, mwadr.domain = some text) ∧
        ∃ sin, mwadr.ipaddress = some sin ∧
          (authority = none → domain.bind system.brokerOf = some sin) ∧
          ∀ part ∈ authority, system.getaddrinfo part.1 = some sin.addr ∧
            system.IsPort sin.port part.2

section Words

variable {letter : Byte → Bool} {mark : Byte}

theorem takeWhile_word {text rest : List Byte} (letters : ∀ c ∈ text, letter c = true)
    (stops : ∀ c ∈ rest.head?, letter c = false) : (text ++ rest).takeWhile letter = text := by
  have stopped : rest.takeWhile letter = [] := by
    cases rest with
    | nil => rfl
    | cons c others => simp [stops c rfl]
  rw [List.takeWhile_append_of_pos letters, stopped, List.append_nil]

theorem word_unique {text other rest others : List Byte} (same : text ++ rest = other ++ others)
    (letters : ∀ c ∈ text, letter c = true) (otherLetters : ∀ c ∈ other, letter c = true)
    (stops : ∀ c ∈ rest.head?, letter c = false)
    (otherStops : ∀ c ∈ others.head?, letter c = false) : text = other ∧ rest = others := by
  have sameText : text = other := by
    rw [← takeWhile_word letters stops, same, takeWhile_word otherLetters otherStops]
  simp_all

theorem head_marked {word : Option (List Byte)} {rest : List Byte} {c : Byte}
    (isHead : c ∈ (marked mark word ++ rest).head?) : c = mark ∨ c ∈ rest.head? := by
  cases word with
  | none => exact .inr isHead
  | some text => exact .inl (Option.some.inj isHead).symm

/-- So does a word that may be missing, when neither its mark nor a letter follows. -/
theorem marked_unique {word other : Option (List Byte)} {rest others : List Byte}
    (same : marked mark word ++ rest = marked mark other ++ others)
    (letters : ∀ text ∈ word, ∀ c ∈ text, letter c = true)
    (otherLetters : ∀ text ∈ other, ∀ c ∈ text, letter c = true)
    (stops : ∀ c ∈ rest.head?, letter c = false ∧ c ≠ mark)
    (otherStops : ∀ c ∈ others.head?, letter c = false ∧ c ≠ mark) :
    word = other ∧ rest = others := by
  cases word with
  | none =>
      cases other with
      | none => exact ⟨rfl, same⟩
      | some text =>
          have isMark : mark ∈ rest.head? := congrArg List.head? same
          exact absurd rfl (stops mark isMark).2
  | some text =>
      cases other with
      | none =>
          have isMark : mark ∈ others.head? := congrArg List.head? same.symm
          exact absurd rfl (otherStops mark isMark).2
      | some otherText =>
          have both := word_unique (List.tail_eq_of_cons_eq same) (letters text rfl)
            (otherLetters otherText rfl) (fun c isHead => (stops c isHead).1)
            fun c isHead => (otherStops c isHead).1
          exact ⟨congrArg some both.1, both.2⟩

def markedCaptures (whole sign inner : Nat) (mark : Byte) (word : Option (List Byte)) :
    Captures Byte :=
  word.elim [] fun text => [(whole, mark :: text), (sign, [mark]), (inner, text)]

theorem matches_marked_iff {whole sign inner : Nat} {text : List Byte} {captures : Captures Byte} :
    (Regex.opt (.group whole (.seq (.group sign (.one (· == mark)))
      (.group inner (.many1 letter))))).Matches text captures ↔
      ∃ word : Option (List Byte), (∀ part ∈ word, IsWord letter part) ∧
        text = marked mark word ∧ captures = markedCaptures whole sign inner mark word := by
  rw [Regex.matches_opt_iff, Regex.matches_group_iff]
  constructor
  · intro given
    rcases given with ⟨captured, rfl, isSeq⟩ | ⟨rfl, rfl⟩
    · obtain ⟨front, back, _, _, rfl, rfl, isSign, isWord⟩ := Regex.matches_seq_iff.mp isSeq
      obtain ⟨signCaptured, rfl, isOne⟩ := Regex.matches_group_iff.mp isSign
      obtain ⟨wordCaptured, rfl, isMany⟩ := Regex.matches_group_iff.mp isWord
      obtain ⟨rfl, c, rfl, isMark⟩ := Regex.matches_one_iff.mp isOne
      obtain ⟨rfl, nonempty, letters⟩ := Regex.matches_many1_iff.mp isMany
      obtain rfl : c = mark := beq_iff_eq.mp isMark
      refine ⟨some back, ?_, rfl, rfl⟩
      intro part isPart
      cases isPart
      exact ⟨nonempty, letters⟩
    · refine ⟨none, ?_, rfl, rfl⟩
      intro part isPart
      cases isPart
  · intro given
    obtain ⟨word, isWord, rfl, rfl⟩ := given
    cases word with
    | none => exact .inr ⟨rfl, rfl⟩
    | some part =>
        have isMany := isWord part rfl
        exact .inl ⟨_, rfl, Regex.matches_seq_iff.mpr ⟨[mark], part, _, _, rfl, rfl,
          Regex.matches_group_iff.mpr ⟨[], rfl, Regex.matches_one_iff.mpr
            ⟨rfl, mark, rfl, beq_self_eq_true mark⟩⟩,
          Regex.matches_group_iff.mpr ⟨[], rfl, Regex.matches_many1_iff.mpr
            ⟨rfl, isMany.1, isMany.2⟩⟩⟩⟩

end Words

section Schemes

variable {scheme url body : List Byte} {written other : Written}

theorem strcaseeq_iff_forall₂ {left right : List Byte} : strcaseeq left right = true ↔
    List.Forall₂ (fun letter c => sameLetter letter c = true) left right := by
  rw [strcaseeq, beq_iff_eq, ← List.forall₂_eq_eq_eq, List.forall₂_map_left_iff,
    List.forall₂_map_right_iff]
  simp only [sameLetter, beq_iff_eq]

theorem length_eq_of_strcaseeq {left right : List Byte} (same : strcaseeq left right = true) :
    left.length = right.length :=
  (strcaseeq_iff_forall₂.mp same).length_eq

theorem spells_iff : Spells url written ↔
    ∃ scheme, hasScheme scheme url = true ∧ Body scheme (url.drop scheme.length) written := by
  constructor
  · intro given
    obtain ⟨scheme, front, body, rfl, same, isBody⟩ := given
    have sameLength : scheme.length = front.length := length_eq_of_strcaseeq same
    grind [hasScheme]
  · intro given
    obtain ⟨scheme, same, isBody⟩ := given
    exact ⟨scheme, _, _, (List.take_append_drop _ _).symm, same, isBody⟩

theorem matches_scheme_iff {inner : Regex Byte} {captures : Captures Byte} :
    (Regex.seq (.word sameLetter scheme) inner).Matches url captures ↔
      hasScheme scheme url = true ∧ inner.Matches (url.drop scheme.length) captures := by
  rw [Regex.matches_seq_iff]
  constructor
  · intro given
    obtain ⟨front, back, captured, others, rfl, rfl, isWord, isInner⟩ := given
    obtain ⟨rfl, letters⟩ := Regex.matches_word_iff.mp isWord
    rw [hasScheme, letters.length_eq, List.take_left, List.drop_left]
    exact ⟨strcaseeq_iff_forall₂.mpr letters, isInner⟩
  · intro given
    exact ⟨_, _, [], captures, (List.take_append_drop _ _).symm, rfl,
      Regex.matches_word_iff.mpr ⟨rfl, strcaseeq_iff_forall₂.mp given.1⟩, given.2⟩

theorem head_of_hasScheme {letter : Byte} {rest : List Byte}
    (has : hasScheme (letter :: rest) url = true) :
    url.head?.map tolower = some (tolower letter) := by
  cases url with
  | nil => cases strcaseeq_iff_forall₂.mp has
  | cons c others =>
      cases strcaseeq_iff_forall₂.mp has with
      | cons isSame _ => exact congrArg some (beq_iff_eq.mp isSame).symm

theorem scheme_unique (isIpc : hasScheme ipcScheme url = true)
    (isSrbp : hasScheme srbpScheme url = true) : False := by
  have heads : some (tolower 105) = some (tolower 115) :=
    (head_of_hasScheme isIpc).symm.trans (head_of_hasScheme isSrbp)
  exact absurd heads (by decide)

theorem body_key_iff {digits : List Byte} : Body scheme body (.key digits) ↔
    scheme = ipcScheme ∧ IsWord isdigit digits ∧ body = digits := by
  constructor
  · intro given
    cases given with
    | key isWord => exact ⟨rfl, isWord, rfl⟩
  · intro given
    obtain ⟨rfl, isWord, rfl⟩ := given
    exact .key isWord

theorem body_named_iff {name user : Option (List Byte)} : Body scheme body (.named name user) ↔
    scheme = ipcScheme ∧ (∀ text ∈ name, IsWord isalnum text) ∧
      (∀ text ∈ user, IsWord isalnum text) ∧ body = marked slash name ++ marked atSign user := by
  constructor
  · intro given
    cases given with
    | named isName isUser => exact ⟨rfl, isName, isUser, rfl⟩
  · intro given
    obtain ⟨rfl, isName, isUser, rfl⟩ := given
    exact .named isName isUser

def IsAuthority (authority : Option (List Byte × Option (List Byte))) : Prop :=
  ∀ part ∈ authority, IsWord isHostLetter part.1 ∧
    ∀ port ∈ part.2, ∀ c ∈ port, isalnum c = true

theorem body_broker_iff {authority : Option (List Byte × Option (List Byte))}
    {domain : Option (List Byte)} : Body scheme body (.broker authority domain) ↔
      scheme = srbpScheme ∧ IsAuthority authority ∧ (∀ text ∈ domain, IsWord isalnum text) ∧
        body = authorityText authority ++ marked slash domain := by
  constructor
  · intro given
    cases given with
    | broker isAuthority isDomain => exact ⟨rfl, isAuthority, isDomain, rfl⟩
  · intro given
    obtain ⟨rfl, isAuthority, isDomain, rfl⟩ := given
    exact .broker isAuthority isDomain

end Schemes

section Unique

variable {name user otherName otherUser domain otherDomain : Option (List Byte)}
  {authority otherAuthority : Option (List Byte × Option (List Byte))}

theorem marked_stops {P : Byte → Prop} {mark : Byte} (stops : P mark) :
    ∀ c ∈ (marked mark name).head?, P c := by
  intro c isHead
  rw [← List.append_nil (marked mark name)] at isHead
  rcases head_marked isHead with rfl | isNone
  · exact stops
  · cases isNone

theorem lastWord_unique {mark : Byte} (same : marked mark name = marked mark otherName) :
    name = otherName := by
  cases name with
  | none =>
      cases otherName with
      | none => rfl
      | some other => cases same
  | some text =>
      cases otherName with
      | none => cases same
      | some other => exact congrArg some (List.tail_eq_of_cons_eq same)

theorem digits_not_named {digits : List Byte} (isWord : IsWord isdigit digits)
    (same : digits = marked slash name ++ marked atSign user) : False := by
  obtain ⟨c, rest, rfl⟩ := List.exists_cons_of_ne_nil isWord.1
  have isDigit : isdigit c = true := isWord.2 c List.mem_cons_self
  have isHead : c ∈ (marked slash name ++ marked atSign user).head? := congrArg List.head? same.symm
  rcases head_marked isHead with rfl | isUser
  · exact absurd isDigit (by decide)
  · have isSign : c = atSign := marked_stops (P := (· = atSign)) rfl c isUser
    rw [isSign] at isDigit
    exact absurd isDigit (by decide)

theorem named_unique (isName : ∀ text ∈ name, IsWord isalnum text)
    (isOther : ∀ text ∈ otherName, IsWord isalnum text)
    (same : marked slash name ++ marked atSign user =
      marked slash otherName ++ marked atSign otherUser) :
    name = otherName ∧ user = otherUser := by
  have sign : isalnum atSign = false ∧ atSign ≠ slash := by decide
  have both := marked_unique same (fun text isText => (isName text isText).2)
    (fun text isText => (isOther text isText).2) (marked_stops sign) (marked_stops sign)
  exact ⟨both.1, lastWord_unique both.2⟩

theorem domain_not_authority {rest : List Byte} (isDomain : ∀ text ∈ domain, IsWord isalnum text)
    (same : marked slash domain = slash :: slash :: rest) : False := by
  cases domain with
  | none => cases same
  | some text =>
      have isText : text = slash :: rest := List.tail_eq_of_cons_eq same
      have letters := (isDomain text rfl).2 slash (isText ▸ List.mem_cons_self)
      exact absurd letters (by decide)

theorem broker_unique (isAuthority : IsAuthority authority)
    (isOtherAuthority : IsAuthority otherAuthority)
    (isDomain : ∀ text ∈ domain, IsWord isalnum text)
    (isOtherDomain : ∀ text ∈ otherDomain, IsWord isalnum text)
    (same : authorityText authority ++ marked slash domain =
      authorityText otherAuthority ++ marked slash otherDomain) :
    authority = otherAuthority ∧ domain = otherDomain := by
  cases authority with
  | none =>
      cases otherAuthority with
      | none => exact ⟨rfl, lastWord_unique same⟩
      | some other => exact (domain_not_authority isDomain same).elim
  | some part =>
      cases otherAuthority with
      | none => exact (domain_not_authority isOtherDomain same.symm).elim
      | some other =>
          obtain ⟨host, port⟩ := part
          obtain ⟨otherHost, otherPort⟩ := other
          have sameHost : host ++ (marked colon port ++ marked slash domain) =
              otherHost ++ (marked colon otherPort ++ marked slash otherDomain) := by
            rw [← List.append_assoc, ← List.append_assoc]
            exact List.tail_eq_of_cons_eq (List.tail_eq_of_cons_eq same)
          have hostStops : ∀ port domain : Option (List Byte),
              ∀ c ∈ (marked colon port ++ marked slash domain).head?, isHostLetter c = false := by
            intro port domain c isHead
            rcases head_marked isHead with rfl | isSlash
            · decide
            · exact marked_stops (P := fun c => isHostLetter c = false) (by decide) c isSlash
          have hosts := word_unique sameHost (isAuthority _ rfl).1.2 (isOtherAuthority _ rfl).1.2
            (hostStops port domain) (hostStops otherPort otherDomain)
          have mark : isalnum slash = false ∧ slash ≠ colon := by decide
          have ports := marked_unique hosts.2 (isAuthority _ rfl).2 (isOtherAuthority _ rfl).2
            (marked_stops mark) (marked_stops mark)
          grind [lastWord_unique]

theorem body_unique {scheme body : List Byte} {written other : Written}
    (isBody : Body scheme body written) (isOther : Body scheme body other) : written = other := by
  have apart : ipcScheme ≠ srbpScheme := by decide
  cases isBody with
  | key isWord =>
      cases other with
      | key digits => rw [(body_key_iff.mp isOther).2.2]
      | named name user =>
          exact (digits_not_named isWord (body_named_iff.mp isOther).2.2.2).elim
      | broker authority domain => exact absurd (body_broker_iff.mp isOther).1 apart
  | named isName isUser =>
      cases other with
      | key digits =>
          obtain ⟨_, isWord, same⟩ := body_key_iff.mp isOther
          exact (digits_not_named isWord same.symm).elim
      | named name user =>
          obtain ⟨_, isOtherName, _, same⟩ := body_named_iff.mp isOther
          grind [named_unique]
      | broker authority domain => exact absurd (body_broker_iff.mp isOther).1 apart
  | broker isAuthority isDomain =>
      cases other with
      | key digits => exact absurd (body_key_iff.mp isOther).1.symm apart
      | named name user => exact absurd (body_named_iff.mp isOther).1.symm apart
      | broker authority domain =>
          obtain ⟨_, isOtherAuthority, isOtherDomain, same⟩ := body_broker_iff.mp isOther
          obtain ⟨rfl, rfl⟩ :=
            broker_unique isAuthority isOtherAuthority isDomain isOtherDomain same
          rfl

end Unique

def authorityCaptures (authority : Option (List Byte × Option (List Byte))) : Captures Byte :=
  authority.elim [] fun part =>
    (1, authorityText (some part)) :: (2, [slash, slash]) :: (3, part.1) ::
      part.2.elim [] fun port => [(4, colon :: port), (5, port)]

def Written.captures : Written → Captures Byte
  | .key digits => [(1, digits), (2, digits)]
  | .named name user =>
      (1, marked slash name ++ marked atSign user) :: (3, marked slash name ++ marked atSign user) ::
        (markedCaptures 4 5 6 slash name ++ markedCaptures 7 8 9 atSign user)
  | .broker authority domain => authorityCaptures authority ++ markedCaptures 6 7 8 slash domain

section Groups

variable {url text : List Byte} {captures : Captures Byte} {written : Written}

theorem matches_reIpc_iff : reIpc.Matches url captures ↔ hasScheme ipcScheme url = true ∧
    ∃ written, Body ipcScheme (url.drop ipcScheme.length) written ∧
      captures = written.captures := by
  rw [reIpc, matches_scheme_iff, Regex.matches_group_iff]
  refine and_congr_right fun _ => ?_
  constructor
  · intro given
    obtain ⟨captured, rfl, isAlt⟩ := given
    rcases Regex.matches_alt_iff.mp isAlt with isKey | isNamed
    · obtain ⟨keyCaptured, rfl, isWord⟩ := Regex.matches_group_iff.mp isKey
      obtain ⟨rfl, nonempty, digits⟩ := Regex.matches_many1_iff.mp isWord
      exact ⟨.key _, .key ⟨nonempty, digits⟩, rfl⟩
    · obtain ⟨namedCaptured, rfl, isSeq⟩ := Regex.matches_group_iff.mp isNamed
      obtain ⟨front, back, _, _, same, rfl, isFront, isBack⟩ := Regex.matches_seq_iff.mp isSeq
      obtain ⟨name, isName, rfl, rfl⟩ := matches_marked_iff.mp isFront
      obtain ⟨user, isUser, rfl, rfl⟩ := matches_marked_iff.mp isBack
      rw [same]
      exact ⟨.named name user, .named isName isUser, rfl⟩
  · intro given
    obtain ⟨written, isBody, rfl⟩ := given
    cases written with
    | key digits =>
        obtain ⟨_, isWord, same⟩ := body_key_iff.mp isBody
        rw [same]
        exact ⟨_, rfl, .left (Regex.matches_group_iff.mpr
          ⟨[], rfl, Regex.matches_many1_iff.mpr ⟨rfl, isWord⟩⟩)⟩
    | named name user =>
        obtain ⟨_, isName, isUser, same⟩ := body_named_iff.mp isBody
        rw [same]
        exact ⟨_, rfl, .right (Regex.matches_group_iff.mpr ⟨_, rfl, .seq
          (matches_marked_iff.mpr ⟨name, isName, rfl, rfl⟩)
          (matches_marked_iff.mpr ⟨user, isUser, rfl, rfl⟩)⟩)⟩
    | broker authority domain => exact absurd (body_broker_iff.mp isBody).1 (by decide)

/-- The port with the colon in front of it. -/
theorem matches_port_iff : (Regex.opt (.group 4 (.seq (.one (· == colon))
    (.group 5 (.many isalnum))))).Matches text captures ↔
      ∃ port : Option (List Byte), (∀ part ∈ port, ∀ c ∈ part, isalnum c = true) ∧
        text = marked colon port ∧
          captures = port.elim [] fun port => [(4, colon :: port), (5, port)] := by
  rw [Regex.matches_opt_iff, Regex.matches_group_iff]
  constructor
  · intro given
    rcases given with ⟨captured, rfl, isSeq⟩ | ⟨rfl, rfl⟩
    · obtain ⟨front, back, _, _, rfl, rfl, isOne, isPort⟩ := Regex.matches_seq_iff.mp isSeq
      obtain ⟨portCaptured, rfl, isMany⟩ := Regex.matches_group_iff.mp isPort
      obtain ⟨rfl, c, rfl, isColon⟩ := Regex.matches_one_iff.mp isOne
      obtain ⟨rfl, letters⟩ := Regex.matches_many_iff.mp isMany
      obtain rfl : c = colon := beq_iff_eq.mp isColon
      refine ⟨some back, ?_, rfl, rfl⟩
      intro part isPart
      cases isPart
      exact letters
    · refine ⟨none, ?_, rfl, rfl⟩
      intro part isPart
      cases isPart
  · intro given
    obtain ⟨port, letters, rfl, rfl⟩ := given
    cases port with
    | none => exact .inr ⟨rfl, rfl⟩
    | some part =>
        exact .inl ⟨_, rfl, Regex.matches_seq_iff.mpr ⟨[colon], part, [], _, rfl, rfl,
          Regex.matches_one_iff.mpr ⟨rfl, colon, rfl, beq_self_eq_true colon⟩,
          Regex.matches_group_iff.mpr ⟨[], rfl, .many (letters part rfl)⟩⟩⟩

theorem matches_authority_iff : (Regex.opt (.group 1 (.seq
    (.group 2 (.seq (.one (· == slash)) (.one (· == slash))))
    (.seq (.group 3 (.many1 isHostLetter)) (.opt (.group 4 (.seq (.one (· == colon))
      (.group 5 (.many isalnum))))))))).Matches text captures ↔
      ∃ authority, IsAuthority authority ∧ text = authorityText authority ∧
        captures = authorityCaptures authority := by
  have isSlash : (slash == slash) = true := beq_self_eq_true slash
  have slashes : (Regex.seq (.one (· == slash)) (.one (· == slash))).Matches [slash, slash] [] :=
    Regex.matches_seq_iff.mpr ⟨[slash], [slash], [], [], rfl, rfl, .one isSlash, .one isSlash⟩
  rw [Regex.matches_opt_iff, Regex.matches_group_iff]
  constructor
  · intro given
    rcases given with ⟨captured, rfl, isSeq⟩ | ⟨rfl, rfl⟩
    · obtain ⟨front, back, _, _, rfl, rfl, isFront, isBack⟩ := Regex.matches_seq_iff.mp isSeq
      obtain ⟨host, behind, _, _, rfl, rfl, isHost, isPort⟩ := Regex.matches_seq_iff.mp isBack
      obtain ⟨_, rfl, isMarks⟩ := Regex.matches_group_iff.mp isFront
      obtain ⟨left, right, _, _, rfl, rfl, isLeft, isRight⟩ := Regex.matches_seq_iff.mp isMarks
      obtain ⟨rfl, c, rfl, isLeftSlash⟩ := Regex.matches_one_iff.mp isLeft
      obtain ⟨rfl, d, rfl, isRightSlash⟩ := Regex.matches_one_iff.mp isRight
      obtain rfl : c = slash := beq_iff_eq.mp isLeftSlash
      obtain rfl : d = slash := beq_iff_eq.mp isRightSlash
      obtain ⟨_, rfl, isMany⟩ := Regex.matches_group_iff.mp isHost
      obtain ⟨rfl, nonempty, letters⟩ := Regex.matches_many1_iff.mp isMany
      obtain ⟨port, portLetters, rfl, rfl⟩ := matches_port_iff.mp isPort
      refine ⟨some (host, port), ?_, rfl, rfl⟩
      intro part isPart
      cases isPart
      exact ⟨⟨nonempty, letters⟩, portLetters⟩
    · refine ⟨none, ?_, rfl, rfl⟩
      intro part isPart
      cases isPart
  · intro given
    obtain ⟨authority, isAuthority, rfl, rfl⟩ := given
    cases authority with
    | none => exact .inr ⟨rfl, rfl⟩
    | some part =>
        obtain ⟨isHost, isPort⟩ := isAuthority part rfl
        have host : (Regex.group 3 (.many1 isHostLetter)).Matches part.1 [(3, part.1)] :=
          .group (Regex.matches_many1_iff.mpr ⟨rfl, isHost⟩)
        have port := matches_port_iff.mpr ⟨part.2, isPort, rfl, rfl⟩
        exact .inl ⟨_, rfl, .seq (.group slashes) (.seq host port)⟩

theorem matches_reSrbp_iff : reSrbp.Matches url captures ↔ hasScheme srbpScheme url = true ∧
    ∃ written, Body srbpScheme (url.drop srbpScheme.length) written ∧
      captures = written.captures := by
  rw [reSrbp, matches_scheme_iff, Regex.matches_seq_iff]
  refine and_congr_right fun _ => ?_
  constructor
  · intro given
    obtain ⟨front, back, _, _, same, rfl, isFront, isBack⟩ := given
    obtain ⟨authority, isAuthority, rfl, rfl⟩ := matches_authority_iff.mp isFront
    obtain ⟨domain, isDomain, rfl, rfl⟩ := matches_marked_iff.mp isBack
    rw [same]
    exact ⟨.broker authority domain, .broker isAuthority isDomain, rfl⟩
  · intro given
    obtain ⟨written, isBody, rfl⟩ := given
    cases written with
    | key digits => exact absurd (body_key_iff.mp isBody).1 (by decide)
    | named name user => exact absurd (body_named_iff.mp isBody).1 (by decide)
    | broker authority domain =>
        obtain ⟨_, isAuthority, isDomain, same⟩ := body_broker_iff.mp isBody
        exact ⟨_, _, _, _, same, rfl, matches_authority_iff.mpr ⟨authority, isAuthority, rfl, rfl⟩,
          matches_marked_iff.mpr ⟨domain, isDomain, rfl, rfl⟩⟩

end Groups

section Whole

variable {scheme url body : List Byte} {written other : Written}

theorem scheme_of_body (isBody : Body scheme body written) :
    scheme = ipcScheme ∨ scheme = srbpScheme := by
  cases isBody with
  | key _ => exact .inl rfl
  | named _ _ => exact .inl rfl
  | broker _ _ => exact .inr rfl

theorem spells_of_hasScheme (has : hasScheme scheme url = true)
    (known : scheme = ipcScheme ∨ scheme = srbpScheme) :
    Spells url written ↔ Body scheme (url.drop scheme.length) written := by
  rw [spells_iff]
  constructor
  · grind [scheme_unique, scheme_of_body]
  · grind

theorem spells_unique (spells : Spells url written) (spellsOther : Spells url other) :
    written = other := by
  obtain ⟨scheme, has, isBody⟩ := spells_iff.mp spells
  exact body_unique isBody ((spells_of_hasScheme has (scheme_of_body isBody)).mp spellsOther)

/-- Either nothing is written, or what is written is captured. -/
theorem exec_cases {expression : Regex Byte} (has : hasScheme scheme url = true)
    (known : scheme = ipcScheme ∨ scheme = srbpScheme)
    (characterized : ∀ captures, expression.Matches url captures ↔ hasScheme scheme url = true ∧
      ∃ written, Body scheme (url.drop scheme.length) written ∧ captures = written.captures) :
    (expression.exec url = none ∧ ∀ written, ¬Spells url written) ∨
      ∃ written, Body scheme (url.drop scheme.length) written ∧
        expression.exec url = some written.captures := by
  cases found : expression.exec url with
  | none =>
      refine .inl ⟨rfl, fun written spells => ?_⟩
      have isBody := (spells_of_hasScheme has known).mp spells
      exact Regex.exec_none_iff.mp found written.captures
        ((characterized _).mpr ⟨has, written, isBody, rfl⟩)
  | some captures =>
      obtain ⟨_, written, isBody, rfl⟩ := (characterized captures).mp (Regex.matches_of_exec found)
      exact .inr ⟨written, isBody, rfl⟩

end Whole

end MidWay.Client

import MidWay.Client.Addresses

/-!
Contract: what `_mwdecode_url` makes of a URL, against what the URL denotes.

Owns: the exact condition under which a URL is decoded as what is written in it, or refused.
-/

namespace MidWay.Client

open MidWay.CLib MidWay.Lib

def UrlDecoded.Refused (decoded : UrlDecoded) (before : MwAddress) : Prop :=
  decoded.rc < 0 ∧ decoded.outside = 0 ∧ decoded.mwadr = before

/-- With the result 0 the address denotes what is written. A URL that spells nothing, or a number
that does not fit, is refused. -/
structure System.DecodesExactly (system : System) (before : MwAddress) (url : List Byte)
    (decoded : UrlDecoded) : Prop where
  denotes : decoded.rc = 0 →
    ∃ written, Spells (withScheme url) written ∧ system.Denotes decoded.mwadr written
  refuses : (∀ written, Spells (withScheme url) written → ¬written.Fits) → decoded.Refused before

/-- What is written is decoded as that. The name of another user's instance is looked up in the
homes of the process; a port that does not fit must meet a host that nobody knows, and an address
that has the protocol and the domain already. -/
def System.Decodable (system : System) (before : MwAddress) : Written → Prop
  | .key digits => decimalNumber digits ≤ 2147483647
  | .named name user => ∀ text ∈ name, strcaseeq text (ascii "default".toList) = false →
      isTooLong name = false → isTooLong user = false → ∀ uid ∈ system.uidOf user,
        system.ftok (system.instanceHome system.getuid text) system.getuid =
          system.ftok (system.instanceHome uid text) uid
  | .broker authority domain => ∀ part ∈ authority, ∀ port ∈ part.2, port ≠ [] →
      port.all isdigit = true → 65535 < decimalNumber port →
        system.getaddrinfo part.1 = none ∧ before.protocol = mwSrbp ∧
          ∀ text ∈ domain, before.domain = some text

/-- The text of the error has room in the copy, and the address says already what is stored
before the URL is matched. -/
def System.Refusable (system : System) (before : MwAddress) (url : List Byte) : Prop :=
  min (system.noMatch.length + 1) 255 ≤ url.length + 1 ∧
    if hasScheme srbpScheme url then before.protocol = mwSrbp
    else before.instancename.release = before.instancename


section Exactness

variable (system : System) (before : MwAddress) {url : List Byte} {decoded : UrlDecoded}

structure System.DecodesAs (decoded : UrlDecoded) (written : Written) : Prop where
  denotes : decoded.rc = 0 → system.Denotes decoded.mwadr written
  refuses : ¬written.Fits → decoded.Refused before

theorem decodesExactly_of_spells {written : Written} (spells : Spells (withScheme url) written) :
    system.DecodesExactly before url decoded ↔ system.DecodesAs before decoded written := by
  constructor
  · intro exact
    refine ⟨fun success => ?_, fun unfit => ?_⟩
    · obtain ⟨other, spellsOther, denotes⟩ := exact.denotes success
      rw [spells_unique spells spellsOther]
      exact denotes
    · refine exact.refuses fun other spellsOther => ?_
      rw [← spells_unique spells spellsOther]
      exact unfit
  · intro given
    exact ⟨fun success => ⟨written, spells, given.denotes success⟩,
      fun unfit => given.refuses (unfit written spells)⟩

theorem decodesExactly_of_nothing (nothing : ∀ written, ¬Spells (withScheme url) written) :
    system.DecodesExactly before url decoded ↔ decoded.Refused before := by
  constructor
  · intro exact
    exact exact.refuses fun written spells => absurd spells (nothing written)
  · intro refused
    refine ⟨fun success => ?_, fun _ => refused⟩
    have negative : decoded.rc < 0 := refused.1
    omega

theorem key_groups (digits : List Byte) : (Written.key digits).captures.lookup 2 = some digits ∧
    (Written.key digits).captures.lookup 6 = none ∧
      (Written.key digits).captures.lookup 9 = none :=
  ⟨rfl, rfl, rfl⟩

theorem named_groups (name user : Option (List Byte)) :
    (Written.named name user).captures.lookup 2 = none ∧
      (Written.named name user).captures.lookup 6 = name ∧
        (Written.named name user).captures.lookup 9 = user := by
  cases name with
  | none =>
      cases user with
      | none => exact ⟨rfl, rfl, rfl⟩
      | some text => exact ⟨rfl, rfl, rfl⟩
  | some text =>
      cases user with
      | none => exact ⟨rfl, rfl, rfl⟩
      | some text => exact ⟨rfl, rfl, rfl⟩

theorem broker_groups (authority : Option (List Byte × Option (List Byte)))
    (domain : Option (List Byte)) :
    (Written.broker authority domain).captures.lookup 3 = authority.map Prod.fst ∧
      (Written.broker authority domain).captures.lookup 5 = authority.bind Prod.snd ∧
        (Written.broker authority domain).captures.lookup 8 = domain := by
  cases domain with
  | none =>
      cases authority with
      | none => exact ⟨rfl, rfl, rfl⟩
      | some part =>
          obtain ⟨host, port⟩ := part
          cases port with
          | none => exact ⟨rfl, rfl, rfl⟩
          | some text => exact ⟨rfl, rfl, rfl⟩
  | some domain =>
      cases authority with
      | none => exact ⟨rfl, rfl, rfl⟩
      | some part =>
          obtain ⟨host, port⟩ := part
          cases port with
          | none => exact ⟨rfl, rfl, rfl⟩
          | some text => exact ⟨rfl, rfl, rfl⟩

theorem toInt32_le (value : Int) : toInt32 value ≤ 2147483647 := by
  grind [toInt32]

theorem toInt32_atol {digits : List Byte} (fits : decimalNumber digits ≤ 2147483647) :
    toInt32 (atol digits) = decimalNumber digits := by
  grind [atol, clipLong_self, toInt32_self]

theorem urlDecodeIpc_key {digits : List Byte}
    (found : reIpc.exec url = some (Written.key digits).captures) :
    (system.urlDecodeIpc before url).rc = 0 ∧
      (system.urlDecodeIpc before url).mwadr.protocol = mwSysvipc ∧
        (system.urlDecodeIpc before url).mwadr.sysvipckey =
          if toInt32 (atol digits) ≠ -1 then toInt32 (atol digits) else toInt32 system.getuid := by
  obtain ⟨isKey, isName, isUser⟩ := key_groups digits
  rw [System.urlDecodeIpc, found]
  simp only [isKey, isName, isUser, isTooLong, Option.any_none, Option.elim_some, Option.elim_none,
    Bool.false_eq_true, if_false, System.sysvipckey]
  split_ifs
  · simp only [and_self]
  · simp only [and_self]

theorem urlDecodeIpc_key_exact_iff {digits : List Byte}
    (found : reIpc.exec url = some (Written.key digits).captures) :
    system.DecodesAs before (system.urlDecodeIpc before url) (.key digits) ↔
      system.Decodable before (.key digits) := by
  obtain ⟨success, protocol, key⟩ := urlDecodeIpc_key system before found
  constructor
  · intro given
    have isKey := (given.denotes success).2
    have small : (system.urlDecodeIpc before url).mwadr.sysvipckey ≤ 2147483647 := by
      rw [key]
      split_ifs
      · exact toInt32_le _
      · exact toInt32_le _
    rw [isKey] at small
    exact Int.ofNat_le.mp small
  · intro fits
    refine ⟨fun _ => ⟨protocol, ?_⟩, fun unfit => absurd fits unfit⟩
    have isSome : (decimalNumber digits : Int) ≠ -1 := by omega
    rw [key, toInt32_atol fits, if_pos isSome]

theorem sysvipckey_eq_iff (uid : Nat) (name : Option (List Byte)) :
    system.sysvipckey uid name = system.keyOf uid name ↔
      ∀ text ∈ name, strcaseeq text (ascii "default".toList) = false →
        system.ftok (system.instanceHome system.getuid text) system.getuid =
          system.ftok (system.instanceHome uid text) uid := by
  cases name with
  | none => exact ⟨fun _ text isText => (Option.not_mem_none text isText).elim, fun _ => rfl⟩
  | some text =>
      rw [System.sysvipckey, System.keyOf]
      by_cases isDefault : strcaseeq text (ascii "default".toList) = true
      · simp_all
      · simp_all

section Named

variable {name user : Option (List Byte)}
  (found : reIpc.exec url = some (Written.named name user).captures)
include found

theorem urlDecodeIpc_named {uid : Nat} (nameFits : isTooLong name = false)
    (userFits : isTooLong user = false) (isUid : system.uidOf user = some uid) :
    system.urlDecodeIpc before url =
      ⟨0, { before with
        protocol := mwSysvipc
        sysvipckey := system.sysvipckey uid name
        instancename := name.elim before.instancename.release NamePointer.decoded }, 0⟩ := by
  obtain ⟨isKey, isName, isUser⟩ := named_groups name user
  rw [System.uidOf] at isUid
  rw [System.urlDecodeIpc, found]
  simp only [isKey, isName, isUser, Option.elim_none, ne_eq, not_true_eq_false, if_false, nameFits,
    userFits, Bool.false_eq_true, isUid]

/-- Names that are too long, and a user that does not exist, are all that is refused. -/
theorem urlDecodeIpc_named_inv (success : (system.urlDecodeIpc before url).rc = 0) :
    isTooLong name = false ∧ isTooLong user = false ∧ ∃ uid, system.uidOf user = some uid := by
  obtain ⟨isKey, isName, isUser⟩ := named_groups name user
  have failed : (-1 : Int) ≠ 0 := by decide
  rw [System.urlDecodeIpc, found] at success
  simp only [isKey, isName, isUser, Option.elim_none, ne_eq, not_true_eq_false, if_false] at success
  by_cases nameLong : isTooLong name = true
  · simp_all
  · rw [if_neg nameLong] at success
    by_cases userLong : isTooLong user = true
    · simp_all
    · rw [if_neg userLong] at success
      grind [System.uidOf]

theorem urlDecodeIpc_named_exact_iff :
    system.DecodesAs before (system.urlDecodeIpc before url) (.named name user) ↔
      system.Decodable before (.named name user) := by
  constructor
  · intro given text isText notDefault nameFits userFits uid isUid
    have decoded := urlDecodeIpc_named system before found nameFits userFits isUid
    rw [decoded] at given
    obtain ⟨_, _, other, isOther, key⟩ := given.denotes rfl
    simp_all [sysvipckey_eq_iff]
  · intro decodable
    refine ⟨fun success => ?_, fun unfit => absurd trivial unfit⟩
    obtain ⟨nameFits, userFits, uid, isUid⟩ :=
      urlDecodeIpc_named_inv system before found success
    rw [urlDecodeIpc_named system before found nameFits userFits isUid]
    refine ⟨rfl, fun text isText => ?_, uid, isUid, ?_⟩
    · simp_all
    · refine (sysvipckey_eq_iff system uid name).mpr fun text isText notDefault => ?_
      exact decodable text isText notDefault nameFits userFits uid isUid

end Named

theorem atol_port {port : List Byte} (fits : decimalNumber port ≤ 65535) :
    (atol port % 65536).toNat = decimalNumber port := by
  grind [atol, clipLong_self]

theorem isPort_of_portOf {port : Option (List Byte)} {found : Nat}
    (isPort : system.portOf port = some found)
    (fits : ∀ text ∈ port, text ≠ [] → text.all isdigit = true → decimalNumber text ≤ 65535) :
    system.IsPort found port := by
  cases port with
  | none => exact (Option.some.inj isPort).symm
  | some text =>
      intro nonempty
      rw [System.portOf] at isPort
      by_cases digits : text.all isdigit = true
      · rw [if_pos digits] at isPort ⊢
        rw [← Option.some.inj isPort, atol_port (fits text rfl nonempty digits)]
      · simp_all [if_neg]

theorem not_isPort {text : List Byte} {found : Nat}
    (isPort : system.portOf (some text) = some found) (nonempty : text ≠ []) (digits : text.all isdigit = true)
    (unfit : 65535 < decimalNumber text) : ¬system.IsPort found (some text) := by
  intro same
  have isNumber := same nonempty
  rw [if_pos digits] at isNumber
  rw [System.portOf, if_pos digits] at isPort
  have isRest := Option.some.inj isPort
  omega

section Broker

variable {mwadr : MwAddress} {host : List Byte} {port domain : Option (List Byte)}

theorem urlDecodeSrbp_domain
    (found : reSrbp.exec url = some (Written.broker none domain).captures) :
    system.urlDecodeSrbp mwadr url =
      (domain.bind system.brokerOf).elim
        ⟨-1, { mwadr with domain := domain.elim mwadr.domain some }, 0⟩ fun sin =>
          ⟨0, { mwadr with
            domain := domain.elim mwadr.domain some
            ipaddress := some sin }, 0⟩ := by
  obtain ⟨isHost, isPort, isDomain⟩ := broker_groups none domain
  rw [System.urlDecodeSrbp, found]
  simp only [isHost, isPort, isDomain, Option.map_none, Option.bind_none, System.portOf, and_true]
  cases domain with
  | none => rfl
  | some text =>
      grind

theorem urlDecodeSrbp_host
    (found : reSrbp.exec url = some (Written.broker (some (host, port)) domain).captures) :
    system.urlDecodeSrbp mwadr url =
      (system.portOf port).elim
        ⟨-1, { mwadr with domain := domain.elim mwadr.domain some }, 0⟩ fun number =>
          (system.getaddrinfo host).elim
            ⟨-1, { mwadr with domain := domain.elim mwadr.domain some }, 0⟩ fun addr =>
              ⟨0, { mwadr with
                domain := domain.elim mwadr.domain some
                ipaddress := some ⟨number, addr⟩ }, 0⟩ := by
  obtain ⟨isHost, isPort, isDomain⟩ := broker_groups (some (host, port)) domain
  have known : ¬(domain = none ∧ some host = none) := fun both => Option.some_ne_none host both.2
  rw [System.urlDecodeSrbp, found]
  grind

end Broker

theorem fits_or_unfit (authority : Option (List Byte × Option (List Byte)))
    (domain : Option (List Byte)) : (Written.broker authority domain).Fits ∨
      ∃ host text, authority = some (host, some text) ∧ text ≠ [] ∧ text.all isdigit = true ∧
        65535 < decimalNumber text := by
  by_cases fits : (Written.broker authority domain).Fits
  · exact .inl fits
  · simp_all [Written.Fits]

theorem decodable_of_fits {authority : Option (List Byte × Option (List Byte))}
    {domain : Option (List Byte)} (fits : (Written.broker authority domain).Fits) :
    system.Decodable before (.broker authority domain) := by
  intro part isPart port isPort nonempty digits unfit
  exact absurd (fits part isPart port isPort nonempty digits) (Nat.not_le.mpr unfit)

theorem urlDecodeSrbp_denotes {authority : Option (List Byte × Option (List Byte))}
    {domain : Option (List Byte)}
    (found : reSrbp.exec url = some (Written.broker authority domain).captures)
    (fits : (Written.broker authority domain).Fits)
    (success : (system.urlDecodeSrbp { before with protocol := mwSrbp } url).rc = 0) :
    system.Denotes (system.urlDecodeSrbp { before with protocol := mwSrbp } url).mwadr
      (.broker authority domain) := by
  have failed : (-1 : Int) ≠ 0 := by decide
  have isDomain : ∀ text ∈ domain, domain.elim before.domain some = some text := by
    simp_all
  cases authority with
  | none =>
      rw [urlDecodeSrbp_domain system found] at success ⊢
      cases broker : domain.bind system.brokerOf with
      | none =>
          simp [broker] at success
      | some sin =>
          refine ⟨rfl, isDomain, sin, rfl, fun _ => broker, fun part isPart => ?_⟩
          cases isPart
  | some part =>
      obtain ⟨host, port⟩ := part
      rw [urlDecodeSrbp_host system found] at success ⊢
      cases isPort : system.portOf port with
      | none =>
          simp [isPort] at success
      | some number =>
          cases isHost : system.getaddrinfo host with
          | none =>
              simp [isPort, isHost] at success
          | some addr =>
              refine ⟨rfl, isDomain, ⟨number, addr⟩, rfl, fun isNone => ?_, fun part isPart => ?_⟩
              · cases isNone
              · cases isPart
                exact ⟨isHost, isPort_of_portOf system isPort (fits _ rfl)⟩

theorem urlDecodeSrbp_unfit_iff {host text : List Byte} {domain : Option (List Byte)}
    (found : reSrbp.exec url = some (Written.broker (some (host, some text)) domain).captures)
    (nonempty : text ≠ []) (digits : text.all isdigit = true)
    (unfit : 65535 < decimalNumber text) :
    system.DecodesAs before (system.urlDecodeSrbp { before with protocol := mwSrbp } url)
      (.broker (some (host, some text)) domain) ↔
        system.getaddrinfo host = none ∧ before.protocol = mwSrbp ∧
          ∀ name ∈ domain, before.domain = some name := by
  have isPort : system.portOf (some text) = some (atol text % 65536).toNat := by
    rw [System.portOf, if_pos digits]
  have notFits : ¬(Written.broker (some (host, some text)) domain).Fits := by
    intro fits
    exact absurd (fits _ rfl text rfl nonempty digits) (Nat.not_le.mpr unfit)
  rw [urlDecodeSrbp_host system found, isPort]
  cases isHost : system.getaddrinfo host with
  | some addr =>
      constructor
      · intro given
        obtain ⟨_, _, sin, isSin, _, denotes⟩ := given.denotes rfl
        cases isSin
        exact absurd (denotes _ rfl).2 (not_isPort system isPort nonempty digits unfit)
      · simp
  | none =>
      constructor
      · intro given
        have same := (given.refuses notFits).2.2
        refine ⟨rfl, (congrArg MwAddress.protocol same).symm, fun name isName => ?_⟩
        have sameDomain := (congrArg MwAddress.domain same).symm
        rw [Option.mem_def.mp isName] at sameDomain
        exact sameDomain
      · intro given
        obtain ⟨_, isProtocol, isDomain⟩ := given
        have failed : (-1 : Int) ≠ 0 := by decide
        have negative : (-1 : Int) < 0 := by decide
        have sameDomain : domain.elim before.domain some = before.domain := by
          cases domain with
          | none => rfl
          | some name => exact (isDomain name rfl).symm
        have same : { before with
            protocol := mwSrbp
            domain := domain.elim before.domain some } = before := by
          rw [sameDomain, ← isProtocol]
        exact ⟨fun success => absurd success failed, fun _ => ⟨negative, rfl, same⟩⟩

theorem urlDecodeSrbp_exact_iff {authority : Option (List Byte × Option (List Byte))}
    {domain : Option (List Byte)}
    (found : reSrbp.exec url = some (Written.broker authority domain).captures) :
    system.DecodesAs before (system.urlDecodeSrbp { before with protocol := mwSrbp } url)
      (.broker authority domain) ↔ system.Decodable before (.broker authority domain) := by
  rcases fits_or_unfit authority domain with fits | ⟨host, text, rfl, nonempty, digits, unfit⟩
  · exact ⟨fun _ => decodable_of_fits system before fits, fun _ =>
      ⟨urlDecodeSrbp_denotes system before found fits, fun notFits => absurd fits notFits⟩⟩
  · rw [urlDecodeSrbp_unfit_iff system before found nonempty digits unfit]
    constructor
    · intro given part isPart port isPort _ _ _
      cases isPart
      exact given
    · intro decodable
      exact decodable _ rfl text rfl nonempty digits unfit

theorem regerror_eq_zero_iff : system.regerror url = 0 ↔
    min (system.noMatch.length + 1) 255 ≤ url.length + 1 :=
  Nat.sub_eq_zero_iff_le

theorem urlDecodeIpc_nothing_iff (found : reIpc.exec url = none) :
    (system.urlDecodeIpc before url).Refused before ↔
      min (system.noMatch.length + 1) 255 ≤ url.length + 1 ∧
        before.instancename.release = before.instancename := by
  rw [System.urlDecodeIpc, found, UrlDecoded.Refused, regerror_eq_zero_iff]
  constructor
  · grind
  · simp_all

theorem urlDecodeSrbp_nothing_iff (found : reSrbp.exec url = none) :
    (system.urlDecodeSrbp { before with protocol := mwSrbp } url).Refused before ↔
      min (system.noMatch.length + 1) 255 ≤ url.length + 1 ∧ before.protocol = mwSrbp := by
  rw [System.urlDecodeSrbp, found, UrlDecoded.Refused, regerror_eq_zero_iff]
  constructor
  · grind
  · intro given
    have negative : (-1 : Int) < 0 := by decide
    refine ⟨negative, given.1, ?_⟩
    rw [← given.2]

theorem mwDecodeUrl_cases (url : List Byte) :
    (hasScheme ipcScheme (withScheme url) = true ∧
      system.mwDecodeUrl before url = system.urlDecodeIpc before (withScheme url)) ∨
    (hasScheme srbpScheme (withScheme url) = true ∧ system.mwDecodeUrl before url =
      system.urlDecodeSrbp { before with protocol := mwSrbp } (withScheme url)) := by
  rw [System.mwDecodeUrl]
  by_cases isIpc : hasScheme ipcScheme url = true
  · simp [withScheme, isIpc]
  · by_cases isSrbp : hasScheme srbpScheme url = true
    · simp [withScheme, isSrbp, isIpc]
    · rw [if_neg isIpc, if_neg isSrbp]
      refine .inl ⟨?_, rfl⟩
      rw [withScheme, if_neg (not_or.mpr ⟨isIpc, isSrbp⟩)]
      split_ifs
      · rfl
      · rfl

theorem exact_iff_of_spells {written : Written} (spells : Spells (withScheme url) written)
    (written_iff : system.DecodesAs before decoded written ↔ system.Decodable before written) :
    system.DecodesExactly before url decoded ↔
      (∀ written, Spells (withScheme url) written → system.Decodable before written) ∧
        ((∀ written, ¬Spells (withScheme url) written) →
          system.Refusable before (withScheme url)) := by
  grind [decodesExactly_of_spells, spells_unique]

theorem exact_iff_of_nothing (nothing : ∀ written, ¬Spells (withScheme url) written)
    (refused_iff : decoded.Refused before ↔ system.Refusable before (withScheme url)) :
    system.DecodesExactly before url decoded ↔
      (∀ written, Spells (withScheme url) written → system.Decodable before written) ∧
        ((∀ written, ¬Spells (withScheme url) written) →
          system.Refusable before (withScheme url)) := by
  simp_all [decodesExactly_of_nothing]

end Exactness

/-- A URL is decoded as what is written in it, or refused, if and only if what is written is
decodable, and what spells nothing is refusable. -/
theorem mwDecodeUrl_exact_iff (system : System) (before : MwAddress) (url : List Byte) :
    system.DecodesExactly before url (system.mwDecodeUrl before url) ↔
      (∀ written, Spells (withScheme url) written → system.Decodable before written) ∧
        ((∀ written, ¬Spells (withScheme url) written) →
          system.Refusable before (withScheme url)) := by
  rcases mwDecodeUrl_cases system before url with ⟨has, same⟩ | ⟨has, same⟩
  · rw [same]
    rcases exec_cases has (.inl rfl) (fun _ => matches_reIpc_iff) with
      ⟨isNone, nothing⟩ | ⟨written, isBody, found⟩
    · refine exact_iff_of_nothing system before nothing ?_
      have notSrbp : ¬hasScheme srbpScheme (withScheme url) = true := fun other =>
        scheme_unique has other
      rw [urlDecodeIpc_nothing_iff system before isNone, System.Refusable, if_neg notSrbp]
    · have spells := (spells_of_hasScheme has (.inl rfl)).mpr isBody
      refine exact_iff_of_spells system before spells ?_
      cases written with
      | key digits => exact urlDecodeIpc_key_exact_iff system before found
      | named name user => exact urlDecodeIpc_named_exact_iff system before found
      | broker authority domain =>
          exact absurd (body_broker_iff.mp isBody).1 (by decide)
  · rw [same]
    rcases exec_cases has (.inr rfl) (fun _ => matches_reSrbp_iff) with
      ⟨isNone, nothing⟩ | ⟨written, isBody, found⟩
    · simp_all [urlDecodeSrbp_nothing_iff, System.Refusable, exact_iff_of_nothing]
    · have spells := (spells_of_hasScheme has (.inr rfl)).mpr isBody
      refine exact_iff_of_spells system before spells ?_
      cases written with
      | key digits => exact absurd (body_key_iff.mp isBody).1 (by decide)
      | named name user => exact absurd (body_named_iff.mp isBody).1 (by decide)
      | broker authority domain => exact urlDecodeSrbp_exact_iff system before found

def emptyAddress : MwAddress where
  protocol := 0
  sysvipckey := 0
  domain := none
  instancename := .null
  ipaddress := none

def lonelySystem : System where
  getuid := 500
  getpwnam := fun _ => none
  instanceHome := fun _ name => name
  ftok := fun _ _ => 77
  getservbyname := fun _ => none
  getaddrinfo := fun _ => none
  brokerOf := fun _ => none
  noMatch := ascii "No match".toList

/-- The largest key of 32 bits is taken for none, and the user's own instance is what is given. -/
theorem mwDecodeUrl_takes_own_key :
    (lonelySystem.mwDecodeUrl emptyAddress (ascii "ipc:4294967295".toList)).rc = 0 ∧
      (lonelySystem.mwDecodeUrl emptyAddress
        (ascii "ipc:4294967295".toList)).mwadr.sysvipckey = 500 ∧
      ¬lonelySystem.DecodesExactly emptyAddress (ascii "ipc:4294967295".toList)
        (lonelySystem.mwDecodeUrl emptyAddress (ascii "ipc:4294967295".toList)) := by
  have success : (lonelySystem.mwDecodeUrl emptyAddress
      (ascii "ipc:4294967295".toList)).rc = 0 := by
    decide
  have own : (lonelySystem.mwDecodeUrl emptyAddress
      (ascii "ipc:4294967295".toList)).mwadr.sysvipckey = 500 := by
    decide
  refine ⟨success, own, fun exact => ?_⟩
  have isWord : IsWord isdigit (ascii "4294967295".toList) :=
    ⟨by decide, by decide +kernel⟩
  have isKey : Spells (withScheme (ascii "ipc:4294967295".toList))
      (.key (ascii "4294967295".toList)) :=
    ⟨ipcScheme, ipcScheme, _, by decide, by decide, .key isWord⟩
  obtain ⟨written, spells, denotes⟩ := exact.denotes success
  rw [← spells_unique isKey spells] at denotes
  have different : (500 : Int) ≠ decimalNumber (ascii "4294967295".toList) := by decide
  exact different (own.symm.trans denotes.2)

end MidWay.Client

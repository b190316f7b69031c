import MidWay.Gateway.SrbServer

/-!
Contract: what the readers of the fields do to the message.

A reader gives a value and leaves the message alone, or it turns the message into a
reject, with four fields more. Another field is read from the reject as from the
message; only the marker tells a later reader that something was wrong.

Owns: which fields a reader refuses, and `Exchange.Leads`, the rule by which several
readers are put behind each other.
-/

namespace MidWay.Gateway

open MidWay.CLib MidWay.Url MidWay.Srb

inductive FieldKind where
  | text
  | decimal
  | hexadecimal
deriving DecidableEq, Repr

structure Requirement where
  fieldname : List Byte
  kind : FieldKind
deriving DecidableEq, Repr

def FieldKind.parses (text : List Byte) : FieldKind → Bool
  | .text => true
  | .decimal => (sscanfD text).isSome
  | .hexadecimal => (sscanfX text).isSome

/-- The field is absent, or has no value, or one that is no number. -/
def Exchange.defective (exchange : Exchange) (requirement : Requirement) : Bool :=
  match szGetOptField exchange requirement.fieldname with
  | none => true
  | some text => !requirement.kind.parses text

/-- The field is there, but has no value, or one that is no number. -/
def Exchange.unreadable (exchange : Exchange) (requirement : Requirement) : Bool :=
  (exchange.field requirement.fieldname).isSome && exchange.defective requirement

def KeptByReject (fieldname : List Byte) : Prop :=
  strcaseeq fieldname srbReasoncode = false ∧ strcaseeq fieldname srbReason = false ∧
    strcaseeq fieldname srbCausefield = false ∧ strcaseeq fieldname srbCausevalue = false

instance (fieldname : List Byte) : Decidable (KeptByReject fieldname) :=
  inferInstanceAs (Decidable (_ ∧ _ ∧ _ ∧ _))

theorem Exchange.field_eq (exchange : Exchange) (fieldname : List Byte) :
    exchange.field fieldname =
      exchange.srbmsg.map.find? fun entry => strcaseeq fieldname entry.key :=
  List.find?_eq_bind_findIdx?_getElem?.symm

theorem find?_urlmapnset {map after : Urlmap} {key fieldname : List Byte}
    {value : Option (List Byte)} (isOther : ∀ other, strcaseeq key other = true →
      strcaseeq fieldname other = false) (set : urlmapnset map key value = some after) :
    (after.find? fun entry => strcaseeq fieldname entry.key) =
      map.find? fun entry => strcaseeq fieldname entry.key := by
  induction map generalizing after with
  | nil => cases set
  | cons entry rest ih =>
      rw [urlmapnset] at set
      split_ifs at set with isKey
      · grind
      · obtain ⟨later, isLater, rfl⟩ := Option.map_eq_some_iff.mp set
        rw [List.find?_cons, List.find?_cons, ih isLater]

/-- A field of another name does not matter. -/
theorem find?_mwSrbNsetfield (srbmsg : SRBmessage) {key fieldname : List Byte} (value : List Byte)
    (isOther : strcaseeq fieldname key = false) :
    ((mwSrbNsetfield srbmsg key value).map.find? fun entry => strcaseeq fieldname entry.key) =
      srbmsg.map.find? fun entry => strcaseeq fieldname entry.key := by
  unfold mwSrbNsetfield
  cases added : urlmapnadd srbmsg.map key (some value) with
  | some map =>
      grind [urlmapnadd]
  | none =>
      dsimp only
      cases set : urlmapnset srbmsg.map key (some value) with
      | none => rfl
      | some map =>
          refine find?_urlmapnset ?_ set
          intro other isKey
          simp_all [beq_iff_eq, isKey, strcaseeq, isOther]

theorem Exchange.field_reject_kept (exchange : Exchange) (conn : Connection)
    (causefield causevalue : Option (List Byte)) (rcode : Int) {fieldname : List Byte}
    (kept : KeptByReject fieldname) :
    (exchange.reject conn causefield causevalue rcode).field fieldname =
      exchange.field fieldname := by
  obtain ⟨code, reason, field, value⟩ := kept
  rw [Exchange.field_eq, Exchange.field_eq, Exchange.reject, mwSrbsendreject]
  cases conn.rejects with
  | false => rfl
  | true =>
      have coded : ((mwSrbSetfield
          (mwSrbSetfieldi { exchange.srbmsg with marker := srbRejectMarker } srbReasoncode rcode)
            srbReason (mwSrbReason rcode)).map.find? fun entry => strcaseeq fieldname entry.key) =
          exchange.srbmsg.map.find? fun entry => strcaseeq fieldname entry.key :=
        (find?_mwSrbNsetfield _ _ reason).trans (find?_mwSrbNsetfield _ _ code)
      rw [if_neg (by decide)]
      cases causefield with
      | none =>
          cases causevalue with
          | none => exact coded
          | some text => exact (find?_mwSrbNsetfield _ _ value).trans coded
      | some name =>
          have named := (find?_mwSrbNsetfield _ name field).trans coded
          cases causevalue with
          | none => exact named
          | some text => exact (find?_mwSrbNsetfield _ _ value).trans named

/-- From an exchange to a later one: nothing was turned away, and all is as before, or the message
is a reject now. -/
structure Exchange.Leads (conn : Connection) (start after : Exchange) (turned : Bool) : Prop where
  field : ∀ fieldname, KeptByReject fieldname → after.field fieldname = start.field fieldname
  same : turned = false → after = start
  marker : turned = true → after.srbmsg.marker = srbRejectMarker
  sends : turned = true → conn.rejects = true →
    ∃ answer ∈ after.answers, answer.marker = srbRejectMarker
  silent : conn.rejects = false → after.answers = start.answers

section

variable {conn : Connection} {start middle after : Exchange} {first second : Bool}

theorem Exchange.Leads.refl (conn : Connection) (exchange : Exchange) :
    exchange.Leads conn exchange false :=
  ⟨fun _ _ => rfl, fun _ => rfl, fun isTrue => (nomatch isTrue), fun isTrue => (nomatch isTrue),
    fun _ => rfl⟩

theorem Exchange.Leads.trans (begins : start.Leads conn middle first)
    (ends : middle.Leads conn after second) : start.Leads conn after (first || second) := by
  refine ⟨?_, ?_, ?_, ?_, fun noRejects => (ends.silent noRejects).trans (begins.silent noRejects)⟩
  · simp_all [ends.field, begins.field]
  · simp_all [Bool.or_eq_false_iff, ends.same, begins.same]
  · intro either
    cases second with
    | true => exact ends.marker rfl
    | false =>
        simp_all [Bool.or_false, ends.same, begins.marker]
  · intro either rejects
    cases second with
    | true => exact ends.sends rfl rejects
    | false =>
        simp_all [Bool.or_false, ends.same, begins.sends]

theorem marker_mwSrbNsetfield (srbmsg : SRBmessage) (key value : List Byte) :
    (mwSrbNsetfield srbmsg key value).marker = srbmsg.marker := by
  grind [mwSrbNsetfield]

theorem marker_mwSrbsendreject (rejects : Bool) (srbmsg : SRBmessage)
    (causefield causevalue : Option (List Byte)) (rcode : Int) :
    (mwSrbsendreject rejects srbmsg causefield causevalue rcode).1.marker = srbRejectMarker := by
  unfold mwSrbsendreject mwSrbSetfield mwSrbSetfieldi
  dsimp only
  split_ifs
  · rfl
  · grind [marker_mwSrbNsetfield]

theorem Exchange.Leads.reject (conn : Connection) (exchange : Exchange)
    (causefield causevalue : Option (List Byte)) (rcode : Int) :
    exchange.Leads conn (exchange.reject conn causefield causevalue rcode) true := by
  refine ⟨fun _ => exchange.field_reject_kept conn causefield causevalue rcode,
    fun isFalse => (nomatch isFalse), fun _ => marker_mwSrbsendreject _ _ _ _ _, ?_, ?_⟩
  · intro _ rejects
    have marker := marker_mwSrbsendreject conn.rejects exchange.srbmsg causefield causevalue rcode
    unfold Exchange.reject mwSrbsendreject at *
    rw [rejects, if_neg (by decide)] at *
    exact ⟨_, List.mem_append_right _ List.mem_cons_self, marker⟩
  · intro noRejects
    unfold Exchange.reject mwSrbsendreject
    rw [noRejects]
    exact List.append_nil _

end

section

variable (conn : Connection) (exchange : Exchange) (fieldname : List Byte)

theorem defective_text :
    exchange.defective ⟨fieldname, .text⟩ = (szGetOptField exchange fieldname).isNone := by
  unfold Exchange.defective
  cases szGetOptField exchange fieldname with
  | none => rfl
  | some text => rfl

theorem szGetReqField_cases :
    (∃ after, szGetReqField conn exchange fieldname = (none, after) ∧
      exchange.Leads conn after true ∧ exchange.defective ⟨fieldname, .text⟩ = true) ∨
    (∃ text, szGetReqField conn exchange fieldname = (some text, exchange) ∧
      szGetOptField exchange fieldname = some text ∧
      exchange.defective ⟨fieldname, .text⟩ = false) := by
  rw [defective_text]
  unfold szGetReqField szGetOptField
  cases exchange.field fieldname with
  | none => exact .inl ⟨_, rfl, .reject conn exchange _ _ _, rfl⟩
  | some entry =>
      dsimp only [Option.bind_some]
      cases entry.value with
      | none => exact .inl ⟨_, rfl, .reject conn exchange _ _ _, rfl⟩
      | some text => exact .inr ⟨text, rfl, rfl, rfl⟩

theorem iGetOptField_leads (value : Int) : ∃ result number after,
    iGetOptField conn exchange fieldname value = (result, number, after) ∧
      exchange.Leads conn after (exchange.unreadable ⟨fieldname, .decimal⟩) ∧
      (result = .failed ↔ exchange.unreadable ⟨fieldname, .decimal⟩ = true) ∧
      (result = .absent ↔ exchange.field fieldname = none) := by
  unfold iGetOptField Exchange.unreadable Exchange.defective szGetOptField
  cases exchange.field fieldname with
  | none =>
      exact ⟨_, _, _, rfl, .refl conn exchange, iff_of_false (by decide) Bool.false_ne_true,
        by simp⟩
  | some entry =>
      dsimp only [Option.bind_some]
      cases entry.value with
      | none => exact ⟨_, _, _, rfl, .reject conn exchange _ _ _, iff_of_true rfl rfl, by simp⟩
      | some text =>
          dsimp only [FieldKind.parses]
          cases sscanfD text with
          | none =>
              exact ⟨_, _, _, rfl, .reject conn exchange _ _ _, iff_of_true rfl rfl, by simp⟩
          | some number =>
              exact ⟨_, _, _, rfl, .refl conn exchange, iff_of_false (by decide) Bool.false_ne_true,
                by simp⟩

theorem unreadable_of_field (requirement : Requirement)
    (present : exchange.field requirement.fieldname ≠ none) :
    exchange.unreadable requirement = exchange.defective requirement := by
  rw [Exchange.unreadable, Option.isSome_iff_ne_none.mpr present, Bool.true_and]

theorem iGetReqField_leads (value : Int) : ∃ result number after,
    iGetReqField conn exchange fieldname value = (result, number, after) ∧
      exchange.Leads conn after (exchange.defective ⟨fieldname, .decimal⟩) ∧
      (result = .failed ↔ exchange.defective ⟨fieldname, .decimal⟩ = true) := by
  obtain ⟨result, number, after, read, leads, failed, absent⟩ :=
    iGetOptField_leads conn exchange fieldname value
  rw [iGetReqField, read]
  by_cases present : exchange.field fieldname = none
  · have isDefective : exchange.defective ⟨fieldname, .decimal⟩ = true := by
      unfold Exchange.defective szGetOptField
      rw [present]
      rfl
    have readable : exchange.unreadable ⟨fieldname, .decimal⟩ = false := by
      simp [Exchange.unreadable, present]
    rw [absent.mpr present, isDefective, leads.same readable]
    exact ⟨_, _, _, rfl, .reject conn exchange _ _ _, iff_of_true rfl rfl⟩
  · simp_all [unreadable_of_field]

theorem xGetReqField_null {entry : UrlmapEntry} (isField : exchange.field fieldname = some entry)
    (noValue : entry.value = none) (value : UInt32) :
    xGetReqField conn exchange fieldname value = .error .nullPointer := by
  simp [isField, noValue, xGetReqField, xGetOptField]

theorem xGetReqField_leads (hasValue : ∀ entry, exchange.field fieldname = some entry →
      entry.value ≠ none) (value : UInt32) : ∃ result number after,
    xGetReqField conn exchange fieldname value = .ok (result, number, after) ∧
      exchange.Leads conn after (exchange.defective ⟨fieldname, .hexadecimal⟩) ∧
      (result = .failed ↔ exchange.defective ⟨fieldname, .hexadecimal⟩ = true) := by
  unfold xGetReqField xGetOptField Exchange.defective szGetOptField
  cases isField : exchange.field fieldname with
  | none => exact ⟨_, _, _, rfl, .reject conn exchange _ _ _, iff_of_true rfl rfl⟩
  | some entry =>
      dsimp only [Option.bind_some]
      cases isValue : entry.value with
      | none => exact absurd isValue (hasValue entry isField)
      | some text =>
          dsimp only [FieldKind.parses]
          cases sscanfX text with
          | none => exact ⟨_, _, _, rfl, .reject conn exchange _ _ _, iff_of_true rfl rfl⟩
          | some number =>
              exact ⟨_, _, _, rfl, .refl conn exchange,
                iff_of_false (by decide) Bool.false_ne_true⟩

end

theorem Exchange.Leads.defective {conn : Connection} {start after : Exchange} {turned : Bool}
    (leads : start.Leads conn after turned) (requirement : Requirement)
    (kept : KeptByReject requirement.fieldname) :
    after.defective requirement = start.defective requirement := by
  unfold Exchange.defective szGetOptField
  rw [leads.field _ kept]

theorem Exchange.Leads.unreadable {conn : Connection} {start after : Exchange} {turned : Bool}
    (leads : start.Leads conn after turned) (requirement : Requirement)
    (kept : KeptByReject requirement.fieldname) :
    after.unreadable requirement = start.unreadable requirement := by
  rw [Exchange.unreadable, leads.field _ kept, leads.defective requirement kept]
  rfl

end MidWay.Gateway

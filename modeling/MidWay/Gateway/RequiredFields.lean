import MidWay.Gateway.Attachment
import MidWay.Gateway.HandlerStages

/-!
Contract: what becomes of a message without a field that its handler requires.

Most tests of a reader end the handler with a reject. The test `!(iGetReqField(...))`
does not: the reader returns -1 or 1 there, so the handler goes on with a variable that
was never written, after the reject. The reader of hexadecimal numbers follows the
value of a field that has none. In `srbcall_req` a reject for an earlier field hides
that the message is a request, and its handle is not read at all.

Owns: the fields each handler requires, what its tests find, and that a message is
refused exactly when a test finds the defect and rejects are sent.
-/

namespace MidWay.Gateway

open MidWay.CLib MidWay.Url MidWay.Srb

def switchesLegal (exchange : Exchange) : Bool :=
  optionalIs exchange srbReverse [srbYes, srbNo] &&
    optionalIs exchange srbRejects [srbYes, srbNo] &&
    optionalIs exchange srbAuthentication [srbAuthNone, srbAuthPass, srbAuthX509]

/-- A field is not required of an `INIT` that is answered for what an earlier one says. -/
def initRequires (session : Session) (exchange : Exchange) : List Requirement :=
  ⟨srbVersion, .text⟩ ::
    match szGetOptField exchange srbVersion with
    | none => []
    | some version =>
        if strcaseeq srbprotocolversion (cstr version) = false then []
        else
          ⟨srbType, .text⟩ ::
            match (szGetOptField exchange srbType).bind initRole with
            | none => []
            | some role =>
                if session.admits role = false then []
                else
                  ⟨srbName, .text⟩ ::
                    if role = .gateway ∧ switchesLegal exchange = true then
                      [⟨srbInstance, .text⟩, ⟨srbPeerdomain, .text⟩]
                    else []

/-- Nothing is required of a message that is of no use on its connection, whatever its fields
are. -/
def Handler.requires (session : Session) (srbmsg : SRBmessage) : Handler → List Requirement
  | .srbprovide =>
      if srbmsg.marker = srbNotificationMarker then [⟨srbCost, .decimal⟩, ⟨srbSvcname, .text⟩]
      else []
  | .srbunprovide =>
      if srbmsg.marker = srbNotificationMarker then [⟨srbSvcname, .text⟩] else []
  | .srbsubscribe =>
      if srbmsg.marker = srbRequestMarker ∨ srbmsg.marker = srbResponseMarker then []
      else [⟨srbPattern, .text⟩, ⟨srbMatch, .text⟩, ⟨srbSubscriptionid, .decimal⟩]
  | .srbunsubscribe =>
      if srbmsg.marker = srbRequestMarker ∨ srbmsg.marker = srbResponseMarker then []
      else [⟨srbSubscriptionid, .decimal⟩]
  | .srbcallReq =>
      if connGetinfo session.conn = unassigned then []
      else
        [⟨srbSvcname, .text⟩, ⟨srbHops, .decimal⟩] ++
          if srbmsg.marker = srbRequestMarker then [⟨srbHandle, .hexadecimal⟩] else []
  | .srbcallRpl =>
      if connGetinfo session.conn = unassigned then []
      else [⟨srbSvcname, .text⟩, ⟨srbHandle, .hexadecimal⟩, ⟨srbReturncode, .decimal⟩]
  | .srbinit =>
      if srbmsg.marker = srbRequestMarker then initRequires session ⟨srbmsg, []⟩
      else if srbmsg.marker = srbResponseMarker then [⟨srbReturncode, .decimal⟩]
      else []

def Exchange.longName (exchange : Exchange) : Bool :=
  (szGetOptField exchange srbSvcname).any fun svcname =>
    decide ((cstr svcname).length > mwMaxSvcName)

def Exchange.valueless (exchange : Exchange) (fieldname : List Byte) : Bool :=
  (exchange.field fieldname).any fun entry => entry.value.isNone

/-- A reject before the handle is read makes the handler take the message for no request. -/
def Exchange.turnedEarly (exchange : Exchange) : Bool :=
  exchange.defective ⟨srbHops, .decimal⟩ || exchange.unreadable ⟨srbDatatotal, .decimal⟩ ||
    exchange.unreadable ⟨srbSectolive, .decimal⟩

def Exchange.badHandle (exchange : Exchange) : Bool :=
  exchange.srbmsg.marker == srbRequestMarker && exchange.defective ⟨srbHandle, .hexadecimal⟩

def callTested (exchange : Exchange) : Bool :=
  exchange.defective ⟨srbSvcname, .text⟩ ||
    (!exchange.longName &&
      ((!exchange.turnedEarly && exchange.badHandle) ||
        !optionalIs exchange srbNoreply [srbYes, srbNo]))

def Handler.tested (srbmsg : SRBmessage) : Handler → Bool
  | .srbprovide => Exchange.defective ⟨srbmsg, []⟩ ⟨srbSvcname, .text⟩
  | .srbunprovide => true
  | .srbsubscribe =>
      Exchange.defective ⟨srbmsg, []⟩ ⟨srbPattern, .text⟩ ||
        Exchange.defective ⟨srbmsg, []⟩ ⟨srbMatch, .text⟩
  | .srbunsubscribe => false
  | .srbcallReq => callTested ⟨srbmsg, []⟩
  | .srbcallRpl =>
      Exchange.defective ⟨srbmsg, []⟩ ⟨srbSvcname, .text⟩ || Exchange.longName ⟨srbmsg, []⟩ ||
        !Exchange.valueless ⟨srbmsg, []⟩ srbHandle
  | .srbinit => srbmsg.marker == srbRequestMarker

structure HandlerStage.Judged (conn : Connection) (stage : HandlerStage) (tested : Bool) :
    Prop where
  ends : tested = true → ∃ answers, stage = .ended answers ∧
    (conn.rejects = true → ∃ answer ∈ answers, answer.marker = srbRejectMarker) ∧
    (conn.rejects = false → answers = [])
  goesOn : tested = false → ∀ answers, stage ≠ .ended answers

section

variable {conn : Connection} {srbmsg : SRBmessage} {after : Exchange}

theorem HandlerStage.Judged.ended (leads : Exchange.Leads conn ⟨srbmsg, []⟩ after true) :
    HandlerStage.Judged conn (.ended after.answers) true :=
  ⟨fun _ => ⟨_, rfl, leads.sends rfl, leads.silent⟩, fun isFalse => (nomatch isFalse)⟩

theorem HandlerStage.Judged.acts (conn : Connection) : HandlerStage.Judged conn .acts false :=
  ⟨fun isTrue => (nomatch isTrue), fun _ _ isEnded => (nomatch isEnded)⟩

theorem HandlerStage.Judged.failed (conn : Connection) (failure : GatewayFailure) :
    HandlerStage.Judged conn (.failed failure) false :=
  ⟨fun isTrue => (nomatch isTrue), fun _ _ isEnded => (nomatch isEnded)⟩

end

section

variable (conn : Connection) (srbmsg : SRBmessage)

theorem readProvide_judged (cost : Int) :
    (readProvide conn cost srbmsg).stage.Judged conn
      (Exchange.defective ⟨srbmsg, []⟩ ⟨srbSvcname, .text⟩) := by
  obtain ⟨result, number, exchange, read, leads, -⟩ :=
    iGetReqField_leads conn ⟨srbmsg, []⟩ srbCost cost
  have sameName := leads.defective ⟨srbSvcname, .text⟩ (by decide)
  unfold readProvide
  rw [read, ← sameName]
  dsimp only
  obtain ⟨after, name, turned, isDefective⟩ | ⟨text, name, -, isFine⟩ :=
    szGetReqField_cases conn exchange srbSvcname
  · rw [name, isDefective]
    have all := leads.trans turned
    rw [Bool.or_true] at all
    exact .ended all
  · rw [name, isFine]
    exact .acts conn

theorem readUnprovide_judged :
    (readUnprovide conn srbmsg).stage.Judged conn
      (Exchange.defective ⟨srbmsg, []⟩ ⟨srbSvcname, .text⟩) := by
  unfold readUnprovide
  obtain ⟨after, name, turned, isDefective⟩ | ⟨text, name, -, isFine⟩ :=
    szGetReqField_cases conn ⟨srbmsg, []⟩ srbSvcname
  · rw [name, isDefective]
    exact .ended turned
  · rw [name, isFine]
    exact .acts conn

theorem readSubscribe_judged (id : Int) :
    (readSubscribe conn id srbmsg).stage.Judged conn
      (Exchange.defective ⟨srbmsg, []⟩ ⟨srbPattern, .text⟩ ||
        Exchange.defective ⟨srbmsg, []⟩ ⟨srbMatch, .text⟩) := by
  unfold readSubscribe
  obtain ⟨after, pattern, turned, noPattern⟩ | ⟨text, pattern, -, hasPattern⟩ :=
    szGetReqField_cases conn ⟨srbmsg, []⟩ srbPattern
  · rw [pattern, noPattern]
    exact .ended turned
  · rw [pattern, hasPattern]
    dsimp only
    obtain ⟨after, type, turned, noMatch⟩ | ⟨type, isType, -, hasMatch⟩ :=
      szGetReqField_cases conn ⟨srbmsg, []⟩ srbMatch
    · rw [type, noMatch]
      exact .ended turned
    · rw [isType, hasMatch]
      exact .acts conn

end

section

variable {conn : Connection} {start after : Exchange} {turned : Bool}

theorem Exchange.Leads.optionalIs (leads : start.Leads conn after turned) {fieldname : List Byte}
    (kept : KeptByReject fieldname) (values : List (List Byte)) :
    optionalIs after fieldname values = optionalIs start fieldname values := by
  unfold Gateway.optionalIs szGetOptField
  rw [leads.field _ kept]

theorem Exchange.Leads.badHandle (leads : start.Leads conn after turned) :
    after.badHandle = (!turned && start.badHandle) := by
  cases turned with
  | true =>
      rw [Exchange.badHandle, leads.marker rfl]
      rfl
  | false => rw [leads.same rfl, Bool.not_false, Bool.true_and]

end

section

variable (conn : Connection) (exchange : Exchange)

theorem callTotal_leads (data : List Byte) : ∃ datatotal after,
    callTotal conn exchange data = (datatotal, after) ∧
      exchange.Leads conn after (exchange.unreadable ⟨srbDatatotal, .decimal⟩) := by
  obtain ⟨_, first, middle, firstRead, begins, -⟩ :=
    iGetOptField_leads conn exchange srbDatatotal 0
  obtain ⟨_, second, after, secondRead, ends, -⟩ :=
    iGetOptField_leads conn middle srbDatatotal (if first = 0 then (data.length : Int) else first)
  have both := begins.trans ends
  rw [begins.unreadable ⟨srbDatatotal, .decimal⟩ (by decide), Bool.or_self] at both
  simp_all [callTotal, firstRead, secondRead]

theorem callHandle_leads (uninit : Uninit) : ∃ handle after,
    callHandle uninit conn exchange = (handle, after) ∧
      exchange.Leads conn after exchange.badHandle ∧
      (handle = none ↔ exchange.badHandle = true) := by
  unfold callHandle Exchange.badHandle
  by_cases isRequest : exchange.srbmsg.marker = srbRequestMarker
  · rw [if_pos isRequest, beq_iff_eq.mpr isRequest, Bool.true_and]
    obtain ⟨after, read, turned, noText⟩ | ⟨text, read, isText, -⟩ :=
      szGetReqField_cases conn exchange srbHandle
    · grind [defective_text, Option.isNone_iff_eq_none, Exchange.defective]
    · rw [read, Exchange.defective, isText]
      dsimp only [FieldKind.parses]
      cases sscanfX text with
      | none => exact ⟨_, _, rfl, .reject conn exchange _ _ _, iff_of_true rfl rfl⟩
      | some handle =>
          exact ⟨_, _, rfl, .refl conn exchange, iff_of_false (by simp) Bool.false_ne_true⟩
  · rw [if_neg isRequest, beq_eq_false_iff_ne.mpr isRequest, Bool.false_and]
    exact ⟨_, _, rfl, .refl conn exchange, iff_of_false (by simp) Bool.false_ne_true⟩

theorem callFlags_leads (flags : UInt32) : ∃ result after,
    callFlags conn exchange flags = (result, after) ∧
      exchange.Leads conn after (!optionalIs exchange srbNoreply [srbYes, srbNo]) ∧
      (result = none ↔ (!optionalIs exchange srbNoreply [srbYes, srbNo]) = true) := by
  unfold callFlags optionalIs
  cases szGetOptField exchange srbNoreply with
  | none => exact ⟨_, _, rfl, .refl conn exchange, iff_of_false (by simp) Bool.false_ne_true⟩
  | some text =>
      dsimp only [List.any]
      cases strcaseeq (cstr text) srbYes with
      | true => exact ⟨_, _, rfl, .refl conn exchange, iff_of_false (by simp) Bool.false_ne_true⟩
      | false =>
          cases strcaseeq (cstr text) srbNo with
          | true =>
              exact ⟨_, _, rfl, .refl conn exchange, iff_of_false (by simp) Bool.false_ne_true⟩
          | false => exact ⟨_, _, rfl, .reject conn exchange _ _ _, iff_of_true rfl rfl⟩

end

section

variable (uninit : Uninit) (conn : Connection) (srbmsg : SRBmessage)

theorem longName_of_text {exchange : Exchange} {svcname : List Byte}
    (isName : szGetOptField exchange srbSvcname = some svcname) :
    exchange.longName = decide ((cstr svcname).length > mwMaxSvcName) := by
  simp [Exchange.longName, isName]

theorem readCall_judged :
    (readCall uninit conn srbmsg).stage.Judged conn (callTested ⟨srbmsg, []⟩) := by
  unfold readCall callTested
  obtain ⟨after, name, turned, noName⟩ | ⟨svcname, name, isName, hasName⟩ :=
    szGetReqField_cases conn ⟨srbmsg, []⟩ srbSvcname
  · rw [name, noName]
    exact .ended turned
  rw [name, hasName, longName_of_text isName, Bool.false_or]
  dsimp only
  by_cases isLong : (cstr svcname).length > mwMaxSvcName
  · rw [if_pos isLong, decide_eq_true isLong]
    exact .failed conn _
  rw [if_neg isLong, decide_eq_false isLong, Bool.not_false, Bool.true_and]
  obtain ⟨_, _, hopped, hops, leads, -⟩ := iGetReqField_leads conn ⟨srbmsg, []⟩ srbHops 0
  rw [hops]
  dsimp only
  obtain ⟨_, counted, total, totalLeads⟩ :=
    callTotal_leads conn hopped (vGetOptBinField hopped srbData)
  rw [leads.unreadable ⟨srbDatatotal, .decimal⟩ (by decide)] at totalLeads
  replace leads := leads.trans totalLeads
  rw [total]
  dsimp only
  obtain ⟨_, _, timed, time, timeLeads, -⟩ := iGetOptField_leads conn counted srbSectolive (-1)
  rw [leads.unreadable ⟨srbSectolive, .decimal⟩ (by decide)] at timeLeads
  replace leads := leads.trans timeLeads
  rw [time]
  dsimp only
  -- Up to here nothing ends the handler.
  obtain ⟨handle, handled, handleRead, handleLeads, noHandle⟩ :=
    callHandle_leads conn timed uninit
  rw [leads.badHandle] at handleLeads noHandle
  replace leads := leads.trans handleLeads
  rw [handleRead]
  cases handle with
  | none =>
      have isBad := noHandle.mp rfl
      rw [isBad, Bool.or_true] at leads
      rw [Exchange.turnedEarly, isBad]
      exact .ended leads
  | some handle =>
      have isGood := Bool.eq_false_iff.mpr fun isBad => nomatch noHandle.mpr isBad
      rw [Exchange.turnedEarly, isGood, Bool.false_or]
      dsimp only
      obtain ⟨flags, flagged, flagsRead, flagsLeads, noFlags⟩ := callFlags_leads conn handled
        (if timed.srbmsg.marker = srbNotificationMarker then mwNoreply else 0)
      rw [leads.optionalIs (by decide)] at flagsLeads noFlags
      replace leads := leads.trans flagsLeads
      rw [flagsRead]
      cases flags with
      | none =>
          have isIllegal := noFlags.mp rfl
          rw [isIllegal, Bool.or_true] at leads
          rw [isIllegal]
          exact .ended leads
      | some flags =>
          have isLegal := Bool.eq_false_iff.mpr fun illegal => nomatch noFlags.mpr illegal
          rw [isLegal]
          exact .acts conn

theorem readReply_judged
    (missing : [⟨srbSvcname, .text⟩, ⟨srbHandle, .hexadecimal⟩, ⟨srbReturncode, .decimal⟩].any
      (Exchange.defective ⟨srbmsg, []⟩) = true) :
    (readReply uninit conn srbmsg).stage.Judged conn
      (Handler.srbcallRpl.tested srbmsg) := by
  unfold readReply Handler.tested
  obtain ⟨after, name, turned, noName⟩ | ⟨svcname, name, isName, hasName⟩ :=
    szGetReqField_cases conn ⟨srbmsg, []⟩ srbSvcname
  · rw [name, noName]
    exact .ended turned
  dsimp only
  rw [name, hasName, longName_of_text isName, Bool.false_or]
  dsimp only
  by_cases isLong : (cstr svcname).length > mwMaxSvcName
  · rw [if_pos isLong, decide_eq_true isLong]
    exact .ended (.reject conn _ _ _ _)
  rw [if_neg isLong, decide_eq_false isLong, Bool.false_or]
  cases isNull : Exchange.valueless ⟨srbmsg, []⟩ srbHandle with
  | true =>
      obtain ⟨entry, isField, noValue⟩ := (Option.any_eq_true _ _).mp isNull
      rw [xGetReqField_null conn _ _ isField (Option.isNone_iff_eq_none.mp noValue)]
      exact .failed conn _
  | false =>
      have hasValue : ∀ entry, Exchange.field ⟨srbmsg, []⟩ srbHandle = some entry →
          entry.value ≠ none := by
        intro entry isField noValue
        rw [Exchange.valueless, isField, Option.any_some, noValue] at isNull
        cases isNull
      obtain ⟨result, handle, exchange, read, leads, failed⟩ :=
        xGetReqField_leads conn ⟨srbmsg, []⟩ srbHandle hasValue uninit.handle
      rw [read]
      cases noHandle : Exchange.defective ⟨srbmsg, []⟩ ⟨srbHandle, .hexadecimal⟩ with
      | true =>
          rw [noHandle] at leads
          rw [failed.mpr noHandle]
          exact .ended leads
      | false =>
          rw [noHandle] at leads
          rw [leads.same rfl]
          have noCode : Exchange.defective ⟨srbmsg, []⟩ ⟨srbReturncode, .decimal⟩ = true := by
            simp_all [List.any_cons, Bool.or_false]
          obtain ⟨coded, code, after, codeRead, turned, noNumber⟩ :=
            iGetReqField_leads conn ⟨srbmsg, []⟩ srbReturncode 0
          rw [noCode] at turned
          rw [noNumber.mpr noCode] at codeRead
          cases result with
          | failed => exact absurd (failed.mp rfl) (Bool.eq_false_iff.mp noHandle)
          | absent =>
              dsimp only
              rw [codeRead]
              exact .ended turned
          | found =>
              dsimp only
              rw [codeRead]
              exact .ended turned

end

section

variable (session : Session) (srbmsg : SRBmessage)

theorem readPeer_judged
    (missing : [⟨srbInstance, .text⟩, ⟨srbPeerdomain, .text⟩].any
      (Exchange.defective ⟨srbmsg, []⟩) = true) :
    (readPeer session.conn ⟨srbmsg, []⟩).stage.Judged session.conn true := by
  unfold readPeer
  obtain ⟨after, name, turned, -⟩ | ⟨instanceName, name, -, hasInstance⟩ :=
    szGetReqField_cases session.conn ⟨srbmsg, []⟩ srbInstance
  · rw [name]
    exact .ended turned
  · rw [name]
    dsimp only
    obtain ⟨after, domain, turned, -⟩ | ⟨peerdomain, -, -, hasDomain⟩ :=
      szGetReqField_cases session.conn ⟨srbmsg, []⟩ srbPeerdomain
    · rw [domain]
      exact .ended turned
    · simp [List.any_cons, hasInstance, hasDomain] at missing

theorem readInitRest_judged (role : Role)
    (missing : Exchange.defective ⟨srbmsg, []⟩ ⟨srbName, .text⟩ = true ∨
      (role = .gateway ∧ switchesLegal ⟨srbmsg, []⟩ = true ∧
        [⟨srbInstance, .text⟩, ⟨srbPeerdomain, .text⟩].any
          (Exchange.defective ⟨srbmsg, []⟩) = true)) :
    ((readInitRest session.conn ⟨srbmsg, []⟩ role).stage session.conn).Judged
      session.conn true := by
  unfold readInitRest
  obtain ⟨after, name, turned, -⟩ | ⟨text, name, -, hasName⟩ :=
    szGetReqField_cases session.conn ⟨srbmsg, []⟩ srbName
  · rw [name]
    exact .ended turned
  · rw [name]
    obtain noName | ⟨rfl, legal, missing⟩ := missing
    · simp [hasName] at noName
    · rw [switchesLegal, Bool.and_eq_true, Bool.and_eq_true] at legal
      obtain ⟨⟨reverse, rejects⟩, authentication⟩ := legal
      dsimp only
      rw [if_neg (Bool.not_eq_false _ ▸ reverse), if_neg (Bool.not_eq_false _ ▸ rejects),
        if_neg (Bool.not_eq_false _ ▸ authentication)]
      exact readPeer_judged session srbmsg missing

theorem readInit_judged
    (missing : (initRequires session ⟨srbmsg, []⟩).any (Exchange.defective ⟨srbmsg, []⟩) = true) :
    ((readInit session srbmsg).stage session.conn).Judged session.conn true := by
  unfold initRequires at missing
  unfold readInit
  obtain ⟨after, version, turned, -⟩ | ⟨text, version, isVersion, hasVersion⟩ :=
    szGetReqField_cases session.conn ⟨srbmsg, []⟩ srbVersion
  · rw [version]
    exact .ended turned
  rw [List.any_cons, hasVersion, Bool.false_or, isVersion] at missing
  rw [version]
  dsimp only at missing ⊢
  split_ifs at missing ⊢ with supported
  · cases missing
  obtain ⟨after, type, turned, -⟩ | ⟨type, isType, typeText, hasType⟩ :=
    szGetReqField_cases session.conn ⟨srbmsg, []⟩ srbType
  · rw [type]
    exact .ended turned
  rw [List.any_cons, hasType, Bool.false_or, typeText, Option.bind_some] at missing
  rw [isType]
  dsimp only
  cases isRole : initRole type with
  | none =>
      simp [isRole] at missing
  | some role =>
      rw [isRole] at missing
      dsimp only at missing ⊢
      by_cases refused : session.admits role = false
      · simp_all
      · rw [if_neg refused] at missing ⊢
        apply readInitRest_judged
        grind

end

def Handler.Misses (handler : Handler) (session : Session) (srbmsg : SRBmessage) : Prop :=
  ∃ requirement ∈ handler.requires session srbmsg,
    Exchange.defective ⟨srbmsg, []⟩ requirement = true

def Handler.Refuses (handling : Handling) (gateway : GatewayState) (srbmsg : SRBmessage)
    (handler : Handler) : Prop :=
  ∃ answers, handler.stage handling srbmsg gateway.session = .ended answers ∧
    handler.run handling gateway srbmsg = .ok (gateway.respond answers) ∧
    ∃ answer ∈ answers, answer.marker = srbRejectMarker

section

variable {handling : Handling} {session : Session} {srbmsg : SRBmessage} {handler : Handler}

theorem notificationStage_eq {conn : Connection} {stage : HandlerStage}
    (noRequest : srbmsg.marker ≠ srbRequestMarker)
    (noResponse : srbmsg.marker ≠ srbResponseMarker) :
    notificationStage conn srbmsg stage = stage := by
  rw [notificationStage, if_neg noRequest, if_neg noResponse]

theorem notificationStage_notification {conn : Connection} {stage otherwise : HandlerStage}
    (isNotification : srbmsg.marker = srbNotificationMarker) :
    notificationStage conn srbmsg
      (if srbmsg.marker = srbNotificationMarker then stage else otherwise) = stage := by
  rw [if_pos isNotification]
  apply notificationStage_eq
  · rw [isNotification]
    decide
  · rw [isNotification]
    decide

/-- Without a required field, a handler's tests decide whether it ends. -/
theorem Handler.stage_judged (misses : handler.Misses session srbmsg) :
    (handler.stage handling srbmsg session).Judged session.conn (handler.tested srbmsg) := by
  have missing := List.any_eq_true.mpr misses
  unfold Handler.requires at missing
  cases handler with
  | srbprovide =>
      dsimp only at missing
      split_ifs at missing with isNotification
      · dsimp only [Handler.stage]
        rw [notificationStage_notification isNotification]
        exact readProvide_judged _ _ _
      · cases missing
  | srbunprovide =>
      dsimp only at missing
      split_ifs at missing with isNotification
      · dsimp only [Handler.stage]
        rw [notificationStage_notification isNotification]
        have judged := readUnprovide_judged session.conn srbmsg
        rw [List.any_cons, List.any_nil, Bool.or_false] at missing
        rw [missing] at judged
        exact judged
      · cases missing
  | srbsubscribe =>
      dsimp only at missing
      split_ifs at missing with isOther
      · cases missing
      · rw [not_or] at isOther
        dsimp only [Handler.stage]
        rw [notificationStage_eq isOther.1 isOther.2]
        exact readSubscribe_judged _ _ _
  | srbunsubscribe =>
      dsimp only at missing
      split_ifs at missing with isOther
      · cases missing
      · rw [not_or] at isOther
        dsimp only [Handler.stage]
        rw [notificationStage_eq isOther.1 isOther.2]
        exact .acts _
  | srbcallReq =>
      dsimp only at missing
      by_cases unattached : connGetinfo session.conn = unassigned
      · simp_all
      · rw [if_neg unattached] at missing
        dsimp only [Handler.stage]
        rw [attachedStage, if_neg unattached]
        exact readCall_judged _ _ _
  | srbcallRpl =>
      dsimp only at missing
      grind [connGetinfo, Handler.stage, attachedStage, readReply_judged]
  | srbinit =>
      dsimp only at missing
      unfold Handler.stage Handler.tested initStage
      dsimp only
      split_ifs at missing ⊢ with isRequest isResponse
      · simp_all [readInit_judged]
      · rw [beq_eq_false_iff_ne.mpr isRequest]
        exact .acts _
      · cases missing

end

/-- A message without a required field is refused exactly when a test finds a defect, and the
connection is one that is sent rejects. -/
theorem missing_field_refused_iff (handling : Handling) (gateway : GatewayState)
    (srbmsg : SRBmessage) (handler : Handler) (misses : handler.Misses gateway.session srbmsg) :
    handler.Refuses handling gateway srbmsg ↔
      gateway.session.conn.rejects = true ∧ handler.tested srbmsg = true := by
  have judged := @Handler.stage_judged handling gateway.session srbmsg handler misses
  constructor
  · intro ⟨answers, ended, _, answer, isAnswer, _⟩
    have tested : handler.tested srbmsg = true := by
      by_contra untested
      exact judged.goesOn (Bool.eq_false_iff.mpr untested) answers ended
    obtain ⟨sent, isSent, _, silent⟩ := judged.ends tested
    refine ⟨?_, tested⟩
    by_contra noRejects
    rw [ended] at isSent
    cases isSent
    rw [silent (Bool.eq_false_iff.mpr noRejects)] at isAnswer
    cases isAnswer
  · intro ⟨rejects, tested⟩
    obtain ⟨answers, ended, sends, _⟩ := judged.ends tested
    exact ⟨answers, ended, Handler.run_ended ended, sends rejects⟩

/-- A gateway with a client; the source never has `rejects` set. -/
def clientGateway (rejects : Bool) : GatewayState :=
  { acceptedGateway with
    session := { acceptedGateway.session with
      conn := ⟨5, 0x02000001, unassigned, true, rejects⟩ } }

/-- `UNPROVIDE` without a service. -/
theorem nameless_unprovide_refused :
    Handler.srbunprovide.Misses (clientGateway true).session
        ⟨srbUnprovide, srbNotificationMarker, []⟩ ∧
      (Handler.srbunprovide.Refuses quietHandling (clientGateway true)
          ⟨srbUnprovide, srbNotificationMarker, []⟩ ↔
        (clientGateway true).session.conn.rejects = true ∧
          Handler.srbunprovide.tested ⟨srbUnprovide, srbNotificationMarker, []⟩ = true) := by
  have misses : Handler.srbunprovide.Misses (clientGateway true).session
      ⟨srbUnprovide, srbNotificationMarker, []⟩ :=
    ⟨⟨srbSvcname, .text⟩, by decide, by decide⟩
  exact ⟨misses, missing_field_refused_iff quietHandling (clientGateway true) _ _ misses⟩

/-- `SUBSCRIBE` without an id subscribes under what the variable held. -/
theorem idless_subscribe_subscribed :
    let handling := { quietHandling with id := 77 }
    let srbmsg : SRBmessage :=
      ⟨srbSubscribe, srbNotificationMarker,
        [⟨srbPattern, some [42]⟩, ⟨srbMatch, some srbSubscribeGlob⟩]⟩
    Handler.srbsubscribe.Misses (clientGateway false).session srbmsg ∧
      ¬Handler.srbsubscribe.Refuses handling (clientGateway false) srbmsg ∧
      ((Handler.srbsubscribe.run handling (clientGateway false) srbmsg).toOption.map
        GatewayState.subscriptions) = some [⟨5, 77, [42], mwEvglob⟩] := by
  refine ⟨⟨⟨srbSubscriptionid, .decimal⟩, by decide, by decide⟩, ?_, by decide⟩
  intro ⟨answers, ended, _⟩
  exact (nomatch ended)

end MidWay.Gateway

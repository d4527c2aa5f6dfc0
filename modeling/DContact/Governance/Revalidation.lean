import DContact.Governance.AuthorizationSafety

/-!
# Revalidating an authorized action

An event about a contact or a policy makes the owner of a reserved action ask again. The
answer looks at the reservation, at how far the source of the event has come, and then at
the gates of the authorization, with the facts as they stand now. It writes nothing.

Authorization and revalidation read the same facts but for one: the authorization may have
used up the callback that it rests on.
-/

namespace DContact.Governance

open Lib Option PolicyVerdict

inductive SourceAggregate where
  | contact
  | policy
  deriving DecidableEq

inductive SourceContract where
  | cg3
  | cg4
  deriving DecidableEq

structure RevalidateAuthorizedActionInput where
  reservationId : String
  actionKey : String
  sourceAggregateType : SourceAggregate
  sourceAggregateId : String
  sourceAggregateVersion : Int
  contactKind : Option String
  sourceContract : Option SourceContract
  sourceEventType : Option String
  sourceScopeKey : Option String

structure RevalidateAuthorizedActionOutcome where
  decision : ContactDecision
  reasonCode : String
  observedAggregateVersion : Nat
  observedPolicyVersion : Option Nat
  nextEligibleAt : Option Instant
  decisionDigest : String

def killSwitchChanged : String := "governance.kill-switch.changed"

def revalidated (engine : DecisionEngine) (decision : ContactDecision) (reasonCode : String)
    (aggregateVersion : Nat) (policyVersion : Option Nat) (nextEligibleAt : Option Instant) :
    RevalidateAuthorizedActionOutcome :=
  ⟨decision, reasonCode, aggregateVersion, policyVersion, nextEligibleAt,
    engine.outcomeDigest decision reasonCode aggregateVersion policyVersion⟩

def reviewed (engine : DecisionEngine) (reasonCode : String) (aggregateVersion : Nat)
    (policyVersion : Option Nat) : RevalidateAuthorizedActionOutcome :=
  revalidated engine .review reasonCode aggregateVersion policyVersion none

/-- What the gates look at when a reserved action is asked about. -/
def AuthorizedReservation.request (row : AuthorizedReservation) : ContactRequest :=
  ⟨row.contactId, row.identityId, row.channel, row.purpose, row.authorizationContactKind,
    row.senderIdentityId, row.source, row.sourceId⟩

/-- The reservation was made with a context, the contact kind is the one it was made for, and
an event about a contact is about this one. -/
def contextHolds (row : AuthorizedReservation) (input : RevalidateAuthorizedActionInput) : Bool :=
  row.authorizationContextVersion == 1 && input.contactKind == row.authorizationContactKind &&
    decide (1 ≤ input.sourceAggregateVersion) &&
    (input.sourceAggregateType == .policy || input.sourceAggregateId == row.contactId)

def namedHead (tables : FactTables) (scopeKey : Option String) : Option HeadRow :=
  match scopeKey with
  | none => none
  | some key => if key = "" then none else Table.lookup HeadRow.scopeKey key tables.studio.heads

/-- Why the store is behind the event, if it is. -/
def staleReason (tables : FactTables) (facts : Cg3Facts) (input : RevalidateAuthorizedActionInput) :
    Option String :=
  let stale (version : Nat) : Option String :=
    if (version : Int) < input.sourceAggregateVersion then some "GOVERNANCE_VERSION_STALE" else none
  match input.sourceAggregateType with
  | .contact => stale facts.aggregateVersion
  | .policy =>
      if input.sourceContract = some .cg4 then
        if input.sourceEventType = some killSwitchChanged then
          if tables.studio.killSwitches.any fun row => row.id == input.sourceAggregateId then none
          else some "GOVERNANCE_STATE_UNAVAILABLE"
        else
          match namedHead tables input.sourceScopeKey with
          | none => some "GOVERNANCE_VERSION_STALE"
          | some head => stale head.headVersion
      else stale ((facts.policy.map PolicyFacts.version).getD 0)

/-- The reader of the authorization, without a record of a mismatch. -/
def rereadPolicy (engine : DecisionEngine) (tables : FactTables) (request : ContactRequest)
    (facts : Cg3Facts) (now : Instant) : PolicyVerdict :=
  let scope := cg4PolicyRequestScope request
  let reader := cg4PolicyReaderFor (loadCg4RolloutState tables) scope
  let evaluated := evaluate engine request facts now
  let read := loadCg4PolicyFacts engine.toPolicyEngine tables.studio scope now
  match reader.mode with
  | .cg4 =>
      match read with
      | .failClosed reason _ => .failClosed .policyHead reason.text
      | .resolved policy _ _ _ => evaluated (some policy)
      | .unconfigured => evaluated none
  | .cg3 => evaluated facts.policy
  | .cg3WithShadow =>
      if reader.pilot ∧ cg4ShadowDecisionDigest (evaluated facts.policy) ≠
          cg4ShadowDecisionDigest (shadowOutcome read evaluated) then
        .failClosed .migrationShadow governanceShadowMismatch
      else evaluated facts.policy

def baselineFacts (tables : FactTables) (request : ContactRequest) (facts : Cg3Facts)
    (now : Instant) : ContactPolicyFacts where
  policyVersion := ((facts.policy.map PolicyFacts.version).getD 0 : Nat)
  identityResolution := if identityKnown tables request then .resolved else .notFound
  activeRestriction := findRestriction tables request now
  consent := consentFacts tables request now

/-- The gates, once the reservation and the event are in order. -/
def reauthorize (engine : DecisionEngine) (tables : FactTables) (request : ContactRequest)
    (facts : Cg3Facts) (now : Instant) : RevalidateAuthorizedActionOutcome :=
  let policyVersion := facts.policy.map PolicyFacts.version
  let baseline := evaluateContactPolicy (baselineFacts tables request facts now)
  if killSwitchCovers tables request then
    reviewed engine governanceKillSwitchActive facts.aggregateVersion policyVersion
  else if baseline.decision ≠ .allow then
    revalidated engine baseline.decision baseline.reasonCode facts.aggregateVersion policyVersion none
  else
    let verdict := rereadPolicy engine tables request facts now
    revalidated engine (verdict.decision.getD .allow) (verdict.reasonCode.getD "POLICY_PASSED")
      facts.aggregateVersion policyVersion (verdict.outcome.bind GateOutcome.nextEligibleAt)

def namedReservation (reservations : List AuthorizedReservation)
    (input : RevalidateAuthorizedActionInput) : Option AuthorizedReservation :=
  reservations.find? fun row => row.id == input.reservationId && row.actionKey == input.actionKey

def revalidateAuthorizedAction (engine : DecisionEngine) (store : GovernanceStore)
    (input : RevalidateAuthorizedActionInput) (now : Instant) : RevalidateAuthorizedActionOutcome :=
  match namedReservation store.reservations input with
  | none => reviewed engine "GOVERNANCE_CONTEXT_UNAVAILABLE" 0 none
  | some row =>
      if contextHolds row input then
        let facts := loadCg3Facts engine store.tables store.callbacks (row.request.query now)
        match staleReason store.tables facts input with
        | some reasonCode =>
            reviewed engine reasonCode facts.aggregateVersion (facts.policy.map PolicyFacts.version)
        | none => reauthorize engine store.tables row.request facts now
      else reviewed engine "GOVERNANCE_CONTEXT_UNAVAILABLE" 0 none

theorem rereadPolicy_eq (engine : DecisionEngine) (tables : FactTables) (request : ContactRequest)
    (facts : Cg3Facts) (now : Instant) :
    rereadPolicy engine tables request facts now =
      (readPolicy engine tables request facts now).verdict := by
  unfold rereadPolicy readPolicy
  dsimp only
  generalize loadCg4PolicyFacts engine.toPolicyEngine tables.studio (cg4PolicyRequestScope request)
    now = read
  obtain ⟨mode, pilot⟩ := cg4PolicyReaderFor (loadCg4RolloutState tables)
    (cg4PolicyRequestScope request)
  cases mode with
  | cg4 => cases read <;> rfl
  | cg3 => rfl
  | cg3WithShadow =>
      dsimp only
      by_cases same : cg4ShadowDecisionDigest (evaluate engine request facts now facts.policy) =
        cg4ShadowDecisionDigest (shadowOutcome read (evaluate engine request facts now))
      · simp [same]
      · cases pilot <;> simp [same]

theorem reauthorize_allow_iff {engine : DecisionEngine} {tables : FactTables}
    {callbacks : List CallbackRow} {request : ContactRequest} {now : Instant} :
    (reauthorize engine tables request
      (loadCg3Facts engine tables callbacks (request.query now)) now).decision = .allow ↔
      GatesOpen engine tables callbacks request now := by
  have baseline : (evaluateContactPolicy (baselineFacts tables request
      (loadCg3Facts engine tables callbacks (request.query now)) now)).decision = .allow ↔
      identityKnown tables request = true ∧ findRestriction tables request now = none ∧
        ∃ lawfulBasis, consentFacts tables request now = some (.granted, lawfulBasis) := by
    rw [evaluateContactPolicy_allow_iff]
    cases known : identityKnown tables request <;> simp [baselineFacts, known]
  unfold reauthorize
  dsimp only
  split
  next covered =>
    refine ⟨fun allows => ?_, fun gates => ?_⟩
    · cases allows
    · rw [gates.killSwitch] at covered
      cases covered
  next uncovered =>
    have free : killSwitchCovers tables request = false := by simpa using uncovered
    split
    next refused =>
      refine ⟨fun allows => absurd allows refused, fun gates => absurd ?_ refused⟩
      exact baseline.mpr ⟨gates.identity, gates.restriction, gates.consent⟩
    next passed =>
      obtain ⟨known, unrestricted, granted⟩ := baseline.mp (not_not.mp passed)
      rw [rereadPolicy_eq]
      constructor
      · intro allows
        exact ⟨known, unrestricted, granted, free, verdict_allow_iff.mp allows⟩
      · intro gates
        exact verdict_allow_iff.mpr gates.policy

/-- The answer is to go on exactly when the reservation stands with its context, the store is
not behind the event, and the gates are open. -/
theorem revalidate_allow_iff {engine : DecisionEngine} {store : GovernanceStore}
    {input : RevalidateAuthorizedActionInput} {now : Instant} :
    (revalidateAuthorizedAction engine store input now).decision = .allow ↔
      ∃ row, namedReservation store.reservations input = some row ∧ contextHolds row input = true ∧
        staleReason store.tables (loadCg3Facts engine store.tables store.callbacks
          (row.request.query now)) input = none ∧
        GatesOpen engine store.tables store.callbacks row.request now := by
  unfold revalidateAuthorizedAction
  cases namedReservation store.reservations input with
  | none => simp [reviewed, revalidated]
  | some row =>
      cases context : contextHolds row input with
      | false => simp [context, reviewed, revalidated]
      | true =>
          cases stale : staleReason store.tables (loadCg3Facts engine store.tables store.callbacks
              (row.request.query now)) input with
          | some reasonCode => simp [stale, context, reviewed, revalidated]
          | none => simp [stale, context, reauthorize_allow_iff]

/-- The start of the reference that a rule leaves. -/
def TemporalRule.mark : TemporalRule → List Char
  | .tenantHoliday => ['h', 'o', 'l']
  | .quietHours => ['p', 'o', 'l']
  | .preferenceWindowClosed => ['p', 'r', 'e']

variable {block : TemporalBlock}

theorem evaluateInstant_mark {parts : ZonedParts} {preferred quiet : List LocalTimeWindow}
    {holidays : List HolidayEntry}
    (blocked : evaluateInstant parts preferred quiet holidays = some block) :
    block.matchedWindowRef.toList.take 3 = block.rule.mark := by
  unfold evaluateInstant at blocked
  split at blocked
  next =>
    cases blocked
    simp [String.toList_append, TemporalRule.mark]
  next =>
    split at blocked
    next =>
      cases blocked
      rfl
    next =>
      split at blocked
      next =>
        cases blocked
        rfl
      next => cases blocked

variable {zones : ZoneDatabase} {input : EvaluationInput}

theorem reported_mark (blocked : reported zones input = some block) :
    block.matchedWindowRef.toList.take 3 = block.rule.mark := by
  unfold reported at blocked
  split at blocked
  next =>
    obtain ⟨zone, -, found⟩ := bind_eq_some_iff.mp blocked
    exact evaluateInstant_mark found
  next => cases blocked

theorem reported_rule_eq {left right : EvaluationInput}
    {first second : TemporalBlock} (leftBlocked : reported zones left = some first)
    (rightBlocked : reported zones right = some second)
    (same : first.matchedWindowRef = second.matchedWindowRef) : first.rule = second.rule := by
  have marks : first.rule.mark = second.rule.mark := by
    rw [← reported_mark leftBlocked, ← reported_mark rightBlocked, same]
  revert marks
  cases first.rule <;> cases second.rule <;> simp [TemporalRule.mark]

theorem shadowDigest_undecided (undecided : (evaluateCg3Policy zones input).decision = none) :
    cg4ShadowDecisionDigest (.evaluated (evaluateCg3Policy zones input)) =
      ⟨.allow, "POLICY_PASSED", none, (reported zones input).map TemporalBlock.matchedWindowRef,
        shownTimezone zones input,
        (reported zones input).bind fun _ => input.policy.map PolicyFacts.callbackMode,
        (evaluateCg3Policy zones input).consumedCallbackRequestId.isSome⟩ := by
  have fields := (evaluateCg3Policy_passage undecided).2
  simp only [cg4ShadowDecisionDigest, decision, reasonCode,
    outcome, consumedCallbackRequestId, bind_some, undecided,
    fields.reasonCode, fields.nextEligibleAt, fields.matchedWindowRef, fields.timezoneSource,
    fields.exceptionMode]
  rfl

/-- Two requests that differ in their policy, and that the shadow comparison does not tell
apart, are not told apart once the callback is gone, if they still pass. -/
theorem shadowDigest_askedAgain {policy : Option PolicyFacts}
    (undecided : (evaluateCg3Policy zones input).decision = none)
    (other : (evaluateCg3Policy zones { input with policy := policy }).decision = none)
    (same : cg4ShadowDecisionDigest (.evaluated (evaluateCg3Policy zones input)) =
      cg4ShadowDecisionDigest (.evaluated (evaluateCg3Policy zones { input with policy := policy })))
    (again : (evaluateCg3Policy zones (input.askedAgain none)).decision = none) :
    cg4ShadowDecisionDigest (.evaluated (evaluateCg3Policy zones (input.askedAgain none))) =
      cg4ShadowDecisionDigest (.evaluated (evaluateCg3Policy zones
        (EvaluationInput.askedAgain { input with policy := policy } none))) := by
  rw [shadowDigest_undecided undecided, shadowDigest_undecided other] at same
  simp only [ShadowDigest.mk.injEq, true_and] at same
  obtain ⟨refs, zones_, modes, -⟩ := same
  have otherAgain : (evaluateCg3Policy zones
      (EvaluationInput.askedAgain { input with policy := policy } none)).decision = none := by
    rw [undecided_askedAgain_iff other]
    intro block blocked
    rw [blocked] at refs
    obtain ⟨first, firstBlocked, sameRef⟩ := map_eq_some_iff.mp refs
    have covered := (undecided_askedAgain_iff undecided).mp again first firstBlocked
    rwa [reported_rule_eq firstBlocked blocked sameRef] at covered
  rw [shadowDigest_undecided again, shadowDigest_undecided otherAgain,
    unconsumed_askedAgain again, unconsumed_askedAgain otherAgain]
  simp only [ShadowDigest.mk.injEq, true_and, and_true]
  exact ⟨refs, zones_, modes⟩

section Readers

variable (engine : DecisionEngine) (tables : FactTables) (request : ContactRequest)
  (facts : Cg3Facts) (now : Instant)

def selectedReader : ReaderSelection :=
  cg4PolicyReaderFor (loadCg4RolloutState tables) (cg4PolicyRequestScope request)

def publishedRead : PolicyReadResult :=
  loadCg4PolicyFacts engine.toPolicyEngine tables.studio (cg4PolicyRequestScope request) now

/-- The policy under which the gates are walked. -/
def effectivePolicy : Option PolicyFacts :=
  match (selectedReader tables request).mode with
  | .cg4 =>
      match publishedRead engine tables request now with
      | .resolved policy _ _ _ => some policy
      | _ => none
  | _ => facts.policy

structure ReaderSettled : Prop where
  readable : (selectedReader tables request).mode = .cg4 →
    ∀ reason detail, publishedRead engine tables request now ≠ .failClosed reason detail
  agrees : (selectedReader tables request).mode = .cg3WithShadow →
    (selectedReader tables request).pilot = true →
    cg4ShadowDecisionDigest (evaluate engine request facts now facts.policy) =
      cg4ShadowDecisionDigest (shadowOutcome (publishedRead engine tables request now)
        (evaluate engine request facts now))

variable {engine tables request facts now}

theorem readPolicy_settled (settled : ReaderSettled engine tables request facts now) :
    (readPolicy engine tables request facts now).verdict =
      evaluate engine request facts now (effectivePolicy engine tables request facts now) := by
  have reader : cg4PolicyReaderFor (loadCg4RolloutState tables) (cg4PolicyRequestScope request) =
    selectedReader tables request := rfl
  have read : loadCg4PolicyFacts engine.toPolicyEngine tables.studio (cg4PolicyRequestScope request)
    now = publishedRead engine tables request now := rfl
  rw [← rereadPolicy_eq]
  unfold rereadPolicy effectivePolicy
  simp only [reader, read]
  cases mode : (selectedReader tables request).mode with
  | cg4 =>
      cases found : publishedRead engine tables request now with
      | failClosed reason detail => exact absurd found (settled.readable mode reason detail)
      | resolved policy binding version state => rfl
      | unconfigured => rfl
  | cg3 => rfl
  | cg3WithShadow =>
      dsimp only
      rw [if_neg]
      rintro ⟨pilot, different⟩
      exact different (settled.agrees mode pilot)

theorem settled_of_undecided
    (undecided : (readPolicy engine tables request facts now).verdict.decision = none) :
    ReaderSettled engine tables request facts now := by
  rw [← rereadPolicy_eq] at undecided
  constructor
  · intro mode reason detail found
    simp only [selectedReader] at mode
    simp only [publishedRead] at found
    simp [rereadPolicy, mode, found, decision] at undecided
  · intro mode pilot
    by_contra different
    simp only [selectedReader] at mode pilot
    simp only [publishedRead] at different
    simp [rereadPolicy, mode, pilot, different, decision] at undecided

end Readers

/-- The request as the reservation keeps it: no sender has been chosen yet. -/
def ContactRequest.reserved (request : ContactRequest) : ContactRequest :=
  { request with senderIdentityId := none }

def appliedFacts (engine : DecisionEngine) (tables : FactTables) (callbacks : List CallbackRow)
    (request : ContactRequest) (now : Instant) : EvaluationInput :=
  evaluationFacts engine tables callbacks request now (effectivePolicy engine tables request
    (loadCg3Facts engine tables callbacks (request.query now)) now)

def restsOnCallback (engine : DecisionEngine) (tables : FactTables) (callbacks : List CallbackRow)
    (request : ContactRequest) (now : Instant) : Bool :=
  let facts := appliedFacts engine tables callbacks request now
  (reported engine.zones facts).any fun block =>
    callbackLifts facts block.rule && !exceptionCovers facts block.rule

section Agreement

variable {engine : DecisionEngine} {tables : FactTables} {callbacks after : List CallbackRow}
  {request : ContactRequest} {now : Instant}

section
variable (gates : GatesOpen engine tables callbacks request now)
include gates

theorem GatesOpen.applied :
    (policyReading engine tables callbacks request now).verdict =
      .evaluated (evaluateCg3Policy engine.zones (appliedFacts engine tables callbacks request now)) :=
  readPolicy_settled (settled_of_undecided gates.policy)

theorem GatesOpen.undecided :
    (evaluateCg3Policy engine.zones (appliedFacts engine tables callbacks request now)).decision =
      none := by
  have open_ := gates.policy
  rwa [gates.applied] at open_

theorem GatesOpen.not_restsOnCallback
    (unused : (policyReading engine tables callbacks request now).verdict.consumedCallbackRequestId =
      none) : restsOnCallback engine tables callbacks request now = false := by
  rw [gates.applied] at unused
  simp only [consumedCallbackRequestId, outcome, bind_some] at unused
  unfold restsOnCallback
  cases (evaluateCg3Policy_passage gates.undecided).1 with
  | clear free trace consumes => simp [free]
  | callback block callback blocked active lifted trace consumes ref => simp [consumes] at unused
  | exception block pin blocked unlifted covered trace consumes applies => simp [blocked, unlifted]

theorem GatesOpen.restsOnCallback_iff {requestId : String}
    (used : (policyReading engine tables callbacks request now).verdict.consumedCallbackRequestId =
      some requestId) :
    restsOnCallback engine tables callbacks request now = false ↔
      ∀ block, reported engine.zones (appliedFacts engine tables callbacks request now) = some block →
        exceptionCovers (appliedFacts engine tables callbacks request now) block.rule = true := by
  rw [gates.applied] at used
  simp only [consumedCallbackRequestId, outcome, bind_some] at used
  unfold restsOnCallback
  cases (evaluateCg3Policy_passage gates.undecided).1 with
  | clear free trace consumes => simp [consumes] at used
  | callback block callback blocked active lifted trace consumes ref => simp [blocked, lifted]
  | exception block pin blocked unlifted covered trace consumes applies => simp [consumes] at used

end

theorem senderInvalid_evaluationFacts (policy : Option PolicyFacts) :
    senderInvalid (evaluationFacts engine tables callbacks request now policy) =
      request.senderIdentityId.any Text.isBlank := rfl

theorem evaluationFacts_reserved (callbacks after : List CallbackRow) (policy : Option PolicyFacts) :
    evaluationFacts engine tables after request.reserved now policy =
      (evaluationFacts engine tables callbacks request now policy).askedAgain
        (activeCallback after (request.query now)) := rfl

/-- Nothing but the sender has changed, and the sender was valid. -/
theorem GatesOpen.reserved (gates : GatesOpen engine tables callbacks request now) :
    GatesOpen engine tables callbacks request.reserved now := by
  have valid := senderInvalid_of_undecided gates.undecided
  rw [appliedFacts, senderInvalid_evaluationFacts] at valid
  have same : evaluate engine request.reserved
      (loadCg3Facts engine tables callbacks (request.query now)) now =
        evaluate engine request (loadCg3Facts engine tables callbacks (request.query now)) now := by
    funext policy
    show evaluated (evaluateCg3Policy engine.zones
      (evaluationFacts engine tables callbacks request.reserved now policy)) = _
    rw [evaluationFacts_reserved callbacks]
    exact congrArg evaluated (evaluateCg3Policy_askedAgain
      ((senderInvalid_evaluationFacts policy).trans valid))
  have reading : policyReading engine tables callbacks request.reserved now =
      policyReading engine tables callbacks request now := by
    show readPolicy engine tables request.reserved
      (loadCg3Facts engine tables callbacks (request.query now)) now = _
    unfold policyReading readPolicy
    rw [same]
    rfl
  refine ⟨gates.identity, gates.restriction, gates.consent, gates.killSwitch, ?_⟩
  rw [reading]
  exact gates.policy

/-- A shadow verdict that allows comes from walking the gates, and they were passed. -/
theorem shadowOutcome_undecided {read : PolicyReadResult} {facts : Cg3Facts}
    (allows : (cg4ShadowDecisionDigest (shadowOutcome read
      (evaluate engine request facts now))).decision = .allow) :
    ∃ policy, (∀ evaluated, shadowOutcome read evaluated = evaluated policy) ∧
      (evaluateCg3Policy engine.zones (evaluationInput request facts now policy)).decision = none := by
  have passed : ∀ policy, (cg4ShadowDecisionDigest (evaluate engine request facts now policy)).decision =
      .allow →
      (evaluateCg3Policy engine.zones (evaluationInput request facts now policy)).decision = none := by
    intro policy shown
    have ne := evaluateCg3Policy_ne_allow engine.zones (evaluationInput request facts now policy)
    simp only [cg4ShadowDecisionDigest, evaluate, decision] at shown
    cases decided : (evaluateCg3Policy engine.zones
        (evaluationInput request facts now policy)).decision with
    | none => rfl
    | some decision =>
        rw [decided] at shown ne
        exact absurd (congrArg some shown) ne
  cases read with
  | failClosed reason detail => cases allows
  | resolved policy binding version state => exact ⟨some policy, fun _ => rfl, passed _ allows⟩
  | unconfigured => exact ⟨none, fun _ => rfl, passed _ allows⟩

theorem evaluationFacts_used (gone : activeCallback after (request.query now) = none)
    (policy : Option PolicyFacts) :
    evaluationFacts engine tables after request.reserved now policy =
      (evaluationFacts engine tables callbacks request now policy).askedAgain none := by
  rw [evaluationFacts_reserved callbacks, gone]

section
variable (gates : GatesOpen engine tables callbacks request now)
  (gone : activeCallback after (request.query now) = none)
include gates gone

/-- With the callback gone, the shadow comparison still finds no difference. -/
theorem GatesOpen.settled_used (passes : (evaluateCg3Policy engine.zones
      ((appliedFacts engine tables callbacks request now).askedAgain none)).decision = none) :
    ReaderSettled engine tables request.reserved
      (loadCg3Facts engine tables after (request.query now)) now := by
  have settled := settled_of_undecided gates.policy
  refine ⟨settled.readable, ?_⟩
  intro mode pilot
  have agrees := settled.agrees mode pilot
  have undecided := gates.undecided
  have ownMode : (selectedReader tables request).mode = .cg3WithShadow := mode
  have ownPolicy : effectivePolicy engine tables request
      (loadCg3Facts engine tables callbacks (request.query now)) now =
      (loadCg3Facts engine tables callbacks (request.query now)).policy := by
    rw [effectivePolicy, ownMode]
  rw [appliedFacts, ownPolicy] at undecided passes
  have shown : (cg4ShadowDecisionDigest (evaluate engine request
      (loadCg3Facts engine tables callbacks (request.query now)) now
      (loadCg3Facts engine tables callbacks (request.query now)).policy)).decision = .allow :=
    congrArg ShadowDigest.decision (shadowDigest_undecided undecided)
  rw [agrees] at shown
  obtain ⟨policy, isPolicy, other⟩ := shadowOutcome_undecided shown
  rw [isPolicy] at agrees
  have read : publishedRead engine tables request.reserved now =
    publishedRead engine tables request now := rfl
  rw [read, isPolicy]
  show cg4ShadowDecisionDigest (.evaluated (evaluateCg3Policy engine.zones
    (evaluationFacts engine tables after request.reserved now
      (loadCg3Facts engine tables callbacks (request.query now)).policy))) =
    cg4ShadowDecisionDigest (.evaluated (evaluateCg3Policy engine.zones
      (evaluationFacts engine tables after request.reserved now policy)))
  rw [evaluationFacts_used gone, evaluationFacts_used gone]
  exact shadowDigest_askedAgain undecided other agrees passes

theorem GatesOpen.used_iff :
    GatesOpen engine tables after request.reserved now ↔
      ∀ block, reported engine.zones (appliedFacts engine tables callbacks request now) = some block →
        exceptionCovers (appliedFacts engine tables callbacks request now) block.rule = true := by
  have sameFacts : appliedFacts engine tables after request.reserved now =
      (appliedFacts engine tables callbacks request now).askedAgain none :=
    evaluationFacts_used gone _
  rw [← undecided_askedAgain_iff gates.undecided, ← sameFacts]
  constructor
  · intro open_
    exact open_.undecided
  · intro passes
    refine ⟨gates.identity, gates.restriction, gates.consent, gates.killSwitch, ?_⟩
    have settled := gates.settled_used gone (sameFacts ▸ passes)
    show (readPolicy engine tables request.reserved
      (loadCg3Facts engine tables after (request.query now)) now).verdict.decision = none
    rw [readPolicy_settled settled]
    exact passes

end

end Agreement

/-- The event behind a question is in order: it comes with the contact kind of the action, an
event about a contact is about this one, and the store has come as far as the event. -/
structure EventInOrder (engine : DecisionEngine) (store : GovernanceStore) (request : ContactRequest)
    (now : Instant) (again : RevalidateAuthorizedActionInput) : Prop where
  contactKind : again.contactKind = request.contactKind
  version : 1 ≤ again.sourceAggregateVersion
  contact : again.sourceAggregateType = .contact → again.sourceAggregateId = request.contactId
  taken : staleReason store.tables
    (loadCg3Facts engine store.tables store.callbacks (request.query now)) again = none

variable {again : RevalidateAuthorizedActionInput} {row : AuthorizedReservation}

theorem contextHolds_iff (context : row.authorizationContextVersion = 1) :
    contextHolds row again = true ↔ again.contactKind = row.authorizationContactKind ∧
      1 ≤ again.sourceAggregateVersion ∧
      (again.sourceAggregateType = .contact → again.sourceAggregateId = row.contactId) := by
  cases kind : again.sourceAggregateType <;> simp [contextHolds, context, kind, and_assoc]

section Question

variable {tenantId : String} {engine : GovernanceEngine} {store after : GovernanceStore}
  {input : AuthorizeAndReserveInput} {ids : AuthorizationIds} {now : Instant}
  {plan : AuthorizationPlan}

theorem plan_reserved (planned : planAuthorization tenantId engine store input ids now = .ok plan)
    (allows : plan.decision.decision = .allow) {contactId : String} {identityId : Option String}
    (subject : input.subject = .contact contactId identityId) :
    plan.reservation = some (reservationFor tenantId engine input contactId identityId
      (deliberate engine.toDecisionEngine store.tables store.callbacks input now) ids now) := by
  rw [plan_decision planned] at allows
  obtain ⟨pins, -, -, isReservation, -⟩ := planAuthorization_ok planned
  simp only [planReservation, allows, subject, if_true] at isReservation
  split at isReservation
  next => cases isReservation
  next => exact (Except.ok.inj isReservation).symm

variable {reservations : List AuthorizedReservation}

theorem namedReservation_append (fresh : ∀ other ∈ reservations, other.id ≠ row.id)
    (sameId : again.reservationId = row.id) (sameKey : again.actionKey = row.actionKey) :
    namedReservation (reservations ++ [row]) again = some row := by
  have unknown : reservations.find? (fun other =>
      other.id == again.reservationId && other.actionKey == again.actionKey) = none := by
    rw [List.find?_eq_none]
    intro other mem
    simp [sameId, fresh other mem]
  rw [namedReservation, List.find?_append, unknown, none_or]
  simp [sameId, sameKey]

theorem callback_gone (keyed : CallbacksKeyed store.callbacks)
    (planned : planAuthorization tenantId engine store input ids now = .ok plan)
    (committed : Committed plan store after) {contactId : String} {identityId : Option String}
    (allowed : Allowed engine.toDecisionEngine store.tables store.callbacks input now contactId
      identityId) {row : CallbackRow} (consumes : plan.consumption = some row) :
    activeCallback after.callbacks ((input.request contactId identityId).query now) = none := by
  obtain ⟨original, mem, consumed, rfl⟩ := plan_consumption planned consumes
  rw [Deliberation.consumed, allowed.reading, bind_some] at consumed
  obtain ⟨policy, block, callback, -, -, active, sameId, lifted⟩ :=
    allowed.gates.consumed_lifted.mp consumed
  obtain ⟨request, present, isRequest, covered, -, -, last⟩ := evaluationFacts_callback active lifted
  have same : original = request :=
    Table.eq_of_key_eq keyed.ids mem present (sameId.symm.trans isRequest.symm)
  subst same
  rw [committed.callbacks, consumes]
  apply activeCallback_append
  · exact covered
  · simp [consumptionOf]
  · intro other known inScope
    exact Nat.lt_succ_of_le (last other known inScope)

theorem toOutcome_reservationId {row : DecisionRow} {reservationId : String}
    (shown : (toOutcome reservations row).reservation.map Prod.fst = some reservationId) :
    row.reservationId = some reservationId := by
  obtain ⟨shownPair, joined, same⟩ := map_eq_some_iff.mp shown
  obtain ⟨reservation, found, isPair⟩ := map_eq_some_iff.mp joined
  obtain ⟨id, isId, looked⟩ := bind_eq_some_iff.mp found
  rw [isId, ← same, ← isPair, ← Table.lookup_key looked]

theorem revalidate_decided_iff (keyed : CallbacksKeyed store.callbacks)
    (planned : planAuthorization tenantId engine store input ids now = .ok plan)
    (committed : Committed plan store after) (allows : plan.decision.decision = .allow)
    (sameId : plan.decision.reservationId = some again.reservationId)
    (sameKey : again.actionKey = input.actionKey) :
    ∃ contactId identityId, input.subject = .contact contactId identityId ∧
      ((revalidateAuthorizedAction engine.toDecisionEngine after again now).decision = .allow ↔
        EventInOrder engine.toDecisionEngine store (input.request contactId identityId) now again ∧
        restsOnCallback engine.toDecisionEngine store.tables store.callbacks
          (input.request contactId identityId) now = false) := by
  have deliberated := allows
  rw [plan_decision planned] at deliberated
  obtain ⟨contactId, identityId, allowed⟩ := deliberate_allow_iff.mp deliberated
  refine ⟨contactId, identityId, allowed.subject, ?_⟩
  have reserves := plan_reserved planned allows allowed.subject
  have ownId : ids.reservationId = again.reservationId := by
    obtain ⟨pins, -, -, -, isDecision⟩ := planAuthorization_ok planned
    rw [isDecision, decisionFor, reserves] at sameId
    exact Option.some.inj sameId
  have found : namedReservation after.reservations again = plan.reservation := by
    rw [committed.reservations, reserves]
    exact namedReservation_append (committed.reserved _ reserves) ownId.symm sameKey
  -- the gates that are asked again, in terms of the store before the call
  have gates : GatesOpen engine.toDecisionEngine store.tables after.callbacks
      (input.request contactId identityId).reserved now ↔
      restsOnCallback engine.toDecisionEngine store.tables store.callbacks
        (input.request contactId identityId) now = false := by
    cases consumes : plan.consumption with
    | none =>
        have unused := plan_unconsumed planned consumes
        rw [Deliberation.consumed, allowed.reading, bind_some] at unused
        have same : after.callbacks = store.callbacks := by simp [committed.callbacks, consumes]
        rw [same]
        exact ⟨fun _ => allowed.gates.not_restsOnCallback unused, fun _ => allowed.gates.reserved⟩
    | some row =>
        obtain ⟨original, -, used, -⟩ := plan_consumption planned consumes
        rw [Deliberation.consumed, allowed.reading, bind_some] at used
        rw [allowed.gates.restsOnCallback_iff used]
        exact allowed.gates.used_iff (callback_gone keyed planned committed allowed consumes)
  rw [revalidate_allow_iff, found, reserves, committed.tables]
  constructor
  · rintro ⟨row, same, context, current, open_⟩
    cases same
    obtain ⟨kind, version, contact⟩ := (contextHolds_iff rfl).mp context
    exact ⟨⟨kind, version, contact, current⟩, gates.mp open_⟩
  · rintro ⟨event, rests⟩
    refine ⟨_, rfl, (contextHolds_iff rfl).mpr ⟨event.contactKind, event.version, event.contact⟩,
      event.taken, gates.mpr rests⟩

/-- An action that has just been allowed is allowed again exactly when the event is in order
and the rule that was reported, if any, is not lifted by the callback alone. Where the answer
was a stored decision, exactly when the gates are open now. -/
theorem revalidation_agrees_iff (keyed : CallbacksKeyed store.callbacks)
    {outcome : AuthorizationOutcome}
    (ok : authorizeAndReserve tenantId engine store input ids now = .ok (outcome, after))
    (allows : outcome.decision = .allow) {again : RevalidateAuthorizedActionInput}
    (sameId : outcome.reservation.map Prod.fst = some again.reservationId)
    (sameKey : again.actionKey = input.actionKey) :
    (existingDecision store input.actionKey = none →
      ∃ contactId identityId, input.subject = .contact contactId identityId ∧
        ((revalidateAuthorizedAction engine.toDecisionEngine after again now).decision = .allow ↔
          EventInOrder engine.toDecisionEngine store (input.request contactId identityId) now again ∧
          restsOnCallback engine.toDecisionEngine store.tables store.callbacks
            (input.request contactId identityId) now = false)) ∧
    (existingDecision store input.actionKey ≠ none →
      ((revalidateAuthorizedAction engine.toDecisionEngine after again now).decision = .allow ↔
        ∃ row, namedReservation store.reservations again = some row ∧ contextHolds row again = true ∧
          staleReason store.tables (loadCg3Facts engine.toDecisionEngine store.tables store.callbacks
            (row.request.query now)) again = none ∧
          GatesOpen engine.toDecisionEngine store.tables store.callbacks row.request now)) := by
  unfold authorizeAndReserve at ok
  split at ok
  next existing found =>
    refine ⟨fun absent => absurd (found.symm.trans absent) (by simp), fun _ => ?_⟩
    split at ok
    next => cases ok
    cases ok
    exact revalidate_allow_iff
  next absent =>
    refine ⟨fun _ => ?_, fun known => absurd absent known⟩
    obtain ⟨plan, planned, ok⟩ := bind_ok ok
    obtain ⟨written, commits, ok⟩ := bind_ok ok
    cases ok
    have committed := commitPlan_ok commits
    exact revalidate_decided_iff keyed planned committed allows (toOutcome_reservationId sameId)
      sameKey

end Question

def policyAnnounced (name : String) : RevalidateAuthorizedActionInput where
  reservationId := name ++ "-reservation"
  actionKey := name
  sourceAggregateType := .policy
  sourceAggregateId := "night"
  sourceAggregateVersion := 1
  contactKind := none
  sourceContract := none
  sourceEventType := none
  sourceScopeKey := none

def openStore : GovernanceStore :=
  { christmasStore with
    tables := { christmasTables with policies := [{ nightPolicyRow with quietHours := [] }] } }

/-- Where nothing had to be lifted, the callback is still there and the answer is the same. -/
theorem revalidation_agrees_without_quietHours :
    ∃ outcome after, authorizeAndReserve "tenant" sampleEngine openStore (christmasCall "first")
        (sampleIds "first") (dateUtc 2026 12 25 16 0) = .ok (outcome, after) ∧
      outcome.decision = .allow ∧
      (revalidateAuthorizedAction sampleEngine.toDecisionEngine after (policyAnnounced "first")
        (dateUtc 2026 12 25 16 0)).decision = .allow := by
  have allowed : succeedsWith (authorizeAndReserve "tenant" sampleEngine openStore
      (christmasCall "first") (sampleIds "first") (dateUtc 2026 12 25 16 0)) (fun result =>
        decide (result.1.decision = .allow ∧
          result.1.reservation.map Prod.fst = some "first-reservation")) = true := by
    decide +kernel
  obtain ⟨⟨outcome, after⟩, ok, shown⟩ := of_succeedsWith allowed
  obtain ⟨allows, reserved⟩ := of_decide_eq_true shown
  have keyed : CallbacksKeyed openStore.callbacks := ⟨by decide, by decide⟩
  have named : outcome.reservation.map Prod.fst = some (policyAnnounced "first").reservationId :=
    reserved
  obtain ⟨decided, -⟩ := revalidation_agrees_iff keyed ok allows named rfl
  obtain ⟨contactId, identityId, subject, agrees⟩ := decided rfl
  cases subject
  refine ⟨outcome, after, ok, allows, agrees.mpr ⟨⟨rfl, by decide, nofun, ?_⟩, ?_⟩⟩
  · decide +kernel
  · decide +kernel

/-- The message that the callback has let through is deferred when it is asked about. -/
theorem revalidation_defers_after_callback :
    ¬ ∀ (tenantId : String) (engine : GovernanceEngine) (store after : GovernanceStore)
      (input : AuthorizeAndReserveInput) (ids : AuthorizationIds) (now : Instant)
      (outcome : AuthorizationOutcome) (again : RevalidateAuthorizedActionInput)
      (contactId : String) (identityId : Option String), CallbacksKeyed store.callbacks →
      existingDecision store input.actionKey = none →
      authorizeAndReserve tenantId engine store input ids now = .ok (outcome, after) →
      outcome.decision = .allow → outcome.reservation.map Prod.fst = some again.reservationId →
      again.actionKey = input.actionKey → input.subject = .contact contactId identityId →
      EventInOrder engine.toDecisionEngine store (input.request contactId identityId) now again →
      (revalidateAuthorizedAction engine.toDecisionEngine after again now).decision = .allow := by
  intro agrees
  have deferred : succeedsWith (authorizeAndReserve "tenant" sampleEngine christmasStore
      (christmasCall "first") (sampleIds "first") (dateUtc 2026 12 25 16 0)) (fun result =>
        decide (result.1.decision = .allow ∧
          result.1.reservation.map Prod.fst = some "first-reservation" ∧
          (revalidateAuthorizedAction sampleEngine.toDecisionEngine result.2 (policyAnnounced "first")
            (dateUtc 2026 12 25 16 0)).decision = .defer)) = true := by
    decide +kernel
  obtain ⟨⟨outcome, after⟩, ok, shown⟩ := of_succeedsWith deferred
  obtain ⟨allows, reserved, defers⟩ := of_decide_eq_true shown
  have allowed := agrees "tenant" sampleEngine christmasStore after (christmasCall "first")
    (sampleIds "first") (dateUtc 2026 12 25 16 0) outcome (policyAnnounced "first") "contact" none
    ⟨by decide, by decide⟩ rfl ok allows reserved rfl rfl
    ⟨rfl, by decide, nofun, by decide +kernel⟩
  rw [defers] at allowed
  cases allowed

end DContact.Governance

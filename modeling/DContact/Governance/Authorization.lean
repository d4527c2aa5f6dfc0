import DContact.Governance.CallbackRequests
import DContact.Governance.Reservation

/-!
# Authorizing a contact

One call decides one action: identity, restriction and consent first, then the kill
switches, then the contact policy under the reader that the rollout selects. A decision
that allows the contact also reserves it, and a callback that lifted a temporal block is
used up by a row of its own. The call reads everything before it writes anything, so it
is given as a plan and the writing of the plan.
-/

namespace DContact.Governance

open Lib

inductive IdentityResolution where
  | resolved
  | ambiguous
  | notFound
  | identityMappingPending

/-- The gates of a decision, those of the contact policy among them. -/
inductive DecisionGate where
  | identity
  | hardRestriction
  | consent
  | killSwitch
  | policyHead
  | migrationShadow
  | contactPolicy (gate : PolicyGate)

structure DecisionTraceEntry where
  gate : DecisionGate
  outcome : GateVerdict
  reasonCode : Option String := none

structure ContactPolicyFacts where
  policyVersion : Int
  identityResolution : IdentityResolution
  activeRestriction : Option RestrictionRow
  consent : Option (ConsentStatus × String)

structure ContactPolicyResult where
  decision : ContactDecision
  reasonCode : String
  policyVersion : Int
  trace : List DecisionTraceEntry

def settledAt (facts : ContactPolicyFacts) (passed : List DecisionGate) (gate : DecisionGate)
    (decision : ContactDecision) (reasonCode : String) : ContactPolicyResult where
  decision := decision
  reasonCode := reasonCode
  policyVersion := facts.policyVersion
  trace := passed.map (fun before => ⟨before, .pass, none⟩) ++
    [⟨gate, .settled decision, some reasonCode⟩]

def consentGate (facts : ContactPolicyFacts) : ContactPolicyResult :=
  let settled := settledAt facts [.identity, .hardRestriction] .consent
  match facts.consent with
  | some (.revoked, _) => settled .block "CONSENT_REVOKED"
  | some (.expired, _) => settled .block "CONSENT_EXPIRED"
  | some (.granted, _) => settled .allow "POLICY_PASSED"
  | none => settled .block "CONSENT_REQUIRED"

def evaluateContactPolicy (facts : ContactPolicyFacts) : ContactPolicyResult :=
  match facts.identityResolution with
  | .ambiguous => settledAt facts [] .identity .review "IDENTITY_AMBIGUOUS"
  | .notFound => settledAt facts [] .identity .review "IDENTITY_NOT_FOUND"
  | .identityMappingPending => settledAt facts [] .identity .review "IDENTITY_MAPPING_PENDING"
  | .resolved =>
      match facts.activeRestriction with
      | some restriction =>
          settledAt facts [.identity] .hardRestriction .block restriction.reasonCode
      | none => consentGate facts

/-- What the gates look at, whether a new action or a reserved one is asked about. -/
structure ContactRequest where
  contactId : String
  identityId : Option String
  channel : ContactChannel
  purpose : String
  contactKind : Option String
  senderIdentityId : Option String
  source : String
  sourceId : String

def identityKnown (tables : FactTables) (request : ContactRequest) : Bool :=
  !isGiven request.identityId ||
    tables.identities.any fun row =>
      some row.id == request.identityId && row.contactId == request.contactId

def openOr {α : Type} [DecidableEq α] (column : Option α) (value : α) : Bool :=
  column.isNone || column == some value

def identityOpenOr (request : ContactRequest) (column : Option String) : Bool :=
  column.isNone || (isGiven request.identityId && column == request.identityId)

def RestrictionRow.applies (request : ContactRequest) (now : Instant) (row : RestrictionRow) : Bool :=
  inForce row.startsAt row.expiresAt now && openOr row.contactId request.contactId &&
    identityOpenOr request row.identityId && openOr row.channel request.channel &&
    openOr row.purpose request.purpose

def findRestriction (tables : FactTables) (request : ContactRequest) (now : Instant) :
    Option RestrictionRow :=
  Table.latest RestrictionRow.startsAt (tables.restrictions.filter (RestrictionRow.applies request now))

def ConsentRow.concerns (request : ContactRequest) (row : ConsentRow) : Bool :=
  row.contactId == request.contactId && row.purpose == request.purpose &&
    row.channel == request.channel && identityOpenOr request row.identityId

def findConsent (tables : FactTables) (request : ContactRequest) : Option ConsentRow :=
  Table.latest ConsentRow.createdAt (tables.consents.filter (ConsentRow.concerns request))

def ConsentRow.statusAt (now : Instant) (row : ConsentRow) : ConsentStatus :=
  if row.status = .granted ∧ (row.expiresAt.any fun ends => decide (ends ≤ now)) = true then .expired
  else row.status

def consentFacts (tables : FactTables) (request : ContactRequest) (now : Instant) :
    Option (ConsentStatus × String) :=
  (findConsent tables request).map fun row => (row.statusAt now, row.lawfulBasis)

def ContactChannel.text : ContactChannel → String
  | .voice => "VOICE"
  | .webchat => "WEBCHAT"
  | .line => "LINE"
  | .facebook => "FACEBOOK"
  | .whatsapp => "WHATSAPP"
  | .email => "EMAIL"

/-- The switch of one contact, or a scope that binds no dimension to another value. A scope
that cannot be read covers everything. -/
def killSwitchCoversReservation (scopeKey : String) (request : ContactRequest) : Bool :=
  if "contact:".toList.isPrefixOf scopeKey.toList then
    scopeKey == "contact:" ++ request.contactId
  else
    match parseCg4PolicyScopeKey scopeKey with
    | .error _ => true
    | .ok dimensions =>
        agree dimensions (RequestScope.dimension
          ⟨some request.channel.text, request.contactKind, some request.purpose, some request.source⟩)

def killSwitchCovers (tables : FactTables) (request : ContactRequest) : Bool :=
  tables.studio.killSwitches.any fun row =>
    row.active && killSwitchCoversReservation row.scopeKey request

inductive ReaderMode where
  | cg3
  | cg3WithShadow
  | cg4

structure ReaderSelection where
  mode : ReaderMode
  pilot : Bool

/-- `loadCg4RolloutState` with the default of `cg4DefaultRollout`. -/
def loadCg4RolloutState (tables : FactTables) : RolloutState :=
  tables.rollout.getD ⟨.disabled, []⟩

/-- `scopeCovers` is `scopeKeyMatches`: a key that cannot be read covers every request. -/
def cg4PolicyReaderFor (rollout : RolloutState) (request : RequestScope) : ReaderSelection :=
  let pilot := rollout.syntheticScopeKeys.any fun scopeKey => scopeKeyMatches scopeKey request
  match rollout.stage with
  | .disabled => ⟨.cg3, false⟩
  | .shadowEvaluation => ⟨.cg3WithShadow, pilot⟩
  | .scopedSynthetic => ⟨if pilot then .cg4 else .cg3WithShadow, pilot⟩
  | .internalEnabled => ⟨.cg4, pilot⟩

def cg4PolicyRequestScope (request : ContactRequest) : RequestScope where
  channel := some request.channel.text
  contactKind := request.contactKind.filter fun kind => kind ≠ ""
  purpose := some request.purpose
  sourceType := if request.source = "" then none else some request.source

inductive ClosedGate where
  | policyHead
  | migrationShadow

def ClosedGate.gate : ClosedGate → DecisionGate
  | .policyHead => .policyHead
  | .migrationShadow => .migrationShadow

/-- The outcome of the contact policy, or of `cg4PolicyFailClosedOutcome`. -/
inductive PolicyVerdict where
  | evaluated (outcome : GateOutcome)
  | failClosed (gate : ClosedGate) (reasonCode : String)

namespace PolicyVerdict

/-- The outcome, when the gates were walked. -/
def outcome : PolicyVerdict → Option GateOutcome
  | .evaluated outcome => some outcome
  | .failClosed _ _ => none

def decision : PolicyVerdict → Option ContactDecision
  | .evaluated outcome => outcome.decision
  | .failClosed _ _ => some .review

def reasonCode : PolicyVerdict → Option String
  | .evaluated outcome => outcome.reasonCode.map Reason.text
  | .failClosed _ reasonCode => some reasonCode

def trace : PolicyVerdict → List DecisionTraceEntry
  | .evaluated outcome => outcome.trace.map fun entry =>
      ⟨.contactPolicy entry.gate, entry.outcome, entry.reasonCode.map Reason.text⟩
  | .failClosed gate reasonCode => [⟨gate.gate, .settled .review, some reasonCode⟩]

def consumedCallbackRequestId (verdict : PolicyVerdict) : Option String :=
  verdict.outcome.bind GateOutcome.consumedCallbackRequestId

def appliedExceptions (verdict : PolicyVerdict) : List AppliedExceptionPin :=
  (verdict.outcome.map GateOutcome.appliedExceptions).getD []

end PolicyVerdict

/-- The record whose digest the shadow comparison takes. -/
structure ShadowDigest where
  decision : ContactDecision
  reasonCode : String
  nextEligibleAt : Option Instant
  matchedWindowRef : Option String
  timezoneSource : Option TimezoneSource
  exceptionMode : Option CallbackMode
  overridesCallback : Bool
  deriving DecidableEq

/-- Compared by the record itself: the digest is taken to tell records apart. -/
def cg4ShadowDecisionDigest (verdict : PolicyVerdict) : ShadowDigest where
  decision := verdict.decision.getD .allow
  reasonCode := verdict.reasonCode.getD "POLICY_PASSED"
  nextEligibleAt := verdict.outcome.bind GateOutcome.nextEligibleAt
  matchedWindowRef := verdict.outcome.bind GateOutcome.matchedWindowRef
  timezoneSource := verdict.outcome.bind GateOutcome.timezoneSource
  exceptionMode := verdict.outcome.bind GateOutcome.exceptionMode
  overridesCallback := verdict.consumedCallbackRequestId.isSome

def ReviewReason.text : ReviewReason → String
  | .governanceStateUnavailable => "GOVERNANCE_STATE_UNAVAILABLE"
  | .governancePolicyVersionUnsupported => "GOVERNANCE_POLICY_VERSION_UNSUPPORTED"
  | .policyActivationPending => "POLICY_ACTIVATION_PENDING"

def governanceShadowMismatch : String := "GOVERNANCE_SHADOW_MISMATCH"

def governanceKillSwitchActive : String := "GOVERNANCE_KILL_SWITCH_ACTIVE"

def evaluationInput (request : ContactRequest) (facts : Cg3Facts) (now : Instant)
    (policy : Option PolicyFacts) : EvaluationInput where
  now := now
  identityId := request.identityId
  channel := request.channel
  purpose := request.purpose
  contactKind := request.contactKind
  senderIdentityId := request.senderIdentityId
  customerExplicitTimezone := none
  customer360Timezone := none
  tenantDefaultTimezone := none
  preferences := facts.preferences
  policy := policy
  activeCallback := facts.activeCallback
  source := some request.source
  sourceId := some request.sourceId
  activeExceptions := facts.activeExceptions.map LoadedException.facts

def evaluate (engine : DecisionEngine) (request : ContactRequest) (facts : Cg3Facts) (now : Instant)
    (policy : Option PolicyFacts) : PolicyVerdict :=
  .evaluated (evaluateCg3Policy engine.zones (evaluationInput request facts now policy))

def shadowOutcome (read : PolicyReadResult) (evaluated : Option PolicyFacts → PolicyVerdict) :
    PolicyVerdict :=
  match read with
  | .failClosed reason _ => .failClosed .policyHead reason.text
  | .resolved facts _ _ _ => evaluated (some facts)
  | .unconfigured => evaluated none

def ContactRequest.query (request : ContactRequest) (now : Instant) : FactQuery :=
  ⟨request.contactId, request.identityId, request.channel, request.purpose, request.contactKind, now⟩

/-- Why a call has no contact. -/
inductive UnresolvedIdentity where
  | ambiguous
  | notFound
  | identityMappingPending

def UnresolvedIdentity.identityResolution : UnresolvedIdentity → IdentityResolution
  | .ambiguous => .ambiguous
  | .notFound => .notFound
  | .identityMappingPending => .identityMappingPending

/-- The subject of a call: a contact, or the reason why there is none. -/
inductive ContactSubject where
  | contact (contactId : String) (identityId : Option String)
  | unresolved (resolution : UnresolvedIdentity)

structure AuthorizeAndReserveInput where
  subject : ContactSubject
  channel : ContactChannel
  purpose : String
  source : String
  sourceId : String
  actionKey : String
  policyVersion : Int
  teamId : Option String
  contactKind : Option String
  senderIdentityId : Option String

def AuthorizeAndReserveInput.request (input : AuthorizeAndReserveInput) (contactId : String)
    (identityId : Option String) : ContactRequest :=
  ⟨contactId, identityId, input.channel, input.purpose, input.contactKind, input.senderIdentityId,
    input.source, input.sourceId⟩

/-- `Cg4DecisionTracePinsV1`; its contract version is always 1. -/
structure DecisionPins where
  policy : PolicyBinding
  decisionStateDigest : String
  appliedExceptions : List AppliedExceptionPin

/-- `cg_decision_logs`. -/
structure DecisionRow where
  id : String
  contactId : Option String
  identityId : Option String
  channel : ContactChannel
  purpose : String
  source : String
  sourceId : String
  teamId : Option String
  actionKey : String
  inputHash : String
  decision : ContactDecision
  reasonCode : String
  policyVersion : Int
  gate : DecisionGate
  trace : List DecisionTraceEntry
  reservationId : Option String
  decidedAt : Instant
  aggregateVersion : Option Nat
  preferenceVersion : Option Nat
  nextEligibleAt : Option Instant
  timezoneSource : Option TimezoneSource
  matchedScope : Option MatchedScope
  matchedWindowRef : Option String
  exceptionMode : Option CallbackMode
  exceptionRef : Option String
  cg4 : Option DecisionPins

/-- `cg_reservations`, with the columns that only authorization writes. -/
structure AuthorizedReservation extends ReservationRow where
  sourceId : String
  teamId : Option String
  inputHash : String
  authorizationPolicyVersion : Option Nat
  authorizationContactKind : Option String
  authorizationContextVersion : Nat
  authorizationDecisionId : Option String

/-- `cg4_shadow_mismatch`; the scope key of the request is evidence only. -/
structure ShadowMismatchRow where
  id : String
  decisionId : String
  pilot : Bool
  cg3Digest : ShadowDigest
  cg4Digest : ShadowDigest
  cg3PolicyVersion : Option Nat
  cg4PolicyVersionId : Option String
  detectedAt : Instant

structure GovernanceStore where
  tables : FactTables
  callbacks : List CallbackRow
  decisions : List DecisionRow
  reservations : List AuthorizedReservation
  mismatches : List ShadowMismatchRow
  callbackReceipts : List CallbackReceipt

inductive GovernanceError where
  | idempotencyConflict (actionKey : String)
  | callbackNotFound (requestId : String)
  | contactMissing
  | hostTypeError
  | constraintViolation (name : String)

structure AuthorizationIds where
  decisionId : String
  mismatchId : String
  consumeId : String
  reservationId : String

/-- Reading the policy for a decision: the verdict, the head it rests on, the policy version
that is recorded, and the mismatch that is put on record. -/
structure PolicyReading where
  verdict : PolicyVerdict
  headBinding : Option PolicyBinding
  policyVersion : Option Nat
  mismatch : Option (ReaderSelection × ShadowDigest × ShadowDigest × Option String)

def PolicyReadResult.binding : PolicyReadResult → Option PolicyBinding
  | .resolved _ binding _ _ => some binding
  | _ => none

def readPolicy (engine : DecisionEngine) (tables : FactTables) (request : ContactRequest)
    (facts : Cg3Facts) (now : Instant) : PolicyReading :=
  let scope := cg4PolicyRequestScope request
  let reader := cg4PolicyReaderFor (loadCg4RolloutState tables) scope
  let evaluated := evaluate engine request facts now
  let read := loadCg4PolicyFacts engine.toPolicyEngine tables.studio scope now
  let version := facts.policy.map PolicyFacts.version
  match reader.mode with
  | .cg4 =>
      match read with
      | .failClosed reason _ => ⟨.failClosed .policyHead reason.text, none, none, none⟩
      | .resolved policy binding _ _ =>
          ⟨evaluated (some policy), some binding, some binding.policyVersion, none⟩
      | .unconfigured => ⟨evaluated none, none, none, none⟩
  | .cg3 => ⟨evaluated facts.policy, none, version, none⟩
  | .cg3WithShadow =>
      let cg3 := evaluated facts.policy
      let cg3Digest := cg4ShadowDecisionDigest cg3
      let cg4Digest := cg4ShadowDecisionDigest (shadowOutcome read evaluated)
      if cg3Digest = cg4Digest then ⟨cg3, none, version, none⟩
      else
        ⟨if reader.pilot then .failClosed .migrationShadow governanceShadowMismatch else cg3, none,
          version, some (reader, cg3Digest, cg4Digest, read.binding.map PolicyBinding.policyVersionId)⟩

/-- The local variables of a decision once the gates have been walked. -/
structure Deliberation where
  decision : ContactDecision
  reasonCode : String
  policyVersion : Int
  trace : List DecisionTraceEntry
  facts : Option Cg3Facts
  reading : Option PolicyReading

/-- The last entry loses its verdict when it allowed and other gates follow. -/
def passLast : List DecisionTraceEntry → List DecisionTraceEntry
  | [] => []
  | [entry] => [if entry.outcome = .settled .allow then ⟨entry.gate, .pass, none⟩ else entry]
  | entry :: second :: rest => entry :: passLast (second :: rest)

/-- Whether the identifier names a contact; an empty one is no identifier. -/
def contactKnown (tables : FactTables) (contactId : String) : Bool :=
  decide (contactId ≠ "") && tables.contacts.contains contactId

def legacyFacts (tables : FactTables) (input : AuthorizeAndReserveInput) (now : Instant) :
    ContactPolicyFacts :=
  match input.subject with
  | .unresolved resolution => ⟨input.policyVersion, resolution.identityResolution, none, none⟩
  | .contact contactId identityId =>
      let request := input.request contactId identityId
      if !contactKnown tables contactId then ⟨input.policyVersion, .notFound, none, none⟩
      else if !identityKnown tables request then
        ⟨input.policyVersion, .notFound, findRestriction tables request now, none⟩
      else
        ⟨input.policyVersion, .resolved, findRestriction tables request now,
          consentFacts tables request now⟩

/-- The gates behind identity, restriction and consent, which all have passed. -/
def contactGates (engine : DecisionEngine) (tables : FactTables) (callbacks : List CallbackRow)
    (request : ContactRequest) (passed : ContactPolicyResult) (now : Instant) : Deliberation :=
  if killSwitchCovers tables request then
    ⟨.review, governanceKillSwitchActive, passed.policyVersion,
      passLast passed.trace ++
        [⟨.killSwitch, .settled .review, some governanceKillSwitchActive⟩], none, none⟩
  else
    let facts := loadCg3Facts engine tables callbacks (request.query now)
    let reading := readPolicy engine tables request facts now
    ⟨reading.verdict.decision.getD .allow,
      match reading.verdict.decision with
      | some _ => reading.verdict.reasonCode.getD ""
      | none => "POLICY_PASSED",
      passed.policyVersion, passLast passed.trace ++ reading.verdict.trace, some facts, some reading⟩

def deliberate (engine : DecisionEngine) (tables : FactTables) (callbacks : List CallbackRow)
    (input : AuthorizeAndReserveInput) (now : Instant) : Deliberation :=
  let policyResult := evaluateContactPolicy (legacyFacts tables input now)
  let plain : Deliberation := ⟨policyResult.decision, policyResult.reasonCode,
    policyResult.policyVersion, policyResult.trace, none, none⟩
  match input.subject with
  | .unresolved _ => plain
  | .contact contactId identityId =>
      if policyResult.decision = .allow then
        contactGates engine tables callbacks (input.request contactId identityId) policyResult now
      else plain

structure GovernanceEngine extends DecisionEngine where
  inputHash : AuthorizeAndReserveInput → String

/-- Everything that one call inserts. -/
structure AuthorizationPlan where
  decision : DecisionRow
  reservation : Option AuthorizedReservation
  consumption : Option CallbackRow
  mismatch : Option ShadowMismatchRow

/-- The row that uses a request up: the next version of its series. -/
def consumptionOf (engine : DecisionEngine) (ids : AuthorizationIds) (original : CallbackRow) :
    CallbackRow :=
  { original with
    id := ids.consumeId
    version := original.version + 1
    oneUseTokenHash := engine.consumeToken original.id ids.decisionId
    mutationKind := .consume
    supersedesId := some original.id
    evidenceRef := "system:authorizeAndReserve:" ++ ids.decisionId
    requestHash := engine.consumeHash original.id (original.version + 1)
    actorClass := "SYSTEM" }

def findCallback (callbacks : List CallbackRow) (requestId : String) :
    Except GovernanceError CallbackRow :=
  orFail (Table.lookup CallbackRow.id requestId callbacks) (.callbackNotFound requestId)

def planConsumption (engine : DecisionEngine) (callbacks : List CallbackRow) (ids : AuthorizationIds)
    (consumed : Option String) : Except GovernanceError (Option CallbackRow) :=
  match consumed with
  | none => .ok none
  | some requestId => do
      let original ← findCallback callbacks requestId
      .ok (some (consumptionOf engine ids original))

/-- `toCg4PolicyBinding` of an exception. -/
def LoadedException.binding (exception : LoadedException) : PolicyBinding :=
  ⟨exception.policyId, exception.policyVersionId, exception.policyVersion,
    exception.facts.policyContentDigest, policySchemaVersion, ruleRegistryVersion, evaluatorVersion⟩

def pinnedPolicy (facts : Cg3Facts) (reading : PolicyReading) (first : AppliedExceptionPin) :
    Except GovernanceError PolicyBinding :=
  match reading.headBinding with
  | some binding => .ok binding
  | none => do
      let exception ← orFail (facts.activeExceptions.find? fun candidate =>
        candidate.facts.revisionId == first.revisionId) .hostTypeError
      .ok exception.binding

def planPins (engine : DecisionEngine) (facts : Cg3Facts) (reading : PolicyReading) :
    Except GovernanceError (Option DecisionPins) :=
  match reading.verdict.appliedExceptions, reading.headBinding with
  | [], none => .ok none
  | [], some binding => .ok (some ⟨binding, engine.pinDigest binding [], []⟩)
  | first :: rest, _ => do
      let policy ← pinnedPolicy facts reading first
      .ok (some ⟨policy, engine.pinDigest policy (first :: rest), first :: rest⟩)

/-- The pins of a deliberation that came as far as the contact policy. -/
def Deliberation.pins (engine : DecisionEngine) (deliberation : Deliberation) :
    Except GovernanceError (Option DecisionPins) :=
  match deliberation.facts, deliberation.reading with
  | some facts, some reading => planPins engine facts reading
  | _, _ => .ok none

def Deliberation.consumed (deliberation : Deliberation) : Option String :=
  deliberation.reading.bind fun reading => reading.verdict.consumedCallbackRequestId

/-- `RESERVATION_TTL_MS`. -/
def reservationTtlMs : Int := 15 * 60 * 1000

def reservationFor (tenantId : String) (engine : GovernanceEngine) (input : AuthorizeAndReserveInput)
    (contactId : String) (identityId : Option String) (deliberation : Deliberation)
    (ids : AuthorizationIds) (now : Instant) : AuthorizedReservation where
  id := ids.reservationId
  tenantId := tenantId
  contactId := contactId
  identityId := identityId
  channel := input.channel
  purpose := input.purpose
  source := input.source
  actionKey := input.actionKey
  state := .reserved
  expiresAt := now + reservationTtlMs
  confirmedAt := none
  releasedAt := none
  refundedAt := none
  deliveryId := none
  senderIdentityId := none
  providerRequestKey := none
  leaseVersion := none
  leaseExpiresAt := none
  submissionStartedAt := none
  settlementStatus := some .unclaimed
  terminalOutcome := none
  terminalOutcomeRef := none
  settledAt := none
  authorizationAggregateVersion := deliberation.facts.map Cg3Facts.aggregateVersion
  sourceId := input.sourceId
  teamId := input.teamId
  inputHash := engine.inputHash input
  authorizationPolicyVersion := deliberation.reading.bind PolicyReading.policyVersion
  authorizationContactKind := input.contactKind
  authorizationContextVersion := 1
  authorizationDecisionId := some ids.decisionId

def planReservation (tenantId : String) (engine : GovernanceEngine)
    (input : AuthorizeAndReserveInput) (deliberation : Deliberation) (ids : AuthorizationIds)
    (now : Instant) : Except GovernanceError (Option AuthorizedReservation) :=
  if deliberation.decision = .allow then
    match input.subject with
    | .unresolved _ => .error .contactMissing
    | .contact contactId identityId =>
        if contactId = "" then .error .contactMissing
        else .ok (some (reservationFor tenantId engine input contactId identityId deliberation ids now))
  else .ok none

/-- The contact and the identity that the decision is logged with: those that were found. -/
def foundContact (tables : FactTables) (input : AuthorizeAndReserveInput) : Option String :=
  match input.subject with
  | .unresolved _ => none
  | .contact contactId _ => if contactKnown tables contactId then some contactId else none

def foundIdentity (tables : FactTables) (input : AuthorizeAndReserveInput) : Option String :=
  match input.subject with
  | .unresolved _ => none
  | .contact contactId identityId =>
      if isGiven identityId && identityKnown tables (input.request contactId identityId) then identityId
      else none

def decisionFor (engine : GovernanceEngine) (tables : FactTables) (input : AuthorizeAndReserveInput)
    (deliberation : Deliberation) (pins : Option DecisionPins)
    (reservation : Option AuthorizedReservation) (ids : AuthorizationIds) (now : Instant) :
    DecisionRow :=
  let outcome := deliberation.reading.bind fun reading => reading.verdict.outcome
  { id := ids.decisionId
    contactId := foundContact tables input
    identityId := foundIdentity tables input
    channel := input.channel
    purpose := input.purpose
    source := input.source
    sourceId := input.sourceId
    teamId := input.teamId
    actionKey := input.actionKey
    inputHash := engine.inputHash input
    decision := deliberation.decision
    reasonCode := deliberation.reasonCode
    policyVersion := deliberation.policyVersion
    gate := (deliberation.trace.getLast?.map DecisionTraceEntry.gate).getD .identity
    trace := deliberation.trace
    reservationId := reservation.map fun row => row.id
    decidedAt := now
    aggregateVersion := deliberation.facts.map Cg3Facts.aggregateVersion
    preferenceVersion := outcome.bind GateOutcome.preferenceVersion
    nextEligibleAt := outcome.bind GateOutcome.nextEligibleAt
    timezoneSource := outcome.bind GateOutcome.timezoneSource
    matchedScope := outcome.bind GateOutcome.matchedScope
    matchedWindowRef := outcome.bind GateOutcome.matchedWindowRef
    exceptionMode := outcome.bind GateOutcome.exceptionMode
    exceptionRef := outcome.bind GateOutcome.exceptionRef
    cg4 := pins }

def mismatchFor (deliberation : Deliberation) (ids : AuthorizationIds) (now : Instant) :
    Option ShadowMismatchRow :=
  (deliberation.reading.bind PolicyReading.mismatch).map fun (reader, cg3Digest, cg4Digest, version) =>
    { id := ids.mismatchId
      decisionId := ids.decisionId
      pilot := reader.pilot
      cg3Digest := cg3Digest
      cg4Digest := cg4Digest
      cg3PolicyVersion := deliberation.facts.bind fun facts => facts.policy.map PolicyFacts.version
      cg4PolicyVersionId := version
      detectedAt := now }

def planAuthorization (tenantId : String) (engine : GovernanceEngine) (store : GovernanceStore)
    (input : AuthorizeAndReserveInput) (ids : AuthorizationIds) (now : Instant) :
    Except GovernanceError AuthorizationPlan := do
  let deliberation := deliberate engine.toDecisionEngine store.tables store.callbacks input now
  let pins ← deliberation.pins engine.toDecisionEngine
  let consumption ← planConsumption engine.toDecisionEngine store.callbacks ids deliberation.consumed
  let reservation ← planReservation tenantId engine input deliberation ids now
  .ok {
    decision := decisionFor engine store.tables input deliberation pins reservation ids now
    reservation := reservation
    consumption := consumption
    mismatch := mismatchFor deliberation ids now }

/-- The unique indexes and checks of `cg_reservations`. -/
def insertReservation (tables : FactTables) (reservations : List AuthorizedReservation)
    (row : AuthorizedReservation) : Except GovernanceError (List AuthorizedReservation) := do
  ensure (∀ other ∈ reservations, other.id ≠ row.id) (.constraintViolation "cg_reservations_pkey")
  ensure (∀ other ∈ reservations, other.actionKey ≠ row.actionKey)
    (.constraintViolation "cg_reservations_tenant_id_action_key_key")
  ensure (row.authorizationPolicyVersion ≠ some 0)
    (.constraintViolation "cg_reservations_authorization_versions_check")
  ensure (∀ teamId ∈ row.teamId, teamId ∈ tables.activeTeams) (.constraintViolation "TEAM_INACTIVE")
  .ok (reservations ++ [row])

def insertDecision (decisions : List DecisionRow) (row : DecisionRow) :
    Except GovernanceError (List DecisionRow) := do
  ensure (∀ other ∈ decisions, other.id ≠ row.id) (.constraintViolation "cg_decision_logs_pkey")
  .ok (decisions ++ [row])

def insertMismatch (mismatches : List ShadowMismatchRow) (row : ShadowMismatchRow) :
    Except GovernanceError (List ShadowMismatchRow) := do
  ensure (∀ other ∈ mismatches, other.id ≠ row.id ∧ other.decisionId ≠ row.decisionId)
    (.constraintViolation "cg4_shadow_mismatch_tenant_id_decision_id_key")
  .ok (mismatches ++ [row])

def insertPlanned {α : Type} (insert : List α → α → Except GovernanceError (List α)) (rows : List α) :
    Option α → Except GovernanceError (List α)
  | none => .ok rows
  | some row => insert rows row

def commitPlan (store : GovernanceStore) (plan : AuthorizationPlan) :
    Except GovernanceError GovernanceStore := do
  let mismatches ← insertPlanned insertMismatch store.mismatches plan.mismatch
  let callbacks ← insertPlanned (fun rows row =>
    (insertCallback rows row).mapError .constraintViolation) store.callbacks plan.consumption
  let reservations ← insertPlanned (insertReservation store.tables) store.reservations plan.reservation
  let decisions ← insertDecision store.decisions plan.decision
  .ok { store with
    mismatches := mismatches
    callbacks := callbacks
    reservations := reservations
    decisions := decisions }

structure AuthorizationOutcome where
  decisionId : String
  decision : ContactDecision
  reasonCode : String
  policyVersion : Int
  trace : List DecisionTraceEntry
  aggregateVersion : Option Nat
  preferenceVersion : Option Nat
  nextEligibleAt : Option Instant
  timezoneSource : Option TimezoneSource
  matchedScope : Option MatchedScope
  matchedWindowRef : Option String
  exceptionMode : Option CallbackMode
  exceptionRef : Option String
  cg4 : Option DecisionPins
  reservation : Option (String × Instant)

/-- The reservation is joined through the column of the decision. -/
def toOutcome (reservations : List AuthorizedReservation) (row : DecisionRow) :
    AuthorizationOutcome where
  decisionId := row.id
  decision := row.decision
  reasonCode := row.reasonCode
  policyVersion := row.policyVersion
  trace := row.trace
  aggregateVersion := row.aggregateVersion
  preferenceVersion := row.preferenceVersion
  nextEligibleAt := row.nextEligibleAt
  timezoneSource := row.timezoneSource
  matchedScope := row.matchedScope
  matchedWindowRef := row.matchedWindowRef
  exceptionMode := row.exceptionMode
  exceptionRef := row.exceptionRef
  cg4 := row.cg4
  reservation := (row.reservationId.bind fun id =>
    Table.lookup (fun reservation : AuthorizedReservation => reservation.id) id reservations).map
      fun reservation => (reservation.id, reservation.expiresAt)

/-- The stored decision of an action, the last one if there were several. -/
def existingDecision (store : GovernanceStore) (actionKey : String) : Option DecisionRow :=
  Table.latest DecisionRow.decidedAt
    (store.decisions.filter fun row => row.actionKey == actionKey)

/-- Under the locks of the action and of the contact, which are held from before the first
read until the writes are committed. -/
def authorizeAndReserve (tenantId : String) (engine : GovernanceEngine) (store : GovernanceStore)
    (input : AuthorizeAndReserveInput) (ids : AuthorizationIds) (now : Instant) :
    Except GovernanceError (AuthorizationOutcome × GovernanceStore) :=
  match existingDecision store input.actionKey with
  | some existing =>
      if existing.inputHash ≠ engine.inputHash input then .error (.idempotencyConflict input.actionKey)
      else .ok (toOutcome store.reservations existing, store)
  | none => do
      let plan ← planAuthorization tenantId engine store input ids now
      let after ← commitPlan store plan
      .ok (toOutcome after.reservations plan.decision, after)

end DContact.Governance

import DContact.Journey.OutcomeReceipts
import DContact.Journey.OwnerActionRepository

/-!
# The processor of outcome triggers

A worker claims one receipt, reads everything that it needs outside of any transaction, and
then writes in one transaction: the enrollments that the outcome opens, the actions that they
ask for, the enrollments that a correction takes back, and the receipt as applied.
-/

namespace DContact.Journey

open Lib
open Governance (Instant)
open Definition (JourneyVersionSnapshot ActionIntent matchesOutcomeTrigger)

inductive TriggerProcessingOutcome where
  | enrolled
  | cancelled
  | blocked
  | unchanged
  | noMatch
  | review
  | deferred
  deriving DecidableEq

/-- `OUTCOME_PRIORITY`. -/
def outcomePriority : List TriggerProcessingOutcome :=
  [.enrolled, .cancelled, .blocked, .unchanged, .noMatch]

inductive TriggerError where
  | receipt (failure : ReceiptError)
  | owner (failure : OwnerError)
  | cursorMismatch (entryStepId : String) (currentStepId : Option String)
  | entryStepMissing
  | constraintViolation (name : String)

inductive ScopeDecision where
  | allow
  | deny
  | defer
  deriving DecidableEq

/-- The answers of the ports and of the definitions to one worker. -/
structure TriggerReadings where
  /-- The contact that the identity was resolved to. -/
  resolveByContactId : String → Option String
  matched : List JourneyVersionSnapshot
  getVersion : String → Nat → Option JourneyVersionSnapshot
  /-- The scope of a team to work with a contact. -/
  authorize : String → String → ScopeDecision

def entryActionStep (snapshot : JourneyVersionSnapshot) :
    Option Definition.JourneyActionIntentStep :=
  match snapshot.graph.stepOf snapshot.graph.entryStepId with
  | some (.actionIntent step) => some step
  | _ => none

def ofStream (tables : JourneyTables) (stream : OutcomeStream) (row : EnrollmentRow) : Bool :=
  match row.outcomeReceiptId with
  | some receiptId => (tables.findOutcomeReceipt receiptId).any fun receipt => receipt.stream = stream
  | none => false

/-- Every enrollment of the logical outcome, whichever version opened it. -/
def streamEnrollments (tables : JourneyTables) (stream : OutcomeStream) : List EnrollmentRow :=
  Text.sortBy (fun row => row.journeyId.getD "") (tables.enrollments.filter (ofStream tables stream))

/-- A journey to decide on, with the enrollment that a former worker left undecided. -/
structure TriggerDecision where
  snapshot : JourneyVersionSnapshot
  enrollmentId : Option String
  scope : ScopeDecision

structure TriggerPlan where
  contactId : String
  decisions : List TriggerDecision
  withdrawn : List EnrollmentRow
  unchanged : Nat

/-- What a worker goes on to do with its receipt. -/
inductive TriggerVerdict where
  | review (reasonCode : String)
  | retry
  | apply (plan : TriggerPlan)

def authorizeWork (readings : TriggerReadings) (contactId : String)
    (snapshot : JourneyVersionSnapshot) : ScopeDecision :=
  let teams := snapshot.ownerTeamId ::
    ((entryActionStep snapshot).map fun step => step.targetOwnerTeamId).toList
  let decisions := teams.map fun team => readings.authorize team contactId
  if decisions.any fun decision => decision = .defer then .defer
  else if decisions.any fun decision => decision = .deny then .deny
  else .allow

def pinnedVersion (readings : TriggerReadings) (row : EnrollmentRow) :
    Option JourneyVersionSnapshot :=
  row.journeyId.bind fun journeyId => readings.getVersion journeyId row.journeyVersion

def stillMatching (readings : TriggerReadings) (receipt : JrOutcomeReceipt) (row : EnrollmentRow) :
    Option JourneyVersionSnapshot :=
  (pinnedVersion readings row).filter fun pinned =>
    matchesOutcomeTrigger pinned receipt.stream.outcomeType receipt.payload.outcomeCode

/-- The enrollments that are there are judged by the version they are pinned to; a matching
journey without an enrollment gets a new one. -/
def planTrigger (readings : TriggerReadings) (receipt : JrOutcomeReceipt) (contactId : String)
    (existing : List EnrollmentRow) : TriggerPlan :=
  let decide := fun (snapshot : JourneyVersionSnapshot) (enrollmentId : Option String) =>
    TriggerDecision.mk snapshot enrollmentId (authorizeWork readings contactId snapshot)
  let undecided := existing.filterMap fun row =>
    if row.state = .pending then
      (stillMatching readings receipt row).map fun pinned => decide pinned (some row.id)
    else none
  let fresh := readings.matched.filter fun snapshot =>
    existing.all fun row => row.journeyId ≠ some snapshot.journeyId
  { contactId := contactId
    decisions := undecided ++ fresh.map fun snapshot => decide snapshot none
    withdrawn := existing.filter fun row => (stillMatching readings receipt row).isNone
    unchanged := (existing.filter fun row =>
      (stillMatching readings receipt row).isSome && row.state ≠ .pending).length }

def judgeReceipt (readings : TriggerReadings) (tables : JourneyTables)
    (receipt : JrOutcomeReceipt) : TriggerVerdict :=
  match (receipt.payload.contactId.filter fun id => id ≠ "").bind readings.resolveByContactId with
  | none => .review "IDENTITY_UNRESOLVED"
  | some contactId =>
      let plan := planTrigger readings receipt contactId (streamEnrollments tables receipt.stream)
      if plan.decisions.any fun decision => decision.scope = .defer then .retry else .apply plan

/-- The identifiers that the host mints for one decision. -/
structure FreshIds where
  enrollmentId : String
  actionId : String
  commandId : String

/-- What the processor takes from the contract package and the host. -/
structure TriggerContract extends OwnerContract where
  toISOString : Instant → String

def createJourneyActionKey (enrollmentId : String) (journeyVersion : Nat) (stepId : String) : String :=
  enrollmentId ++ ":" ++ toString journeyVersion ++ ":" ++ stepId

def commandIntent (contract : TriggerContract) (now : Instant) : ActionIntent → OwnerCommandIntent
  | .ensureCase caseTypeId routingIntentRef => .ensureCase caseTypeId routingIntentRef
  | .admitCampaignTarget campaignId => .admitCampaignTarget campaignId
  | .scheduleCallback requestedInSeconds queueId agentId =>
      .scheduleCallback (contract.toISOString (Definition.secondsAfter now requestedInSeconds))
        queueId (agentId.filter fun id => id ≠ "")

def buildCommandDraft (contract : TriggerContract) (now : Instant) (commandId : String)
    (matched : JourneyVersionSnapshot) (entryStep : Definition.JourneyActionIntentStep)
    (enrollmentId : String) (receipt : JrOutcomeReceipt) (contactId : String) :
    OwnerCommandPayload where
  commandId := commandId
  actionKey := createJourneyActionKey enrollmentId matched.version entryStep.id
  requestHash := ""
  journeyId := matched.journeyId
  journeyVersion := matched.version
  enrollmentId := enrollmentId
  stepId := entryStep.id
  sourceOutcome := ⟨receipt.stream.outcomeType, receipt.stream.outcomeId, receipt.outcomeVersion⟩
  interactionId := receipt.payload.interactionId
  contactId := contactId
  sourceOwnerTeamId := matched.ownerTeamId
  targetOwnerTeamId := entryStep.targetOwnerTeamId
  expectedOwnerVersion := none
  intent := commandIntent contract now entryStep.intent

/-- The scope settles whether the enrollment waits for its owner or is over. -/
def decideEnrollment (scope : ScopeDecision) (row : EnrollmentRow) : EnrollmentRow :=
  if scope = .allow then { row with state := .authorized, runState := .waiting }
  else { row with state := .blocked, runState := .terminal, terminalReason := some .exitRule }

/-- The row that a receipt opens, before it is decided on. -/
def outcomeEnrollment (now : Instant) (id : String) (snapshot : JourneyVersionSnapshot)
    (entryStepId : String) (receipt : JrOutcomeReceipt) (contactId : String) : EnrollmentRow where
  id := id
  journeyId := some snapshot.journeyId
  journeyVersion := snapshot.version
  runState := .running
  currentStepId := some entryStepId
  stepSequence := 0
  waitUntil := none
  claimedBy := none
  claimExpiresAt := none
  source := some (.outcomeReceipt receipt.id)
  contactId := some contactId
  state := .pending
  maxAgeAt := none
  terminalReason := none
  terminalStepId := none
  terminalAt := none
  correlationId := some receipt.correlationId
  createdAt := now

/-- The enrollment is taken over if it is still undecided; otherwise one is opened, unless the
journey has one of this logical outcome already. -/
def placeEnrollment (now : Instant) (ids : FreshIds) (tables : JourneyTables)
    (receipt : JrOutcomeReceipt) (contactId entryStepId : String) (decision : TriggerDecision) :
    Except TriggerError (Option (JourneyTables × String)) :=
  match decision.enrollmentId with
  | some enrollmentId =>
      match tables.findEnrollment enrollmentId with
      | some row =>
          if row.state = .pending then
            .ok (some (tables.updateEnrollment enrollmentId (decideEnrollment decision.scope),
              enrollmentId))
          else .ok none
      | none => .ok none
  | none =>
      if tables.enrollments.any (fun row =>
          row.journeyId = some decision.snapshot.journeyId && ofStream tables receipt.stream row) = true
      then .ok none
      else do
        ensure (∀ row ∈ tables.enrollments, row.id ≠ ids.enrollmentId)
          (TriggerError.constraintViolation "jr_enrollments_pkey")
        let row := outcomeEnrollment now ids.enrollmentId decision.snapshot entryStepId receipt contactId
        .ok (some ({ tables with enrollments := tables.enrollments ++ [decideEnrollment decision.scope row] },
          ids.enrollmentId))

def applyDecision (contract : TriggerContract) (now : Instant) (ids : FreshIds)
    (tables : JourneyTables) (receipt : JrOutcomeReceipt) (contactId : String)
    (decision : TriggerDecision) : Except TriggerError (JourneyTables × TriggerProcessingOutcome) := do
  let entryStep ← orFail (entryActionStep decision.snapshot) TriggerError.entryStepMissing
  match ← placeEnrollment now ids tables receipt contactId entryStep.id decision with
  | none => .ok (tables, .unchanged)
  | some (placed, enrollmentId) =>
      if decision.scope ≠ .allow then .ok (placed, .blocked)
      else do
        let cursor ← orFail (placed.findEnrollment enrollmentId) (TriggerError.receipt .recordNotFound)
        ensure (cursor.currentStepId = some entryStep.id)
          (TriggerError.cursorMismatch entryStep.id cursor.currentStepId)
        let command := withOwnerRequestHash contract.toOwnerContract
          (buildCommandDraft contract now ids.commandId decision.snapshot entryStep enrollmentId receipt
            contactId)
        let ensured ← (ensureAction now ids.actionId (placed.ownerView [])
          { actionKey := command.actionKey
            enrollmentId := enrollmentId
            stepId := some entryStep.id
            stepSequence := some cursor.stepSequence
            outcomeReceiptId := some receipt.id
            kind := entryStep.intent.kind
            requestHash := command.requestHash
            correlationId := receipt.correlationId
            commandId := command.commandId
            commandPayload := some command }).mapError TriggerError.owner
        .ok (placed.withActions ensured.1, .enrolled)

def withdrawAction (contract : TriggerContract) (now : Instant) (correlationId : String)
    (tables : JourneyTables) (action : JrOwnerAction) : Except TriggerError JourneyTables := do
  let cancelled ← (requestCancellation contract.toOwnerContract now (tables.ownerView [])
    { actionKey := action.actionKey
      cancelRequestKey := "outcome-correction:" ++ action.actionKey
      correlationId := correlationId
      reasonCode := some "OUTCOME_CORRECTED"
      supersedingOutcome := none
      expectedVersion := some action.version }).mapError TriggerError.owner
  .ok (tables.withActions cancelled.1)

def withdrawActions (contract : TriggerContract) (now : Instant) (correlationId : String) :
    JourneyTables → List JrOwnerAction → Except TriggerError JourneyTables
  | tables, [] => .ok tables
  | tables, action :: rest => do
      let after ← withdrawAction contract now correlationId tables action
      withdrawActions contract now correlationId after rest

/-- An enrollment that is over for another reason is left as it is. -/
def stopEnrollment (row : EnrollmentRow) : EnrollmentRow :=
  if row.terminalReason = none then
    { row with state := .blocked, runState := .terminal, terminalReason := some .cancelled }
  else row

def withdrawEnrollment (contract : TriggerContract) (now : Instant) (correlationId : String)
    (tables : JourneyTables) (enrollment : EnrollmentRow) :
    Except TriggerError (JourneyTables × TriggerProcessingOutcome) := do
  let actions := (Text.sortBy JrOwnerAction.actionKey (tables.actions.filter fun action =>
    action.enrollmentId = enrollment.id)).filter fun action => action.state ∈ cancellableActionStates
  let withdrawn ← withdrawActions contract now correlationId tables actions
  let stops := withdrawn.enrollments.any fun row =>
    row.id = enrollment.id && row.terminalReason = none
  .ok (withdrawn.updateEnrollment enrollment.id stopEnrollment,
    if actions ≠ [] ∨ stops = true then .cancelled else .unchanged)

def applyDecisions (contract : TriggerContract) (now : Instant) (receipt : JrOutcomeReceipt)
    (contactId : String) : JourneyTables → List (FreshIds × TriggerDecision) →
    Except TriggerError (JourneyTables × List TriggerProcessingOutcome)
  | tables, [] => .ok (tables, [])
  | tables, (ids, decision) :: rest => do
      let applied ← applyDecision contract now ids tables receipt contactId decision
      let others ← applyDecisions contract now receipt contactId applied.1 rest
      .ok (others.1, applied.2 :: others.2)

def withdrawEnrollments (contract : TriggerContract) (now : Instant) (correlationId : String) :
    JourneyTables → List EnrollmentRow →
    Except TriggerError (JourneyTables × List TriggerProcessingOutcome)
  | tables, [] => .ok (tables, [])
  | tables, enrollment :: rest => do
      let withdrawn ← withdrawEnrollment contract now correlationId tables enrollment
      let others ← withdrawEnrollments contract now correlationId withdrawn.1 rest
      .ok (others.1, withdrawn.2 :: others.2)

/-- Everything commits together with the receipt. -/
def applyPlan (contract : TriggerContract) (now : Instant) (ids : Nat → FreshIds)
    (tables : JourneyTables) (receipt : JrOutcomeReceipt) (plan : TriggerPlan) :
    Except TriggerError (JourneyTables × TriggerProcessingOutcome) := do
  let decided ← applyDecisions contract now receipt plan.contactId tables
    (plan.decisions.zipIdx.map fun (decision, index) => (ids index, decision))
  let withdrawn ← withdrawEnrollments contract now receipt.correlationId decided.1 plan.withdrawn
  let applied ← (markApplied now withdrawn.1 receipt.id).mapError TriggerError.receipt
  let outcomes := (if plan.unchanged > 0 then [TriggerProcessingOutcome.unchanged] else [])
    ++ decided.2 ++ withdrawn.2
  .ok (applied.1, (outcomePriority.find? fun outcome => outcome ∈ outcomes).getD .noMatch)

end DContact.Journey

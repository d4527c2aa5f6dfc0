import DContact.Delivery.LineControlPlane

/-!
# The LINE outbound adapter

A delivery is submitted once and reconciled after that, always with the request and the key that it
was queued with. Every attempt is one request and one receipt. What the provider has accepted or
rejected is settled, and what is not known stays open.
-/

namespace DContact.Delivery

open Lib
open Governance (DeliveryOutcome Instant RejectionScope RuntimeCommand RuntimeOperation
  RuntimeOptions TerminalOutcome)
open Journey.Send (DlDeliveryState)
open LineProgram

structure LineResolvedContent where
  contentRef : String
  version : Nat
  messages : List String
  gateDigest : String

/-- The digests stand for SHA-256, and the content for the set of approved fixtures. -/
structure LineHost where
  tenantId : String
  runtime : RuntimeOptions
  actor : LineControlActor
  configDigest : String
  content : String → Option LineResolvedContent
  payloadDigest : LineResolvedContent → String → String
  deriveLineRetryKey : String → String → String

structure LineCanonicalRequest where
  contentRef : String
  fixtureVersion : Nat
  messages : List String
  providerPayloadDigest : String
  recipientFingerprint : String

def buildLineCanonicalRequestFrom (host : LineHost) (content : LineResolvedContent)
    (recipientFingerprint : String) : LineCanonicalRequest where
  contentRef := content.contentRef
  fixtureVersion := content.version
  messages := content.messages
  providerPayloadDigest := host.payloadDigest content recipientFingerprint
  recipientFingerprint := recipientFingerprint

def isLowerHex (char : Char) : Bool := "0123456789abcdef".toList.contains char

/-- A UUID in lower-case hexadecimal digits. -/
def isLineRetryKey (value : String) : Bool :=
  value.toList.length = 36 && (value.toList.zipIdx.all fun (char, index) =>
    if index = 8 ∨ index = 13 ∨ index = 18 ∨ index = 23 then char = '-' else isLowerHex char)

/-- 23 hours, an hour before the provider forgets a key. -/
def lineRetryWindowMs : Int := 23 * 60 * 60 * 1000

def lineRetryWindowExpired (firstAttemptAt now : Instant) : Bool :=
  lineRetryWindowMs ≤ now - firstAttemptAt

def lineBackoffMs (attemptNo : Nat) : Int :=
  ((min (30000 * 2 ^ (attemptNo - 1)) (15 * 60000) : Nat) : Int)

structure LineSubmitCommand where
  deliveryId : String
  scope : LineGateScope
  runAuthorizationId : String
  recipientFingerprint : String
  recipientProtectedRef : String
  correlationId : String
  quota : Option LineQuotaSnapshot

inductive LineDenial where
  | gate (code : LineGateErrorCode)
  | credentialUnavailable

inductive LineSubmitOutcome where
  | accepted (outcomeCode : LineProviderOutcomeCode) (attemptNo : Nat)
  | rejected (outcomeCode : LineProviderOutcomeCode) (rejectionScope : RejectionScope)
      (attemptNo : Nat)
  | reconciling (outcomeCode : LineProviderOutcomeCode) (attemptNo : Nat) (nextAttemptAt : Instant)
  | quarantined (attemptNo : Nat)
  | denied (code : LineDenial)
  | alreadySettled
  | alreadyAccepted

section Adapter

variable (host : LineHost)

def requireLineEntry (command : LineSubmitCommand) : LineProgram DlOutboxEntry := do
  let found ← ask (.findByDeliveryId command.deliveryId)
  match found with
  | some entry => pure entry
  | none => .throw (.notFound command.deliveryId)

def lineContent (entry : DlOutboxEntry) : LineProgram LineResolvedContent :=
  match host.content entry.command.contentRef with
  | some content => pure content
  | none => .throw (.fixtureUnknown entry.command.contentRef)

/-- The key that was persisted, or for an old row the one that its identity gives. -/
def lineRetryKey (entry : DlOutboxEntry) : String :=
  if isLineRetryKey entry.providerRequestKey then entry.providerRequestKey
  else host.deriveLineRetryKey entry.command.tenantId entry.deliveryId

def lineOutcomeRef (entry : DlOutboxEntry) (outcomeCode : LineProviderOutcomeCode) : String :=
  let text := "ocr_line_" ++ entry.deliveryId ++ "_" ++
    String.ofList (outcomeCode.name.toList.map Char.toLower)
  String.ofList (text.toList.take 64)

def lineGovernanceCommand (entry : DlOutboxEntry) (correlationId : String)
    (operation : RuntimeOperation) : RuntimeCommand where
  tenantId := host.tenantId
  correlationId := correlationId
  reservationId := entry.reservationId
  actionKey := entry.command.actionKey
  operation := operation

def lineSettleCommand (entry : DlOutboxEntry) (correlationId : String)
    (outcomeCode : LineProviderOutcomeCode) (outcome : DeliveryOutcome)
    (rejectionScope : Option RejectionScope) (occurredAt : Instant) : RuntimeCommand :=
  lineGovernanceCommand host entry correlationId (.settle
    { deliveryId := entry.deliveryId
      providerRequestKey := lineRetryKey host entry
      outcomeRef := lineOutcomeRef entry outcomeCode
      outcome := outcome
      rejectionScope := rejectionScope
      occurredAt := some occurredAt })

def lifecycleEventId (entry : DlOutboxEntry) (state : LineLifecycleState)
    (outcomeCode : Option LineProviderOutcomeCode) : String :=
  "line-lifecycle:" ++ entry.deliveryId ++ ":" ++ state.name ++
    match outcomeCode with
    | some outcomeCode => ":" ++ outcomeCode.name
    | none => ""

def emit (entry : DlOutboxEntry) (state : LineLifecycleState) (correlationId : String)
    (outcomeCode : Option LineProviderOutcomeCode) : LineProgram Unit := do
  let now ← readClock
  ask (.enqueueEvent
    { eventId := lifecycleEventId entry state outcomeCode
      occurredAt := now
      correlationId := correlationId
      state := state
      actionKey := entry.command.actionKey
      reservationId := entry.reservationId
      deliveryId := entry.deliveryId
      providerRequestKey := lineRetryKey host entry
      outcomeCode := outcomeCode })

def beginCommand (command : LineSubmitCommand) (content : LineResolvedContent) (now : Instant) :
    BeginLineRunCommand where
  scope := command.scope
  runAuthorizationId := command.runAuthorizationId
  deliveryId := command.deliveryId
  recipientFingerprint := command.recipientFingerprint
  contentDigest := content.gateDigest
  configDigest := host.configDigest
  quota := command.quota
  now := now

def settledAs (outcomeCode : LineProviderOutcomeCode) : TerminalOutcome :=
  if lineNormalizedOutcome outcomeCode = .terminal .providerAccepted then .providerAccepted
  else .providerRejected

def settleLine (entry : DlOutboxEntry) (command : LineSubmitCommand)
    (outcomeCode : LineProviderOutcomeCode) : LineProgram Unit := do
  let settledAt ← readClock
  let _ ← ask (.advance command.deliveryId [.submitting, .submitted, .reconciling]
    ⟨.settled, none, some settledAt, some (settledAs outcomeCode),
      some (lineOutcomeRef entry outcomeCode)⟩)
  let now ← readClock
  let _ ← exitUnknownReconciling command.deliveryId now
  emit host entry .settled command.correlationId (some outcomeCode)

/-- The provider has accepted the request. -/
def confirm (entry : DlOutboxEntry) (command : LineSubmitCommand)
    (outcomeCode : LineProviderOutcomeCode) (attemptNo : Nat) : LineProgram LineSubmitOutcome := do
  let _ ← ask (.governance (lineGovernanceCommand host entry command.correlationId
    (.confirm entry.deliveryId (lineRetryKey host entry))))
  let submittedAt ← readClock
  let _ ← ask (.advance command.deliveryId [.submitting, .reconciling]
    ⟨.submitted, some submittedAt, none, none, none⟩)
  emit host entry .accepted command.correlationId (some outcomeCode)
  let occurredAt ← readClock
  let _ ← ask (.governance (lineSettleCommand host entry command.correlationId outcomeCode
    (lineNormalizedOutcome outcomeCode) none occurredAt))
  settleLine host entry command outcomeCode
  pure (.accepted outcomeCode attemptNo)

def killScope (command : LineSubmitCommand) (signal : LineControlSignal) : LineProgram Unit := do
  let gate ← askControl (.findGate command.scope)
  match gate with
  | none => pure ()
  | some gate => do
      let now ← readClock
      let _ ← killOnSignal gate signal now
      pure ()

/-- Outcomes of the account rather than of one delivery kill the gate. -/
def killOnRejection (command : LineSubmitCommand) (outcomeCode : LineProviderOutcomeCode) :
    LineProgram Unit :=
  match outcomeCode with
  | .lineAuthInvalid => killScope command .authFailure
  | .lineMonthlyQuotaExhausted => killScope command .quotaExhausted
  | _ => pure ()

def reject (entry : DlOutboxEntry) (command : LineSubmitCommand)
    (outcomeCode : LineProviderOutcomeCode) (rejectionScope : RejectionScope) (attemptNo : Nat) :
    LineProgram LineSubmitOutcome := do
  let occurredAt ← readClock
  let _ ← ask (.governance (lineSettleCommand host entry command.correlationId outcomeCode
    (lineNormalizedOutcome outcomeCode)
    (some (if lineCountsAsAttempt outcomeCode (some rejectionScope) then .recipient
      else .operational))
    occurredAt))
  killOnRejection command outcomeCode
  settleLine host entry command outcomeCode
  pure (.rejected outcomeCode rejectionScope attemptNo)

def enterUnknown (command : LineSubmitCommand) (content : LineResolvedContent) :
    LineProgram Unit := do
  let gate ← askControl (.findGate command.scope)
  match gate with
  | none => pure ()
  | some gate => do
      let now ← readClock
      let _ ← enterUnknownReconciling { beginCommand host command content now with quota := none }
        gate.id command.runAuthorizationId
      pure ()

/-- The outcome is not known, and the reservation stays open. -/
def markLineReconciling (entry : DlOutboxEntry) (command : LineSubmitCommand)
    (outcomeCode : LineProviderOutcomeCode) (attemptNo : Nat) (content : LineResolvedContent) :
    LineProgram LineSubmitOutcome := do
  let _ ← ask (.advance command.deliveryId [.submitting, .reconciling] (.of .reconciling))
  enterUnknown host command content
  let occurredAt ← readClock
  let _ ← ask (.governance (lineSettleCommand host entry command.correlationId outcomeCode
    .unknownReconciling none occurredAt))
  emit host entry .reconciling command.correlationId (some outcomeCode)
  let now ← readClock
  pure (.reconciling outcomeCode attemptNo (now + lineBackoffMs attemptNo))

/-- Past the retry window nothing is sent any more, and the gate is killed. -/
def quarantine (entry : DlOutboxEntry) (command : LineSubmitCommand) (attemptNo : Nat) :
    LineProgram LineSubmitOutcome := do
  let _ ← ask (.advance command.deliveryId [.submitting, .reconciling] (.of .reconciling))
  killScope command .unknownOutcomeExpired
  emit host entry .reconciling command.correlationId (some .lineRetryWindowExpired)
  pure (.quarantined attemptNo)

def attemptReceipt (entry : DlOutboxEntry) (canonical : LineCanonicalRequest) (attemptNo : Nat)
    (id : String) (startedAt finishedAt : Instant) (result : LineTransportResult) :
    DlProviderSubmissionAttempt :=
  let classification := classifyLineResponse result
  let response := result.response?
  { id := id
    deliveryId := entry.deliveryId
    providerRequestKey := lineRetryKey host entry
    attemptNo := attemptNo
    providerPayloadDigest := canonical.providerPayloadDigest
    startedAt := startedAt
    finishedAt := finishedAt
    httpStatus := (response.map LinePushResponse.httpStatus).filter fun status => status ≠ 0
    outcomeCode := classification.outcomeCode
    rejectionScope := classification.rejectionScope
    lineRequestId := response.bind fun response => given response.requestId
    lineAcceptedRequestId := response.bind fun response => given response.acceptedRequestId
    sentMessageIds := (response.map LinePushResponse.sentMessageIds).getD [] }

/-- What the adapter does with a recorded answer. -/
def conclude (entry : DlOutboxEntry) (command : LineSubmitCommand)
    (classification : LineClassification) (attemptNo : Nat) (content : LineResolvedContent) :
    LineProgram LineSubmitOutcome :=
  if classification.accepted then
    confirm host entry command classification.outcomeCode attemptNo
  else if classification.reconcile = false then
    reject host entry command classification.outcomeCode
      (classification.rejectionScope.getD .operational) attemptNo
  else markLineReconciling host entry command classification.outcomeCode attemptNo content

def pushOnce (entry : DlOutboxEntry) (command : LineSubmitCommand) (canonical : LineCanonicalRequest)
    (occasion : LinePushOccasion) (recipient accessToken : String) (content : LineResolvedContent) :
    LineProgram LineSubmitOutcome := do
  let startedAt ← readClock
  let result ← ask (.push occasion ⟨recipient, canonical.messages, lineRetryKey host entry, accessToken⟩)
  let finishedAt ← readClock
  let id ← newId
  let _ ← ask (.recordAttempt (attemptReceipt host entry canonical occasion.attemptNo id startedAt
    finishedAt result))
  conclude host entry command (classifyLineResponse result) occasion.attemptNo content

/-- The barrier of a row that was queued: governance first, then the row, then the caps. -/
def passBarrier (entry : DlOutboxEntry) (command : LineSubmitCommand) : LineProgram Unit := do
  let _ ← ask (.governance (lineGovernanceCommand host entry command.correlationId
    (.beginSubmission entry.deliveryId entry.leaseVersion (lineRetryKey host entry))))
  let _ ← ask (.advance command.deliveryId [.queued] (.of .submitting))
  let now ← readClock
  let _ ← commitDelivery command.deliveryId now
  emit host entry .postBarrier command.correlationId none

def barrierOnce (entry : DlOutboxEntry) (command : LineSubmitCommand) : LineProgram Unit :=
  if entry.state = .queued then passBarrier host entry command else pure ()

def occasionOf (command : LineSubmitCommand) (grant : LineRunGrant) (content : LineResolvedContent)
    (attemptNo : Nat) : LinePushOccasion where
  deliveryId := command.deliveryId
  attemptNo := attemptNo
  runAuthorizationId := grant.run.id
  recipientProtectedRef := command.recipientProtectedRef
  contentGateDigest := content.gateDigest
  credentialRefId := grant.credential.id
  credentialVersion := grant.credential.version

/-- Whom and with what token to push, and past the barrier the push itself. -/
def resolveAndPush (entry : DlOutboxEntry) (command : LineSubmitCommand)
    (canonical : LineCanonicalRequest) (grant : LineRunGrant) (attemptNo : Nat)
    (content : LineResolvedContent) : LineProgram LineSubmitOutcome := do
  let recipient ← ask (.resolveRecipient command.recipientProtectedRef)
  let credential ← ask (.resolveCredential grant.credential.id grant.credential.version)
  match recipient, credential with
  | some recipient, some accessToken => do
      barrierOnce host entry command
      pushOnce host entry command canonical (occasionOf command grant content attemptNo) recipient
        accessToken content
  | _, _ => pure (.denied .credentialUnavailable)

def attemptDelivery (entry : DlOutboxEntry) (command : LineSubmitCommand)
    (canonical : LineCanonicalRequest) (grant : LineRunGrant) (attemptNo : Nat)
    (content : LineResolvedContent) : LineProgram LineSubmitOutcome := do
  let now ← readClock
  let reserved ← reserveProviderAttempt host.actor (beginCommand host command content now)
    grant.gate grant.run attemptNo
  match reserved with
  | .denied code => pure (.denied (.gate code))
  | _ => resolveAndPush host entry command canonical grant attemptNo content

/-- The reconciliation of a row that is not settled, with a grant or with one it asks for. -/
def reconcileEntry (entry : DlOutboxEntry) (command : LineSubmitCommand)
    (granted : Option LineRunGrant) : LineProgram LineSubmitOutcome := do
  let content ← lineContent host entry
  let canonical := buildLineCanonicalRequestFrom host content command.recipientFingerprint
  let history ← ask (.listAttempts command.deliveryId)
  let attemptNo := List.length history + 1
  let now ← readClock
  if (List.head? history).any fun first => lineRetryWindowExpired first.startedAt now then
    quarantine host entry command (attemptNo - 1)
  else
    match granted with
    | some grant => attemptDelivery host entry command canonical grant attemptNo content
    | none => do
        let now ← readClock
        let result ← beginRun host.actor (beginCommand host command content now)
        match result with
        | .denied _ => pure (.denied (.gate .lineGateAuthorizationDenied))
        | .authorized grant =>
            attemptDelivery host entry command canonical grant attemptNo content

def reconcileLine (command : LineSubmitCommand) (granted : Option LineRunGrant) :
    LineProgram LineSubmitOutcome := do
  let entry ← requireLineEntry command
  match entry.state with
  | .settled => pure .alreadySettled
  | .submitted => pure .alreadyAccepted
  | _ => reconcileEntry host entry command granted

/-- The first submission of a row that is queued. -/
def submitQueued (entry : DlOutboxEntry) (command : LineSubmitCommand) :
    LineProgram LineSubmitOutcome := do
  let content ← lineContent host entry
  let canonical := buildLineCanonicalRequestFrom host content command.recipientFingerprint
  let now ← readClock
  let result ← beginRun host.actor (beginCommand host command content now)
  match result with
  | .denied denied => pure (.denied (.gate denied.code))
  | .authorized grant =>
      if grant.barrier = .post then reconcileLine host command (some grant)
      else do
        emit host entry .preBarrier command.correlationId none
        attemptDelivery host entry command canonical grant 1 content

def submitLine (command : LineSubmitCommand) : LineProgram LineSubmitOutcome := do
  let entry ← requireLineEntry command
  match entry.state with
  | .settled => pure .alreadySettled
  | .submitted => pure .alreadyAccepted
  | .queued => submitQueued host entry command
  | _ => reconcileLine host command none

end Adapter

end DContact.Delivery

import DContact.Governance.Authorization
import DContact.Journey.JourneyExecution
import DContact.Lib.Sessions

/-!
# Sending

A send step that is parked at the cursor goes through four stores: the scope of the team, the
reservation of Contact Governance, the outbox of the delivery and the cursor of the enrollment. Each
statement is a transaction of its own, so a worker may stop between any two of them. A call that is
not interrupted makes them one after another.
-/

namespace DContact.Journey.Send

open Lib
open Governance (Instant AuthorizeAndReserveInput AuthorizationIds GovernanceEngine GovernanceError
  GovernanceStore Receipt ReservationRow RuntimeCommand RuntimeError RuntimeOptions RuntimeStore)
open Definition (JourneyVersionSnapshot)
open Execution

structure SendContact where
  contactId : String
  identityId : Option String

structure HandleSendInput where
  enrollmentId : String
  stepId : String
  stepSequence : Nat
  contact : SendContact
  correlationId : String
  causationId : Option String

inductive SendCompositionResult where
  | sent (enrollment : EnrollmentView)
  | suppressed (reasonCode : String) (enrollment : EnrollmentView)
  | scopeDenied (reasonCode : String) (enrollment : EnrollmentView)
  | scopeDeferred (enrollment : EnrollmentView)
  | raceLost (enrollment : EnrollmentView)
  | releasedBeforeSubmit (enrollment : EnrollmentView)

/-- What the authorizer of team scopes answers. -/
inductive ScopeAnswer where
  | allow
  | deny (reasonCode : String)
  | defer

inductive SendError where
  | execution (error : ExecutionError)
  | definitionMissing (journeyId : String) (version : Nat)
  | sendStepShape (stepId : String)
  | governance (error : GovernanceError)
  | runtime (error : RuntimeError)
  | inlineContentRejected
  | enqueueFailed (code : String)

structure EnqueueDeliveryCommand where
  tenantId : String
  source : String
  actionKey : String
  reservationId : String
  channel : Governance.ContactChannel
  contactId : String
  identityId : Option String
  contentRef : String
  correlationId : String
  causationId : Option String
  purpose : String
  senderIdentityId : String
  leaseExpiresAt : Instant

inductive DlDeliveryAdapter where
  | testAdapter
  | lineMessagingApi
  | voice
  deriving DecidableEq

inductive DlDeliveryState where
  | queued
  | submitting
  | submitted
  | reconciling
  | settled
  deriving DecidableEq

structure DlOutboxEntry where
  id : String
  command : EnqueueDeliveryCommand
  deliveryId : String
  providerRequestKey : String
  adapter : DlDeliveryAdapter
  inputHash : String
  leaseVersion : Nat
  state : DlDeliveryState

structure QueuedDelivery where
  deliveryId : String
  providerRequestKey : String

structure SendStore where
  tables : JourneyTables
  governance : GovernanceStore
  receipts : List Receipt
  outbox : List DlOutboxEntry

/-- The digests stand for SHA-256, of a command and of a text. -/
structure SendEnvironment where
  tenantId : String
  tenantGiven : tenantId ≠ ""
  definitions : JourneyDefinitionSource
  engine : GovernanceEngine
  runtime : RuntimeOptions
  digest : EnqueueDeliveryCommand → String
  sha256 : String → String

/-- `CONTENT_REFERENCE_PATTERN`. -/
def opaqueContentRef (value : String) : Bool :=
  decide (1 ≤ value.toList.length ∧ value.toList.length ≤ 200) && value.toList.all fun character =>
    ('A' ≤ character && character ≤ 'Z') || ('a' ≤ character && character ≤ 'z') ||
      ('0' ≤ character && character ≤ '9') || character ∈ ['.', '_', ':', '-', '/']

/-- The hash covers everything but the correlation and the causation, the lease among it. -/
def canonicalInputHash (environment : SendEnvironment) (command : EnqueueDeliveryCommand) : String :=
  environment.digest { command with correlationId := "", causationId := none }

def mintOpaqueKey (environment : SendEnvironment) (kind actionKey inputHash : String) : String :=
  let digest := environment.sha256
    (String.intercalate "|" [kind, environment.tenantId, actionKey, inputHash])
  (if kind = "delivery" then "dlv" else "prq") ++ "_" ++ String.ofList (digest.toList.take 32)

/-- `DELIVERY_LEASE_MS`. -/
def deliveryLeaseMs : Int := 5 * 60000

/-- The send step that a call works on. -/
structure OpenSend where
  definition : JourneyVersionSnapshot
  channel : Governance.ContactChannel
  contentRef : String

def channelOf : Definition.ContactChannel → Governance.ContactChannel
  | .voice => .voice
  | .webchat => .webchat
  | .line => .line
  | .facebook => .facebook
  | .whatsapp => .whatsapp
  | .email => .email

def describe (tables : JourneyTables) (enrollmentId : String) : Except SendError EnrollmentView := do
  let row ← orFail (tables.findEnrollment enrollmentId)
    (SendError.execution (.enrollmentNotFound enrollmentId))
  .ok (view row)

def sendStepOf (definition : JourneyVersionSnapshot) (stepId : String) : Except SendError OpenSend :=
  match definition.graph.stepOf stepId with
  | some (.send _ channel contentRef _) => .ok ⟨definition, channelOf channel, contentRef⟩
  | _ => .error (.sendStepShape stepId)

/-- How a call ends that has completed the step. -/
inductive SendEnding where
  | sent
  | suppressed (reasonCode : String)
  | scopeDenied (reasonCode : String)

def SendEnding.result (enrollment : EnrollmentView) : SendEnding → SendCompositionResult
  | .sent => .sent enrollment
  | .suppressed reasonCode => .suppressed reasonCode enrollment
  | .scopeDenied reasonCode => .scopeDenied reasonCode enrollment

/-- What a call goes on with after it has seen the step and asked for the scope. -/
inductive OpenedSend where
  | answered (result : SendCompositionResult)
  | ending (ending : SendEnding)
  | authorizing (send : OpenSend)

def openSend (environment : SendEnvironment) (tables : JourneyTables) (input : HandleSendInput)
    (scope : ScopeAnswer) : Except SendError OpenedSend := do
  let enrollment ← describe tables input.enrollmentId
  if enrollment.currentStepId ≠ some input.stepId ∨ enrollment.stepSequence ≠ input.stepSequence then
    .ok (.answered (.raceLost enrollment))
  else do
    let definition ← orFail (environment.definitions enrollment.journeyId enrollment.journeyVersion)
      (SendError.definitionMissing enrollment.journeyId enrollment.journeyVersion)
    let send ← sendStepOf definition input.stepId
    match scope with
    | .deny reasonCode => .ok (.ending (.scopeDenied reasonCode))
    | .defer => .ok (.answered (.scopeDeferred enrollment))
    | .allow => .ok (.authorizing send)

def actionKeyOf (input : HandleSendInput) : String :=
  input.enrollmentId ++ ":" ++ toString input.stepSequence

def authorizationInput (input : HandleSendInput) (send : OpenSend) : AuthorizeAndReserveInput where
  subject := .contact input.contact.contactId (givenText input.contact.identityId)
  channel := send.channel
  purpose := send.definition.purpose
  source := "JOURNEY"
  sourceId := input.enrollmentId
  actionKey := actionKeyOf input
  policyVersion := 1
  teamId := some send.definition.ownerTeamId
  contactKind := none
  senderIdentityId := none

/-- The reservation if there is one, and otherwise the reason why the contact is suppressed. -/
def authorizeSend (environment : SendEnvironment) (store : SendStore) (input : HandleSendInput)
    (send : OpenSend) (ids : AuthorizationIds) (now : Instant) :
    Except SendError (SendStore × Except String String) := do
  let authorized ← (Governance.authorizeAndReserve environment.tenantId environment.engine
    store.governance (authorizationInput input send) ids now).mapError SendError.governance
  let outcome := authorized.1
  let reservation := givenText (outcome.reservation.map Prod.fst)
  .ok ({ store with governance := authorized.2 },
    match reservation with
    | some reservationId =>
        if outcome.decision = .allow then .ok reservationId else .error outcome.reasonCode
    | none => .error outcome.reasonCode)

def SendStore.runtime (store : SendStore) : RuntimeStore where
  reservations := store.governance.reservations.map fun row => row.toReservationRow
  receipts := store.receipts
  attempts := []
  touches := []
  heads := []

def SendStore.withRuntime (store : SendStore) (after : RuntimeStore) : SendStore :=
  { store with
    receipts := after.receipts
    governance := { store.governance with
      reservations := store.governance.reservations.map fun row =>
        { row with
          toReservationRow := (Table.lookup ReservationRow.id row.id after.reservations).getD
            row.toReservationRow } } }

def releaseCommand (environment : SendEnvironment) (input : HandleSendInput) (reservationId : String) :
    RuntimeCommand where
  tenantId := environment.tenantId
  correlationId := input.correlationId
  reservationId := reservationId
  actionKey := actionKeyOf input
  operation := .release none .cancelledBeforeSubmit

/-- An enrollment that is over gives its reservation back. -/
def releaseBeforeSubmit (environment : SendEnvironment) (store : SendStore) (input : HandleSendInput)
    (reservationId : String) (now : Instant) : Except SendError SendStore := do
  let released ← (Governance.execute environment.runtime store.runtime
    (releaseCommand environment input reservationId) now "" "").mapError SendError.runtime
  .ok (store.withRuntime released.1)

def deliveryCommand (environment : SendEnvironment) (input : HandleSendInput) (send : OpenSend)
    (reservationId : String) (now : Instant) : EnqueueDeliveryCommand where
  tenantId := environment.tenantId
  source := "JOURNEY"
  actionKey := actionKeyOf input
  reservationId := reservationId
  channel := send.channel
  contactId := input.contact.contactId
  identityId := givenText input.contact.identityId
  contentRef := send.contentRef
  correlationId := input.correlationId
  causationId := givenText input.causationId
  purpose := send.definition.purpose
  senderIdentityId := send.definition.senderIdentityId
  leaseExpiresAt := now + deliveryLeaseMs

def findByActionKey (outbox : List DlOutboxEntry) (actionKey : String) : Option DlOutboxEntry :=
  outbox.find? fun entry => entry.command.actionKey = actionKey

/-- `idempotencyConflict` of the delivery itself, which the executor raises. -/
def enqueueConflict : SendError := .enqueueFailed "IDEMPOTENCY_CONFLICT"

/-- An entry of the action is answered again if it is one of this adapter and of this command. -/
def replay (environment : SendEnvironment) (outbox : List DlOutboxEntry)
    (command : EnqueueDeliveryCommand) : Except SendError (Option QueuedDelivery) := do
  ensure (opaqueContentRef command.contentRef = true) SendError.inlineContentRejected
  match findByActionKey outbox command.actionKey with
  | none => .ok none
  | some entry =>
      if entry.adapter ≠ .testAdapter ∨ entry.inputHash ≠ canonicalInputHash environment command then
        .error enqueueConflict
      else .ok (some ⟨entry.deliveryId, entry.providerRequestKey⟩)

/-- `ReservationBindingErrorCode`, for the failures that are binding errors. -/
def bindingErrorCode : RuntimeError → Option String
  | .reservationNotFound => some "RESERVATION_NOT_FOUND"
  | .reservationNotReserved => some "RESERVATION_NOT_RESERVED"
  | .reservationExpired => some "RESERVATION_EXPIRED"
  | .reservationBindingConflict => some "RESERVATION_BINDING_CONFLICT"
  | .invalidReservationTransition => some "INVALID_RESERVATION_TRANSITION"
  | .invalidReservationLease => some "INVALID_RESERVATION_LEASE"
  | .staleReservationLease => some "STALE_RESERVATION_LEASE"
  | .deliveryReconciliationRequired => some "DELIVERY_RECONCILIATION_REQUIRED"
  | .idempotencyConflict => some "IDEMPOTENCY_CONFLICT"
  | .governanceVersionStale => some "GOVERNANCE_VERSION_STALE"
  | _ => none

/-- `ENQUEUE_FORBIDDEN_CODES`. -/
def enqueueForbiddenCodes : List String :=
  ["STALE_RESERVATION_LEASE", "DELIVERY_RECONCILIATION_REQUIRED", "INVALID_RESERVATION_TRANSITION"]

def claimError (error : RuntimeError) : SendError :=
  match bindingErrorCode error with
  | some code => if code ∈ enqueueForbiddenCodes then .runtime error else .enqueueFailed code
  | none => .runtime error

def mintedDeliveryId (environment : SendEnvironment) (command : EnqueueDeliveryCommand) : String :=
  mintOpaqueKey environment "delivery" command.actionKey (canonicalInputHash environment command)

def mintedProviderRequestKey (environment : SendEnvironment) (command : EnqueueDeliveryCommand) :
    String :=
  mintOpaqueKey environment "provider-request" command.actionKey
    (canonicalInputHash environment command)

def claimCommand (environment : SendEnvironment) (command : EnqueueDeliveryCommand) :
    RuntimeCommand where
  tenantId := command.tenantId
  correlationId := command.correlationId
  reservationId := command.reservationId
  actionKey := command.actionKey
  operation := .claim
    { deliveryId := mintedDeliveryId environment command
      contactId := command.contactId
      identityId := command.identityId
      channel := command.channel
      purpose := command.purpose
      senderIdentityId := command.senderIdentityId }
    (some command.leaseExpiresAt)

/-- `claimReservationForDelivery`, with the version of the lease that it answers. -/
def claimForDelivery (environment : SendEnvironment) (store : SendStore)
    (command : EnqueueDeliveryCommand) (now : Instant) : Except SendError (SendStore × Nat) := do
  let claimed ← (Governance.execute environment.runtime store.runtime
    (claimCommand environment command) now "" "").mapError claimError
  .ok (store.withRuntime claimed.1, claimed.2.leaseVersion.getD 1)

def outboxEntry (environment : SendEnvironment) (command : EnqueueDeliveryCommand)
    (leaseVersion : Nat) (id : String) : DlOutboxEntry where
  id := id
  command := command
  deliveryId := mintedDeliveryId environment command
  providerRequestKey := mintedProviderRequestKey environment command
  adapter := .testAdapter
  inputHash := canonicalInputHash environment command
  leaseVersion := leaseVersion
  state := .queued

/-- The unique columns of the outbox. -/
def entryTaken (outbox : List DlOutboxEntry) (entry : DlOutboxEntry) : Bool :=
  outbox.any fun other => other.id = entry.id || other.command.actionKey = entry.command.actionKey ||
    other.deliveryId = entry.deliveryId || other.providerRequestKey = entry.providerRequestKey

def createEntry (environment : SendEnvironment) (store : SendStore) (command : EnqueueDeliveryCommand)
    (leaseVersion : Nat) (id : String) : Except SendError (SendStore × QueuedDelivery) := do
  let entry := outboxEntry environment command leaseVersion id
  ensure (entryTaken store.outbox entry = false) enqueueConflict
  .ok ({ store with outbox := store.outbox ++ [entry] }, ⟨entry.deliveryId, entry.providerRequestKey⟩)

/-- `completeSend` in its transaction. -/
def completeStep (environment : SendEnvironment) (store : SendStore) (input : HandleSendInput)
    (now : Instant) : Except ExecutionError (SendStore × EnrollmentView) := do
  let row ← orFail (store.tables.findEnrollment input.enrollmentId)
    (ExecutionError.enrollmentNotFound input.enrollmentId)
  let definition ← publishedGraph environment.definitions (row.journeyId.getD "") row.journeyVersion
  let completed ← completeSend definition now
    ⟨input.correlationId, givenText input.causationId, fun _ => none⟩ store.tables row
    (pendingSend store.tables row)
  .ok ({ store with tables := completed.1 }, completed.2.enrollment)

/-- A lost race is an answer, any other failure is raised. -/
def finish (environment : SendEnvironment) (store : SendStore) (input : HandleSendInput)
    (ending : SendEnding) (now : Instant) : Except SendError (SendStore × SendCompositionResult) :=
  match completeStep environment store input now with
  | .ok (after, enrollment) => .ok (after, ending.result enrollment)
  | .error (.stepRace _ _) => do
      let enrollment ← describe store.tables input.enrollmentId
      .ok (store, .raceLost enrollment)
  | .error error => .error (.execution error)

/-- A call with the answers and the clocks of the stores that it asks. -/
structure SendCall where
  input : HandleSendInput
  scope : ScopeAnswer
  ids : AuthorizationIds
  entryId : String
  authorizedAt : Instant
  leasedAt : Instant
  claimedAt : Instant
  startedAt : Instant

def enqueue (environment : SendEnvironment) (store : SendStore) (command : EnqueueDeliveryCommand)
    (claimedAt : Instant) (entryId : String) : Except SendError (SendStore × QueuedDelivery) := do
  match ← replay environment store.outbox command with
  | some queued => .ok (store, queued)
  | none => do
      let claimed ← claimForDelivery environment store command claimedAt
      createEntry environment claimed.1 command claimed.2 entryId

/-- The enrollment is read again after the reservation and before the delivery. -/
def deliver (environment : SendEnvironment) (call : SendCall) (store : SendStore) (send : OpenSend)
    (reservationId : String) : Except SendError (SendStore × SendCompositionResult) := do
  let fresh ← describe store.tables call.input.enrollmentId
  if fresh.runState = .terminal then do
    let released ← releaseBeforeSubmit environment store call.input reservationId call.claimedAt
    .ok (released, .releasedBeforeSubmit fresh)
  else do
    let command := deliveryCommand environment call.input send reservationId call.leasedAt
    let enqueued ← enqueue environment store command call.claimedAt call.entryId
    finish environment enqueued.1 call.input .sent call.startedAt

def handleSend (environment : SendEnvironment) (call : SendCall) (store : SendStore) :
    Except SendError (SendStore × SendCompositionResult) := do
  match ← openSend environment store.tables call.input call.scope with
  | .answered result => .ok (store, result)
  | .ending ending => finish environment store call.input ending call.startedAt
  | .authorizing send => do
      let authorized ←
        authorizeSend environment store call.input send call.ids call.authorizedAt
      match authorized.2 with
      | .error reasonCode =>
          finish environment authorized.1 call.input (.suppressed reasonCode) call.startedAt
      | .ok reservationId => deliver environment call authorized.1 send reservationId

/-- Where a worker stands between two statements. -/
inductive SendWork where
  | finishing (input : HandleSendInput) (ending : SendEnding)
  | authorizing (input : HandleSendInput) (send : OpenSend)
  | reserved (input : HandleSendInput) (send : OpenSend) (reservationId : String)
  | releasing (input : HandleSendInput) (reservationId : String)
  | enqueuing (input : HandleSendInput) (command : EnqueueDeliveryCommand)
  | claiming (input : HandleSendInput) (command : EnqueueDeliveryCommand)
  | claimed (input : HandleSendInput) (command : EnqueueDeliveryCommand) (leaseVersion : Nat)

structure SendSession where
  store : SendStore
  workers : List (Session SendWork)

/-- What the host supplies to one statement. -/
structure SendTurn where
  now : Instant
  ids : AuthorizationIds
  entryId : String

/-- The next statement of a worker: the store after it, and the work that is left. -/
def SendWork.perform (environment : SendEnvironment) (store : SendStore) (turn : SendTurn) :
    SendWork → Except SendError (SendStore × Option SendWork)
  | .finishing input ending => do
      let finished ← finish environment store input ending turn.now
      .ok (finished.1, none)
  | .authorizing input send => do
      let authorized ← authorizeSend environment store input send turn.ids turn.now
      .ok (authorized.1, some (match authorized.2 with
        | .error reasonCode => .finishing input (.suppressed reasonCode)
        | .ok reservationId => .reserved input send reservationId))
  | .reserved input send reservationId => do
      let fresh ← describe store.tables input.enrollmentId
      .ok (store, some (if fresh.runState = .terminal then .releasing input reservationId
        else .enqueuing input (deliveryCommand environment input send reservationId turn.now)))
  | .releasing input reservationId => do
      let released ← releaseBeforeSubmit environment store input reservationId turn.now
      .ok (released, none)
  | .enqueuing input command => do
      let queued ← replay environment store.outbox command
      .ok (store, some (match queued with
        | some _ => .finishing input .sent
        | none => .claiming input command))
  | .claiming input command => do
      let claimed ← claimForDelivery environment store command turn.now
      .ok (claimed.1, some (.claimed input command claimed.2))
  | .claimed input command leaseVersion => do
      let created ← createEntry environment store command leaseVersion turn.entryId
      .ok (created.1, some (.finishing input .sent))

/-- A worker that has stopped never goes on. Other parts work on the journeys and the reservations,
and the delivery moves its entries on. -/
inductive SendStep where
  | open (pid : Nat) (input : HandleSendInput) (scope : ScopeAnswer)
  | perform (pid : Nat) (turn : SendTurn)
  | stop (pid : Nat)
  | elsewhere (tables : JourneyTables) (governance : GovernanceStore) (receipts : List Receipt)
      (advance : DlOutboxEntry → DlDeliveryState)

namespace SendSession

def leave (session : SendSession) (pid : Nat) (store : SendStore) : SendSession where
  store := store
  workers := Session.drop session.workers pid

def resume (session : SendSession) (pid : Nat) (store : SendStore) (work : SendWork) :
    SendSession where
  store := store
  workers := Session.replace session.workers pid work

def next (environment : SendEnvironment) (session : SendSession) : SendStep → Option SendSession
  | .open pid input scope =>
      match openSend environment session.store.tables input scope with
      | .error _ | .ok (.answered _) => some (session.leave pid session.store)
      | .ok (.ending ending) => some (session.resume pid session.store (.finishing input ending))
      | .ok (.authorizing send) => some (session.resume pid session.store (.authorizing input send))
  | .perform pid turn =>
      match Session.find session.workers pid with
      | none => none
      | some work =>
          match work.perform environment session.store turn with
          | .error _ => some (session.leave pid session.store)
          | .ok (after, none) => some (session.leave pid after)
          | .ok (after, some rest) => some (session.resume pid after rest)
  | .stop pid => some (session.leave pid session.store)
  | .elsewhere tables governance receipts advance =>
      some { session with
        store := { tables := tables
                   governance := governance
                   receipts := receipts
                   outbox := session.store.outbox.map fun entry =>
                     { entry with state := advance entry } } }

/-- Nothing has been sent yet. -/
structure Fresh (session : SendSession) : Prop where
  outbox : session.store.outbox = []
  workers : session.workers = []

end SendSession

def sends (environment : SendEnvironment) : System SendSession SendStep :=
  .ofNext SendSession.Fresh (SendSession.next environment)

end DContact.Journey.Send

import DContact.Delivery.DeliveryOutbox
import DContact.Lib.Workers

/-!
# The durable test adapter

The adapter submits a queued delivery once, records the outcome it is told and reconciles what has
been submitted without a result. Reservation, attempt and touch belong to governance: the adapter
asks governance first and writes its own entry afterwards, each in a transaction of its own.
-/

namespace DContact.Delivery

open Lib
open Governance (ContactChannel DeliveryOutcome Instant RuntimeCommand RuntimeError RuntimeOperation
  RuntimeOptions RuntimeStep RuntimeStore SettlementView TerminalOutcome execute)
open Journey.Send (DlDeliveryAdapter DlDeliveryState bindingErrorCode)

structure DeliveryStore where
  outbox : List DlOutboxEntry
  governance : RuntimeStore

/-- The digest stands for SHA-256 in hexadecimal digits. -/
structure DeliveryHost where
  tenantId : String
  runtime : RuntimeOptions
  sha256 : String → String

structure TransportRequest where
  adapter : DlDeliveryAdapter
  deliveryId : String
  providerRequestKey : String
  channel : ContactChannel
  contentRef : String

inductive TransportResponse where
  | accepted
  | rejected (reasonCode : String)
  | timeout

inductive DeliveryError where
  | notFound (deliveryId : String)
  | runtime (error : RuntimeError)
  | uniqueViolation

inductive AdapterRequest where
  | clock
  | findByDeliveryId (deliveryId : String)
  | findReconcilable (notAfter : Instant)
  | advance (deliveryId : String) (expected : List DlDeliveryState) (data : OutboxPatch)
  | governance (command : RuntimeCommand)
  | transport (request : TransportRequest)

def AdapterRequest.Reply : AdapterRequest → Type
  | .clock => Instant
  | .findByDeliveryId _ => Option DlOutboxEntry
  | .findReconcilable _ => List DlOutboxEntry
  | .advance .. => Option DlOutboxEntry
  | .governance _ => SettlementView
  | .transport _ => TransportResponse

abbrev AdapterProgram := Program AdapterRequest AdapterRequest.Reply DeliveryError

namespace AdapterProgram

def ask (request : AdapterRequest) : AdapterProgram request.Reply := Program.request request

def readClock : AdapterProgram Instant := ask .clock

def findEntry (deliveryId : String) : AdapterProgram (Option DlOutboxEntry) :=
  ask (.findByDeliveryId deliveryId)

def listReconcilable (notAfter : Instant) : AdapterProgram (List DlOutboxEntry) :=
  ask (.findReconcilable notAfter)

def advanceEntry (deliveryId : String) (expected : List DlDeliveryState) (data : OutboxPatch) :
    AdapterProgram (Option DlOutboxEntry) :=
  ask (.advance deliveryId expected data)

def govern (command : RuntimeCommand) : AdapterProgram SettlementView :=
  ask (.governance command)

/-- Governance's answer, whatever it is. -/
def tryGovern (command : RuntimeCommand) : AdapterProgram (Except DeliveryError SettlementView) :=
  Program.attempt (AdapterRequest.governance command)

def transmit (request : TransportRequest) : AdapterProgram TransportResponse :=
  ask (.transport request)

end AdapterProgram

open AdapterProgram

structure DeliveryEvidence where
  tenantId : String
  deliveryId : String
  providerRequestKey : String
  reservationId : String
  actionKey : String
  adapter : DlDeliveryAdapter
  channel : ContactChannel
  state : DlDeliveryState
  outcome : Option TerminalOutcome
  outcomeRef : Option String
  submittedAt : Option Instant
  settledAt : Option Instant
  correlationId : String

def deliveryEvidence (entry : DlOutboxEntry) : DeliveryEvidence where
  tenantId := entry.command.tenantId
  deliveryId := entry.deliveryId
  providerRequestKey := entry.providerRequestKey
  reservationId := entry.reservationId
  actionKey := entry.command.actionKey
  adapter := entry.adapter
  channel := entry.command.channel
  state := entry.state
  outcome := entry.outcome
  outcomeRef := entry.outcomeRef
  submittedAt := entry.submittedAt
  settledAt := entry.settledAt
  correlationId := entry.command.correlationId

structure DeliveryWorkItem where
  deliveryId : String
  correlationId : String

/-- A timestamp is `none` when its text is no timestamp. -/
structure RecordOutcomeInput extends DeliveryWorkItem where
  outcome : TerminalOutcome
  outcomeRef : String
  occurredAt : Option Instant

inductive DeliverySubmissionResult where
  | submitted (evidence : DeliveryEvidence)
  | settled (evidence : DeliveryEvidence)
  | reconcileRequired (evidence : DeliveryEvidence)
  | blocked (code : String) (evidence : DeliveryEvidence)

section Adapter

variable (host : DeliveryHost)

def outcomeRefFor (providerRequestKey reason : String) : String :=
  let digest := host.sha256 (String.intercalate "|" [providerRequestKey, reason])
  "ocr_" ++ String.ofList (digest.toList.take 32)

def requireEntry (deliveryId : String) : AdapterProgram DlOutboxEntry := do
  match ← findEntry deliveryId with
  | some entry => pure entry
  | none => .throw (.notFound deliveryId)

def governanceCommand (entry : DlOutboxEntry) (correlationId : String)
    (operation : RuntimeOperation) : RuntimeCommand where
  tenantId := host.tenantId
  correlationId := correlationId
  reservationId := entry.reservationId
  actionKey := entry.command.actionKey
  operation := operation

/-- `settleDelivery`; this adapter gives no scope of a rejection. -/
def settleCommand (entry : DlOutboxEntry) (correlationId outcomeRef : String)
    (outcome : DeliveryOutcome) (occurredAt : Option Instant) : RuntimeCommand :=
  governanceCommand host entry correlationId (.settle
    { deliveryId := entry.deliveryId
      providerRequestKey := entry.providerRequestKey
      outcomeRef := outcomeRef
      outcome := outcome
      rejectionScope := none
      occurredAt := occurredAt })

def advanced (deliveryId : String) : Option DlOutboxEntry → AdapterProgram DlOutboxEntry
  | some entry => pure entry
  | none => requireEntry deliveryId

def settle (entry : DlOutboxEntry) (correlationId : String) (outcome : TerminalOutcome)
    (outcomeRef : String) (occurredAt : Option Instant) : AdapterProgram DlOutboxEntry := do
  let _ ← govern (settleCommand host entry correlationId outcomeRef (.terminal outcome) occurredAt)
  let settledAt ← readClock
  let settled ← advanceEntry entry.deliveryId [.submitting, .submitted, .reconciling]
    ⟨.settled, none, some settledAt, some outcome, some outcomeRef⟩
  advanced entry.deliveryId settled

/-- The reference and the time are fixed for a delivery, so that every round is a replay. -/
def markReconciling (entry : DlOutboxEntry) (correlationId : String) :
    AdapterProgram DlOutboxEntry := do
  let _ ← govern (settleCommand host entry correlationId
    (outcomeRefFor host entry.providerRequestKey "reconcile") .unknownReconciling
    (some (entry.submittedAt.getD entry.leaseExpiresAt)))
  let reconciling ← advanceEntry entry.deliveryId [.queued, .submitting, .submitted]
    (.of .reconciling)
  advanced entry.deliveryId reconciling

def respond (entry : DlOutboxEntry) (correlationId : String) :
    TransportResponse → AdapterProgram DeliverySubmissionResult
  | .accepted => do
      let _ ← govern (governanceCommand host entry correlationId
        (.confirm entry.deliveryId entry.providerRequestKey))
      let accepted ← advanceEntry entry.deliveryId [.submitting] (.of .submitted)
      pure (.submitted (deliveryEvidence (accepted.getD entry)))
  | .rejected reasonCode => do
      let occurredAt ← readClock
      let settled ← settle host entry correlationId .providerRejected
        (outcomeRefFor host entry.providerRequestKey reasonCode) (some occurredAt)
      pure (.settled (deliveryEvidence settled))
  | .timeout => do
      let reconciling ← markReconciling host entry correlationId
      pure (.reconcileRequired (deliveryEvidence reconciling))

/-- Past the barrier: only the worker whose update moves the entry on reaches the transport. -/
def pass (entry : DlOutboxEntry) (correlationId : String) :
    AdapterProgram DeliverySubmissionResult := do
  let submittedAt ← readClock
  let submitting ← advanceEntry entry.deliveryId [.queued]
    ⟨.submitting, some submittedAt, none, none, none⟩
  match submitting with
  | none => do
      let current ← requireEntry entry.deliveryId
      pure (.reconcileRequired (deliveryEvidence current))
  | some submitting => do
      let response ← transmit
        { adapter := .testAdapter
          deliveryId := submitting.deliveryId
          providerRequestKey := submitting.providerRequestKey
          channel := submitting.command.channel
          contentRef := submitting.command.contentRef }
      respond host submitting correlationId response

/-- How governance's answer to the barrier is taken. -/
def barrier (entry : DlOutboxEntry) (correlationId : String) :
    Except DeliveryError SettlementView → AdapterProgram DeliverySubmissionResult
  | .ok _ => pass host entry correlationId
  | .error (.runtime error) =>
      match bindingErrorCode error with
      | none => .throw (.runtime error)
      | some code =>
          if error = .deliveryReconciliationRequired then do
            let reconciling ← markReconciling host entry correlationId
            pure (.reconcileRequired (deliveryEvidence reconciling))
          else pure (.blocked code (deliveryEvidence entry))
  | .error failure => .throw failure

def submit (work : DeliveryWorkItem) : AdapterProgram DeliverySubmissionResult := do
  let entry ← requireEntry work.deliveryId
  match entry.state with
  | .submitted => pure (.submitted (deliveryEvidence entry))
  | .settled => pure (.settled (deliveryEvidence entry))
  | .submitting | .reconciling => pure (.reconcileRequired (deliveryEvidence entry))
  | .queued => do
      let answer ← tryGovern (governanceCommand host entry work.correlationId
        (.beginSubmission entry.deliveryId entry.leaseVersion entry.providerRequestKey))
      barrier host entry work.correlationId answer

/-- The first terminal outcome wins: a settled entry is answered as it is. -/
def recordOutcome (input : RecordOutcomeInput) : AdapterProgram DeliveryEvidence := do
  let entry ← requireEntry input.deliveryId
  match entry.state with
  | .settled => pure (deliveryEvidence entry)
  | .queued => .throw (.runtime .invalidReservationTransition)
  | _ => do
      let settled ← settle host entry input.correlationId input.outcome input.outcomeRef
        input.occurredAt
      pure (deliveryEvidence settled)

def reconcileExpired (correlationId : String) : AdapterProgram (List DeliveryEvidence) := do
  let now ← readClock
  let stale ← listReconcilable now
  Program.forEach stale fun entry => do
    let reconciling ← markReconciling host entry correlationId
    pure (deliveryEvidence reconciling)

end Adapter

inductive DeliveryCall where
  | submit (work : DeliveryWorkItem)
  | recordOutcome (input : RecordOutcomeInput)
  | reconcileExpired (correlationId : String)

inductive DeliveryAnswer where
  | submission (result : DeliverySubmissionResult)
  | evidence (evidence : List DeliveryEvidence)

def programOf (host : DeliveryHost) : DeliveryCall → AdapterProgram DeliveryAnswer
  | .submit work => do
      let result ← submit host work
      pure (.submission result)
  | .recordOutcome input => do
      let evidence ← recordOutcome host input
      pure (.evidence [evidence])
  | .reconcileExpired correlationId => do
      let evidence ← reconcileExpired host correlationId
      pure (.evidence evidence)

/-- What a request takes from outside: the clock, fresh identifiers and the provider's answer. -/
structure AdapterTick where
  now : Instant
  attemptId : String
  touchId : String
  response : TransportResponse

/-- What others do: their commands to governance, and new entries of the outbox. -/
inductive DeliveryElsewhere where
  | runtime (step : RuntimeStep)
  | enqueued (entry : DlOutboxEntry)

def performDelivery (host : DeliveryHost) (_pid : Nat) (tick : AdapterTick) :
    (request : AdapterRequest) → DeliveryStore →
      Option (Except DeliveryError request.Reply × DeliveryStore)
  | .clock, store => some (.ok tick.now, store)
  | .findByDeliveryId deliveryId, store =>
      some (.ok (findByDeliveryId .testAdapter store.outbox deliveryId), store)
  | .findReconcilable notAfter, store =>
      some (.ok (findReconcilable .testAdapter store.outbox notAfter), store)
  | .advance deliveryId expected data, store =>
      match advance .testAdapter store.outbox deliveryId expected data with
      | some (reply, outbox) => some (.ok reply, { store with outbox := outbox })
      | none => some (.error .uniqueViolation, store)
  | .governance command, store =>
      match execute host.runtime store.governance command tick.now tick.attemptId tick.touchId with
      | .ok (governance, view) => some (.ok view, { store with governance := governance })
      | .error error => some (.error (.runtime error), store)
  | .transport _, store => some (.ok tick.response, store)

def freshEntry (outbox : List DlOutboxEntry) (entry : DlOutboxEntry) : Bool :=
  entry.state == .queued && entry.outcome.isNone && entry.outcomeRef.isNone &&
    !outbox.any fun other => other.deliveryId == entry.deliveryId ||
      other.command.actionKey == entry.command.actionKey ||
      other.providerRequestKey == entry.providerRequestKey

def DeliveryStore.elsewhere (host : DeliveryHost) :
    DeliveryElsewhere → DeliveryStore → Option DeliveryStore
  | .runtime step, store =>
      some { store with governance := store.governance.next host.runtime step }
  | .enqueued entry, store =>
      if freshEntry store.outbox entry then some { store with outbox := store.outbox ++ [entry] }
      else none

def deliveryMachine (host : DeliveryHost) : Machine DeliveryStore AdapterTick AdapterRequest
    AdapterRequest.Reply DeliveryCall DeliveryElsewhere DeliveryError DeliveryAnswer where
  perform := performDelivery host
  others := DeliveryStore.elsewhere host
  program := programOf host

/-- Nothing is queued yet, and governance has reservations that no command has touched. -/
def DeliveryStore.Fresh (host : DeliveryHost) (store : DeliveryStore) : Prop :=
  store.outbox = [] ∧ (Governance.runtimeSystem host.runtime).init store.governance ∧
    store.governance.receipts = []

def deliveries (host : DeliveryHost) :=
  Workers.system (deliveryMachine host) (DeliveryStore.Fresh host)

end DContact.Delivery

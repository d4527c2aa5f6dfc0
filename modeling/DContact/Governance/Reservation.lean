import DContact.Governance.ExceptionEvaluation
import DContact.Lib.Text
import DContact.Lib.Table
import DContact.Lib.Transition

/-!
# Reservations and their runtime commands

A reservation holds capacity for one contact until the delivery it is claimed for
has settled. Every command reads the reservation, checks it and plans one update
of the row; a settlement also records the attempt it stands for. Planning and
updating are separate functions because they are separate statements of one
transaction: the atomic commands run them together, and the interleavings with
the expiry sweep run other statements between them.
-/

namespace DContact.Governance

open Lib

inductive ReservationState where
  | reserved
  | confirmed
  | released
  | refunded
  deriving DecidableEq

inductive SettlementStatus where
  | unclaimed
  | claimed
  | unknownReconciling
  | accepted
  | settled
  deriving DecidableEq

/-- Outcomes after which a delivery is settled. -/
inductive TerminalOutcome where
  | providerRejected
  | providerAccepted
  | delivered
  | deliveryFailed
  deriving DecidableEq

structure ReservationRow where
  id : String
  tenantId : String
  contactId : String
  identityId : Option String
  channel : ContactChannel
  purpose : String
  source : String
  actionKey : String
  state : ReservationState
  expiresAt : Instant
  confirmedAt : Option Instant
  releasedAt : Option Instant
  refundedAt : Option Instant
  deliveryId : Option String
  senderIdentityId : Option String
  providerRequestKey : Option String
  leaseVersion : Option Nat
  leaseExpiresAt : Option Instant
  submissionStartedAt : Option Instant
  settlementStatus : Option SettlementStatus
  terminalOutcome : Option TerminalOutcome
  terminalOutcomeRef : Option String
  settledAt : Option Instant
  authorizationAggregateVersion : Option Nat

def ReservationRow.status (row : ReservationRow) : SettlementStatus :=
  row.settlementStatus.getD .unclaimed

/-- A text column that is set and not empty. -/
def present (value : Option String) : Bool := value.any fun text => text != ""

/-- The submission barrier has been written. -/
def ReservationRow.submitted (row : ReservationRow) : Bool :=
  row.submissionStartedAt.isSome || present row.providerRequestKey

/-- The assignments which a command makes to the row it has read. -/
inductive RowUpdate where
  | claim (deliveryId senderIdentityId : String) (leaseExpiresAt : Instant)
  | renew (leaseVersion : Nat) (leaseExpiresAt : Instant)
  | beginSubmission (providerRequestKey : String) (now : Instant)
  | confirm (now : Instant)
  | release (now : Instant)
  | reconcile
  | settle (state : ReservationState) (outcome : TerminalOutcome) (outcomeRef : String)
      (confirms : Bool) (now : Instant)
  | transition (state : ReservationState) (now : Instant)

def RowUpdate.apply : RowUpdate → ReservationRow → ReservationRow
  | .claim deliveryId senderIdentityId leaseExpiresAt, row =>
      { row with
        deliveryId := some deliveryId
        senderIdentityId := some senderIdentityId
        leaseVersion := some 1
        leaseExpiresAt := some leaseExpiresAt
        settlementStatus := some .claimed }
  | .renew leaseVersion leaseExpiresAt, row =>
      { row with leaseVersion := some leaseVersion, leaseExpiresAt := some leaseExpiresAt }
  | .beginSubmission providerRequestKey now, row =>
      { row with
        providerRequestKey := some providerRequestKey
        submissionStartedAt := some now
        settlementStatus := some .unknownReconciling }
  | .confirm now, row =>
      { row with
        state := .confirmed
        settlementStatus := some .accepted
        confirmedAt := some now }
  | .release now, row =>
      { row with
        state := .released
        settlementStatus := some .settled
        releasedAt := some now
        settledAt := some now }
  | .reconcile, row => { row with settlementStatus := some .unknownReconciling }
  | .settle state outcome outcomeRef confirms now, row =>
      { row with
        state := state
        settlementStatus := some .settled
        terminalOutcome := some outcome
        terminalOutcomeRef := some outcomeRef
        settledAt := some now
        confirmedAt := if confirms then some now else row.confirmedAt
        releasedAt := if state = .released then some now else row.releasedAt
        refundedAt := if state = .refunded then some now else row.refundedAt }
  | .transition state now, row =>
      { row with
        state := state
        confirmedAt := if state = .confirmed then some now else row.confirmedAt
        releasedAt := if state = .released then some now else row.releasedAt
        refundedAt := if state = .refunded then some now else row.refundedAt }

structure DeliveryCommand where
  tenantId : String
  correlationId : String
  reservationId : String
  actionKey : String
  deriving DecidableEq

structure DeliveryBinding where
  deliveryId : String
  contactId : String
  identityId : Option String
  channel : ContactChannel
  purpose : String
  senderIdentityId : String
  deriving DecidableEq

inductive ReleaseReason where
  | cancelledBeforeSubmit
  | leaseExpired
  deriving DecidableEq

inductive DeliveryOutcome where
  | unknownReconciling
  | terminal (outcome : TerminalOutcome)
  deriving DecidableEq

inductive RejectionScope where
  | recipient
  | operational
  deriving DecidableEq

structure SettleInput where
  deliveryId : String
  providerRequestKey : String
  outcomeRef : String
  outcome : DeliveryOutcome
  rejectionScope : Option RejectionScope
  occurredAt : Option Instant
  deriving DecidableEq

/-- A timestamp is `none` when its text is no timestamp. -/
inductive RuntimeOperation where
  | claim (binding : DeliveryBinding) (leaseExpiresAt : Option Instant)
  | renew (deliveryId : String) (expectedLeaseVersion : Nat) (leaseExpiresAt : Option Instant)
  | beginSubmission (deliveryId : String) (expectedLeaseVersion : Nat)
      (providerRequestKey : String)
  | confirm (deliveryId providerRequestKey : String)
  | release (deliveryId : Option String) (reason : ReleaseReason)
  | settle (input : SettleInput)
  deriving DecidableEq

structure RuntimeCommand extends DeliveryCommand where
  operation : RuntimeOperation
  deriving DecidableEq

inductive CommandOperation where
  | claim
  | renew
  | beginSubmission
  | confirm
  | release
  | settle
  deriving DecidableEq

def RuntimeCommand.kind (command : RuntimeCommand) : CommandOperation :=
  match command.operation with
  | .claim .. => .claim
  | .renew .. => .renew
  | .beginSubmission .. => .beginSubmission
  | .confirm .. => .confirm
  | .release .. => .release
  | .settle .. => .settle

def RuntimeCommand.idempotencyKey (command : RuntimeCommand) : String :=
  match command.operation with
  | .renew _ expectedLeaseVersion _ =>
      command.reservationId ++ ":" ++ toString expectedLeaseVersion
  | .settle input => input.outcomeRef
  | _ => command.reservationId

inductive RuntimeError where
  | tenantRequired
  | timestampInvalid (field : String)
  | textBlank (field : String)
  | reservationNotFound
  | reservationNotReserved
  | reservationExpired
  | reservationBindingConflict
  | invalidReservationTransition
  | invalidReservationLease
  | staleReservationLease
  | deliveryReconciliationRequired
  | idempotencyConflict
  | governanceVersionStale
  | settlementPolicyViolation (outcome : TerminalOutcome)
  | settlementPolicyRaised
  | refundNotAllowed
  deriving DecidableEq

structure SettlementView where
  reservationId : String
  actionKey : String
  deliveryId : Option String
  state : ReservationState
  status : SettlementStatus
  leaseVersion : Option Nat
  leaseExpiresAt : Option Instant

/-- `view` of the source leaves out what is falsy. -/
def ReservationRow.view (row : ReservationRow) : SettlementView where
  reservationId := row.id
  actionKey := row.actionKey
  deliveryId := if present row.deliveryId then row.deliveryId else none
  state := row.state
  status := row.status
  leaseVersion := row.leaseVersion.filter fun version => version != 0
  leaseExpiresAt := row.leaseExpiresAt

structure Receipt where
  tenantId : String
  operation : CommandOperation
  idempotencyKey : String
  reservationId : String
  inputHash : String
  response : SettlementView

/-- The columns which an attempt and its touch have in common. -/
structure ContactFact where
  tenantId : String
  reservationId : String
  deliveryId : String
  outcomeRef : String
  contactId : String
  identityId : Option String
  channel : ContactChannel
  purpose : String
  source : String
  outcome : TerminalOutcome
  occurredAt : Instant
  correlationId : String
  causationId : Option String
  deriving DecidableEq

structure AttemptRow where
  id : String
  fact : ContactFact

/-- `TOUCH_EVIDENCE_KINDS`. -/
inductive TouchEvidenceKind where
  | userQuotedResponse
  | signedPostback
  deriving DecidableEq

/-- Evidence is present on touches that were correlated after the settlement. -/
structure TouchRow where
  id : String
  attemptId : String
  fact : ContactFact
  evidenceKind : Option TouchEvidenceKind
  responseEvidenceRef : Option String

structure ContactHead where
  tenantId : String
  contactId : String
  aggregateVersion : Nat

structure RuntimeStore where
  reservations : List ReservationRow
  receipts : List Receipt
  attempts : List AttemptRow
  touches : List TouchRow
  heads : List ContactHead

structure SettlementDecision where
  countsAsAttempt : Bool
  countsAsSuccessfulTouch : Bool
  refundOnFailure : Bool

def defaultSettlementPolicy (outcome : TerminalOutcome) (rejectionScope : Option RejectionScope) :
    SettlementDecision :=
  match outcome with
  | .providerAccepted => ⟨true, false, false⟩
  | .providerRejected => ⟨decide (rejectionScope ≠ some .operational), false, false⟩
  | .delivered => ⟨true, true, false⟩
  | .deliveryFailed => ⟨true, false, true⟩

/-- What no injected policy may break. -/
def settlementDecisionLegal (outcome : TerminalOutcome) (decision : SettlementDecision) : Bool :=
  (decide (outcome = .delivered) || !decision.countsAsSuccessfulTouch) &&
  (decide (outcome = .deliveryFailed) || !decision.refundOnFailure) &&
  (decide (outcome ≠ .providerAccepted) || decision.countsAsAttempt) &&
  (decision.countsAsAttempt || !decision.countsAsSuccessfulTouch)

/-- The parts of the runtime that its caller supplies. The hash covers the whole
input except the correlation identifier. The policy may raise, which is `none`. -/
structure RuntimeOptions where
  inputHash : RuntimeCommand → String
  settlementPolicy : SettleInput → TerminalOutcome → ReservationRow → Option SettlementDecision

/-- What a command writes: an update of its row, and for a settlement that counts
as an attempt whether it also counts as a touch. -/
structure Plan where
  update : Option RowUpdate
  attempt : Option (TerminalOutcome × Bool)

def Plan.nothing : Plan := ⟨none, none⟩

def Plan.row (update : RowUpdate) : Plan := ⟨some update, none⟩

def competing (store : RuntimeStore) (row : ReservationRow) (column : ReservationRow → Option String)
    (value : String) : Bool :=
  store.reservations.any fun other =>
    other.tenantId == row.tenantId && column other == some value && other.id != row.id

def deliveryBound (row : ReservationRow) (deliveryId : String) : Bool :=
  present row.deliveryId && row.deliveryId == some deliveryId

def planClaim (store : RuntimeStore) (row : ReservationRow) (binding : DeliveryBinding)
    (leaseExpiresAt now : Instant) : Except RuntimeError Plan :=
  if row.state ≠ .reserved ∨ row.status ≠ .unclaimed then
    .error .reservationNotReserved
  else if row.expiresAt ≤ now then
    .error .reservationExpired
  else if row.contactId ≠ binding.contactId ∨ row.identityId ≠ binding.identityId ∨
      row.channel ≠ binding.channel ∨ row.purpose ≠ binding.purpose ∨
      present row.senderIdentityId = true ∨ present row.deliveryId = true then
    .error .reservationBindingConflict
  else if leaseExpiresAt ≤ now ∨ leaseExpiresAt > row.expiresAt then
    .error .invalidReservationLease
  else if competing store row ReservationRow.deliveryId binding.deliveryId then
    .error .reservationBindingConflict
  else
    .ok (.row (.claim binding.deliveryId binding.senderIdentityId leaseExpiresAt))

def planRenew (row : ReservationRow) (deliveryId : String) (expectedLeaseVersion : Nat)
    (leaseExpiresAt now : Instant) : Except RuntimeError Plan :=
  if !deliveryBound row deliveryId then
    .error .reservationBindingConflict
  else if row.state ≠ .reserved ∨ row.status = .settled then
    .error .invalidReservationTransition
  else if row.submitted then
    .error .deliveryReconciliationRequired
  else if row.status ≠ .claimed then
    .error .invalidReservationTransition
  else if row.leaseVersion ≠ some expectedLeaseVersion then
    .error .staleReservationLease
  else
    match row.leaseExpiresAt with
    | none => .error .staleReservationLease
    | some current =>
        if current ≤ now ∨ row.expiresAt ≤ now then
          .error .reservationExpired
        else if leaseExpiresAt ≤ current ∨ leaseExpiresAt > row.expiresAt then
          .error .invalidReservationLease
        else
          .ok (.row (.renew (expectedLeaseVersion + 1) leaseExpiresAt))

def authorizationStale (store : RuntimeStore) (row : ReservationRow) : Bool :=
  row.authorizationAggregateVersion.any fun version =>
    let head := store.heads.find? fun head =>
      head.tenantId == row.tenantId && head.contactId == row.contactId
    (head.map ContactHead.aggregateVersion).getD 0 != version

def planBeginSubmission (store : RuntimeStore) (row : ReservationRow) (deliveryId : String)
    (expectedLeaseVersion : Nat) (providerRequestKey : String) (now : Instant) :
    Except RuntimeError Plan :=
  if !deliveryBound row deliveryId then
    .error .reservationBindingConflict
  else if row.state ≠ .reserved ∨ row.status ≠ .claimed then
    .error .invalidReservationTransition
  else if row.leaseVersion ≠ some expectedLeaseVersion then
    .error .staleReservationLease
  else
    match row.leaseExpiresAt with
    | none => .error .staleReservationLease
    | some current =>
        if current ≤ now ∨ row.expiresAt ≤ now then
          .error .reservationExpired
        else if row.submitted then
          .error .deliveryReconciliationRequired
        else if authorizationStale store row then
          .error .governanceVersionStale
        else if competing store row ReservationRow.providerRequestKey providerRequestKey then
          .error .reservationBindingConflict
        else
          .ok (.row (.beginSubmission providerRequestKey now))

/-- `assertProviderBinding`: the delivery is bound, the barrier is written and the
request key is the one of the barrier. -/
def assertProviderBinding (row : ReservationRow) (deliveryId providerRequestKey : String) :
    Except RuntimeError Unit :=
  if !deliveryBound row deliveryId then
    .error .reservationBindingConflict
  else if row.submissionStartedAt.isNone ∨ present row.providerRequestKey = false then
    .error .invalidReservationTransition
  else if row.providerRequestKey ≠ some providerRequestKey then
    .error .reservationBindingConflict
  else
    .ok ()

def planConfirm (row : ReservationRow) (deliveryId providerRequestKey : String) (now : Instant) :
    Except RuntimeError Plan := do
  assertProviderBinding row deliveryId providerRequestKey
  if row.terminalOutcome.isSome ∨ row.status = .settled then
    .error .invalidReservationTransition
  else if row.state ≠ .reserved then
    .error .invalidReservationTransition
  else
    .ok (.row (.confirm now))

def planRelease (row : ReservationRow) (deliveryId : Option String) (reason : ReleaseReason)
    (now : Instant) : Except RuntimeError Plan :=
  let bound :=
    if present row.deliveryId then present deliveryId && row.deliveryId == deliveryId
    else !present deliveryId
  if !bound then
    .error .reservationBindingConflict
  else if row.state ≠ .reserved ∨ row.status = .settled then
    .error .invalidReservationTransition
  else if row.submitted then
    .error .deliveryReconciliationRequired
  else if reason = .leaseExpired ∧ row.leaseExpiresAt.getD row.expiresAt > now then
    .error .invalidReservationLease
  else
    .ok (.row (.release now))

def settledState (row : ReservationRow) (outcome : TerminalOutcome)
    (decision : SettlementDecision) : Except RuntimeError ReservationState :=
  match outcome with
  | .providerRejected =>
      if row.state = .confirmed then .error .invalidReservationTransition else .ok .released
  | .deliveryFailed =>
      if row.state ≠ .confirmed then .error .deliveryReconciliationRequired
      else .ok (if decision.refundOnFailure then .refunded else .confirmed)
  | _ => .ok .confirmed

def planSettle (options : RuntimeOptions) (row : ReservationRow) (input : SettleInput)
    (now : Instant) : Except RuntimeError Plan := do
  assertProviderBinding row input.deliveryId input.providerRequestKey
  if row.terminalOutcome.isSome ∨ row.status = .settled then
    .ok .nothing
  else
    match input.outcome with
    | .unknownReconciling =>
        if row.status = .accepted then .ok .nothing else .ok (.row .reconcile)
    | .terminal outcome =>
        match options.settlementPolicy input outcome row with
        | none => .error .settlementPolicyRaised
        | some decision =>
            if !settlementDecisionLegal outcome decision then
              .error (.settlementPolicyViolation outcome)
            else
              let nextState ← settledState row outcome decision
              let confirms := decide (nextState = .confirmed) && row.confirmedAt.isNone
              .ok {
                update := some (.settle nextState outcome input.outcomeRef confirms now)
                attempt :=
                  if decision.countsAsAttempt then
                    some (outcome, decision.countsAsSuccessfulTouch)
                  else none }

/-- The timestamps of a command are parsed before its transaction begins. -/
def parseTimestamps : RuntimeOperation → Except RuntimeError Unit
  | .claim _ none | .renew _ _ none => .error (.timestampInvalid "leaseExpiresAt")
  | .settle input =>
      if input.occurredAt.isNone then .error (.timestampInvalid "occurredAt") else .ok ()
  | _ => .ok ()

/-- The handler of each command, on the row that it has read. -/
def plan (options : RuntimeOptions) (store : RuntimeStore) (row : ReservationRow)
    (operation : RuntimeOperation) (now : Instant) : Except RuntimeError Plan :=
  match operation with
  | .claim binding (some leaseExpiresAt) => planClaim store row binding leaseExpiresAt now
  | .claim _ none => .error (.timestampInvalid "leaseExpiresAt")
  | .renew deliveryId expectedLeaseVersion (some leaseExpiresAt) =>
      planRenew row deliveryId expectedLeaseVersion leaseExpiresAt now
  | .renew _ _ none => .error (.timestampInvalid "leaseExpiresAt")
  | .beginSubmission deliveryId expectedLeaseVersion providerRequestKey =>
      planBeginSubmission store row deliveryId expectedLeaseVersion providerRequestKey now
  | .confirm deliveryId providerRequestKey => planConfirm row deliveryId providerRequestKey now
  | .release deliveryId reason => planRelease row deliveryId reason now
  | .settle input => planSettle options row input now

def settlementFact (row : ReservationRow) (command : DeliveryCommand) (input : SettleInput)
    (outcome : TerminalOutcome) (occurredAt : Instant) : ContactFact where
  tenantId := command.tenantId
  reservationId := command.reservationId
  deliveryId := input.deliveryId
  outcomeRef := input.outcomeRef
  contactId := row.contactId
  identityId := if present row.identityId then row.identityId else none
  channel := row.channel
  purpose := row.purpose
  source := row.source
  outcome := outcome
  occurredAt := occurredAt
  correlationId := command.correlationId
  causationId := none

/-- `matchesCanonicalInput`: everything but the correlation and the causation agrees. -/
def matchesCanonicalInput (stored fact : ContactFact) : Bool :=
  { stored with correlationId := "", causationId := none } ==
    { fact with correlationId := "", causationId := none }

def hasSettlementTouch (store : RuntimeStore) (attempt : AttemptRow) : Bool :=
  store.touches.any fun touch =>
    touch.fact.tenantId == attempt.fact.tenantId && touch.attemptId == attempt.id &&
      touch.evidenceKind.isNone

/-- `AttemptTouchRepository.record` inside the transaction of the settlement. -/
def recordAttempt (store : RuntimeStore) (fact : ContactFact) (countsAsSuccessfulTouch : Bool)
    (attemptId touchId : String) : Except RuntimeError RuntimeStore :=
  if Text.isBlank fact.purpose then .error (.textBlank "purpose")
  else if Text.isBlank fact.source then .error (.textBlank "source")
  else if Text.isBlank fact.correlationId then .error (.textBlank "correlationId")
  else
    match store.attempts.find? fun attempt =>
      attempt.fact.tenantId == fact.tenantId && attempt.fact.outcomeRef == fact.outcomeRef with
    | some attempt =>
        if matchesCanonicalInput attempt.fact fact &&
            hasSettlementTouch store attempt == countsAsSuccessfulTouch then .ok store
        else .error .idempotencyConflict
    | none =>
        match store.reservations.find? fun row =>
          row.id == fact.reservationId && row.tenantId == fact.tenantId &&
            row.contactId == fact.contactId && row.channel == fact.channel &&
            row.purpose == fact.purpose && row.source == fact.source with
        | none => .error .reservationNotFound
        | some row =>
            if row.identityId ≠ fact.identityId then .error .reservationBindingConflict
            else .ok { store with
              attempts := store.attempts ++ [⟨attemptId, fact⟩]
              touches :=
                if countsAsSuccessfulTouch then
                  store.touches ++ [⟨touchId, attemptId, fact, none, none⟩]
                else store.touches }

theorem recordAttempt_keeps {store recorded : RuntimeStore} {fact : ContactFact}
    {touch : Bool} {attemptId touchId : String}
    (ok : recordAttempt store fact touch attemptId touchId = .ok recorded) :
    recorded.reservations = store.reservations ∧ recorded.receipts = store.receipts := by
  unfold recordAttempt at ok
  repeat' split at ok
  all_goals first
    | contradiction
    | (cases ok; exact ⟨rfl, rfl⟩)

def Plan.rewrite (plan : Plan) (row : ReservationRow) : ReservationRow :=
  match plan.update with
  | none => row
  | some update => update.apply row

def findReservation (store : RuntimeStore) (tenantId reservationId : String) :
    Option ReservationRow :=
  store.reservations.find? fun row => row.id == reservationId && row.tenantId == tenantId

def findReceipt (store : RuntimeStore) (command : RuntimeCommand) : Option Receipt :=
  store.receipts.find? fun receipt =>
    receipt.tenantId == command.tenantId && receipt.operation == command.kind &&
      receipt.idempotencyKey == command.idempotencyKey

/-- The attempt of a settlement that counts as one. -/
def Plan.record (plan : Plan) (store : RuntimeStore) (command : RuntimeCommand)
    (row : ReservationRow) (attemptId touchId : String) : Except RuntimeError RuntimeStore :=
  match plan.attempt, command.operation with
  | some (outcome, touch), .settle input =>
      recordAttempt store
        (settlementFact row command.toDeliveryCommand input outcome (input.occurredAt.getD 0))
        touch attemptId touchId
  | _, _ => .ok store

def receiptOf (options : RuntimeOptions) (command : RuntimeCommand) (response : SettlementView) :
    Receipt where
  tenantId := command.tenantId
  operation := command.kind
  idempotencyKey := command.idempotencyKey
  reservationId := command.reservationId
  inputHash := options.inputHash command
  response := response

def writePlan (options : RuntimeOptions) (store : RuntimeStore) (command : RuntimeCommand)
    (row : ReservationRow) (plan : Plan) (attemptId touchId : String) :
    Except RuntimeError (RuntimeStore × SettlementView) := do
  let written := { store with
    reservations := Table.update ReservationRow.id row.id plan.rewrite store.reservations }
  let recorded ← plan.record written command row attemptId touchId
  let response := (plan.rewrite row).view
  .ok ({ recorded with receipts := recorded.receipts ++ [receiptOf options command response] },
    response)

/-- One command in its transaction. A replay of a stored receipt answers with the
stored response; a failure leaves nothing behind. -/
def execute (options : RuntimeOptions) (store : RuntimeStore) (command : RuntimeCommand)
    (now : Instant) (attemptId touchId : String) :
    Except RuntimeError (RuntimeStore × SettlementView) := do
  parseTimestamps command.operation
  if command.tenantId = "" then
    .error .tenantRequired
  else
    match findReceipt store command with
    | some receipt =>
        if receipt.reservationId ≠ command.reservationId ∨
            receipt.inputHash ≠ options.inputHash command then
          .error .idempotencyConflict
        else
          .ok (store, receipt.response)
    | none =>
        match findReservation store command.tenantId command.reservationId with
        | none => .error .reservationNotFound
        | some row =>
            if row.actionKey ≠ command.actionKey then
              .error .reservationBindingConflict
            else
              let planned ← plan options store row command.operation now
              writePlan options store command row planned attemptId touchId

inductive ReservationCommand where
  | confirm
  | release
  | refund (delivered : Bool)
  deriving DecidableEq

def transitionReservation (state : ReservationState) (command : ReservationCommand) :
    Except RuntimeError ReservationState :=
  match command, state with
  | .refund true, _ => .error .refundNotAllowed
  | .confirm, .reserved => .ok .confirmed
  | .confirm, .confirmed => .ok .confirmed
  | .release, .reserved => .ok .released
  | .release, .released => .ok .released
  | .refund false, .confirmed => .ok .refunded
  | .refund false, .refunded => .ok .refunded
  | _, _ => .error .invalidReservationTransition

/-- `changeReservationState`, for reservations which no delivery has claimed. -/
def changeReservationState (store : RuntimeStore) (tenantId reservationId : String)
    (command : ReservationCommand) (now : Instant) : Except RuntimeError RuntimeStore :=
  match findReservation store tenantId reservationId with
  | none => .error .reservationNotFound
  | some row =>
      if present row.deliveryId then
        .error (if row.submitted then .deliveryReconciliationRequired
          else .invalidReservationTransition)
      else
        match transitionReservation row.state command with
        | .error failure => .error failure
        | .ok next =>
            if next = row.state then .ok store
            else .ok { store with
              reservations := Table.update ReservationRow.id row.id
                (RowUpdate.transition next now).apply store.reservations }

end DContact.Governance

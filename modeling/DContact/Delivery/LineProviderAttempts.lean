import DContact.Delivery.LineControlStore
import DContact.Governance.Reservation

/-!
# Provider attempts and lifecycle events

What the provider answers is classified once. An attempt is recorded after its request has ended and
never changes; attempts are numbered without a gap, and none follows an outcome. An event stands
under an identifier that is fixed for its transition.
-/

namespace DContact.Delivery

open Lib
open Governance (DeliveryOutcome Instant RejectionScope TerminalOutcome)

inductive LineProviderOutcomeCode where
  | lineAccepted
  | lineAcceptedReplay
  | lineRequestRejected
  | lineAuthInvalid
  | lineRateLimited
  | lineMonthlyQuotaExhausted
  | lineProviderUnavailable
  | lineUnknownOutcome
  | lineResponseInvalid
  | lineRetryWindowExpired
  deriving DecidableEq

def LineProviderOutcomeCode.name : LineProviderOutcomeCode → String
  | .lineAccepted => "LINE_ACCEPTED"
  | .lineAcceptedReplay => "LINE_ACCEPTED_REPLAY"
  | .lineRequestRejected => "LINE_REQUEST_REJECTED"
  | .lineAuthInvalid => "LINE_AUTH_INVALID"
  | .lineRateLimited => "LINE_RATE_LIMITED"
  | .lineMonthlyQuotaExhausted => "LINE_MONTHLY_QUOTA_EXHAUSTED"
  | .lineProviderUnavailable => "LINE_PROVIDER_UNAVAILABLE"
  | .lineUnknownOutcome => "LINE_UNKNOWN_OUTCOME"
  | .lineResponseInvalid => "LINE_RESPONSE_INVALID"
  | .lineRetryWindowExpired => "LINE_RETRY_WINDOW_EXPIRED"

inductive LineProviderOutcomeClass where
  | accepted
  | terminalRejected
  | retryableUnknown
  | quarantined
  deriving DecidableEq

def lineProviderOutcomeClass : LineProviderOutcomeCode → LineProviderOutcomeClass
  | .lineAccepted | .lineAcceptedReplay => .accepted
  | .lineRequestRejected | .lineAuthInvalid | .lineRateLimited | .lineMonthlyQuotaExhausted =>
      .terminalRejected
  | .lineProviderUnavailable | .lineUnknownOutcome | .lineResponseInvalid => .retryableUnknown
  | .lineRetryWindowExpired => .quarantined

def lineNormalizedOutcome (outcomeCode : LineProviderOutcomeCode) : DeliveryOutcome :=
  match lineProviderOutcomeClass outcomeCode with
  | .accepted => .terminal .providerAccepted
  | .terminalRejected => .terminal .providerRejected
  | _ => .unknownReconciling

def lineAlwaysOperationalRejections : List LineProviderOutcomeCode :=
  [.lineAuthInvalid, .lineRateLimited, .lineMonthlyQuotaExhausted]

def assertLineOutcomeScope (outcomeCode : LineProviderOutcomeCode)
    (rejectionScope : Option RejectionScope) : Option LineProviderOutcomeClass :=
  let outcomeClass := lineProviderOutcomeClass outcomeCode
  let valid : Bool :=
    match outcomeClass, rejectionScope with
    | .terminalRejected, some .operational => true
    | .terminalRejected, some .recipient => !lineAlwaysOperationalRejections.contains outcomeCode
    | .terminalRejected, none => false
    | _, scope => scope.isNone
  if valid then some outcomeClass else none

/-- `lineProviderSettlement`, as far as it counts: what is accepted, and what the recipient's own
data made the provider reject. -/
def lineCountsAsAttempt (outcomeCode : LineProviderOutcomeCode)
    (rejectionScope : Option RejectionScope) : Bool :=
  match lineProviderOutcomeClass outcomeCode with
  | .accepted => true
  | .terminalRejected => rejectionScope = some .recipient
  | _ => false

structure LinePushResponse where
  httpStatus : Nat
  requestId : Option String
  acceptedRequestId : Option String
  sentMessageIds : List String
  errorCode : Option String

inductive LineTransportResult where
  | response (response : LinePushResponse)
  | timeout
  | network
  | invalidResponse

def LineTransportResult.response? : LineTransportResult → Option LinePushResponse
  | .response answer => some answer
  | _ => none

/-- An empty text is as good as none. -/
def given (text : Option String) : Option String := text.filter fun text => text ≠ ""

structure LineClassification where
  outcomeCode : LineProviderOutcomeCode
  rejectionScope : Option RejectionScope
  accepted : Bool
  reconcile : Bool

def LineClassification.acceptedAs (outcomeCode : LineProviderOutcomeCode) : LineClassification :=
  ⟨outcomeCode, none, true, false⟩

def LineClassification.unknownAs (outcomeCode : LineProviderOutcomeCode) : LineClassification :=
  ⟨outcomeCode, none, false, true⟩

def LineClassification.rejectedAs (outcomeCode : LineProviderOutcomeCode)
    (rejectionScope : RejectionScope) : LineClassification :=
  ⟨outcomeCode, some rejectionScope, false, false⟩

def classifyResponse (response : LinePushResponse) : LineClassification :=
  let status := response.httpStatus
  if 200 ≤ status ∧ status < 300 then
    if response.sentMessageIds ≠ [] then .acceptedAs .lineAccepted
    else .unknownAs .lineResponseInvalid
  else if status = 409 then
    if (given response.acceptedRequestId).isSome then .acceptedAs .lineAcceptedReplay
    else .unknownAs .lineResponseInvalid
  else if status = 401 ∨ status = 403 then .rejectedAs .lineAuthInvalid .operational
  else if status = 429 then
    if response.errorCode = some "MONTHLY_QUOTA_EXHAUSTED" then
      .rejectedAs .lineMonthlyQuotaExhausted .operational
    else .rejectedAs .lineRateLimited .operational
  else if 400 ≤ status ∧ status < 500 then .rejectedAs .lineRequestRejected .recipient
  else if 500 ≤ status then .unknownAs .lineProviderUnavailable
  else .unknownAs .lineResponseInvalid

def classifyLineResponse : LineTransportResult → LineClassification
  | .response response => classifyResponse response
  | .invalidResponse => .unknownAs .lineResponseInvalid
  | _ => .unknownAs .lineUnknownOutcome

structure DlProviderSubmissionAttempt where
  id : String
  deliveryId : String
  providerRequestKey : String
  attemptNo : Nat
  providerPayloadDigest : String
  startedAt : Instant
  finishedAt : Instant
  httpStatus : Option Nat
  outcomeCode : LineProviderOutcomeCode
  rejectionScope : Option RejectionScope
  lineRequestId : Option String
  lineAcceptedRequestId : Option String
  sentMessageIds : List String
  deriving DecidableEq

/-- What two receipts of one attempt must share; the identifier is minted anew each time. -/
def sameReceipt (row input : DlProviderSubmissionAttempt) : Bool :=
  { row with id := input.id } = input

inductive LineAttemptError where
  | outcomeScope
  | checkViolation
  | attemptSequence
  | attemptAfterOutcome
  | retryWindowExpired
  | idempotencyConflict

/-- The checks on the values of a receipt. -/
def DlProviderSubmissionAttempt.valid (input : DlProviderSubmissionAttempt) : Bool :=
  1 ≤ input.attemptNo && input.attemptNo ≤ 4 && input.startedAt ≤ input.finishedAt &&
    input.httpStatus.all (fun status => 100 ≤ status && status ≤ 599) &&
    input.sentMessageIds.length ≤ 5 &&
    (input.outcomeCode ≠ .lineAccepted || input.lineRequestId.isSome) &&
    (input.outcomeCode ≠ .lineAcceptedReplay || input.lineAcceptedRequestId.isSome)

/-- A day, as the guard of the receipts counts it. -/
def retryWindow : Int := dayMs

/-- The guard of an insert: the numbers have no gap, nothing follows an outcome, and a retry starts
within a day of the first attempt. -/
def guardAttempt (attempts : List DlProviderSubmissionAttempt) (input : DlProviderSubmissionAttempt) :
    Except LineAttemptError Unit :=
  let previous := attempts.filter fun row => row.deliveryId = input.deliveryId
  if 1 < input.attemptNo ∧ ¬ previous.any fun row => row.attemptNo + 1 = input.attemptNo then
    .error .attemptSequence
  else if previous.any fun row =>
      lineProviderOutcomeClass row.outcomeCode ≠ .retryableUnknown then .error .attemptAfterOutcome
  else if lineProviderOutcomeClass input.outcomeCode ≠ .quarantined ∧
      previous.any fun row => row.startedAt + retryWindow ≤ input.startedAt then
    .error .retryWindowExpired
  else .ok ()

/-- `record`: a receipt that is there already is answered as it is, if it says the same. -/
def recordAttempt (attempts : List DlProviderSubmissionAttempt) (input : DlProviderSubmissionAttempt) :
    Except LineAttemptError (DlProviderSubmissionAttempt × List DlProviderSubmissionAttempt) :=
  if (assertLineOutcomeScope input.outcomeCode input.rejectionScope).isNone then
    .error .outcomeScope
  else do
    guardAttempt attempts input
    if input.valid = false then .error .checkViolation
    else if attempts.any fun row => (row.deliveryId = input.deliveryId &&
        row.attemptNo = input.attemptNo) || row.id = input.id ||
          (row.lineRequestId.isSome && row.lineRequestId = input.lineRequestId) then
      match attempts.find? fun row => row.deliveryId = input.deliveryId &&
          row.attemptNo = input.attemptNo with
      | some existing =>
          if sameReceipt existing input then .ok (existing, attempts)
          else .error .idempotencyConflict
      | none => .error .idempotencyConflict
    else .ok (input, attempts ++ [input])

/-- `listForDelivery`, the first attempt first. -/
def listForDelivery (attempts : List DlProviderSubmissionAttempt) (deliveryId : String) :
    List DlProviderSubmissionAttempt :=
  (attempts.filter fun row => row.deliveryId = deliveryId).insertionSort fun left right =>
    left.attemptNo ≤ right.attemptNo

inductive LineLifecycleState where
  | preBarrier
  | postBarrier
  | accepted
  | reconciling
  | settled
  deriving DecidableEq

def LineLifecycleState.name : LineLifecycleState → String
  | .preBarrier => "PRE_BARRIER"
  | .postBarrier => "POST_BARRIER"
  | .accepted => "ACCEPTED"
  | .reconciling => "RECONCILING"
  | .settled => "SETTLED"

structure LineDeliveryLifecycleEvent where
  eventId : String
  occurredAt : Instant
  correlationId : String
  state : LineLifecycleState
  actionKey : String
  reservationId : String
  deliveryId : String
  providerRequestKey : String
  outcomeCode : Option LineProviderOutcomeCode
  deriving DecidableEq

/-- `enqueue`: an event that says something else under a known identifier is a conflict. -/
def enqueueEvent (events : List LineDeliveryLifecycleEvent) (event : LineDeliveryLifecycleEvent) :
    Option (List LineDeliveryLifecycleEvent) :=
  match Table.lookup LineDeliveryLifecycleEvent.eventId event.eventId events with
  | none => some (events ++ [event])
  | some existing => if existing = event then some events else none

end DContact.Delivery

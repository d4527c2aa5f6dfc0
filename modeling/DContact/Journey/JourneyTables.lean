import DContact.Journey.JourneyDefinition

/-!
# The tables of the journeys

An enrollment is opened by one of four sources: an event, an occurrence of a schedule, the
outcome of an interaction, or the entry of a contact into a segment. Outcomes and segment
changes arrive as receipts, in streams that are ordered by a version and have a head.
-/

namespace DContact.Journey

open Lib
open Governance (Instant)
open Definition (JourneyVersionSnapshot)

/-- A text that is given, the empty one being none. -/
def givenText (text : Option String) : Option String := text.filter fun text => text ≠ ""

inductive JrEnrollmentState where
  | pending
  | review
  | blocked
  | deferred
  | authorized
  deriving DecidableEq

inductive JrTerminalReason where
  | graphExit
  | goalReached
  | exitRule
  | maxAge
  | cancelled
  deriving DecidableEq

inductive EnrollmentSource where
  | eventInbox (receiptId : String)
  | occurrence (occurrenceId : String)
  | outcomeReceipt (receiptId : String)
  | segmentIntent (intentId : String)
  deriving DecidableEq

structure EnrollmentRow extends JrEnrollment where
  source : Option EnrollmentSource
  contactId : Option String
  state : JrEnrollmentState
  maxAgeAt : Option Instant
  terminalReason : Option JrTerminalReason
  terminalStepId : Option String
  terminalAt : Option Instant
  correlationId : Option String
  createdAt : Instant
  deriving DecidableEq

def EnrollmentRow.outcomeReceiptId (row : EnrollmentRow) : Option String :=
  match row.source with
  | some (.outcomeReceipt receiptId) => some receiptId
  | _ => none

structure StepRunRow extends JrStepRun where
  branchResult : Option Bool

structure JrScheduleOccurrence where
  id : String
  journeyId : String
  journeyVersion : Nat
  occurrenceAt : Instant
  enrolled : Bool
  correlationId : String

inductive JourneyLifecycle where
  | draftOnly
  | active
  | paused
  | deprecated
  deriving DecidableEq

inductive JrReceiptState where
  | received
  | waitingForGap
  | ready
  | processing
  | applied
  | ignoredSuperseded
  | review
  | quarantined
  deriving DecidableEq

structure InteractionOutcomeReceiptPayload where
  interactionId : String
  contactId : Option String
  outcomeCode : Option String
  effectiveAt : String

/-- The logical outcome that a receipt is a version of. -/
structure OutcomeStream where
  outcomeType : String
  outcomeId : String
  deriving DecidableEq

structure JrOutcomeReceipt where
  id : String
  source : String
  eventId : String
  stream : OutcomeStream
  outcomeVersion : Nat
  payloadHash : String
  payload : InteractionOutcomeReceiptPayload
  state : JrReceiptState
  attempts : Nat
  leaseOwner : Option String
  leaseExpiresAt : Option Instant
  availableAt : Instant
  reviewReasonCode : Option String
  correlationId : String
  causationId : Option String
  receivedAt : Instant
  appliedAt : Option Instant

structure JrOutcomeHead where
  stream : OutcomeStream
  lastAppliedVersion : Nat
  lastAppliedReceiptId : String

structure SegmentStream where
  contactId : String
  segmentId : String
  deriving DecidableEq

structure JrSegmentReceipt where
  id : String
  source : String
  eventId : String
  stream : SegmentStream
  membershipRevision : Nat
  changeKind : String
  entryId : Option String
  supersedesRevision : Option Nat
  segmentDefinitionVersion : Nat
  payloadHash : String
  evidenceRef : Option String
  state : JrReceiptState
  attempts : Nat
  leaseOwner : Option String
  leaseExpiresAt : Option Instant
  availableAt : Instant
  reviewReasonCode : Option String
  correlationId : String
  causationId : Option String
  receivedAt : Instant
  appliedAt : Option Instant
  version : Nat

structure SegmentTerminal where
  entryId : String
  revision : Nat
  reasonCode : String

structure JrSegmentHead where
  stream : SegmentStream
  lastAppliedRevision : Nat
  lastAppliedReceiptId : String
  terminal : Option SegmentTerminal

structure JrSegmentEnrollmentIntent where
  id : String
  journeyId : String
  journeyVersion : Nat
  contactId : String
  segmentId : String
  entryId : String
  receiptId : String
  reasonMembershipRevision : Nat
  reasonDefinitionVersion : Nat
  reasonEvidenceRef : Option String
  reasonDigest : String
  correlationId : String

structure JrSegmentRefilterCursor where
  id : String
  stream : SegmentStream
  membershipRevision : Nat
  receiptId : String
  reasonCode : String
  correlationId : String

structure JrSegmentOutbox where
  id : String
  receiptId : String
  eventId : String
  eventType : String
  orderingKey : String
  payloadHash : String
  correlationId : String
  causationId : Option String

structure JourneyTables where
  enrollments : List EnrollmentRow
  stepRuns : List StepRunRow
  occurrences : List JrScheduleOccurrence
  lifecycles : List (String × JourneyLifecycle)
  actions : List JrOwnerAction
  commands : List JrOwnerCommandOutbox
  results : List JrOwnerResultInbox
  continuations : List JrOwnerContinuation
  outcomeReceipts : List JrOutcomeReceipt
  outcomeHeads : List JrOutcomeHead
  segmentReceipts : List JrSegmentReceipt
  segmentHeads : List JrSegmentHead
  segmentIntents : List JrSegmentEnrollmentIntent
  refilterCursors : List JrSegmentRefilterCursor
  segmentOutbox : List JrSegmentOutbox

namespace JourneyTables

def empty : JourneyTables :=
  ⟨[], [], [], [], [], [], [], [], [], [], [], [], [], [], []⟩

def findEnrollment (tables : JourneyTables) (id : String) : Option EnrollmentRow :=
  Table.lookup (fun row : EnrollmentRow => row.id) id tables.enrollments

def updateEnrollment (tables : JourneyTables) (id : String)
    (rewrite : EnrollmentRow → EnrollmentRow) : JourneyTables :=
  { tables with enrollments := Table.update (fun row => row.id) id rewrite tables.enrollments }

def ownerView (tables : JourneyTables) (definitions : List JourneyVersionSnapshot) :
    JourneyStore where
  actions := tables.actions
  commands := tables.commands
  results := tables.results
  continuations := tables.continuations
  enrollments := tables.enrollments.map EnrollmentRow.toJrEnrollment
  definitions := definitions.map fun snapshot =>
    ⟨snapshot.journeyId, snapshot.version, snapshot.status,
      snapshot.graph.steps.map Definition.JourneyGraphStep.ownerView⟩
  stepRuns := tables.stepRuns.map StepRunRow.toJrStepRun

def withActions (tables : JourneyTables) (after : JourneyStore) : JourneyTables :=
  { tables with actions := after.actions, commands := after.commands }

end JourneyTables

end DContact.Journey

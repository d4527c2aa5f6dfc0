import DContact.Journey.SegmentReceipts
import DContact.Journey.OutcomeRuns

/-!
# The processor of segment changes

A worker claims one receipt. A change other than an entry is recorded for a new evaluation,
and a contact that left closes its entry. For an entry the worker asks Customer 360 and the
scope of the teams, outside of any transaction, and then opens the enrollments of the matching
journeys in one.
-/

namespace DContact.Journey

open Lib
open Governance (Instant)
open Definition (JourneyVersionSnapshot)

structure EligibleSegmentEntry where
  contactId : String
  membershipRevision : Nat
  segmentDefinitionVersion : Nat
  stateDigest : String
  evidenceRef : Option String

inductive SegmentEntryResolution where
  | eligible (entry : EligibleSegmentEntry)
  | notEligible
  | stale
  | ambiguous (reasonCode : String)
  | notFound (reasonCode : String)

/-- The answers of the ports and of the definitions to one worker. -/
structure SegmentReadings where
  resolveEntry : SegmentStream → String → Nat → SegmentEntryResolution
  matched : List JourneyVersionSnapshot
  authorize : String → String → ScopeDecision
  /-- The digest of the payload of an outbox event. -/
  digest : List String → String

/-- What a worker goes on to do with its receipt. -/
inductive SegmentVerdict where
  | review (reasonCode : String)
  | retry
  | noOp
  | refilter (input : ApplySegmentRefilterInput) (event : SegmentOutboxEventInput)
  | enroll (input : ApplySegmentEnrollmentInput) (event : SegmentOutboxEventInput)

/-- `ENTRY_CHANGE_KINDS`. -/
def entryChangeKinds : List String := ["ENTERED"]

def outboxEvent (readings : SegmentReadings) (contactId segmentId : String) (body : List String) :
    SegmentOutboxEventInput where
  eventType := "journey.segment_entry.recorded"
  orderingKey := contactId ++ ":" ++ segmentId
  payloadHash := readings.digest ("1" :: segmentId :: body)

def refilterInput (receipt : JrSegmentReceipt) : ApplySegmentRefilterInput where
  receiptId := receipt.id
  reasonCode := receipt.changeKind
  terminalEntryId := if receipt.changeKind = "LEFT" then givenText receipt.entryId else none
  correlationId := receipt.correlationId

def segmentIntent (entry : EligibleSegmentEntry) (definition : JourneyVersionSnapshot) :
    SegmentEnrollmentIntentInput where
  journeyId := definition.journeyId
  journeyVersion := definition.version
  entryStepId := definition.graph.entryStepId
  reasonMembershipRevision := entry.membershipRevision
  reasonDefinitionVersion := entry.segmentDefinitionVersion
  reasonEvidenceRef := entry.evidenceRef
  reasonDigest := entry.stateDigest

/-- The contact is the one that Customer 360 names, not the one of the event. -/
def judgeEntry (readings : SegmentReadings) (receipt : JrSegmentReceipt) (entryId : String)
    (entry : EligibleSegmentEntry) : SegmentVerdict :=
  let scopeOf := fun definition : JourneyVersionSnapshot =>
    readings.authorize definition.ownerTeamId entry.contactId
  let allowed := readings.matched.filter fun definition => scopeOf definition = .allow
  if readings.matched = [] then .noOp
  else if readings.matched.any fun definition => scopeOf definition = .defer then .retry
  else if allowed = [] then .noOp
  else
    let intents := allowed.map (segmentIntent entry)
    .enroll
      { receiptId := receipt.id
        entryId := entryId
        canonicalContactId := entry.contactId
        intents := intents
        correlationId := receipt.correlationId
        causationId := receipt.causationId }
      (outboxEvent readings entry.contactId receipt.stream.segmentId
        ("SEGMENT_ENTRY_ENROLLED" :: intents.map SegmentEnrollmentIntentInput.journeyId))

def judgeSegment (readings : SegmentReadings) (receipt : JrSegmentReceipt) : SegmentVerdict :=
  if receipt.changeKind ∉ entryChangeKinds then
    .refilter (refilterInput receipt)
      (outboxEvent readings receipt.stream.contactId receipt.stream.segmentId
        ["REFILTER_REQUESTED", receipt.changeKind])
  else
    match givenText receipt.entryId with
    | none => .review "PAYLOAD_VALIDATION_FAILED"
    | some entryId =>
        match readings.resolveEntry receipt.stream entryId receipt.membershipRevision with
        | .stale => .retry
        | .ambiguous reasonCode | .notFound reasonCode => .review reasonCode
        | .notEligible => .noOp
        | .eligible entry => judgeEntry readings receipt entryId entry

/-- The end of `executeNext`. -/
def executeVerdict (now retryDelay : Instant) (ids : SegmentIds) (tables : JourneyTables)
    (receipt : JrSegmentReceipt) :
    SegmentVerdict → Except SegmentError (JourneyTables × JrSegmentReceipt)
  | .review reasonCode => markSegmentReview tables receipt.id reasonCode
  | .retry => markSegmentRetryable now retryDelay tables receipt.id
  | .noOp => applyNoOp now tables receipt.id
  | .refilter input event => applyRefilter now ids tables input event
  | .enroll input event => applyEnrollment now ids tables input event

inductive SegmentWork where
  | ingesting (input : IngestSegmentReceiptInput)
  | claimed (receipt : JrSegmentReceipt)
  | judged (receipt : JrSegmentReceipt) (verdict : SegmentVerdict)

def SegmentWork.receipt : SegmentWork → Option JrSegmentReceipt
  | .ingesting _ => none
  | .claimed receipt | .judged receipt _ => some receipt

structure SegmentSession where
  tables : JourneyTables
  workers : List (Session SegmentWork)

inductive SegmentStep where
  | lookup (pid : Nat) (input : IngestSegmentReceiptInput)
  | insert (pid : Nat) (now : Instant) (id : String)
  | claim (pid : Nat) (workerId : String) (now leaseSeconds : Instant) (receiptId : String)
  | judge (pid : Nat) (readings : SegmentReadings)
  | finish (pid : Nat) (now retryDelay : Instant) (ids : SegmentIds)
  | quarantine (pid : Nat) (reasonCode : String)

namespace SegmentSession

def answer (session : SegmentSession) (pid : Nat) (tables : JourneyTables) : SegmentSession where
  tables := tables
  workers := Session.drop session.workers pid

def resume (session : SegmentSession) (pid : Nat) (work : SegmentWork) : SegmentSession :=
  { session with workers := Session.replace session.workers pid work }

def next (session : SegmentSession) : SegmentStep → Option SegmentSession
  | .lookup pid input =>
      match segmentLookup session.tables input with
      | .ok none => some (session.resume pid (.ingesting input))
      | _ => some session
  | .insert pid now id =>
      match Session.find session.workers pid with
      | some (.ingesting input) =>
          some (session.answer pid
            (committed session.tables (segmentIngestUnderLock now id session.tables input)))
      | _ => none
  | .claim pid workerId now leaseSeconds receiptId =>
      match claimNextSegment now leaseSeconds workerId session.tables receiptId with
      | .ok (after, receipt) => some ({ session with tables := after }.resume pid (.claimed receipt))
      | .error _ => none
  | .judge pid readings =>
      match Session.find session.workers pid with
      | some (.claimed receipt) =>
          some (session.resume pid (.judged receipt (judgeSegment readings receipt)))
      | _ => none
  | .finish pid now retryDelay ids =>
      match Session.find session.workers pid with
      | some (.judged receipt verdict) =>
          some (session.answer pid
            (committed session.tables (executeVerdict now retryDelay ids session.tables receipt verdict)))
      | _ => none
  | .quarantine pid reasonCode =>
      match (Session.find session.workers pid).bind SegmentWork.receipt with
      | some receipt =>
          some (session.answer pid
            (committed session.tables (markSegmentQuarantined session.tables receipt.id reasonCode)))
      | none => none

/-- No segment change has arrived yet. -/
structure Fresh (session : SegmentSession) : Prop where
  receipts : session.tables.segmentReceipts = []
  workers : session.workers = []

end SegmentSession

def segmentTriggers : System SegmentSession SegmentStep :=
  .ofNext SegmentSession.Fresh SegmentSession.next

end DContact.Journey

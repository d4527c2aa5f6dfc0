import DContact.Journey.OutcomeReceipts

/-!
# The repository of segment receipts

Every change of the membership of a contact in a segment is a receipt of a stream, and the
revision numbers the stream. Applying a receipt advances the head, and either opens
enrollments for the entry that it brings, or asks for a new evaluation and closes an entry.
The head has room for one closed entry. The table checks that only a receipt in work has a
lease, and that only an applied one has the time of its application.
-/

namespace DContact.Journey

open Lib
open Governance (Instant)

inductive SegmentError where
  | hashConflict (identity : String) (kind : HashConflictKind)
  | entryTerminal (entryId : String)
  | constraintViolation (name : String)
  | recordNotFound

namespace JourneyTables

def findSegmentReceipt (tables : JourneyTables) (id : String) : Option JrSegmentReceipt :=
  Table.lookup JrSegmentReceipt.id id tables.segmentReceipts

def findSegmentByTransport (tables : JourneyTables) (source eventId : String) :
    Option JrSegmentReceipt :=
  tables.segmentReceipts.find? fun row => row.source = source ∧ row.eventId = eventId

def findSegmentByRevision (tables : JourneyTables) (stream : SegmentStream) (revision : Nat) :
    Option JrSegmentReceipt :=
  tables.segmentReceipts.find? fun row => row.stream = stream ∧ row.membershipRevision = revision

def segmentHead (tables : JourneyTables) (stream : SegmentStream) : Option JrSegmentHead :=
  Table.lookup JrSegmentHead.stream stream tables.segmentHeads

/-- `head?.lastAppliedRevision ?? 0`. -/
def lastAppliedRevision (tables : JourneyTables) (stream : SegmentStream) : Nat :=
  ((tables.segmentHead stream).map JrSegmentHead.lastAppliedRevision).getD 0

end JourneyTables

/-- The check constraints of the table. -/
def JrSegmentReceipt.checked (row : JrSegmentReceipt) : Bool :=
  1 ≤ row.membershipRevision &&
    row.supersedesRevision.all (fun revision => revision < row.membershipRevision) &&
    row.leaseOwner.isNone == row.leaseExpiresAt.isNone &&
    (row.state = .processing || row.leaseOwner.isNone) &&
    (row.state = .applied : Bool) == row.appliedAt.isSome &&
    (row.state ≠ .review || row.reviewReasonCode.isSome)

def updateSegmentReceipt (tables : JourneyTables) (id : String)
    (rewrite : JrSegmentReceipt → JrSegmentReceipt) :
    Except SegmentError (JourneyTables × JrSegmentReceipt) := do
  let row ← orFail (tables.findSegmentReceipt id) SegmentError.recordNotFound
  ensure ((rewrite row).checked = true) (SegmentError.constraintViolation "jr_segment_receipts_state_check")
  .ok ({ tables with
    segmentReceipts := Table.update JrSegmentReceipt.id id rewrite tables.segmentReceipts },
    rewrite row)

structure IngestSegmentReceiptInput where
  source : String
  eventId : String
  stream : SegmentStream
  membershipRevision : Nat
  changeKind : String
  entryId : Option String
  supersedesRevision : Option Nat
  segmentDefinitionVersion : Nat
  payloadHash : String
  evidenceRef : Option String
  correlationId : String
  causationId : Option String

/-- The look-up by event comes before any lock is taken. -/
def segmentLookup (tables : JourneyTables) (input : IngestSegmentReceiptInput) :
    Except SegmentError (Option (IngestReceiptOutcome × JrSegmentReceipt)) :=
  match tables.findSegmentByTransport input.source input.eventId with
  | none => .ok none
  | some existing => do
      ensure (existing.payloadHash = input.payloadHash)
        (SegmentError.hashConflict (input.source ++ ":" ++ input.eventId) .transport)
      .ok (some (.duplicate, existing))

def newSegmentReceipt (now : Instant) (id : String) (input : IngestSegmentReceiptInput)
    (state : JrReceiptState) : JrSegmentReceipt where
  id := id
  source := input.source
  eventId := input.eventId
  stream := input.stream
  membershipRevision := input.membershipRevision
  changeKind := input.changeKind
  entryId := givenText input.entryId
  supersedesRevision := input.supersedesRevision
  segmentDefinitionVersion := input.segmentDefinitionVersion
  payloadHash := input.payloadHash
  evidenceRef := givenText input.evidenceRef
  state := state
  attempts := 0
  leaseOwner := none
  leaseExpiresAt := none
  availableAt := now
  reviewReasonCode := none
  correlationId := input.correlationId
  causationId := givenText input.causationId
  receivedAt := now
  appliedAt := none
  version := 1

/-- The insertion breaks a unique key of the table. -/
def JourneyTables.segmentKeyTaken (tables : JourneyTables) (row : JrSegmentReceipt) : Bool :=
  tables.segmentReceipts.any fun other =>
    other.id = row.id || (other.source = row.source && other.eventId = row.eventId) ||
      (other.stream = row.stream && other.membershipRevision = row.membershipRevision)

def segmentIngestUnderLock (now : Instant) (id : String) (tables : JourneyTables)
    (input : IngestSegmentReceiptInput) :
    Except SegmentError (JourneyTables × IngestReceiptOutcome × JrSegmentReceipt) := do
  let lastApplied := tables.lastAppliedRevision input.stream
  let row := newSegmentReceipt now id input (receiptStateFor lastApplied input.membershipRevision)
  ensure (row.checked = true) (SegmentError.constraintViolation "jr_segment_receipts_revision_check")
  if tables.segmentKeyTaken row = true then do
    let raced ← orFail (tables.findSegmentByRevision input.stream input.membershipRevision)
      SegmentError.recordNotFound
    if raced.payloadHash ≠ input.payloadHash then do
      let quarantined ← updateSegmentReceipt tables raced.id fun row =>
        { row with
          state := .quarantined
          reviewReasonCode := some "EVENT_HASH_CONFLICT"
          version := row.version + 1 }
      .ok (quarantined.1, .quarantined, quarantined.2)
    else .ok (tables, .duplicate, raced)
  else
    .ok ({ tables with segmentReceipts := tables.segmentReceipts ++ [row] },
      ingestOutcomeFor lastApplied input.membershipRevision, row)

/-- `claimNextReady`, when the row is the one that the query finds. -/
def claimNextSegment (now leaseSeconds : Instant) (workerId : String) (tables : JourneyTables)
    (receiptId : String) : Except SegmentError (JourneyTables × JrSegmentReceipt) := do
  let row ← orFail (tables.findSegmentReceipt receiptId) SegmentError.recordNotFound
  ensure (receiptClaimable row.state row.availableAt row.leaseExpiresAt now = true)
    SegmentError.recordNotFound
  updateSegmentReceipt tables receiptId fun row =>
    { row with
      state := .processing
      leaseOwner := some workerId
      leaseExpiresAt := some (now + leaseSeconds * 1000)
      version := row.version + 1 }

def markSegmentReview (tables : JourneyTables) (receiptId reasonCode : String) :
    Except SegmentError (JourneyTables × JrSegmentReceipt) :=
  updateSegmentReceipt tables receiptId fun row =>
    { row with
      state := .review
      reviewReasonCode := some reasonCode
      leaseOwner := none
      leaseExpiresAt := none }

def markSegmentQuarantined (tables : JourneyTables) (receiptId reasonCode : String) :
    Except SegmentError (JourneyTables × JrSegmentReceipt) :=
  updateSegmentReceipt tables receiptId fun row =>
    { row with
      state := .quarantined
      reviewReasonCode := some reasonCode
      leaseOwner := none
      leaseExpiresAt := none
      version := row.version + 1 }

def markSegmentRetryable (now backoff : Instant) (tables : JourneyTables) (receiptId : String) :
    Except SegmentError (JourneyTables × JrSegmentReceipt) :=
  updateSegmentReceipt tables receiptId fun row =>
    { row with
      state := .ready
      attempts := row.attempts + 1
      availableAt := now + backoff
      leaseOwner := none
      leaseExpiresAt := none
      version := row.version + 1 }

def markSegmentApplied (now : Instant) (tables : JourneyTables) (receiptId : String) :
    Except SegmentError (JourneyTables × JrSegmentReceipt) :=
  updateSegmentReceipt tables receiptId fun row =>
    { row with
      state := .applied
      appliedAt := some now
      leaseOwner := none
      leaseExpiresAt := none
      version := row.version + 1 }

def promoteWaitingSegment (stream : SegmentStream) (lastApplied : Nat) (row : JrSegmentReceipt) :
    JrSegmentReceipt :=
  if row.stream = stream ∧ row.state = .waitingForGap then
    if row.membershipRevision ≤ lastApplied then
      { row with state := .ignoredSuperseded, version := row.version + 1 }
    else if row.membershipRevision = lastApplied + 1 then
      { row with state := .ready, version := row.version + 1 }
    else row
  else row

def putSegmentHead (tables : JourneyTables) (head : JrSegmentHead) : JourneyTables :=
  { tables with segmentHeads := Table.put JrSegmentHead.stream tables.segmentHeads head }

def promoteWaitingSegments (tables : JourneyTables) (receipt : JrSegmentReceipt) : JourneyTables :=
  { tables with
    segmentReceipts := tables.segmentReceipts.map
      (promoteWaitingSegment receipt.stream receipt.membershipRevision) }

def advanceHead (tables : JourneyTables) (receipt : JrSegmentReceipt) :
    JourneyTables × JrSegmentHead :=
  match tables.segmentHead receipt.stream with
  | none =>
      let created := ⟨receipt.stream, receipt.membershipRevision, receipt.id, none⟩
      (promoteWaitingSegments (putSegmentHead tables created) receipt, created)
  | some head =>
      if receipt.membershipRevision ≤ head.lastAppliedRevision then (tables, head)
      else
        let updated := { head with
          lastAppliedRevision := receipt.membershipRevision
          lastAppliedReceiptId := receipt.id }
        (promoteWaitingSegments (putSegmentHead tables updated) receipt, updated)

structure SegmentEnrollmentIntentInput where
  journeyId : String
  journeyVersion : Nat
  entryStepId : String
  reasonMembershipRevision : Nat
  reasonDefinitionVersion : Nat
  reasonEvidenceRef : Option String
  reasonDigest : String

structure ApplySegmentEnrollmentInput where
  receiptId : String
  entryId : String
  canonicalContactId : String
  intents : List SegmentEnrollmentIntentInput
  correlationId : String
  causationId : Option String

structure ApplySegmentRefilterInput where
  receiptId : String
  reasonCode : String
  terminalEntryId : Option String
  correlationId : String

structure SegmentOutboxEventInput where
  eventType : String
  orderingKey : String
  payloadHash : String

/-- The identifiers that the host mints for one transaction. -/
structure SegmentIds where
  intentId : Nat → String
  enrollmentId : Nat → String
  rowId : String
  eventId : String

def newSegmentIntent (id : String) (receipt : JrSegmentReceipt) (input : ApplySegmentEnrollmentInput)
    (intent : SegmentEnrollmentIntentInput) : JrSegmentEnrollmentIntent where
  id := id
  journeyId := intent.journeyId
  journeyVersion := intent.journeyVersion
  contactId := input.canonicalContactId
  segmentId := receipt.stream.segmentId
  entryId := input.entryId
  receiptId := receipt.id
  reasonMembershipRevision := intent.reasonMembershipRevision
  reasonDefinitionVersion := intent.reasonDefinitionVersion
  reasonEvidenceRef := givenText intent.reasonEvidenceRef
  reasonDigest := intent.reasonDigest
  correlationId := input.correlationId

def segmentEnrollment (now : Instant) (id intentId : String) (input : ApplySegmentEnrollmentInput)
    (intent : SegmentEnrollmentIntentInput) : EnrollmentRow where
  id := id
  journeyId := some intent.journeyId
  journeyVersion := intent.journeyVersion
  runState := .waiting
  currentStepId := some intent.entryStepId
  stepSequence := 0
  waitUntil := none
  claimedBy := none
  claimExpiresAt := none
  source := some (.segmentIntent intentId)
  contactId := some input.canonicalContactId
  state := .pending
  maxAgeAt := none
  terminalReason := none
  terminalStepId := none
  terminalAt := none
  correlationId := some input.correlationId
  createdAt := now

/-- The unique keys of the intents. -/
def JourneyTables.intentTaken (tables : JourneyTables) (row : JrSegmentEnrollmentIntent) : Bool :=
  tables.segmentIntents.any fun other =>
    other.id = row.id || (other.journeyId = row.journeyId && other.journeyVersion = row.journeyVersion &&
      other.contactId = row.contactId && other.segmentId = row.segmentId &&
      other.entryId = row.entryId)

/-- An intent and its enrollment are written together, or not at all when a unique key is taken. -/
def openIntent (now : Instant) (intentId enrollmentId : String) (receipt : JrSegmentReceipt)
    (input : ApplySegmentEnrollmentInput) (tables : JourneyTables)
    (intent : SegmentEnrollmentIntentInput) : JourneyTables :=
  let row := newSegmentIntent intentId receipt input intent
  if tables.intentTaken row || tables.enrollments.any fun other => other.id = enrollmentId then tables
  else
    { tables with
      segmentIntents := tables.segmentIntents ++ [row]
      enrollments := tables.enrollments ++ [segmentEnrollment now enrollmentId intentId input intent] }

def openIntents (now : Instant) (ids : SegmentIds) (receipt : JrSegmentReceipt)
    (input : ApplySegmentEnrollmentInput) :
    JourneyTables → List (SegmentEnrollmentIntentInput × Nat) → JourneyTables
  | tables, [] => tables
  | tables, (intent, index) :: rest =>
      openIntents now ids receipt input
        (openIntent now (ids.intentId index) (ids.enrollmentId index) receipt input tables intent) rest

def enqueue (ids : SegmentIds) (receipt : JrSegmentReceipt) (event : SegmentOutboxEventInput)
    (correlationId : String) (causationId : Option String) (tables : JourneyTables) : JourneyTables :=
  if tables.segmentOutbox.any fun row => row.id = ids.rowId || row.eventId = ids.eventId then tables
  else
    { tables with
      segmentOutbox := tables.segmentOutbox ++ [{
        id := ids.rowId
        receiptId := receipt.id
        eventId := ids.eventId
        eventType := event.eventType
        orderingKey := event.orderingKey
        payloadHash := event.payloadHash
        correlationId := correlationId
        causationId := givenText causationId }] }

def applyEnrollment (now : Instant) (ids : SegmentIds) (tables : JourneyTables)
    (input : ApplySegmentEnrollmentInput) (event : SegmentOutboxEventInput) :
    Except SegmentError (JourneyTables × JrSegmentReceipt) := do
  let receipt ← orFail (tables.findSegmentReceipt input.receiptId) SegmentError.recordNotFound
  let advanced := advanceHead tables receipt
  ensure (advanced.2.terminal.map SegmentTerminal.entryId ≠ some input.entryId)
    (SegmentError.entryTerminal input.entryId)
  let opened := openIntents now ids receipt input advanced.1 input.intents.zipIdx
  markSegmentApplied now (enqueue ids receipt event input.correlationId input.causationId opened)
    receipt.id

/-- The entry is closed if the head has not closed one yet. -/
def closeEntry (tables : JourneyTables) (receipt : JrSegmentReceipt) (head : JrSegmentHead)
    (input : ApplySegmentRefilterInput) : JourneyTables :=
  match givenText input.terminalEntryId, head.terminal with
  | some entryId, none =>
      putSegmentHead tables { head with
        terminal := some ⟨entryId, receipt.membershipRevision, input.reasonCode⟩ }
  | _, _ => tables

/-- A cursor has no team here, and rows without a team do not clash. -/
def addRefilterCursor (ids : SegmentIds) (receipt : JrSegmentReceipt)
    (input : ApplySegmentRefilterInput) (tables : JourneyTables) : JourneyTables :=
  if tables.refilterCursors.any fun row => row.id = ids.rowId then tables
  else
    { tables with
      refilterCursors := tables.refilterCursors ++ [{
        id := ids.rowId
        stream := receipt.stream
        membershipRevision := receipt.membershipRevision
        receiptId := receipt.id
        reasonCode := input.reasonCode
        correlationId := input.correlationId }] }

def applyRefilter (now : Instant) (ids : SegmentIds) (tables : JourneyTables)
    (input : ApplySegmentRefilterInput) (event : SegmentOutboxEventInput) :
    Except SegmentError (JourneyTables × JrSegmentReceipt) := do
  let receipt ← orFail (tables.findSegmentReceipt input.receiptId) SegmentError.recordNotFound
  let advanced := advanceHead tables receipt
  let closed := closeEntry advanced.1 receipt advanced.2 input
  markSegmentApplied now
    (enqueue ids receipt event input.correlationId none (addRefilterCursor ids receipt input closed))
    receipt.id

def applyNoOp (now : Instant) (tables : JourneyTables) (receiptId : String) :
    Except SegmentError (JourneyTables × JrSegmentReceipt) := do
  let receipt ← orFail (tables.findSegmentReceipt receiptId) SegmentError.recordNotFound
  markSegmentApplied now (advanceHead tables receipt).1 receipt.id

end DContact.Journey

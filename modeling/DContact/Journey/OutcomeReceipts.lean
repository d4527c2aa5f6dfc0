import DContact.Journey.JourneyTables

/-!
# The repository of outcome receipts

A receipt has two identities: the event that carried it, and the version of the logical
outcome that it reports. It waits until every earlier version is applied, is then ready to be
claimed under a lease, and is applied together with the head of its stream. A lease that has
run out is taken over by the next claim; the marking operations do not ask who holds it.
-/

namespace DContact.Journey

open Lib
open Governance (Instant)

inductive HashConflictKind where
  | transport
  | logical

inductive ReceiptError where
  | hashConflict (identity : String) (kind : HashConflictKind)
  | constraintViolation (name : String)
  | recordNotFound

namespace JourneyTables

def findOutcomeReceipt (tables : JourneyTables) (id : String) : Option JrOutcomeReceipt :=
  Table.lookup JrOutcomeReceipt.id id tables.outcomeReceipts

def findOutcomeByTransport (tables : JourneyTables) (source eventId : String) :
    Option JrOutcomeReceipt :=
  tables.outcomeReceipts.find? fun row => row.source = source ∧ row.eventId = eventId

def findOutcomeByVersion (tables : JourneyTables) (stream : OutcomeStream) (version : Nat) :
    Option JrOutcomeReceipt :=
  tables.outcomeReceipts.find? fun row => row.stream = stream ∧ row.outcomeVersion = version

def outcomeHead (tables : JourneyTables) (stream : OutcomeStream) : Option JrOutcomeHead :=
  Table.lookup JrOutcomeHead.stream stream tables.outcomeHeads

/-- `head?.lastAppliedVersion ?? 0`. -/
def lastAppliedVersion (tables : JourneyTables) (stream : OutcomeStream) : Nat :=
  ((tables.outcomeHead stream).map JrOutcomeHead.lastAppliedVersion).getD 0

def updateOutcomeReceipt (tables : JourneyTables) (id : String)
    (rewrite : JrOutcomeReceipt → JrOutcomeReceipt) : JourneyTables :=
  { tables with
    outcomeReceipts := Table.update JrOutcomeReceipt.id id rewrite tables.outcomeReceipts }

end JourneyTables

structure IngestOutcomeReceiptInput where
  source : String
  eventId : String
  stream : OutcomeStream
  outcomeVersion : Nat
  payloadHash : String
  payload : InteractionOutcomeReceiptPayload
  correlationId : String
  causationId : Option String

inductive IngestReceiptOutcome where
  | duplicate
  | ready
  | waitingForGap
  | ignoredSuperseded
  | quarantined

/-- Where a version stands against the head of its stream. -/
def receiptStateFor (lastApplied version : Nat) : JrReceiptState :=
  if version ≤ lastApplied then .ignoredSuperseded
  else if version = lastApplied + 1 then .ready
  else .waitingForGap

def ingestOutcomeFor (lastApplied version : Nat) : IngestReceiptOutcome :=
  if version ≤ lastApplied then .ignoredSuperseded
  else if version = lastApplied + 1 then .ready
  else .waitingForGap

/-- The look-up by event comes before any lock is taken. -/
def ingestLookup (tables : JourneyTables) (input : IngestOutcomeReceiptInput) :
    Except ReceiptError (Option (IngestReceiptOutcome × JrOutcomeReceipt)) :=
  match tables.findOutcomeByTransport input.source input.eventId with
  | none => .ok none
  | some existing => do
      ensure (existing.payloadHash = input.payloadHash)
        (ReceiptError.hashConflict (input.source ++ ":" ++ input.eventId) .transport)
      .ok (some (.duplicate, existing))

def newOutcomeReceipt (now : Instant) (id : String) (input : IngestOutcomeReceiptInput)
    (state : JrReceiptState) : JrOutcomeReceipt where
  id := id
  source := input.source
  eventId := input.eventId
  stream := input.stream
  outcomeVersion := input.outcomeVersion
  payloadHash := input.payloadHash
  payload := input.payload
  state := state
  attempts := 0
  leaseOwner := none
  leaseExpiresAt := none
  availableAt := now
  reviewReasonCode := none
  correlationId := input.correlationId
  causationId := input.causationId.filter fun text => text ≠ ""
  receivedAt := now
  appliedAt := none

/-- The insertion breaks a unique key of the table. -/
def JourneyTables.outcomeKeyTaken (tables : JourneyTables) (row : JrOutcomeReceipt) : Bool :=
  tables.outcomeReceipts.any fun other =>
    other.id = row.id || (other.source = row.source && other.eventId = row.eventId) ||
      (other.stream = row.stream && other.outcomeVersion = row.outcomeVersion)

/-- The rest of the operation, under the lock of the stream. A version that another event has
brought already is compared by its hash. -/
def ingestUnderLock (now : Instant) (id : String) (tables : JourneyTables)
    (input : IngestOutcomeReceiptInput) :
    Except ReceiptError (JourneyTables × IngestReceiptOutcome × JrOutcomeReceipt) := do
  let lastApplied := tables.lastAppliedVersion input.stream
  let row := newOutcomeReceipt now id input (receiptStateFor lastApplied input.outcomeVersion)
  ensure (0 < row.outcomeVersion) (ReceiptError.constraintViolation "jr_outcome_receipts_version_check")
  if tables.outcomeKeyTaken row = true then do
    let raced ← orFail (tables.findOutcomeByVersion input.stream input.outcomeVersion)
      ReceiptError.recordNotFound
    if raced.payloadHash ≠ input.payloadHash then
      let quarantine := fun row : JrOutcomeReceipt =>
        { row with state := .quarantined, reviewReasonCode := some "EVENT_HASH_CONFLICT" }
      .ok (tables.updateOutcomeReceipt raced.id quarantine, .quarantined, quarantine raced)
    else .ok (tables, .duplicate, raced)
  else
    .ok ({ tables with outcomeReceipts := tables.outcomeReceipts ++ [row] },
      ingestOutcomeFor lastApplied input.outcomeVersion, row)

/-- Rows that another transaction holds are skipped, so any such row may be the one. -/
def receiptClaimable (state : JrReceiptState) (availableAt : Instant)
    (leaseExpiresAt : Option Instant) (now : Instant) : Bool :=
  (state = .ready && availableAt ≤ now) ||
    (state = .processing && leaseExpiresAt.any fun expiry => expiry ≤ now)

/-- `claimNextReady`, when the row is the one that the query finds. -/
def claimNextReady (now leaseSeconds : Instant) (workerId : String) (tables : JourneyTables)
    (receiptId : String) : Option (JourneyTables × JrOutcomeReceipt) :=
  match tables.findOutcomeReceipt receiptId with
  | none => none
  | some row =>
      if receiptClaimable row.state row.availableAt row.leaseExpiresAt now = true then
        let claim := fun row : JrOutcomeReceipt =>
          { row with
            state := .processing
            leaseOwner := some workerId
            leaseExpiresAt := some (now + leaseSeconds * 1000) }
        some (tables.updateOutcomeReceipt receiptId claim, claim row)
      else none

def markReceipt (tables : JourneyTables) (receiptId : String)
    (rewrite : JrOutcomeReceipt → JrOutcomeReceipt) :
    Except ReceiptError (JourneyTables × JrOutcomeReceipt) := do
  let row ← orFail (tables.findOutcomeReceipt receiptId) ReceiptError.recordNotFound
  .ok (tables.updateOutcomeReceipt receiptId rewrite, rewrite row)

def markReview (tables : JourneyTables) (receiptId reasonCode : String) :
    Except ReceiptError (JourneyTables × JrOutcomeReceipt) :=
  markReceipt tables receiptId fun row =>
    { row with state := .review, reviewReasonCode := some reasonCode }

def markQuarantined (tables : JourneyTables) (receiptId reasonCode : String) :
    Except ReceiptError (JourneyTables × JrOutcomeReceipt) :=
  markReceipt tables receiptId fun row =>
    { row with state := .quarantined, reviewReasonCode := some reasonCode }

def markRetryableFailure (now backoff : Instant) (tables : JourneyTables) (receiptId : String) :
    Except ReceiptError (JourneyTables × JrOutcomeReceipt) :=
  markReceipt tables receiptId fun row =>
    { row with
      state := .ready
      attempts := row.attempts + 1
      availableAt := now + backoff
      leaseOwner := none
      leaseExpiresAt := none }

def promoteWaiting (stream : OutcomeStream) (lastApplied : Nat) (row : JrOutcomeReceipt) :
    JrOutcomeReceipt :=
  if row.stream = stream ∧ row.state = .waitingForGap then
    if row.outcomeVersion ≤ lastApplied then { row with state := .ignoredSuperseded }
    else if row.outcomeVersion = lastApplied + 1 then { row with state := .ready }
    else row
  else row

def advanceOutcomeHead (tables : JourneyTables) (receipt : JrOutcomeReceipt) : JourneyTables :=
  { tables with
    outcomeHeads := Table.put JrOutcomeHead.stream tables.outcomeHeads
      ⟨receipt.stream, receipt.outcomeVersion, receipt.id⟩
    outcomeReceipts :=
      tables.outcomeReceipts.map (promoteWaiting receipt.stream receipt.outcomeVersion) }

def setApplied (now : Instant) (row : JrOutcomeReceipt) : JrOutcomeReceipt :=
  { row with state := .applied, appliedAt := some now }

def markApplied (now : Instant) (tables : JourneyTables) (receiptId : String) :
    Except ReceiptError (JourneyTables × JrOutcomeReceipt) := do
  let marked ← markReceipt tables receiptId (setApplied now)
  let receipt := marked.2
  let head := marked.1.outcomeHead receipt.stream
  if head.all (fun head => head.lastAppliedVersion < receipt.outcomeVersion) then
    .ok (advanceOutcomeHead marked.1 receipt, receipt)
  else .ok (marked.1, receipt)

end DContact.Journey

import DContact.Customer360.MembershipStore

/-!
# Commits of evaluations

A commit evaluates a segment for a contact on a stored snapshot, and brings the head of the
stream to the outcome. The caller names the revision that it last saw. A result that does not
change anything refreshes the head without a new revision, every other one appends a change.
What cannot be applied is put into quarantine, and each command is answered once.
-/

namespace DContact.Customer360

open Lib
open Governance (Instant)

structure CommitInput where
  stream : MembershipStream
  segmentDefinitionVersion : Nat
  snapshotVersion : Nat
  expectedMembershipRevision : Nat
  commandId : String
  correlationId : String
  causationId : Option String

def CommitInput.binding (input : CommitInput) : EvaluationBinding where
  stream := input.stream
  segmentDefinitionVersion := input.segmentDefinitionVersion
  snapshotVersion := input.snapshotVersion

/-- What the request hash is the digest of. -/
structure CommitRequest where
  binding : EvaluationBinding
  expectedMembershipRevision : Nat

def CommitInput.request (input : CommitInput) : CommitRequest where
  binding := input.binding
  expectedMembershipRevision := input.expectedMembershipRevision

/-- The digest of a request, and the evaluator, which may reject a definition. -/
structure EvaluationHost where
  hash : CommitRequest → String
  evaluate : EvaluationBinding → String → String → Except String EvaluationOutcome

/-- The identifiers that the host mints for one commit. -/
structure CommitIds where
  evaluationId : String
  evidenceId : String
  entryId : String
  changeId : String

structure CommitResult where
  status : CommitStatus
  stream : MembershipStream
  membershipRevision : Nat
  entryId : Option String
  change : Option SegmentMembershipChange

def positiveInteger (value : Nat) (field : String) : Except MembershipError Nat :=
  if value < 1 then .error (.invalidInput (field ++ " ต้องเป็นจำนวนเต็มตั้งแต่ 1")) else .ok value

def optionalText (value : Option String) (field : String) :
    Except MembershipError (Option String) :=
  match value with
  | none | some "" => .ok none
  | some text => (nonEmpty text field).map some

def normalizeCommit (input : CommitInput) : Except MembershipError CommitInput := do
  let contactId ← nonEmpty input.stream.contactId "contactId"
  let segmentId ← nonEmpty input.stream.segmentId "segmentId"
  let definitionVersion ← positiveInteger input.segmentDefinitionVersion "segmentDefinitionVersion"
  let snapshotVersion ← positiveInteger input.snapshotVersion "snapshotVersion"
  let commandId ← nonEmpty input.commandId "commandId"
  let correlationId ← nonEmpty input.correlationId "correlationId"
  let causationId ← optionalText input.causationId "causationId"
  .ok {
    stream := ⟨contactId, segmentId⟩
    segmentDefinitionVersion := definitionVersion
    snapshotVersion := snapshotVersion
    expectedMembershipRevision := input.expectedMembershipRevision
    commandId := commandId
    correlationId := correlationId
    causationId := causationId }

def MembershipStore.evaluationOf (store : MembershipStore) (binding : EvaluationBinding) :
    Option StoredEvaluation :=
  Table.lookup StoredEvaluation.binding binding store.evaluations

def MembershipStore.factsOf (store : MembershipStore) (binding : EvaluationBinding) :
    Option (SegmentDefinitionRow × FactSnapshotRow) := do
  let definition ← store.definitions.find? fun row =>
    row.segmentId = binding.stream.segmentId ∧ row.version = binding.segmentDefinitionVersion
  let snapshot ← store.snapshots.find? fun row =>
    row.contactId = binding.stream.contactId ∧ row.snapshotVersion = binding.snapshotVersion
  if definition.status = .draft then none else some (definition, snapshot)

/-- A binding is evaluated once. -/
def evaluateBinding (host : EvaluationHost) (ids : CommitIds) (now : Instant)
    (store : MembershipStore) (binding : EvaluationBinding) :
    Except MembershipError (MembershipStore × StoredEvaluation) :=
  match store.evaluationOf binding with
  | some existing => .ok (store, existing)
  | none => do
      let facts ← orFail (store.factsOf binding) MembershipError.bindingNotFound
      let outcome ← (host.evaluate binding facts.1.definition facts.2.facts).mapError
        MembershipError.invalidInput
      let row : StoredEvaluation := ⟨ids.evaluationId, binding, outcome, now⟩
      .ok ({ store with evaluations := store.evaluations ++ [row] }, row)

def ensureEvidence (ids : CommitIds) (store : MembershipStore) (evaluation : StoredEvaluation) :
    MembershipStore × SegmentEvidence :=
  match Table.lookup SegmentEvidence.evaluationId evaluation.id store.evidence with
  | some existing => (store, existing)
  | none =>
      let row : SegmentEvidence := ⟨evaluation.id, "evidence:" ++ ids.evidenceId⟩
      ({ store with evidence := store.evidence ++ [row] }, row)

def receiptResult (store : MembershipStore) (receipt : MembershipCommandReceipt) : CommitResult where
  status := receipt.status
  stream := receipt.stream
  membershipRevision := receipt.membershipRevision
  entryId := receipt.entryId
  change := receipt.changeId.bind fun id => store.changes.find? fun row => row.id = id

def storeReceipt (store : MembershipStore) (commandId requestHash : String)
    (result : CommitResult) : Except MembershipError (MembershipStore × CommitResult) := do
  ensure (store.receipt commandId = none)
    (MembershipError.constraintViolation "c360_membership_receipts_tenant_command_key")
  .ok ({ store with
    receipts := store.receipts ++ [{
      commandId := commandId
      requestHash := requestHash
      status := result.status
      stream := result.stream
      membershipRevision := result.membershipRevision
      changeId := result.change.map SegmentMembershipChange.id
      entryId := result.entryId }] }, result)

/-- An attempt that could not be applied is kept once for its command and hash. -/
def quarantineRow (store : MembershipStore) (input : CommitInput) (requestHash errorCode : String) :
    MembershipStore :=
  if store.quarantine.any fun row =>
      row.commandId = input.commandId && row.attemptedHash = requestHash then store
  else
    { store with
      quarantine := store.quarantine ++ [{
        commandId := input.commandId
        stream := input.stream
        attemptedRevision := input.expectedMembershipRevision
        attemptedHash := requestHash
        errorCode := errorCode
        correlationId := input.correlationId }] }

def quarantinedResult (input : CommitInput) : CommitResult where
  status := .quarantined
  stream := input.stream
  membershipRevision := input.expectedMembershipRevision
  entryId := none
  change := none

def quarantineCommand (store : MembershipStore) (input : CommitInput)
    (requestHash errorCode : String) : Except MembershipError (MembershipStore × CommitResult) :=
  storeReceipt (quarantineRow store input requestHash errorCode) input.commandId requestHash
    (quarantinedResult input)

/-- What all writes of one commit share. -/
structure CommitContext where
  ids : CommitIds
  input : CommitInput
  requestHash : String
  evaluation : StoredEvaluation
  evidenceRef : String
  identityRevision : Nat
  current : Option SegmentMembershipHead

namespace CommitContext

def currentRevision (context : CommitContext) : Nat :=
  (context.current.map SegmentMembershipHead.membershipRevision).getD 0

def headAt (context : CommitContext) (state : MembershipState) (revision : Nat)
    (entryId : Option String) : SegmentMembershipHead where
  stream := context.input.stream
  state := state
  membershipRevision := revision
  entryId := entryId
  segmentDefinitionVersion := context.evaluation.binding.segmentDefinitionVersion
  snapshotVersion := context.evaluation.binding.snapshotVersion
  evaluationId := context.evaluation.id
  evaluatedAt := context.evaluation.evaluatedAt
  evidenceRef := context.evidenceRef
  lineageRevision := context.identityRevision

def changeOf (context : CommitContext) (kind : ChangeKind) (entryId : Option String) :
    SegmentMembershipChange where
  id := context.ids.changeId
  stream := context.input.stream
  membershipRevision := context.currentRevision + 1
  changeKind := kind
  entryId := entryId
  segmentDefinitionVersion := context.evaluation.binding.segmentDefinitionVersion
  snapshotVersion := context.evaluation.binding.snapshotVersion
  evaluationId := context.evaluation.id
  evaluatedAt := context.evaluation.evaluatedAt
  evidenceRef := context.evidenceRef
  supersedesRevision :=
    if kind = .corrected ∨ (kind = .left ∧ 0 < context.currentRevision) then
      some context.currentRevision
    else none
  lineageRevision := context.identityRevision
  correlationId := context.input.correlationId
  causationId := context.input.causationId

end CommitContext

/-- `persistTransition`: only a head that is inside keeps an entry. -/
def persistTransition (context : CommitContext) (store : MembershipStore) (kind : ChangeKind)
    (nextState : MembershipState) (entryId : Option String) :
    Except MembershipError (MembershipStore × CommitResult) := do
  let change := context.changeOf kind entryId
  let recorded ← store.insertChange change
  let written ← recorded.writeHead
    (context.headAt nextState change.membershipRevision
      (if nextState = .inside then entryId else none))
  storeReceipt written context.input.commandId context.requestHash
    { status := .transitioned
      stream := context.input.stream
      membershipRevision := change.membershipRevision
      entryId := entryId
      change := some change }

def exactResult (evaluation : StoredEvaluation) (current : SegmentMembershipHead) : Bool :=
  current.evaluationId = evaluation.id &&
    ((evaluation.outcome = .isMatch && current.state = .inside) ||
      (evaluation.outcome = .noMatch && current.state = .outside))

def duplicateResult (store : MembershipStore) (current : SegmentMembershipHead) : CommitResult where
  status := .duplicateNoOp
  stream := current.stream
  membershipRevision := current.membershipRevision
  entryId := current.entryId
  change :=
    if current.membershipRevision = 0 then none
    else store.change current.stream current.membershipRevision

def refreshHead (context : CommitContext) (store : MembershipStore) :
    Except MembershipError (MembershipStore × CommitResult) := do
  let written ← store.writeHead (context.headAt .outside context.currentRevision none)
  storeReceipt written context.input.commandId context.requestHash
    { status := .noChange
      stream := context.input.stream
      membershipRevision := context.currentRevision
      entryId := none
      change := none }

def persistMatch (context : CommitContext) (store : MembershipStore) :
    Except MembershipError (MembershipStore × CommitResult) :=
  match context.current.filter fun current => current.state = .inside with
  | none => persistTransition context store .entered .inside (some ("entry:" ++ context.ids.entryId))
  | some current => persistTransition context store .corrected .inside current.entryId

/-- A contact that does not match leaves, or is put aside after an invalidation. -/
def persistNoMatch (context : CommitContext) (store : MembershipStore) :
    Except MembershipError (MembershipStore × CommitResult) :=
  match context.current with
  | none => refreshHead context store
  | some current =>
      match current.state with
      | .outside => refreshHead context store
      | .inside => persistTransition context store .left .outside current.entryId
      | .invalidated => persistTransition context store .refilterRequired .outside none

def applyEvaluation (context : CommitContext) (store : MembershipStore) :
    Except MembershipError (MembershipStore × CommitResult) :=
  if context.currentRevision ≠ context.input.expectedMembershipRevision then
    quarantineCommand store context.input context.requestHash "MEMBERSHIP_REVISION_CONFLICT"
  else
    match context.evaluation.outcome with
    | .error errorCode =>
        quarantineCommand store context.input context.requestHash
          (errorCode.getD "MEMBERSHIP_CONTEXT_STALE")
    | .isMatch => persistMatch context store
    | .noMatch => persistNoMatch context store

/-- The evaluation under the locks, for a contact that stands for itself. -/
def commitActive (host : EvaluationHost) (ids : CommitIds) (now : Instant)
    (store : MembershipStore) (input : CommitInput) (identity : IdentityHead) :
    Except MembershipError (MembershipStore × CommitResult) := do
  let evaluated ← evaluateBinding host ids now store input.binding
  let evidence := ensureEvidence ids evaluated.1 evaluated.2
  let current := evidence.1.head input.stream
  let context : CommitContext :=
    { ids := ids
      input := input
      requestHash := host.hash input.request
      evaluation := evaluated.2
      evidenceRef := evidence.2.evidenceRef
      identityRevision := identity.lineageRevision
      current := current }
  match current.filter fun head => exactResult evaluated.2 head with
  | some exact_ =>
      storeReceipt evidence.1 input.commandId context.requestHash
        (duplicateResult evidence.1 exact_)
  | none => applyEvaluation context evidence.1

def ownerErrorCode (identity : IdentityHead) : String :=
  if identity.state = .ambiguous then "IDENTITY_AMBIGUOUS" else "IDENTITY_LINEAGE_CONFLICT"

/-- `commitEvaluation`, once the locks are held. -/
def commitUnderLocks (host : EvaluationHost) (ids : CommitIds) (now : Instant)
    (store : MembershipStore) (input : CommitInput) :
    Except MembershipError (MembershipStore × CommitResult) :=
  match store.receipt input.commandId with
  | some receipt =>
      if receipt.requestHash = host.hash input.request then .ok (store, receiptResult store receipt)
      else
        .ok (quarantineRow store input (host.hash input.request) "IDEMPOTENCY_CONFLICT",
          quarantinedResult input)
  | none => do
      let identity ← ensureIdentityHead store input.stream.contactId
      if identity.2.state ≠ .active ∨ identity.2.canonicalContactId ≠ input.stream.contactId then
        quarantineCommand identity.1 input (host.hash input.request) (ownerErrorCode identity.2)
      else commitActive host ids now identity.1 input identity.2

def commitEvaluation (host : EvaluationHost) (ids : CommitIds) (now : Instant)
    (store : MembershipStore) (input : CommitInput) :
    Except MembershipError (MembershipStore × CommitResult) := do
  let normalized ← normalizeCommit input
  commitUnderLocks host ids now store normalized

end DContact.Customer360

import DContact.Governance.LocalTime
import DContact.Lib.Table
import DContact.Lib.Text
import DContact.Lib.Transition

/-!
# The tables of the membership owner

Customer 360 owns the identity of a contact and its membership in segments. The identity head
says whether the contact stands for itself or was merged into another, and the lineage is the
ledger of what was merged and reversed. A membership stream belongs to a contact and a segment:
its changes are numbered, and its head is what the stream has come to.
-/

namespace DContact.Customer360

open Lib
open Governance (Instant)

inductive IdentityState where
  | active
  | merged
  | ambiguous
  deriving DecidableEq

inductive IdentityOperation where
  | merge
  | split
  | unmerge
  deriving DecidableEq

structure IdentityHead where
  contactId : String
  state : IdentityState
  canonicalContactId : String
  lineageRevision : Nat
  deriving DecidableEq

structure IdentityLineage where
  id : String
  commandId : String
  operation : IdentityOperation
  sourceContactId : String
  targetContactId : String
  lineageRevision : Nat
  requestHash : String
  correlationId : String

structure MembershipStream where
  contactId : String
  segmentId : String
  deriving DecidableEq

inductive MembershipState where
  | inside
  | outside
  | invalidated
  deriving DecidableEq

inductive ChangeKind where
  | entered
  | left
  | corrected
  | refilterRequired
  | identityInvalidated
  deriving DecidableEq

structure SegmentMembershipHead where
  stream : MembershipStream
  state : MembershipState
  membershipRevision : Nat
  entryId : Option String
  segmentDefinitionVersion : Nat
  snapshotVersion : Nat
  evaluationId : String
  evaluatedAt : Instant
  evidenceRef : String
  lineageRevision : Nat

structure SegmentMembershipChange where
  id : String
  stream : MembershipStream
  membershipRevision : Nat
  changeKind : ChangeKind
  entryId : Option String
  segmentDefinitionVersion : Nat
  snapshotVersion : Nat
  evaluationId : String
  evaluatedAt : Instant
  evidenceRef : String
  supersedesRevision : Option Nat
  lineageRevision : Nat
  correlationId : String
  causationId : Option String

inductive DefinitionStatus where
  | draft
  | published
  | superseded
  deriving DecidableEq

structure SegmentDefinitionRow where
  segmentId : String
  version : Nat
  status : DefinitionStatus
  definition : String

structure FactSnapshotRow where
  contactId : String
  snapshotVersion : Nat
  facts : String

structure EvaluationBinding where
  stream : MembershipStream
  segmentDefinitionVersion : Nat
  snapshotVersion : Nat
  deriving DecidableEq

/-- `MATCH`, `NO_MATCH`, and `ERROR` with the code that the evaluator may give. -/
inductive EvaluationOutcome where
  | isMatch
  | noMatch
  | error (code : Option String)
  deriving DecidableEq

structure StoredEvaluation where
  id : String
  binding : EvaluationBinding
  outcome : EvaluationOutcome
  evaluatedAt : Instant

structure SegmentEvidence where
  evaluationId : String
  evidenceRef : String

inductive CommitStatus where
  | transitioned
  | noChange
  | duplicateNoOp
  | quarantined

structure MembershipCommandReceipt where
  commandId : String
  requestHash : String
  status : CommitStatus
  stream : MembershipStream
  membershipRevision : Nat
  changeId : Option String
  entryId : Option String

structure MembershipQuarantine where
  commandId : String
  stream : MembershipStream
  attemptedRevision : Nat
  attemptedHash : String
  errorCode : String
  correlationId : String

/-- The tables of one tenant. -/
structure MembershipStore where
  contacts : List String
  identityHeads : List IdentityHead
  lineage : List IdentityLineage
  heads : List SegmentMembershipHead
  changes : List SegmentMembershipChange
  definitions : List SegmentDefinitionRow
  snapshots : List FactSnapshotRow
  evaluations : List StoredEvaluation
  evidence : List SegmentEvidence
  receipts : List MembershipCommandReceipt
  quarantine : List MembershipQuarantine

inductive MembershipError where
  | contactNotFound
  | commandHashConflict
  | lineageMoved (expected current : Nat)
  | mergeNeedsActive
  | notMergedInto (operation : IdentityOperation) (source target : String)
  | noMergeEdge (operation : IdentityOperation) (source target : String)
  | bindingNotFound
  | invalidInput (message : String)
  | constraintViolation (name : String)

namespace MembershipError

end MembershipError

/-- `nonEmpty`: the text without the blanks around it. -/
def nonEmpty (value field : String) : Except MembershipError String :=
  if Text.trim value = "" then .error (.invalidInput (field ++ " ต้องเป็น string ที่ไม่ว่าง"))
  else .ok (Text.trim value)

namespace MembershipStore

def identityHead (store : MembershipStore) (contactId : String) : Option IdentityHead :=
  Table.lookup IdentityHead.contactId contactId store.identityHeads

def lineageOf (store : MembershipStore) (commandId : String) : Option IdentityLineage :=
  Table.lookup IdentityLineage.commandId commandId store.lineage

def head (store : MembershipStore) (stream : MembershipStream) : Option SegmentMembershipHead :=
  Table.lookup SegmentMembershipHead.stream stream store.heads

def change (store : MembershipStore) (stream : MembershipStream) (revision : Nat) :
    Option SegmentMembershipChange :=
  store.changes.find? fun row => row.stream = stream ∧ row.membershipRevision = revision

def receipt (store : MembershipStore) (commandId : String) : Option MembershipCommandReceipt :=
  Table.lookup MembershipCommandReceipt.commandId commandId store.receipts

def changesOf (store : MembershipStore) (stream : MembershipStream) :
    List SegmentMembershipChange :=
  store.changes.filter fun row => row.stream = stream

end MembershipStore

/-- `c360_membership_changes_revision_check` and `c360_membership_changes_kind_check`. -/
def SegmentMembershipChange.checked (row : SegmentMembershipChange) : Bool :=
  1 ≤ row.membershipRevision && 1 ≤ row.segmentDefinitionVersion && 1 ≤ row.snapshotVersion &&
    row.supersedesRevision.all (fun revision => 1 ≤ revision && revision < row.membershipRevision) &&
    match row.changeKind with
    | .entered | .left => row.entryId.isSome
    | .corrected => row.supersedesRevision.isSome
    | .refilterRequired | .identityInvalidated => true

/-- `c360_membership_heads_entry_check`. -/
def SegmentMembershipHead.checked (row : SegmentMembershipHead) : Bool :=
  match row.state with
  | .inside => 1 ≤ row.membershipRevision && row.entryId.isSome
  | .outside => row.entryId.isNone
  | .invalidated => true

/-- `c360_guard_membership_head_update`. -/
def SegmentMembershipHead.updatable (old new : SegmentMembershipHead) : Bool :=
  decide (old.membershipRevision ≤ new.membershipRevision) &&
    decide (new.membershipRevision ≤ old.membershipRevision + 1) &&
    decide (old.lineageRevision ≤ new.lineageRevision) &&
    (new.membershipRevision ≠ old.membershipRevision ||
      (old.state = .outside && new.state = .outside && new.entryId.isNone))

namespace MembershipStore

/-- A change enters the ledger under a revision that its stream does not have yet. -/
def insertChange (store : MembershipStore) (row : SegmentMembershipChange) :
    Except MembershipError MembershipStore := do
  ensure (row.checked = true) (MembershipError.constraintViolation "c360_membership_changes_kind_check")
  ensure (∀ other ∈ store.changes, other.id ≠ row.id)
    (MembershipError.constraintViolation "c360_segment_membership_changes_pkey")
  ensure (∀ other ∈ store.changes,
      ¬ (other.stream = row.stream ∧ other.membershipRevision = row.membershipRevision))
    (MembershipError.constraintViolation "c360_membership_changes_stream_revision_key")
  .ok { store with changes := store.changes ++ [row] }

/-- The head is created, or updated as the trigger allows it. -/
def writeHead (store : MembershipStore) (row : SegmentMembershipHead) :
    Except MembershipError MembershipStore := do
  ensure (row.checked = true) (MembershipError.constraintViolation "c360_membership_heads_entry_check")
  ensure ((store.head row.stream).all (fun old => old.updatable row) = true)
    (MembershipError.constraintViolation "c360_membership_head_guard")
  .ok { store with heads := Table.put SegmentMembershipHead.stream store.heads row }

def updateIdentityHead (store : MembershipStore) (contactId : String)
    (rewrite : IdentityHead → IdentityHead) : MembershipStore :=
  { store with
    identityHeads := Table.update IdentityHead.contactId contactId rewrite store.identityHeads }

end MembershipStore

def freshIdentityHead (contactId : String) : IdentityHead where
  contactId := contactId
  state := .active
  canonicalContactId := contactId
  lineageRevision := 0

/-- The head of the contact, which is created on first use. -/
def ensureIdentityHead (store : MembershipStore) (contactId : String) :
    Except MembershipError (MembershipStore × IdentityHead) :=
  match store.identityHead contactId with
  | some existing => .ok (store, existing)
  | none => do
      ensure (contactId ∈ store.contacts) MembershipError.contactNotFound
      .ok ({ store with identityHeads := store.identityHeads ++ [freshIdentityHead contactId] },
        freshIdentityHead contactId)

end DContact.Customer360

import DContact.Customer360.MembershipStore

/-!
# Identity transitions

A transition merges one contact into another or reverses a merge. The head of a merged contact
points at the contact that stands for it now, in one step, so contacts that were merged before
move along. Every membership of an affected contact is invalidated, or marked for a new
evaluation. All of it happens in one transaction under the locks of the contacts concerned.
-/

namespace DContact.Customer360

open Lib

structure IdentityTransitionInput where
  commandId : String
  operation : IdentityOperation
  sourceContactId : String
  targetContactId : String
  expectedSourceLineageRevision : Nat
  correlationId : String

/-- The identifiers that the host mints for one transition. -/
structure TransitionIds where
  lineageId : String
  changeId : MembershipStream → String

structure IdentityTransitionResult where
  lineageId : String
  operation : IdentityOperation
  sourceContactId : String
  targetContactId : String
  lineageRevision : Nat
  invalidatedChanges : List SegmentMembershipChange

/-- The input as `recordIdentityTransition` normalizes it. -/
def normalizeTransition (input : IdentityTransitionInput) :
    Except MembershipError IdentityTransitionInput := do
  let commandId ← nonEmpty input.commandId "commandId"
  let sourceContactId ← nonEmpty input.sourceContactId "sourceContactId"
  let targetContactId ← nonEmpty input.targetContactId "targetContactId"
  let correlationId ← nonEmpty input.correlationId "correlationId"
  ensure (sourceContactId ≠ targetContactId)
    (MembershipError.invalidInput "sourceContactId และ targetContactId ต้องต่างกัน")
  .ok { input with
    commandId := commandId
    sourceContactId := sourceContactId
    targetContactId := targetContactId
    correlationId := correlationId }

structure AffectedContact where
  contactId : String
  kind : ChangeKind
  revision : Nat

/-- `persistIdentityInvalidation`: the head keeps its entry and its evaluation. -/
def persistIdentityInvalidation (ids : TransitionIds) (input : IdentityTransitionInput)
    (kind : ChangeKind) (lineageRevision : Nat) (store : MembershipStore)
    (head : SegmentMembershipHead) :
    Except MembershipError (MembershipStore × SegmentMembershipChange) := do
  let revision := head.membershipRevision + 1
  let change : SegmentMembershipChange :=
    { id := ids.changeId head.stream
      stream := head.stream
      membershipRevision := revision
      changeKind := kind
      entryId := head.entryId
      segmentDefinitionVersion := head.segmentDefinitionVersion
      snapshotVersion := head.snapshotVersion
      evaluationId := head.evaluationId
      evaluatedAt := head.evaluatedAt
      evidenceRef := head.evidenceRef
      supersedesRevision := if 0 < head.membershipRevision then some head.membershipRevision else none
      lineageRevision := lineageRevision
      correlationId := input.correlationId
      causationId := some input.commandId }
  let recorded ← store.insertChange change
  let written ← recorded.writeHead
    { head with
      state := if kind = .identityInvalidated then .invalidated else head.state
      membershipRevision := revision
      lineageRevision := lineageRevision }
  .ok (written, change)

def invalidateHeads (ids : TransitionIds) (input : IdentityTransitionInput) (kind : ChangeKind)
    (lineageRevision : Nat) : MembershipStore → List SegmentMembershipHead →
    Except MembershipError (MembershipStore × List SegmentMembershipChange)
  | store, [] => .ok (store, [])
  | store, head :: rest => do
      let first ← persistIdentityInvalidation ids input kind lineageRevision store head
      let others ← invalidateHeads ids input kind lineageRevision first.1 rest
      .ok (others.1, first.2 :: others.2)

def MembershipStore.headsOf (store : MembershipStore) (contactId : String) :
    List SegmentMembershipHead :=
  Text.sortBy (fun head => head.stream.segmentId)
    (store.heads.filter fun head => head.stream.contactId = contactId)

def invalidateContacts (ids : TransitionIds) (input : IdentityTransitionInput) :
    MembershipStore → List AffectedContact →
    Except MembershipError (MembershipStore × List SegmentMembershipChange)
  | store, [] => .ok (store, [])
  | store, affected :: rest => do
      let first ← invalidateHeads ids input affected.kind affected.revision store
        (store.headsOf affected.contactId)
      let others ← invalidateContacts ids input first.1 rest
      .ok (others.1, first.2 ++ others.2)

/-- The contact that the others are found by, and the one that they move to. -/
def IdentityTransitionInput.anchor (input : IdentityTransitionInput) : String :=
  if input.operation = .merge then input.sourceContactId else input.targetContactId

def IdentityTransitionInput.nextCanonical (input : IdentityTransitionInput) : String :=
  if input.operation = .merge then input.targetContactId else input.sourceContactId

def MembershipStore.latestEdge (store : MembershipStore) (contactId : String) : Option String :=
  (Table.latest IdentityLineage.lineageRevision (store.lineage.filter fun row =>
    row.operation = .merge ∧ row.sourceContactId = contactId)).map IdentityLineage.targetContactId

def MembershipStore.candidates (store : MembershipStore) (input : IdentityTransitionInput) :
    List IdentityHead :=
  Text.sortBy IdentityHead.contactId (store.identityHeads.filter fun head =>
    head.canonicalContactId = input.anchor ∧ head.contactId ≠ input.sourceContactId ∧
      head.contactId ≠ input.targetContactId ∧ head.state = .merged)

/-- On the way back only those move whose latest merge was into the source. -/
def MembershipStore.moving (store : MembershipStore) (input : IdentityTransitionInput) :
    List IdentityHead :=
  (store.candidates input).filter fun head =>
    input.operation = .merge || store.latestEdge head.contactId = some input.sourceContactId

/-- `repointMergeChain`. -/
def repointMergeChain (store : MembershipStore) (input : IdentityTransitionInput) :
    MembershipStore × List AffectedContact :=
  (store.moving input).foldl (fun acc head =>
    (acc.1.updateIdentityHead head.contactId fun row =>
        { row with
          canonicalContactId := input.nextCanonical
          lineageRevision := head.lineageRevision + 1 },
      acc.2 ++ [⟨head.contactId, .identityInvalidated, head.lineageRevision + 1⟩]))
    (store, [])

/-- `identityTransitionResult`: the answer to a command that was recorded before. -/
def identityTransitionResult (store : MembershipStore) (row : IdentityLineage) :
    IdentityTransitionResult where
  lineageId := row.id
  operation := row.operation
  sourceContactId := row.sourceContactId
  targetContactId := row.targetContactId
  lineageRevision := row.lineageRevision
  invalidatedChanges :=
    Text.sortBy (fun change => change.stream.contactId)
      (Text.sortBy (fun change => change.stream.segmentId)
        (store.changes.filter fun change => change.causationId = some row.commandId))

/-- What has to hold of the two heads. -/
def transitionAllowed (store : MembershipStore) (input : IdentityTransitionInput)
    (source target : IdentityHead) : Except MembershipError PUnit := do
  ensure (source.lineageRevision = input.expectedSourceLineageRevision)
    (MembershipError.lineageMoved input.expectedSourceLineageRevision source.lineageRevision)
  if input.operation = .merge then
    ensure (source.state = .active ∧ target.state = .active) MembershipError.mergeNeedsActive
  else do
    ensure (source.state = .merged ∧ source.canonicalContactId = input.targetContactId)
      (MembershipError.notMergedInto input.operation input.sourceContactId input.targetContactId)
    ensure (∃ row ∈ store.lineage, row.operation = .merge ∧
        row.sourceContactId = input.sourceContactId ∧ row.targetContactId = input.targetContactId)
      (MembershipError.noMergeEdge input.operation input.sourceContactId input.targetContactId)

def newLineage (ids : TransitionIds) (requestHash : String) (input : IdentityTransitionInput)
    (source : IdentityHead) : IdentityLineage where
  id := ids.lineageId
  commandId := input.commandId
  operation := input.operation
  sourceContactId := input.sourceContactId
  targetContactId := input.targetContactId
  lineageRevision := source.lineageRevision + 1
  requestHash := requestHash
  correlationId := input.correlationId

def writeTransition (store : MembershipStore) (row : IdentityLineage) (target : IdentityHead) :
    MembershipStore :=
  let recorded := { store with lineage := store.lineage ++ [row] }
  let moved := recorded.updateIdentityHead row.sourceContactId fun head =>
    { head with
      state := if row.operation = .merge then .merged else .active
      canonicalContactId :=
        if row.operation = .merge then row.targetContactId else row.sourceContactId
      lineageRevision := row.lineageRevision }
  if row.operation = .merge then moved
  else
    moved.updateIdentityHead row.targetContactId fun head =>
      { head with
        state := .active
        canonicalContactId := row.targetContactId
        lineageRevision := target.lineageRevision + 1 }

def affectedContacts (row : IdentityLineage) (target : IdentityHead)
    (repointed : List AffectedContact) : List AffectedContact :=
  Text.sortBy AffectedContact.contactId
    (⟨row.sourceContactId, .identityInvalidated, row.lineageRevision⟩ ::
      (if row.operation = .merge then
        ⟨row.targetContactId, .refilterRequired, target.lineageRevision⟩
      else ⟨row.targetContactId, .identityInvalidated, target.lineageRevision + 1⟩) :: repointed)

/-- `applyIdentityTransition`, once the locks are held. -/
def applyIdentityTransition (hash : IdentityTransitionInput → String) (ids : TransitionIds)
    (store : MembershipStore) (input : IdentityTransitionInput) :
    Except MembershipError (MembershipStore × IdentityTransitionResult) :=
  match store.lineageOf input.commandId with
  | some existing => do
      ensure (existing.requestHash = hash input) MembershipError.commandHashConflict
      .ok (store, identityTransitionResult store existing)
  | none => do
      let source ← ensureIdentityHead store input.sourceContactId
      let target ← ensureIdentityHead source.1 input.targetContactId
      transitionAllowed target.1 input source.2 target.2
      let row := newLineage ids (hash input) input source.2
      let repointed := repointMergeChain (writeTransition target.1 row target.2) input
      let invalidated ← invalidateContacts ids input repointed.1
        (affectedContacts row target.2 repointed.2)
      .ok (invalidated.1,
        { lineageId := row.id
          operation := row.operation
          sourceContactId := row.sourceContactId
          targetContactId := row.targetContactId
          lineageRevision := row.lineageRevision
          invalidatedChanges := invalidated.2 })

def recordIdentityTransition (hash : IdentityTransitionInput → String) (ids : TransitionIds)
    (store : MembershipStore) (input : IdentityTransitionInput) :
    Except MembershipError (MembershipStore × IdentityTransitionResult) := do
  let normalized ← normalizeTransition input
  applyIdentityTransition hash ids store normalized

end DContact.Customer360

import DContact.Governance.PolicyStore

/-!
# The policy lifecycle

Drafting, testing, review, publishing, scheduled activation, rollback and the kill
switch. A command loads and checks before it writes; the parts in which it does so
are functions of their own, so that the same parts make up the atomic commands here
and the transactions which later modules interleave.
-/

namespace DContact.Governance

open Lib

/-- What every command of a human actor carries. -/
structure CommandBase where
  actor : AuthorizationSubject
  evidenceRef : String
  occurredAt : Option Instant
  idempotencyKey : String

structure CreateDraftInput extends CommandBase where
  policyId : Option String
  scopeKey : String
  content : Json
  effectiveFrom : Option Instant

structure AmendDraftInput extends CommandBase where
  policyId : String
  version : Nat
  expectedDraftRevision : Nat
  content : Json

structure RunTestsInput extends CommandBase where
  policyId : String
  version : Nat
  expectedContentDigest : String
  suite : SuiteRequest

structure SubmitInput extends CommandBase where
  policyId : String
  version : Nat
  expectedDraftRevision : Nat
  expectedContentDigest : String
  expectedTestArtifactDigest : String

structure FinalizeApprovalInput extends CommandBase where
  policyId : String
  version : Nat
  expectedContentDigest : String
  expectedTestArtifactDigest : String
  expectedDiffClass : DiffClass
  expectedScopeHeadVersion : Nat
  expectedScopeHeadDigest : String
  activateAt : Option Instant

structure PublishInput extends CommandBase where
  policyId : String
  version : Nat
  expectedContentDigest : String
  expectedTestArtifactDigest : String
  expectedApprovalDigest : String
  expectedScopeHeadVersion : Nat
  expectedScopeHeadDigest : String

structure ActivateDueInput where
  policyId : String
  version : Nat
  leaseOwner : String
  occurredAt : Option Instant
  idempotencyKey : String

structure RollbackInput extends CommandBase where
  policyId : String
  sourceVersion : Nat
  expectedSourceContentDigest : String
  reasonCode : String

/-- With `activate` the switch is thrown, without it is cleared. -/
structure KillSwitchInput extends CommandBase where
  scopeKey : String
  activate : Bool
  reasonCode : String
  clearApprovalRef : Option String

structure DraftResult where
  policyId : String
  policyVersionId : String
  version : Nat
  draftRevision : Nat
  scopeKey : String
  contentDigest : String
  lifecycleState : PolicyStatus
  quorum : Option QuorumEvaluation
  activateAt : Option Instant

structure PublishResult where
  policyId : String
  policyVersionId : String
  version : Nat
  lifecycleState : PolicyStatus
  scopeKey : String
  headVersion : Nat
  headDigest : String
  activateAt : Instant
  quorum : QuorumEvaluation

inductive LifecycleResponse where
  | draft (result : DraftResult)
  | test (artifactId artifactDigest : String) (diffClass : DiffClass)
  | publish (result : PublishResult)
  | killSwitch (killSwitchId scopeKey : String) (active : Bool)

/-- Identifiers that the host draws for new rows. -/
structure NewIds where
  rowId : String
  policyId : String
  jobId : String

def draftResult (row : PolicyRow) : DraftResult where
  policyId := row.policyId
  policyVersionId := row.id
  version := row.version
  draftRevision := row.draftRevision
  scopeKey := row.scopeKey
  contentDigest := row.contentDigest
  lifecycleState := row.status
  quorum := none
  activateAt := none

def DiffClass.text : DiffClass → String
  | .tightening => "TIGHTENING"
  | .neutral => "NEUTRAL"
  | .relaxation => "RELAXATION"

def scopesIn (status : PolicyStatus) (rows : List PolicyRow) : List String :=
  (rows.filter fun row => decide (row.status = status)).map PolicyRow.scopeKey

/-- The partial unique indexes and the period check of the table. -/
def checkConstraints (rows : List PolicyRow) : Except LifecycleError Unit := do
  ensure (scopesIn .active rows).Nodup (.uniqueViolation "cg_policy_one_active_head_per_scope")
  ensure (scopesIn .scheduled rows).Nodup
    (.uniqueViolation "cg_policy_one_scheduled_candidate_per_scope")
  ensure (rows.all fun row => row.effectiveTo.all fun closed => decide (row.effectiveFrom < closed))
    .effectivePeriod

def insertPolicy (store : PolicyStore) (row : PolicyRow) : Except LifecycleError PolicyStore := do
  ensure (row.id ∉ store.policies.map PolicyRow.id) (.uniqueViolation "cg_policy_pkey")
  ensure ((row.policyId, row.version) ∉
      store.policies.map fun other => (other.policyId, other.version))
    (.uniqueViolation "cg_policy_tenant_policy_version_key")
  .ok { store with policies := store.policies ++ [row] }

/-- `updateMany` on one identifier under a condition. -/
def updateMany (store : PolicyStore) (rowId : String) (holds : PolicyRow → Bool)
    (rewrite : PolicyRow → PolicyRow) : Except LifecycleError PolicyStore := do
  let rows := Table.update PolicyRow.id rowId (fun row => if holds row then rewrite row else row)
    store.policies
  checkConstraints rows
  .ok { store with policies := rows }

def updatePolicy (store : PolicyStore) (rowId : String) (holds : PolicyRow → Bool)
    (rewrite : PolicyRow → PolicyRow) (failure : LifecycleError) :
    Except LifecycleError PolicyStore := do
  ensure (store.policies.any fun row => row.id == rowId && holds row) failure
  updateMany store rowId holds rewrite

/-- The row of a new version, before anything has been tested against it. -/
def newDraft (engine : PolicyEngine) (rowId policyId : String) (version : Nat) (scopeKey : String)
    (content : PolicyContent) (effectiveFrom : Instant) (maker : String)
    (rollbackOfId : Option String) : PolicyRow where
  id := rowId
  policyId := policyId
  version := version
  scopeKey := scopeKey
  content := content
  contentDigest := engine.digest (.content content)
  schemaVersion := policySchemaVersion
  registryVersion := ruleRegistryVersion
  evaluatorVersion := evaluatorVersion
  draftRevision := 1
  status := .draft
  effectiveFrom := effectiveFrom
  effectiveTo := none
  makerActorRef := maker
  submittedAt := none
  approvedAt := none
  publishedAt := none
  supersedesId := none
  rollbackOfId := rollbackOfId
  testArtifactDigest := none
  diffClass := none
  baseHeadVersion := none
  baseHeadDigest := none
  approvalDigest := none
  activateAt := none

def latestVersion (store : PolicyStore) (policyId : String) : Option PolicyRow :=
  store.policies.foldl (fun best row =>
    if row.policyId = policyId ∧ (best.all fun other => decide (other.version < row.version)) then
      some row
    else best) none

/-- A new series has its own identifier; a known one continues on its scope. -/
def draftVersion (store : PolicyStore) (policyId : Option String) (scopeKey newPolicyId : String) :
    Except LifecycleError (String × Nat) :=
  match policyId.filter fun text => text != "" with
  | some series => do
      let latest ← orFail (latestVersion store series) .resourceNotFound
      ensure (latest.scopeKey = scopeKey) (.content ⟨.scopeInvalid,
        "เปลี่ยน scope ของ series เดิมไม่ได้ ต้องสร้าง series ใหม่"⟩)
      .ok (series, latest.version + 1)
  | none => do
      assertScopeUnambiguous store scopeKey
      .ok (newPolicyId, 1)

def createDraft (engine : PolicyEngine) (store : PolicyStore) (input : CreateDraftInput)
    (now : Instant) (ids : NewIds) : Except LifecycleError (PolicyStore × DraftResult) := do
  let effectiveFrom ← orFail input.effectiveFrom (.timestampInvalid "effectiveFrom")
  let compiled ← onContent (compileCg4Policy engine.zones input.content 1)
  onAuthorization (assertCg4RequestAuthorization input.actor .policyDraft input.scopeKey now)
  let (policyId, version) ← draftVersion store input.policyId input.scopeKey ids.policyId
  let row := newDraft engine ids.rowId policyId version input.scopeKey compiled effectiveFrom
    input.actor.subjectId none
  let written ← insertPolicy store row
  .ok (written, draftResult row)

/-- New content takes every stamp of the old content away. -/
def amendRow (engine : PolicyEngine) (content : PolicyContent) (draftRevision : Nat)
    (row : PolicyRow) : PolicyRow :=
  { row with
    content := content
    contentDigest := engine.digest (.content content)
    draftRevision := draftRevision
    testArtifactDigest := none
    diffClass := none
    baseHeadVersion := none
    baseHeadDigest := none }

def writeAmendment (engine : PolicyEngine) (store : PolicyStore) (row : PolicyRow)
    (content : PolicyContent) (expectedDraftRevision : Nat) : Except LifecycleError PolicyStore :=
  updatePolicy store row.id
    (fun current => current.draftRevision == expectedDraftRevision && decide (current.status = .draft))
    (amendRow engine content (expectedDraftRevision + 1))
    (.versionConflict expectedDraftRevision row.draftRevision)

def admitAmendment (input : AmendDraftInput) (row : PolicyRow) (now : Instant) :
    Except LifecycleError Unit := do
  onAuthorization (assertCg4RequestAuthorization input.actor .policyDraft row.scopeKey now)
  ensure (row.status = .draft) (.lifecycle .invalidLifecycleTransition
    ("แก้ content ของ policy สถานะ " ++ row.status.text ++ " ไม่ได้ ต้องสร้าง version ใหม่"))

def amendDraft (engine : PolicyEngine) (store : PolicyStore) (input : AmendDraftInput)
    (now : Instant) : Except LifecycleError (PolicyStore × DraftResult) := do
  let compiled ← onContent (compileCg4Policy engine.zones input.content input.version)
  let row ← findPolicy store input.policyId input.version
  admitAmendment input row now
  let written ← writeAmendment engine store row compiled input.expectedDraftRevision
  .ok (written, draftResult (amendRow engine compiled (input.expectedDraftRevision + 1) row))

structure Preview where
  diffClass : DiffClass
  artifactDigest : String
  run : SuiteRun

def previewCg4Policy (engine : PolicyEngine) (compiled : PolicyContent) (version : Nat)
    (baseContent : Option PolicyContent) (baseHeadVersion : Nat) (baseHeadDigest : String)
    (suite : SuiteRequest) : Option Preview :=
  (engine.runCg4PolicyTests compiled version suite).map fun run =>
    let diff := classifyCg4PolicyDiff baseContent compiled
    { diffClass := diff.diffClass
      artifactDigest := engine.digest (.artifact
        ⟨engine.digest (.content compiled), baseHeadVersion, baseHeadDigest, diff, run⟩)
      run := run }

def stampRow (preview : Preview) (head : HeadSnapshot) (row : PolicyRow) : PolicyRow :=
  { row with
    testArtifactDigest := some preview.artifactDigest
    diffClass := some preview.diffClass
    baseHeadVersion := some head.headVersion
    baseHeadDigest := some head.headDigest }

def artifactOf (engine : PolicyEngine) (candidate : Candidate) (preview : Preview)
    (artifactId : String) : TestArtifactRow where
  id := artifactId
  policyId := candidate.row.policyId
  policyVersion := candidate.row.version
  suiteVersion := preview.run.suiteVersion
  artifactDigest := preview.artifactDigest
  contentDigest := engine.digest (.content candidate.compiled)
  platformFixtureDigest := preview.run.platformFixtureDigest
  tenantFixtureDigest := preview.run.tenantFixtureDigest
  baseHeadVersion := candidate.head.headVersion
  baseHeadDigest := candidate.head.headDigest
  diffClass := preview.diffClass
  outcomePass := preview.run.outcomePass
  passed := preview.run.passed
  failed := preview.run.failed

def upsertArtifact (artifacts : List TestArtifactRow) (artifact : TestArtifactRow) :
    List TestArtifactRow :=
  if artifacts.any fun other =>
      other.policyId == artifact.policyId && other.policyVersion == artifact.policyVersion &&
        other.suiteVersion == artifact.suiteVersion && other.contentDigest == artifact.contentDigest
  then artifacts
  else artifacts ++ [artifact]

/-- The writes of a test run: the artifact, and the stamp on a row that is a draft. -/
def recordTest (engine : PolicyEngine) (store : PolicyStore) (candidate : Candidate)
    (preview : Preview) (artifactId : String) : PolicyStore :=
  { store with
    artifacts := upsertArtifact store.artifacts (artifactOf engine candidate preview artifactId)
    policies :=
      if candidate.row.status = .draft then
        Table.update PolicyRow.id candidate.row.id (fun row =>
          if row.status = .draft then stampRow preview candidate.head row else row) store.policies
      else store.policies }

def previewCandidate (engine : PolicyEngine) (input : RunTestsInput) (candidate : Candidate)
    (now : Instant) : Except LifecycleError Preview := do
  onAuthorization
    (assertCg4RequestAuthorization input.actor .policyDraft candidate.row.scopeKey now)
  orFail (previewCg4Policy engine candidate.compiled candidate.row.version candidate.baseContent
    candidate.head.headVersion candidate.head.headDigest input.suite) .suiteFailed

def runTests (engine : PolicyEngine) (store : PolicyStore) (input : RunTestsInput) (now : Instant)
    (ids : NewIds) : Except LifecycleError (PolicyStore × Preview) := do
  let candidate ← loadCandidate engine store input.policyId input.version
    input.expectedContentDigest
  let preview ← previewCandidate engine input candidate now
  .ok (recordTest engine store candidate preview ids.rowId, preview)

/-- An artifact is usable while its content and the head it was diffed with are current. -/
def assertFreshTests (store : PolicyStore) (candidate : Candidate) (contentDigest : String)
    (artifactDigest : String) : Except LifecycleError Unit := do
  let artifact ← orFail (store.artifacts.find? fun artifact =>
      artifact.policyId == candidate.row.policyId &&
        artifact.policyVersion == candidate.row.version &&
        artifact.artifactDigest == artifactDigest)
    (.lifecycle .policyTestsRequired "ไม่พบ test artifact ที่ตรงกับ digest ที่อ้าง")
  ensure (artifact.outcomePass = true) (.lifecycle .policyTestsFailed
    ("test artifact มี " ++ toString artifact.failed ++ " check ที่ไม่ผ่าน"))
  ensure (artifact.contentDigest = contentDigest)
    (.lifecycle .policyTestsRequired "test artifact ผูกกับ content คนละ digest")
  ensure (artifact.baseHeadVersion = candidate.head.headVersion ∧
      artifact.baseHeadDigest = candidate.head.headDigest)
    (.lifecycle .policyHeadConflict "test artifact diff กับ head คนละตัวกับ head ปัจจุบัน")

def submit (engine : PolicyEngine) (store : PolicyStore) (input : SubmitInput) (now : Instant) :
    Except LifecycleError (PolicyStore × DraftResult) := do
  let occurredAt ← orFail input.occurredAt (.timestampInvalid "occurredAt")
  let candidate ← loadCandidate engine store input.policyId input.version
    input.expectedContentDigest
  let row := candidate.row
  onAuthorization (assertCg4RequestAuthorization input.actor .policyDraft row.scopeKey now)
  ensure (row.status = .draft) (.lifecycle .invalidLifecycleTransition
    ("submit จากสถานะ " ++ row.status.text ++ " ไม่ได้"))
  assertFreshTests store candidate (engine.digest (.content candidate.compiled))
    input.expectedTestArtifactDigest
  let rewrite (current : PolicyRow) : PolicyRow :=
    { current with status := .inReview, submittedAt := some occurredAt }
  let written ← updatePolicy store row.id
    (fun current =>
      current.draftRevision == input.expectedDraftRevision && decide (current.status = .draft))
    rewrite (.versionConflict input.expectedDraftRevision row.draftRevision)
  .ok (written, draftResult (rewrite row))

def votesInOrder (store : PolicyStore) (row : PolicyRow) : List VoteRow :=
  (votesOn store.votes ⟨row.policyId, row.version⟩).insertionSort
    fun left right => left.decidedAt ≤ right.decidedAt

def bindingOf (candidate : Candidate) (contentDigest : String) (input : FinalizeApprovalInput)
    (activateAt : Instant) (votes : List VoteRow) : ApprovalBinding where
  policyId := input.policyId
  version := input.version
  contentDigest := contentDigest
  testArtifactDigest := input.expectedTestArtifactDigest
  diffClass := input.expectedDiffClass
  headVersion := candidate.head.headVersion
  headDigest := candidate.head.headDigest
  activateAt := activateAt
  approvals := votes.map fun vote => (vote.approverRef, vote.decision, vote.capability,
    vote.authorizationEpoch, vote.scopeVersion, vote.decidedAt)

def closeReview (store : PolicyStore) (row : PolicyRow) (rewrite : PolicyRow → PolicyRow) :
    Except LifecycleError PolicyStore :=
  updatePolicy store row.id (fun current => decide (current.status = .inReview)) rewrite
    (.versionConflict row.version row.version)

def finalizeApproval (engine : PolicyEngine) (store : PolicyStore) (input : FinalizeApprovalInput)
    (now : Instant) : Except LifecycleError (PolicyStore × DraftResult) := do
  let occurredAt ← orFail input.occurredAt (.timestampInvalid "occurredAt")
  let activateAt ← orFail input.activateAt (.timestampInvalid "activateAt")
  let candidate ← loadCandidate engine store input.policyId input.version
    input.expectedContentDigest
  let row := candidate.row
  let contentDigest := engine.digest (.content candidate.compiled)
  ensure (row.status = .inReview) (.lifecycle .invalidLifecycleTransition
    ("finalize approval จากสถานะ " ++ row.status.text ++ " ไม่ได้"))
  ensure (candidate.head.headVersion = input.expectedScopeHeadVersion ∧
      candidate.head.headDigest = input.expectedScopeHeadDigest)
    (.lifecycle .policyHeadConflict ("head เปลี่ยนเป็น version " ++
      toString candidate.head.headVersion ++ " ตั้งแต่ตอนขอ approval"))
  assertFreshTests store candidate contentDigest input.expectedTestArtifactDigest
  ensure (row.diffClass = some input.expectedDiffClass)
    (.lifecycle .approvalStale ("diff class ปัจจุบันคือ " ++ (row.diffClass.map DiffClass.text).getD "null" ++
      " ไม่ใช่ " ++ input.expectedDiffClass.text))
  let votes := votesInOrder store row
  let quorum := quorumOf (resolveCg4PolicyQuorum input.expectedDiffClass) votes now
  if quorum.status = .rejected then do
    let rewrite (current : PolicyRow) : PolicyRow := { current with status := .rejected }
    let written ← closeReview store row rewrite
    .ok (written, { draftResult (rewrite row) with quorum := quorum, activateAt := activateAt })
  else do
    onAuthorization (assertCg4QuorumMet quorum)
    let rewrite (current : PolicyRow) : PolicyRow :=
      { current with
        status := .approved
        approvedAt := some occurredAt
        approvalDigest :=
          some (engine.digest (.approval (bindingOf candidate contentDigest input activateAt votes)))
        activateAt := some activateAt }
    let written ← closeReview store row rewrite
    .ok (written, { draftResult (rewrite row) with quorum := quorum, activateAt := activateAt })

/-- A version on its way to the head of its scope. -/
structure HeadMove where
  row : PolicyRow
  head : HeadSnapshot
  contentDigest : String
  activateAt : Instant
  occurredAt : Instant

/-- Create the head row, or compare-and-set it on the version that was read. -/
def writeHead (store : PolicyStore) (expectedVersion : Nat) (head : HeadRow) :
    Except LifecycleError PolicyStore :=
  if expectedVersion = 0 then do
    ensure (head.scopeKey ∉ store.heads.map HeadRow.scopeKey)
      (.uniqueViolation "cg_policy_scope_head_tenant_scope_key")
    .ok { store with heads := store.heads ++ [head] }
  else do
    ensure (store.heads.any fun current =>
        current.scopeKey == head.scopeKey && current.headVersion == expectedVersion)
      (.lifecycle .policyHeadConflict ("head ถูกเปลี่ยนไปแล้วระหว่าง publish (คาด version " ++
        toString expectedVersion ++ ")"))
    .ok { store with
      heads := Table.update HeadRow.scopeKey head.scopeKey
        (fun current => if current.headVersion = expectedVersion then head else current)
        store.heads }

/-- The active version that a head points at gives way. -/
def supersedeHead (store : PolicyStore) (head : HeadSnapshot) (activateAt : Instant) :
    Except LifecycleError PolicyStore :=
  match head.current with
  | none => .ok store
  | some current =>
      updatePolicy store current.revisionId (fun row => decide (row.status = .active))
        (fun row => { row with status := .superseded, effectiveTo := some activateAt })
        (.lifecycle .policyHeadConflict "active version เดิมถูกเปลี่ยนไปแล้วระหว่าง publish")

def activateRow (move : HeadMove) (row : PolicyRow) : PolicyRow :=
  { row with
    status := .active
    publishedAt := some move.occurredAt
    supersedesId := (move.head.current.map HeadRef.revisionId).or row.supersedesId }

def cancelSchedules (scopeKey : String) (version : Nat) (occurredAt : Instant)
    (jobs : List JobRow) : List JobRow :=
  jobs.map fun job =>
    if job.scopeKey = scopeKey ∧ job.isOpen = true ∧ job.policyVersion ≠ version then
      { job with state := .cancelled, completedAt := some occurredAt }
    else job

def activatedHead (engine : PolicyEngine) (move : HeadMove) : HeadRow where
  scopeKey := move.row.scopeKey
  policyId := move.row.policyId
  policyVersion := move.row.version
  policyRevisionId := move.row.id
  headVersion := move.head.headVersion + 1
  headDigest := engine.digest (.head move.row.policyId move.row.version move.contentDigest)
  nextActivationAt := none

/-- `moveHead` with `activate`: the version takes the place of the active one. -/
def activateHead (engine : PolicyEngine) (store : PolicyStore) (move : HeadMove) :
    Except LifecycleError PolicyStore := do
  ensure (store.mutationFrozen = false) .mutationFrozen
  let superseded ← supersedeHead store move.head move.activateAt
  let activated ← updatePolicy superseded move.row.id
    (fun row => decide (row.status = .approved) || decide (row.status = .scheduled))
    (activateRow move) (.versionConflict move.row.version move.row.version)
  writeHead { activated with
      jobs := cancelSchedules move.row.scopeKey move.row.version move.occurredAt activated.jobs }
    move.head.headVersion (activatedHead engine move)

/-- `moveHead` without `activate`: the head is marked with the activation it is waiting
for. On a scope without a head the swap is skipped and the change is announced with
head version 0, which the table of events refuses, so the transaction fails. -/
def markHead (store : PolicyStore) (move : HeadMove) : Except LifecycleError PolicyStore := do
  ensure (store.mutationFrozen = false) .mutationFrozen
  match move.head.current with
  | none => .error (.checkViolation "cg_event_outbox_versions_check")
  | some current =>
      writeHead store move.head.headVersion
        { scopeKey := move.row.scopeKey
          policyId := current.policyId
          policyVersion := current.version
          policyRevisionId := current.revisionId
          headVersion := move.head.headVersion + 1
          headDigest := move.head.headDigest
          nextActivationAt := some move.activateAt }

/-- The checks of a publish on what it has read before it locks its scope. -/
def admitPublish (engine : PolicyEngine) (store : PolicyStore) (input : PublishInput)
    (candidate : Candidate) : Except LifecycleError Unit := do
  let row := candidate.row
  let head := candidate.head
  ensure (row.status = .approved) (.lifecycle .invalidLifecycleTransition
    ("publish จากสถานะ " ++ row.status.text ++ " ไม่ได้"))
  ensure (row.approvalDigest = some input.expectedApprovalDigest)
    (.lifecycle .approvalStale "approval digest ไม่ตรงกับที่บันทึกไว้")
  ensure (head.headVersion = input.expectedScopeHeadVersion ∧
      head.headDigest = input.expectedScopeHeadDigest ∧
      row.baseHeadVersion = some head.headVersion ∧ row.baseHeadDigest = some head.headDigest)
    (.lifecycle .policyHeadConflict ("head อยู่ที่ version " ++ toString head.headVersion ++
      " ไม่ตรงกับ base ที่ approve ไว้"))
  assertFreshTests store candidate (engine.digest (.content candidate.compiled))
    input.expectedTestArtifactDigest

/-- A version that was never classified counts as a relaxation. -/
def PolicyRow.effectiveDiffClass (row : PolicyRow) : DiffClass := row.diffClass.getD .relaxation

def assertKillSwitch (store : PolicyStore) (row : PolicyRow) : Except LifecycleError Unit :=
  ensure (row.effectiveDiffClass = .relaxation → killSwitchActive store row.scopeKey = false)
    (.lifecycle .governanceKillSwitchActive
      "scope นี้มี kill switch ทำงานอยู่ publish relaxation ไม่ได้")

/-- The stored votes still carry the version. -/
def recountQuorum (store : PolicyStore) (row : PolicyRow) (now : Instant) :
    Except LifecycleError QuorumEvaluation := do
  let quorum := quorumOf (resolveCg4PolicyQuorum row.effectiveDiffClass) (votesInOrder store row) now
  onAuthorization (assertCg4QuorumMet quorum)
  .ok quorum

def publishResult (engine : PolicyEngine) (store : PolicyStore) (move : HeadMove)
    (lifecycleState : PolicyStatus) (quorum : QuorumEvaluation) : PublishResult where
  policyId := move.row.policyId
  policyVersionId := move.row.id
  version := move.row.version
  lifecycleState := lifecycleState
  scopeKey := move.row.scopeKey
  headVersion := (loadHead engine store move.row.scopeKey).headVersion
  headDigest := (loadHead engine store move.row.scopeKey).headDigest
  activateAt := move.activateAt
  quorum := quorum

def insertJob (store : PolicyStore) (job : JobRow) : Except LifecycleError PolicyStore := do
  ensure ((job.policyId, job.policyVersion) ∉
      store.jobs.map fun other => (other.policyId, other.policyVersion))
    (.uniqueViolation "cg_policy_activation_job_tenant_policy_version_key")
  ensure (job.id ∉ store.jobs.map JobRow.id) (.uniqueViolation "cg_policy_activation_job_pkey")
  .ok { store with jobs := store.jobs ++ [job] }

def scheduledJob (move : HeadMove) (jobId : String) : JobRow where
  id := jobId
  policyId := move.row.policyId
  policyVersion := move.row.version
  scopeKey := move.row.scopeKey
  scheduledFor := move.activateAt
  state := .pending
  attempts := 0
  leaseOwner := none
  leaseExpiresAt := none
  completedAt := none

def findOpenJob (store : PolicyStore) (scopeKey : String) : Option JobRow :=
  store.jobs.find? fun job => job.scopeKey == scopeKey && job.isOpen

def schedule (store : PolicyStore) (move : HeadMove) (jobId : String) :
    Except LifecycleError PolicyStore := do
  let blocking := findOpenJob store move.row.scopeKey
  ensure (blocking = none) (.lifecycle .scheduleConflict ("scope นี้มี scheduled activation ของ version " ++
    toString ((blocking.map JobRow.policyVersion).getD 0) ++ " ค้างอยู่"))
  let scheduled ← updateMany store move.row.id (fun row => decide (row.status = .approved))
    (fun row => { row with status := .scheduled })
  let queued ← insertJob scheduled (scheduledJob move jobId)
  markHead queued move

def publishMove (engine : PolicyEngine) (candidate : Candidate) (occurredAt : Instant) :
    HeadMove where
  row := candidate.row
  head := candidate.head
  contentDigest := engine.digest (.content candidate.compiled)
  activateAt := candidate.row.activateAt.getD occurredAt
  occurredAt := occurredAt

/-- The writes of a publish: at once when the approved time has come, else a schedule. -/
def applyPublish (engine : PolicyEngine) (store : PolicyStore) (move : HeadMove) (jobId : String) :
    Except LifecycleError PolicyStore :=
  if move.occurredAt < move.activateAt then schedule store move jobId
  else activateHead engine store move

def publish (engine : PolicyEngine) (store : PolicyStore) (input : PublishInput) (now : Instant)
    (ids : NewIds) : Except LifecycleError (PolicyStore × PublishResult) := do
  let occurredAt ← orFail input.occurredAt (.timestampInvalid "occurredAt")
  let candidate ← loadCandidate engine store input.policyId input.version
    input.expectedContentDigest
  admitPublish engine store input candidate
  assertScopeUnambiguous store candidate.row.scopeKey
  assertKillSwitch store candidate.row
  let quorum ← recountQuorum store candidate.row now
  let move := publishMove engine candidate occurredAt
  let written ← applyPublish engine store move ids.jobId
  .ok (written, publishResult engine written move
    (if move.occurredAt < move.activateAt then .scheduled else .active) quorum)

def findDueJob (store : PolicyStore) (row : PolicyRow) (occurredAt : Instant) :
    Except LifecycleError JobRow := do
  ensure (row.status = .scheduled) (.lifecycle .invalidLifecycleTransition
    ("activate จากสถานะ " ++ row.status.text ++ " ไม่ได้"))
  let job ← orFail (store.jobs.find? fun job =>
    job.policyId == row.policyId && job.policyVersion == row.version) .resourceNotFound
  ensure (job.isOpen = true) (.lifecycle .policyActivationConflict
    ("activation job อยู่ในสถานะ " ++ job.state.text))
  ensure (job.scheduledFor ≤ occurredAt) (.lifecycle .policyActivationConflict
    ("ยังไม่ถึงเวลา activate (" ++ toISOString job.scheduledFor ++ ")"))
  .ok job

def completeJob (job : JobRow) (leaseOwner : String) (occurredAt : Instant) (jobs : List JobRow) :
    List JobRow :=
  Table.update JobRow.id job.id (fun current =>
    if current.state = job.state then
      { current with
        state := .complete
        attempts := job.attempts + 1
        leaseOwner := some leaseOwner
        leaseExpiresAt := none
        completedAt := some occurredAt }
    else current) jobs

def activationMove (engine : PolicyEngine) (row : PolicyRow) (compiled : PolicyContent)
    (head : HeadSnapshot) (job : JobRow) (occurredAt : Instant) : HeadMove where
  row := row
  head := head
  contentDigest := engine.digest (.content compiled)
  activateAt := job.scheduledFor
  occurredAt := occurredAt

/-- The writes of a due activation. -/
def applyActivation (engine : PolicyEngine) (store : PolicyStore) (move : HeadMove) (job : JobRow)
    (leaseOwner : String) : Except LifecycleError PolicyStore :=
  activateHead engine
    { store with jobs := completeJob job leaseOwner move.occurredAt store.jobs } move

def activateDue (engine : PolicyEngine) (store : PolicyStore) (input : ActivateDueInput)
    (now : Instant) : Except LifecycleError (PolicyStore × PublishResult) := do
  let occurredAt ← orFail input.occurredAt (.timestampInvalid "occurredAt")
  let row ← findPolicy store input.policyId input.version
  let job ← findDueJob store row occurredAt
  let compiled ← recompile engine row
  let head := loadHead engine store row.scopeKey
  assertScopeUnambiguous store row.scopeKey
  let quorum ← recountQuorum store row now
  let move := activationMove engine row compiled head job occurredAt
  let written ← applyActivation engine store move job input.leaseOwner
  .ok (written, publishResult engine written move .active quorum)

def rollback (engine : PolicyEngine) (store : PolicyStore) (input : RollbackInput) (now : Instant)
    (ids : NewIds) : Except LifecycleError (PolicyStore × DraftResult) := do
  let occurredAt ← orFail input.occurredAt (.timestampInvalid "occurredAt")
  let source ← findPolicy store input.policyId input.sourceVersion
  ensure (source.contentDigest = input.expectedSourceContentDigest)
    (.versionConflict input.sourceVersion source.version)
  onAuthorization (assertCg4RequestAuthorization input.actor .policyRollback source.scopeKey now)
  let compiled ← compileRow engine source
  let version := ((latestVersion store input.policyId).map PolicyRow.version).getD source.version + 1
  let row := newDraft engine ids.rowId input.policyId version source.scopeKey compiled occurredAt
    input.actor.subjectId (some source.id)
  let written ← insertPolicy store row
  .ok (written, draftResult row)

def findKillSwitch (store : PolicyStore) (scopeKey : String) : Option KillSwitchRow :=
  ((store.killSwitches.filter fun switch => switch.scopeKey == scopeKey && switch.active).insertionSort
    fun left right => right.activatedAt ≤ left.activatedAt).head?

def killSwitch (store : PolicyStore) (input : KillSwitchInput) (now : Instant) (ids : NewIds) :
    Except LifecycleError (PolicyStore × String) := do
  let occurredAt ← orFail input.occurredAt (.timestampInvalid "occurredAt")
  onAuthorization (assertCg4RequestAuthorization input.actor
    (if input.activate then .policyPublish else .policyPublishRelaxation) input.scopeKey now)
  match input.activate, findKillSwitch store input.scopeKey with
  | true, some existing => .ok (store, existing.id)
  | true, none => do
      ensure (ids.rowId ∉ store.killSwitches.map KillSwitchRow.id)
        (.uniqueViolation "cg_scope_kill_switch_pkey")
      .ok ({ store with
          killSwitches := store.killSwitches ++
            [⟨ids.rowId, input.scopeKey, true, input.reasonCode, input.evidenceRef,
              input.actor.subjectId, occurredAt, none, none⟩] },
        ids.rowId)
  | false, none => .error .resourceNotFound
  | false, some existing => do
      ensure (Text.isBlank (input.clearApprovalRef.getD "") = false)
        (.lifecycle .approvalRequired "clear kill switch ต้องมี independent publish-grade approval")
      ensure (existing.activatedByRef ≠ input.actor.subjectId)
        (.lifecycle .approvalRequired "ผู้ที่เปิด kill switch เคลียร์เองไม่ได้ ต้องเป็นคนละ subject")
      .ok ({ store with
          killSwitches := Table.update KillSwitchRow.id existing.id (fun switch =>
            { switch with
              active := false
              clearApprovalRef := input.clearApprovalRef.map Text.trim
              clearedAt := some occurredAt }) store.killSwitches },
        existing.id)

end DContact.Governance

import DContact.Governance.ApprovalRepository

/-!
# The life cycle of an exception

Revisions of an exception are only ever added. The head of a series points to its
current revision and carries the workflow state. `recordException` adds a revision to a
new or pending series; `transition` moves the head of a series. Both work under the lock
of the contact, but `transition` reads the head and the revision before it holds the lock,
since it learns the contact from the revision. Contacts, identities and policies are
read from tables which other commands write.
-/

namespace DContact.Governance

open Lib

/-! ## Rows -/

/-- `cg_exception`. -/
structure ExceptionRow where
  id : String
  exceptionId : String
  revision : Nat
  contactId : String
  identityId : Option String
  scopeKind : IdentityScopeKind
  channel : ContactChannel
  purpose : String
  sourceType : String
  sourceId : String
  allowedRuleCodes : List String
  policyId : String
  policyVersion : Int
  policyContentDigest : String
  registryVersion : String
  startsAt : Instant
  expiresAt : Instant
  tier : RiskTier
  status : ExceptionWorkflowState
  reasonCode : String
  ticketRef : Option String
  evidenceRef : String
  actorRef : String
  requestHash : String
  supersedesId : Option String
  renewsExceptionId : Option String
  createdAt : Instant

/-- `cg_exception_head`. -/
structure ExceptionHead where
  exceptionId : String
  currentRevisionId : String
  currentRevision : Nat
  status : ExceptionWorkflowState

/-- `cg_exception_contact_head`, which counts the commands on one contact. -/
structure ContactExceptionHead where
  contactId : String
  aggregateVersion : Nat
  currentDigest : String
  latestMutationId : String

inductive BoundPolicyStatus where
  | draft
  | inReview
  | approved
  | published
  | scheduled
  | active
  | superseded
  | rejected
  | withdrawn
  deriving DecidableEq

structure BoundPolicy where
  policyId : String
  version : Int
  content : Json
  contentDigest : String
  registryVersion : String
  status : BoundPolicyStatus

structure IdentityRow where
  id : String
  contactId : String

/-- What the commands read from the tables of others. -/
structure ExceptionDirectory where
  contacts : List String
  identities : List IdentityRow
  policies : List BoundPolicy

inductive TransitionAction where
  | approve
  | reject
  | cancel
  | revoke
  deriving DecidableEq

structure RecordExceptionResult where
  mutationId : String
  eventId : String
  aggregateVersion : Nat
  exception : ExceptionRow

structure ExceptionTransitionResult where
  mutationId : String
  eventId : String
  aggregateVersion : Nat
  exceptionId : String
  revision : Nat
  workflowState : ExceptionWorkflowState
  effectiveState : ExceptionEffectiveState
  quorum : Option QuorumEvaluation

structure ExceptionReceipt (ρ : Type) where
  idempotencyKey : String
  requestHash : String
  response : ρ

/-- Who moved a revision, and how; the audit log keeps it. -/
structure ExceptionDecision where
  revisionId : String
  action : TransitionAction
  actorRef : String

structure ExceptionStore where
  exceptions : List ExceptionRow
  heads : List ExceptionHead
  contactHeads : List ContactExceptionHead
  recordReceipts : List (ExceptionReceipt RecordExceptionResult)
  transitionReceipts : List (ExceptionReceipt ExceptionTransitionResult)
  decisions : List ExceptionDecision

def ExceptionStore.headOf (store : ExceptionStore) (exceptionId : String) : Option ExceptionHead :=
  Table.lookup ExceptionHead.exceptionId exceptionId store.heads

def ExceptionStore.revisionOf (store : ExceptionStore) (id : String) : Option ExceptionRow :=
  Table.lookup ExceptionRow.id id store.exceptions

def ExceptionStore.contactHeadOf (store : ExceptionStore) (contactId : String) :
    Option ContactExceptionHead :=
  Table.lookup ContactExceptionHead.contactId contactId store.contactHeads

/-! ## Inputs and failures -/

inductive ExceptionError where
  | typeError (text : String)
  | rangeError (text : String)
  | idempotencyConflict (idempotencyKey : String)
  | resourceNotFound
  | versionConflict (expected actual : Int)
  | policyBinding (text : String)
  | invalidLifecycleTransition (source target : ExceptionWorkflowState)
  | exceptionScopeConflict (conflictingExceptionId : String)
  | authorization (failure : AuthorizationError)
  | constraintViolation (name : String)

structure RecordExceptionInput where
  tenantId : String
  contactId : String
  identityId : Option String
  scopeKind : IdentityScopeKind
  channel : ContactChannel
  purpose : String
  sourceType : String
  sourceId : String
  allowedRuleCodes : List String
  policyId : String
  policyVersion : Int
  policyContentDigest : String
  registryVersion : String
  startsAt : Option Instant
  expiresAt : Option Instant
  tier : RiskTier
  reasonCode : String
  ticketRef : Option String
  evidenceRef : String
  actorRef : String
  occurredAt : Option Instant
  exceptionId : Option String
  renewsExceptionId : Option String
  idempotencyKey : String
  expectedVersion : Int

structure TransitionInput where
  tenantId : String
  exceptionId : String
  expectedRevision : Int
  expectedContentDigest : String
  action : TransitionAction
  reasonCode : String
  evidenceRef : String
  actor : AuthorizationSubject
  scopeKey : String
  occurredAt : Option Instant
  expectedVersion : Int
  idempotencyKey : String

structure ExceptionDigests where
  record : RecordExceptionInput → List String → String
  transition : TransitionInput → String
  recorded : Option String → ExceptionRow → String
  moved : Option String → ExceptionRow → ExceptionWorkflowState → String

structure ExceptionIds where
  mutationId : String
  exceptionId : String
  rowId : String
  eventId : String

def nonEmpty (field value : String) : Except ExceptionError String :=
  if Text.isBlank value then .error (.typeError (field ++ " ต้องเป็น string ที่ไม่ว่าง"))
  else .ok (Text.trim value)

def nonEmptyFields : List (String × String) → Except ExceptionError Unit
  | [] => .ok ()
  | (field, value) :: rest => do
      let _ ← nonEmpty field value
      nonEmptyFields rest

/-- An optional text that the host takes for true, with its name. -/
def optionalField (field : String) (value : Option String) : List (String × String) :=
  match value with
  | some text => if text = "" then [] else [(field, text)]
  | none => []

def isGiven (value : Option String) : Bool := value.any fun text => text ≠ ""

/-- A time that the host can parse. -/
def instant (field : String) (value : Option Instant) : Except ExceptionError Instant :=
  orFail value (.typeError (field ++ " ต้องเป็น ISO-8601 timestamp"))

def sha256 (value : String) : Bool :=
  value.length == 64 && value.toList.all fun character =>
    (decide ('a' ≤ character) && decide (character ≤ 'f')) || character.isDigit

/-- `CG4_SOURCE_TYPES`. -/
def cg4SourceTypes : List String :=
  ["JOURNEY", "CAMPAIGN", "DIALER", "CHANNEL", "SURVEY", "AGENT", "EXTERNAL"]

def trimmedCodes : List String → Except ExceptionError (List String)
  | [] => .ok []
  | code :: rest => do
      let trimmed ← nonEmpty "allowedRuleCodes" code
      let others ← trimmedCodes rest
      .ok (trimmed :: others)

/-- The rule codes without repetition, in order. -/
def normalizedCodes (codes : List String) : Except ExceptionError (List String) := do
  let trimmed ← trimmedCodes codes
  .ok (Text.sortBy (fun code => code) trimmed.eraseDups)

/-- What is left of an input once it has been checked. -/
structure CheckedException where
  startsAt : Instant
  expiresAt : Instant
  allowedRuleCodes : List String

def checkRecordException (input : RecordExceptionInput) : Except ExceptionError CheckedException := do
  nonEmptyFields
    [("tenantId", input.tenantId), ("contactId", input.contactId), ("purpose", input.purpose),
      ("sourceType", input.sourceType), ("sourceId", input.sourceId), ("policyId", input.policyId),
      ("registryVersion", input.registryVersion), ("reasonCode", input.reasonCode),
      ("evidenceRef", input.evidenceRef), ("actorRef", input.actorRef),
      ("idempotencyKey", input.idempotencyKey)]
  nonEmptyFields (optionalField "exceptionId" input.exceptionId ++
    optionalField "identityId" input.identityId ++ optionalField "ticketRef" input.ticketRef ++
    optionalField "renewsExceptionId" input.renewsExceptionId)
  ensure (input.sourceType ∈ cg4SourceTypes)
    (.typeError "sourceType ไม่อยู่ใน CG4 source registry")
  ensure (input.scopeKind = .exactIdentity ↔ isGiven input.identityId = true)
    (.typeError "scopeKind และ identityId ต้องผูกกันแบบ exact identity หรือ contact-wide")
  ensure (1 ≤ input.policyVersion) (.rangeError "policyVersion ต้องเป็น positive integer")
  ensure (0 ≤ input.expectedVersion) (.rangeError "expectedVersion ต้องเป็น integer ตั้งแต่ 0")
  ensure (sha256 input.policyContentDigest = true)
    (.typeError "policyContentDigest ต้องเป็น lowercase SHA-256")
  let _ ← instant "occurredAt" input.occurredAt
  let startsAt ← instant "startsAt" input.startsAt
  let expiresAt ← instant "expiresAt" input.expiresAt
  ensure (startsAt < expiresAt) (.rangeError "expiresAt ต้องอยู่หลัง startsAt")
  let codes ← normalizedCodes input.allowedRuleCodes
  ensure (codes ≠ []) (.rangeError "allowedRuleCodes ต้องมีอย่างน้อยหนึ่ง rule")
  .ok ⟨startsAt, expiresAt, codes⟩

/-! ## Recording a revision -/

/-- An item of `allowedOperationalRuleCodes` that is a text and not blank. -/
def ruleCodeOf : Json → Option String
  | .str text => if Text.isBlank text then none else some text
  | _ => none

def policyAllowedRuleCodes : Json → Except ExceptionError (List String)
  | .obj fields =>
      match Json.field fields "allowedOperationalRuleCodes" with
      | some (.arr items) =>
          orFail (items.mapM ruleCodeOf)
            (.policyBinding "policy content ไม่มี allowedOperationalRuleCodes ที่ถูกต้อง")
      | _ => .error (.policyBinding "policy content ไม่มี allowedOperationalRuleCodes ที่ถูกต้อง")
  | _ => .error (.policyBinding "policy content ต้องเป็น object ที่มี allowedOperationalRuleCodes")

def OverrideIneligibility.text : OverrideIneligibility → String
  | .ruleNotRegistered => "RULE_NOT_REGISTERED"
  | .nonOverridableRule => "NON_OVERRIDABLE_RULE"
  | .overrideMechanismNotAllowed => "OVERRIDE_MECHANISM_NOT_ALLOWED"
  | .scopeNotSupported => "SCOPE_NOT_SUPPORTED"
  | .ruleNotEnabledByPolicy => "RULE_NOT_ENABLED_BY_POLICY"
  | .ruleSetInvalid => "RULE_SET_INVALID"
  | .riskTierTooLow => "RISK_TIER_TOO_LOW"
  | .lifetimeExceedsCap => "LIFETIME_EXCEEDS_CAP"

/-- Every rule can be lifted by an approved exception under the policy. -/
def checkEligible (question : String → OverrideEligibilityInput) :
    List String → Except ExceptionError Unit
  | [] => .ok ()
  | code :: rest =>
      match resolveCg4OverrideEligibility (question code) with
      | .error reason =>
          .error (.policyBinding ("rule " ++ code ++ " ใช้ exception ไม่ได้: " ++ reason.text))
      | .ok _ => checkEligible question rest

def checkPolicyBinding (directory : ExceptionDirectory) (input : RecordExceptionInput)
    (checked : CheckedException) : Except ExceptionError Unit := do
  let policy ← orFail (directory.policies.find? fun policy =>
      policy.policyId == input.policyId && policy.version == input.policyVersion)
    (.policyBinding "ไม่พบ policy version ใน active tenant")
  ensure (policy.status ∈ [.published, .scheduled, .active])
    (.policyBinding "exception ต้อง pin กับ policy ที่ published, scheduled หรือ active")
  ensure (policy.contentDigest = input.policyContentDigest ∧
      policy.registryVersion = input.registryVersion)
    (.policyBinding "policy digest หรือ registry version ไม่ตรงกับ pinned policy")
  let policyRules ← policyAllowedRuleCodes policy.content
  checkEligible (fun code =>
    { ruleCode := code
      mechanism := .approvedException
      identityScope := input.scopeKind
      policyAllowedRuleCodes := policyRules
      riskTier := input.tier
      requestedRuleCount := checked.allowedRuleCodes.length
      lifetimeSeconds := (checked.expiresAt - checked.startsAt) / 1000 }) checked.allowedRuleCodes

def checkContact (directory : ExceptionDirectory) (input : RecordExceptionInput) :
    Except ExceptionError Unit := do
  ensure (input.contactId ∈ directory.contacts) .resourceNotFound
  ensure (isGiven input.identityId = true → ∃ identity ∈ directory.identities,
      some identity.id = input.identityId ∧ identity.contactId = input.contactId) .resourceNotFound

/-- A series takes another revision only while it is pending, and only for its contact. -/
def checkSeries (store : ExceptionStore) (input : RecordExceptionInput) :
    Option ExceptionHead → Except ExceptionError Unit
  | none => .ok ()
  | some head => do
      ensure (∃ row ∈ store.exceptions, row.id = head.currentRevisionId ∧
        row.contactId = input.contactId) .resourceNotFound
      ensure (head.status = .pending) (.invalidLifecycleTransition head.status .pending)

/-- A renewal names a series of the same contact. -/
def checkRenewal (store : ExceptionStore) (input : RecordExceptionInput) :
    Option String → Except ExceptionError Unit
  | none => .ok ()
  | some renewsExceptionId =>
      if renewsExceptionId = "" then .ok ()
      else do
        let renewed ← orFail (store.headOf renewsExceptionId) .resourceNotFound
        ensure (∃ row ∈ store.exceptions, row.id = renewed.currentRevisionId ∧
          row.contactId = input.contactId) .resourceNotFound

def exceptionRowOf (digests : ExceptionDigests) (input : RecordExceptionInput)
    (checked : CheckedException) (exceptionId : String) (head : Option ExceptionHead)
    (ids : ExceptionIds) (now : Instant) : ExceptionRow where
  id := ids.rowId
  exceptionId := exceptionId
  revision := (head.map ExceptionHead.currentRevision).getD 0 + 1
  contactId := input.contactId
  identityId := input.identityId
  scopeKind := input.scopeKind
  channel := input.channel
  purpose := input.purpose
  sourceType := input.sourceType
  sourceId := input.sourceId
  allowedRuleCodes := checked.allowedRuleCodes
  policyId := input.policyId
  policyVersion := input.policyVersion
  policyContentDigest := input.policyContentDigest
  registryVersion := input.registryVersion
  startsAt := checked.startsAt
  expiresAt := checked.expiresAt
  tier := input.tier
  status := .pending
  reasonCode := input.reasonCode
  ticketRef := input.ticketRef
  evidenceRef := input.evidenceRef
  actorRef := input.actorRef
  requestHash := digests.record input checked.allowedRuleCodes
  supersedesId := head.map ExceptionHead.currentRevisionId
  renewsExceptionId := input.renewsExceptionId
  createdAt := now

def insertException (rows : List ExceptionRow) (row : ExceptionRow) :
    Except ExceptionError (List ExceptionRow) := do
  ensure (row.id ∉ rows.map ExceptionRow.id) (.constraintViolation "cg_exception_pkey")
  ensure (∀ other ∈ rows, ¬ (other.exceptionId = row.exceptionId ∧ other.revision = row.revision))
    (.constraintViolation "cg_exception_tenant_series_revision_key")
  ensure (row.renewsExceptionId ≠ some row.exceptionId)
    (.constraintViolation "cg_exception_renews_not_self_check")
  .ok (rows ++ [row])

def pointTo (row : ExceptionRow) : ExceptionHead where
  exceptionId := row.exceptionId
  currentRevisionId := row.id
  currentRevision := row.revision
  status := .pending

/-- The contact's head after a command; the contact had it at `actualVersion`. -/
def advanceContact (heads : List ContactExceptionHead) (contactId : String) (actualVersion : Nat)
    (digest mutationId : String) : List ContactExceptionHead :=
  Table.put ContactExceptionHead.contactId heads ⟨contactId, actualVersion + 1, digest, mutationId⟩

def findExceptionReceipt {ρ : Type} (receipts : List (ExceptionReceipt ρ)) (idempotencyKey : String) :
    Option (ExceptionReceipt ρ) :=
  receipts.find? fun receipt => receipt.idempotencyKey == idempotencyKey

def insertReceipt {ρ : Type} (receipts : List (ExceptionReceipt ρ)) (receipt : ExceptionReceipt ρ) :
    Except ExceptionError (List (ExceptionReceipt ρ)) := do
  ensure (receipt.idempotencyKey ∉ receipts.map ExceptionReceipt.idempotencyKey)
    (.constraintViolation "cg_command_receipts_tenant_id_operation_idempotency_key_key")
  .ok (receipts ++ [receipt])

/-- A new revision, after no receipt has been found. -/
def addRevision (digests : ExceptionDigests) (store : ExceptionStore)
    (directory : ExceptionDirectory) (input : RecordExceptionInput) (checked : CheckedException)
    (ids : ExceptionIds) (now : Instant) :
    Except ExceptionError (ExceptionStore × RecordExceptionResult) := do
  checkContact directory input
  checkPolicyBinding directory input checked
  let contactHead := store.contactHeadOf input.contactId
  let actualVersion := (contactHead.map ContactExceptionHead.aggregateVersion).getD 0
  ensure ((actualVersion : Int) = input.expectedVersion)
    (.versionConflict input.expectedVersion actualVersion)
  let exceptionId := input.exceptionId.getD ids.exceptionId
  let head := store.headOf exceptionId
  checkSeries store input head
  checkRenewal store input input.renewsExceptionId
  let row := exceptionRowOf digests input checked exceptionId head ids now
  let exceptions ← insertException store.exceptions row
  let digest := digests.recorded (contactHead.map ContactExceptionHead.currentDigest) row
  let result : RecordExceptionResult := ⟨ids.mutationId, ids.eventId, actualVersion + 1, row⟩
  let receipts ← insertReceipt store.recordReceipts
    ⟨input.idempotencyKey, digests.record input checked.allowedRuleCodes, result⟩
  .ok ({ store with
      exceptions := exceptions
      heads := Table.put ExceptionHead.exceptionId store.heads (pointTo row)
      contactHeads := advanceContact store.contactHeads input.contactId actualVersion digest
        ids.mutationId
      recordReceipts := receipts }, result)

def recordException (digests : ExceptionDigests) (store : ExceptionStore)
    (directory : ExceptionDirectory) (input : RecordExceptionInput) (ids : ExceptionIds)
    (now : Instant) : Except ExceptionError (ExceptionStore × RecordExceptionResult) := do
  let checked ← checkRecordException input
  match findExceptionReceipt store.recordReceipts input.idempotencyKey with
  | some receipt => do
      ensure (receipt.requestHash = digests.record input checked.allowedRuleCodes)
        (.idempotencyConflict input.idempotencyKey)
      .ok (store, receipt.response)
  | none => addRevision digests store directory input checked ids now

/-! ## Moving a series -/

structure TransitionRule where
  source : ExceptionWorkflowState
  target : ExceptionWorkflowState

/-- `TRANSITIONS`. -/
def transitionRule : TransitionAction → TransitionRule
  | .approve => ⟨.pending, .approved⟩
  | .reject => ⟨.pending, .rejected⟩
  | .cancel => ⟨.pending, .cancelled⟩
  | .revoke => ⟨.approved, .revoked⟩

def resolveCg4TransitionTarget (action : TransitionAction) (source : ExceptionWorkflowState) :
    Except ExceptionError ExceptionWorkflowState := do
  ensure ((transitionRule action).source = source)
    (.invalidLifecycleTransition source (transitionRule action).target)
  .ok (transitionRule action).target

/-- The same exact scope, a shared rule, and windows that intersect; touching ends do not. -/
def cg4ExceptionsOverlap (left right : ExceptionRow) : Bool :=
  decide (left.identityId = right.identityId) && decide (left.channel = right.channel) &&
    decide (left.purpose = right.purpose) && decide (left.sourceType = right.sourceType) &&
    decide (left.sourceId = right.sourceId) &&
    (left.allowedRuleCodes.any fun code => right.allowedRuleCodes.contains code) &&
    (decide (left.startsAt < right.expiresAt) && decide (right.startsAt < left.expiresAt))

def capabilityFor (action : TransitionAction) (tier : RiskTier) : Capability :=
  match action with
  | .approve | .reject => resolveCg4RequiredExceptionCapability tier
  | .cancel => .exceptionAmend
  | .revoke => .exceptionRevoke

def checkTransition (input : TransitionInput) : Except ExceptionError Unit := do
  nonEmptyFields
    [("tenantId", input.tenantId), ("exceptionId", input.exceptionId),
      ("reasonCode", input.reasonCode), ("evidenceRef", input.evidenceRef),
      ("scopeKey", input.scopeKey), ("idempotencyKey", input.idempotencyKey)]
  let _ ← instant "occurredAt" input.occurredAt
  .ok ()

/-- What is read before the lock: the head at the expected revision, and that revision with
the expected content. -/
def bindTransition (store : ExceptionStore) (input : TransitionInput) :
    Except ExceptionError (ExceptionHead × ExceptionRow) := do
  let head ← orFail (store.headOf input.exceptionId) .resourceNotFound
  ensure ((head.currentRevision : Int) = input.expectedRevision)
    (.versionConflict input.expectedRevision head.currentRevision)
  let revision ← orFail (store.revisionOf head.currentRevisionId) .resourceNotFound
  ensure (revision.requestHash = input.expectedContentDigest)
    (.versionConflict input.expectedRevision head.currentRevision)
  .ok (head, revision)

def authorizeTransition (input : TransitionInput) (revision : ExceptionRow) (now : Instant) :
    Except ExceptionError Unit := do
  match assertCg4RequestAuthorization input.actor (capabilityFor input.action revision.tier)
      input.scopeKey now with
  | .error failure => .error (.authorization failure)
  | .ok _ => do
      ensure (input.action = .cancel → revision.actorRef = input.actor.subjectId) .resourceNotFound
      ensure (input.action = .approve ∨ input.action = .reject →
        revision.actorRef ≠ input.actor.subjectId) (.authorization .selfApprovalForbidden)

def transitionQuorum (votes : List VoteRow) (input : TransitionInput) (revision : ExceptionRow)
    (now : Instant) : QuorumEvaluation :=
  let rows := votes.filter fun vote =>
    decide (vote.target.subjectId = input.exceptionId) &&
      decide ((vote.target.revision : Int) = input.expectedRevision)
  evaluateCg4Quorum (resolveCg4ExceptionQuorum revision.tier)
    ((rows.filter fun row => decide (row.decision = .approve)).map fun row =>
      { toRecordedApproval row with delegationId := none })
    (rows.any fun row => decide (row.decision = .reject)) now

def overlapCandidates (store : ExceptionStore) (revision : ExceptionRow) (exceptionId : String) :
    List ExceptionRow :=
  store.exceptions.filter fun row =>
    decide (row.contactId = revision.contactId) && decide (row.exceptionId ≠ exceptionId) &&
      decide (revision.startsAt < row.expiresAt) && decide (row.startsAt < revision.expiresAt)

def activeHeads (store : ExceptionStore) (candidates : List ExceptionRow) : List ExceptionHead :=
  store.heads.filter fun head =>
    decide (head.exceptionId ∈ candidates.map ExceptionRow.exceptionId) &&
      decide (head.status = .approved)

def findConflict (store : ExceptionStore) (revision : ExceptionRow) (exceptionId : String) :
    Option ExceptionRow :=
  let candidates := overlapCandidates store revision exceptionId
  let active := (activeHeads store candidates).map ExceptionHead.currentRevisionId
  (candidates.filter fun candidate => decide (candidate.id ∈ active)).find? fun candidate =>
    cg4ExceptionsOverlap revision candidate

def checkApproval (store : ExceptionStore) (votes : List VoteRow) (input : TransitionInput)
    (revision : ExceptionRow) (now : Instant) : Except ExceptionError (Option QuorumEvaluation) :=
  if input.action = .approve then
    let quorum := transitionQuorum votes input revision now
    match assertCg4QuorumMet quorum with
    | .error failure => .error (.authorization failure)
    | .ok _ =>
        match findConflict store revision input.exceptionId with
        | some conflict => .error (.exceptionScopeConflict conflict.exceptionId)
        | none => .ok (some quorum)
  else .ok none

def moveHead (heads : List ExceptionHead) (input : TransitionInput) (seen : ExceptionHead)
    (target : ExceptionWorkflowState) : Except ExceptionError (List ExceptionHead) := do
  let current ← orFail (Table.lookup ExceptionHead.exceptionId input.exceptionId heads)
    (.versionConflict input.expectedRevision seen.currentRevision)
  ensure ((current.currentRevision : Int) = input.expectedRevision ∧ current.status = seen.status)
    (.versionConflict input.expectedRevision seen.currentRevision)
  .ok (Table.update ExceptionHead.exceptionId input.exceptionId
    (fun head => { head with status := target }) heads)

/-- The rest of a transition, under the lock of the contact; `seen` and `revision` were read
before it. -/
def finalizeTransition (digests : ExceptionDigests) (store : ExceptionStore) (votes : List VoteRow)
    (input : TransitionInput) (seen : ExceptionHead) (revision : ExceptionRow) (ids : ExceptionIds)
    (now : Instant) : Except ExceptionError (ExceptionStore × ExceptionTransitionResult) := do
  let target ← resolveCg4TransitionTarget input.action seen.status
  authorizeTransition input revision now
  let quorum ← checkApproval store votes input revision now
  let contactHead := store.contactHeadOf revision.contactId
  let actualVersion := (contactHead.map ContactExceptionHead.aggregateVersion).getD 0
  ensure ((actualVersion : Int) = input.expectedVersion)
    (.versionConflict input.expectedVersion actualVersion)
  let heads ← moveHead store.heads input seen target
  let digest := digests.moved (contactHead.map ContactExceptionHead.currentDigest) revision target
  let effectiveState :=
    if target = .approved then
      resolveCg4EffectiveState .approved revision.startsAt revision.expiresAt now
    else .inactive
  let result : ExceptionTransitionResult :=
    ⟨ids.mutationId, ids.eventId, actualVersion + 1, input.exceptionId, seen.currentRevision, target,
      effectiveState, quorum⟩
  let receipts ← insertReceipt store.transitionReceipts
    ⟨input.idempotencyKey, digests.transition input, result⟩
  .ok ({ store with
      heads := heads
      contactHeads := advanceContact store.contactHeads revision.contactId actualVersion digest
        ids.mutationId
      transitionReceipts := receipts
      decisions := store.decisions ++ [⟨revision.id, input.action, input.actor.subjectId⟩] }, result)

end DContact.Governance

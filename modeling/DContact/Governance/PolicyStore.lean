import DContact.Governance.ApprovalRepository
import DContact.Governance.PolicyScope

/-!
# The rows of the policy studio

Policy versions, the head of each scope, activation jobs, kill switches, test
artifacts and votes of one tenant, and the reads that the lifecycle commands share.
Every statement of the source carries the tenant, so the rows of other tenants play
no part. Digests are a parameter: nothing below depends on how they are computed.
-/

namespace DContact.Governance

open Lib

inductive PolicyStatus where
  | draft
  | inReview
  | approved
  | scheduled
  | active
  | superseded
  | rejected
  deriving DecidableEq

def PolicyStatus.text : PolicyStatus → String
  | .draft => "DRAFT"
  | .inReview => "IN_REVIEW"
  | .approved => "APPROVED"
  | .scheduled => "SCHEDULED"
  | .active => "ACTIVE"
  | .superseded => "SUPERSEDED"
  | .rejected => "REJECTED"

/-- One version of a policy. The content column holds normalized content. -/
structure PolicyRow where
  id : String
  policyId : String
  version : Nat
  scopeKey : String
  content : PolicyContent
  contentDigest : String
  schemaVersion : Nat
  registryVersion : String
  evaluatorVersion : String
  draftRevision : Nat
  status : PolicyStatus
  effectiveFrom : Instant
  effectiveTo : Option Instant
  makerActorRef : String
  submittedAt : Option Instant
  approvedAt : Option Instant
  publishedAt : Option Instant
  supersedesId : Option String
  rollbackOfId : Option String
  testArtifactDigest : Option String
  diffClass : Option DiffClass
  baseHeadVersion : Option Nat
  baseHeadDigest : Option String
  approvalDigest : Option String
  activateAt : Option Instant

structure HeadRow where
  scopeKey : String
  policyId : String
  policyVersion : Nat
  policyRevisionId : String
  headVersion : Nat
  headDigest : String
  nextActivationAt : Option Instant

inductive JobState where
  | pending
  | claimed
  | complete
  | failed
  | cancelled
  deriving DecidableEq

def JobState.text : JobState → String
  | .pending => "PENDING"
  | .claimed => "CLAIMED"
  | .complete => "COMPLETE"
  | .failed => "FAILED"
  | .cancelled => "CANCELLED"

structure JobRow where
  id : String
  policyId : String
  policyVersion : Nat
  scopeKey : String
  scheduledFor : Instant
  state : JobState
  attempts : Nat
  leaseOwner : Option String
  leaseExpiresAt : Option Instant
  completedAt : Option Instant

/-- A job that may still activate its version. -/
def JobRow.isOpen (job : JobRow) : Bool :=
  decide (job.state = .pending) || decide (job.state = .claimed)

structure KillSwitchRow where
  id : String
  scopeKey : String
  active : Bool
  reasonCode : String
  evidenceRef : String
  activatedByRef : String
  activatedAt : Instant
  clearApprovalRef : Option String
  clearedAt : Option Instant

structure TestArtifactRow where
  id : String
  policyId : String
  policyVersion : Nat
  suiteVersion : String
  artifactDigest : String
  contentDigest : String
  platformFixtureDigest : String
  tenantFixtureDigest : String
  baseHeadVersion : Nat
  baseHeadDigest : String
  diffClass : DiffClass
  outcomePass : Bool
  passed : Nat
  failed : Nat

/-- What the votes on a version are bound to. -/
structure ApprovalBinding where
  policyId : String
  version : Nat
  contentDigest : String
  testArtifactDigest : String
  diffClass : DiffClass
  headVersion : Nat
  headDigest : String
  activateAt : Instant
  approvals : List (String × ApprovalDecision × Capability × Nat × Nat × Instant)

structure SuiteRun where
  suiteVersion : String
  platformFixtureDigest : String
  tenantFixtureDigest : String
  outcomePass : Bool
  passed : Nat
  failed : Nat
  resultDigest : String

/-- What a test artifact is bound to; the source enters the diff by its own digest. -/
structure ArtifactBinding where
  policyContentDigest : String
  baseHeadVersion : Nat
  baseHeadDigest : String
  diff : PolicyDiff
  run : SuiteRun

inductive DigestInput where
  | content (content : PolicyContent)
  | head (policyId : String) (version : Nat) (contentDigest : String)
  | emptyHead
  | approval (binding : ApprovalBinding)
  | artifact (binding : ArtifactBinding)

/-- The fixture packs and the pinned clock of a test run. -/
structure SuiteRequest where
  tenantPack : Json
  platformPack : Option Json
  pinnedEvaluationTime : String
  pinnedTimezone : String

/-- What the commands take from outside: the host's zones, a digest function, and the
fixture suite, which has no result when it throws. -/
structure PolicyEngine where
  zones : ZoneDatabase
  digest : DigestInput → String
  runCg4PolicyTests : PolicyContent → Nat → SuiteRequest → Option SuiteRun

inductive LifecycleCode where
  | invalidLifecycleTransition
  | policyTestsRequired
  | policyTestsFailed
  | policyScopeAmbiguous
  | policyHeadConflict
  | scheduleConflict
  | approvalStale
  | approvalRequired
  | policyActivationConflict
  | governanceKillSwitchActive

inductive LifecycleError where
  | textBlank (field : String)
  | timestampInvalid (field : String)
  | content (failure : ContentError)
  | authorization (failure : AuthorizationError)
  | resourceNotFound
  | versionConflict (expected current : Nat)
  | idempotencyConflict (idempotencyKey : String)
  | lifecycle (code : LifecycleCode) (message : String)
  | mutationFrozen
  | uniqueViolation (index : String)
  | checkViolation (constraint : String)
  | effectivePeriod
  | suiteFailed

def onContent {α : Type} (result : Except ContentError α) : Except LifecycleError α :=
  result.mapError .content

def onAuthorization {α : Type} (result : Except AuthorizationError α) : Except LifecycleError α :=
  result.mapError .authorization

def LocalTimeWindow.toJson (window : LocalTimeWindow) : Json :=
  .obj [("daysOfWeek", .arr (window.daysOfWeek.map fun day => .num day)),
    ("startLocal", .str window.startLocal.text), ("endLocal", .str window.endLocal.text)]

def HolidayEntry.toJson (entry : HolidayEntry) : Json :=
  .obj [("localDate", .str entry.localDate.text),
    ("effect", .str (match entry.effect with | .closed => "CLOSED" | .windows => "WINDOWS")),
    ("windows", .arr (entry.windows.map LocalTimeWindow.toJson))]

def CallbackMode.text : CallbackMode → String
  | .noOverride => "NO_OVERRIDE"
  | .scopedOverride => "SCOPED_OVERRIDE"
  | .timePolicyOverride => "TIME_POLICY_OVERRIDE"

/-- Normalized content as it is stored. -/
def PolicyContent.toJson (content : PolicyContent) : Json :=
  .obj [("timezoneFallback", content.timezoneFallback.elim .null .str),
    ("quietHours", .arr (content.quietHours.map LocalTimeWindow.toJson)),
    ("callbackMode", .str content.callbackMode.text),
    ("overridableRules", .arr (content.overridableRules.map .str)),
    ("allowedOperationalRuleCodes", .arr (content.allowedOperationalRuleCodes.map .str)),
    ("holidays", .arr (content.holidays.map HolidayEntry.toJson))]

/-- `compileCg4Policy` on the columns of a row: the versions must be the current ones
and the stored content must still compile. -/
def compileRow (engine : PolicyEngine) (row : PolicyRow) : Except LifecycleError PolicyContent := do
  ensure (row.schemaVersion = policySchemaVersion)
    (.content ⟨.policyVersionUnsupported, "ไม่รองรับ policy schema version นี้"⟩)
  ensure (row.registryVersion = ruleRegistryVersion)
    (.content ⟨.policyVersionUnsupported, "ไม่รองรับ rule registry version นี้"⟩)
  ensure (row.evaluatorVersion = evaluatorVersion)
    (.content ⟨.policyVersionUnsupported, "ไม่รองรับ evaluator version นี้"⟩)
  onContent (compileCg4Policy engine.zones row.content.toJson row.version)

/-- The stored digest must be the one of the recompiled content. -/
def recompile (engine : PolicyEngine) (row : PolicyRow) : Except LifecycleError PolicyContent := do
  let compiled ← compileRow engine row
  ensure (engine.digest (.content compiled) = row.contentDigest)
    (.content ⟨.validationFailed, "content digest ที่เก็บไว้ไม่ตรงกับ compiler ปัจจุบัน"⟩)
  .ok compiled

structure PolicyStore where
  policies : List PolicyRow
  heads : List HeadRow
  jobs : List JobRow
  killSwitches : List KillSwitchRow
  artifacts : List TestArtifactRow
  votes : List VoteRow
  mutationFrozen : Bool

def PolicyStore.empty : PolicyStore := ⟨[], [], [], [], [], [], false⟩

def findPolicy (store : PolicyStore) (policyId : String) (version : Nat) :
    Except LifecycleError PolicyRow :=
  orFail (store.policies.find? fun row => row.policyId == policyId && row.version == version)
    .resourceNotFound

/-- What the head of a scope points at. -/
structure HeadRef where
  policyId : String
  version : Nat
  revisionId : String

structure HeadSnapshot where
  headVersion : Nat
  headDigest : String
  current : Option HeadRef

def PolicyStore.findHead (store : PolicyStore) (scopeKey : String) : Option HeadRow :=
  store.heads.find? fun head => head.scopeKey == scopeKey

def loadHead (engine : PolicyEngine) (store : PolicyStore) (scopeKey : String) : HeadSnapshot :=
  match store.findHead scopeKey with
  | none => ⟨0, engine.digest .emptyHead, none⟩
  | some head =>
      ⟨head.headVersion, head.headDigest,
        some ⟨head.policyId, head.policyVersion, head.policyRevisionId⟩⟩

/-- The compiled content of the version which a head points at. -/
def loadHeadContent (engine : PolicyEngine) (store : PolicyStore) (head : HeadSnapshot) :
    Except LifecycleError (Option PolicyContent) :=
  match head.current with
  | none => .ok none
  | some current =>
      match store.policies.find? fun row => row.id == current.revisionId with
      | none => .ok none
      | some row =>
          (onContent (compileCg4Policy engine.zones row.content.toJson row.version)).map some

structure Candidate where
  row : PolicyRow
  compiled : PolicyContent
  head : HeadSnapshot
  baseContent : Option PolicyContent

def loadCandidate (engine : PolicyEngine) (store : PolicyStore) (policyId : String) (version : Nat)
    (expectedContentDigest : String) : Except LifecycleError Candidate := do
  let row ← findPolicy store policyId version
  ensure (row.contentDigest = expectedContentDigest) (.versionConflict version row.version)
  let compiled ← recompile engine row
  let head := loadHead engine store row.scopeKey
  let baseContent ← loadHeadContent engine store head
  .ok ⟨row, compiled, head, baseContent⟩

def findAmbiguous (scopeKey : String) : List String → Except LifecycleError (Option String)
  | [] => .ok none
  | other :: rest => do
      let ambiguous ← onContent (cg4PolicyScopesAmbiguous scopeKey other)
      if ambiguous then .ok (some other) else findAmbiguous scopeKey rest

def activeScopes (store : PolicyStore) : List String :=
  (store.policies.filter fun row => decide (row.status = .active)).map PolicyRow.scopeKey

def assertScopeUnambiguous (store : PolicyStore) (scopeKey : String) :
    Except LifecycleError Unit := do
  let conflict ← findAmbiguous scopeKey ((activeScopes store).filter fun other => other != scopeKey)
  match conflict with
  | none => .ok ()
  | some other =>
      .error (.lifecycle .policyScopeAmbiguous
        ("scope " ++ scopeKey ++ " กำกวมกับ active scope " ++ other ++ " ที่ specificity เดียวกัน"))

def killSwitchActive (store : PolicyStore) (scopeKey : String) : Bool :=
  store.killSwitches.any fun switch => switch.scopeKey == scopeKey && switch.active

theorem assertScopeUnambiguous_ok {store : PolicyStore} {scopeKey : String} {result : Unit}
    (ok : assertScopeUnambiguous store scopeKey = .ok result) :
    ∀ other ∈ activeScopes store, cg4PolicyScopesAmbiguous scopeKey other ≠ .ok true := by
  obtain ⟨conflict, found, ok⟩ := bind_ok ok
  cases conflict with
  | some other => cases ok
  | none =>
      have clear : ∀ scopes, findAmbiguous scopeKey scopes = .ok none → ∀ other ∈ scopes,
          cg4PolicyScopesAmbiguous scopeKey other ≠ .ok true := by
        intro scopes none
        induction scopes with
        | nil => simp
        | cons first rest ih =>
            obtain ⟨ambiguous, checked, none⟩ := bind_ok none
            cases ambiguous with
            | true => cases none
            | false =>
                have checked := mapError_ok.mp checked
                simp only [List.mem_cons, forall_eq_or_imp]
                exact ⟨by simp [checked], ih none⟩
      intro other mem ambiguous
      by_cases same : other = scopeKey
      · subst same
        simp [cg4PolicyScopesAmbiguous] at ambiguous
      · exact clear _ found other (by simp [mem, same]) ambiguous

end DContact.Governance

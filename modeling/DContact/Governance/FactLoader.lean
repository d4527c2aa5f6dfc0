import DContact.Governance.ExceptionLifecycle
import DContact.Governance.PolicyReader

/-!
# Loading the facts of a decision

The loader reads the preferences, the published policies, the callback requests and the
approved exceptions that concern one request at one instant. Preferences and policies
carry an interval in which they are in force; the loader keeps the rows in force and only
then takes the latest row of each scope. Callback requests have no interval: the latest
row of the exact scope counts, whatever it says.
-/

namespace DContact.Governance

open Lib

inductive RestrictionType where
  | dnc
  | objection
  | consentRevoked
  | inboundSafety
  | regulatory

/-- `cg_restrictions`. -/
structure RestrictionRow where
  contactId : Option String
  identityId : Option String
  channel : Option ContactChannel
  purpose : Option String
  type : RestrictionType
  reasonCode : String
  overridable : Bool
  startsAt : Instant
  expiresAt : Option Instant

inductive ConsentStatus where
  | granted
  | revoked
  | expired
  deriving DecidableEq

/-- `cg_consents`. -/
structure ConsentRow where
  contactId : String
  identityId : Option String
  purpose : String
  channel : ContactChannel
  status : ConsentStatus
  lawfulBasis : String
  expiresAt : Option Instant
  createdAt : Instant

inductive SourceKind where
  | customer
  | provider
  | agent
  | crm
  | flow
  | admin
  | compliance
  | system
  deriving DecidableEq

inductive PreferenceMutation where
  | set
  | revoke
  deriving DecidableEq

/-- `cg_preferences`. -/
structure PreferenceRow where
  id : String
  seriesId : String
  version : Nat
  contactId : String
  identityId : Option String
  channel : Option ContactChannel
  purpose : Option String
  contactKind : Option String
  scopeHash : String
  decision : Option PreferenceDecision
  timezone : Option String
  preferredWindows : List LocalTimeWindow
  sourceKind : SourceKind
  sourceVersion : Option String
  occurredAt : Instant
  effectiveFrom : Instant
  effectiveTo : Option Instant
  mutationKind : PreferenceMutation
  supersedesId : Option String
  requestHash : String
  evidenceRef : String
  actorClass : String
  deriving DecidableEq

/-- `cg_contact_state_heads`. -/
structure ContactStateHead where
  contactId : String
  aggregateVersion : Nat
  currentDigest : String
  latestMutationId : Option String

inductive Cg3PolicyStatus where
  | draft
  | published
  | superseded
  deriving DecidableEq

/-- `cg_policies`. -/
structure Cg3PolicyRow where
  policyId : String
  version : Nat
  purpose : Option String
  contactKind : Option String
  channel : Option ContactChannel
  timezoneFallback : Option String
  quietHours : List LocalTimeWindow
  callbackMode : CallbackMode
  overridableRules : List String
  status : Cg3PolicyStatus
  effectiveFrom : Instant
  effectiveTo : Option Instant
  publishedAt : Option Instant

/-- `cg_holiday_calendar_entries`. -/
structure HolidayRow where
  policyId : String
  policyVersion : Nat
  entry : HolidayEntry

inductive CallbackMutation where
  | request
  | consume
  | revoke
  deriving DecidableEq

/-- `cg_callback_requests`. -/
structure CallbackRow where
  id : String
  seriesId : String
  version : Nat
  contactId : String
  identityId : Option String
  channel : ContactChannel
  purpose : String
  requestedAt : Instant
  requestedTimezone : String
  expiresAt : Instant
  sourceKind : SourceKind
  sourceVersion : Option String
  oneUseTokenHash : String
  approvedExceptionId : Option String
  mutationKind : CallbackMutation
  supersedesId : Option String
  evidenceRef : String
  requestHash : String
  actorClass : String
  deriving DecidableEq

inductive RolloutStage where
  | disabled
  | shadowEvaluation
  | scopedSynthetic
  | internalEnabled

/-- `cg4_rollout_state`, as far as the choice of a reader goes. -/
structure RolloutState where
  stage : RolloutStage
  syntheticScopeKeys : List String

/-- The tables which a decision only reads. -/
structure FactTables where
  contacts : List String
  identities : List IdentityRow
  restrictions : List RestrictionRow
  consents : List ConsentRow
  stateHeads : List ContactStateHead
  preferences : List PreferenceRow
  policies : List Cg3PolicyRow
  holidays : List HolidayRow
  exceptions : List ExceptionRow
  exceptionHeads : List ExceptionHead
  exceptionVotes : List VoteRow
  studio : PolicyStore
  rollout : Option RolloutState
  activeTeams : List String

def FactTables.empty : FactTables :=
  ⟨[], [], [], [], [], [], [], [], [], [], [], .empty, none, []⟩

structure FactQuery where
  contactId : String
  identityId : Option String
  channel : ContactChannel
  purpose : String
  contactKind : Option String
  now : Instant

/-- An interval that is open or closed on the right by an instant of its own. -/
def inForce (effectiveFrom : Instant) (effectiveTo : Option Instant) (now : Instant) : Bool :=
  decide (effectiveFrom ≤ now) && effectiveTo.all fun ends => decide (now < ends)

structure LoadedException where
  facts : ExceptionFacts
  policyId : String
  policyVersionId : String
  policyVersion : Nat

/-- The digests that loading and deciding compute, as functions of what is digested. -/
structure DecisionEngine extends PolicyEngine where
  approvalDigest : List VoteRow → String
  pinDigest : PolicyBinding → List AppliedExceptionPin → String
  consumeToken : String → String → String
  consumeHash : String → Nat → String
  outcomeDigest : ContactDecision → String → Nat → Option Nat → String

/-- `orderBy: [{ startsAt: 'asc' }, { revision: 'asc' }]`. -/
def startsEarlier (left right : ExceptionRow) : Prop :=
  left.startsAt < right.startsAt ∨
    (left.startsAt = right.startsAt ∧ left.revision ≤ right.revision)

instance (left right : ExceptionRow) : Decidable (startsEarlier left right) :=
  inferInstanceAs (Decidable (_ ∨ _))

def loadedException (engine : DecisionEngine) (tables : FactTables) (revision : ExceptionRow) :
    LoadedException :=
  let policy := tables.studio.policies.find? fun row =>
    row.policyId == revision.policyId && (row.version : Int) == revision.policyVersion
  let approvals := (Text.sortBy VoteRow.approverRef tables.exceptionVotes).filter fun vote =>
    vote.target == ⟨revision.exceptionId, revision.revision⟩
  { facts :=
      { seriesId := revision.exceptionId
        revisionId := revision.id
        revision := revision.revision
        workflowState := .approved
        identityId := revision.identityId
        scopeKind := revision.scopeKind
        channel := revision.channel
        purpose := revision.purpose
        sourceType := revision.sourceType
        sourceId := revision.sourceId
        allowedRuleCodes := revision.allowedRuleCodes
        policyContentDigest := revision.policyContentDigest
        currentPolicyContentDigest := policy.map PolicyRow.contentDigest
        policyAllowedRuleCodes :=
          (policy.map fun row => row.content.allowedOperationalRuleCodes).getD []
        registryVersion := revision.registryVersion
        startsAt := revision.startsAt
        expiresAt := revision.expiresAt
        tier := revision.tier
        contentDigest := revision.requestHash
        approvalDigest := engine.approvalDigest approvals }
    policyId := revision.policyId
    policyVersionId := (policy.map PolicyRow.id).getD revision.policyId
    policyVersion := revision.policyVersion.toNat }

def loadCg4ExceptionFacts (engine : DecisionEngine) (tables : FactTables) (query : FactQuery) :
    List LoadedException :=
  let revisions := (tables.exceptions.filter fun row =>
    row.contactId == query.contactId && inForce row.startsAt (some row.expiresAt) query.now).insertionSort
      startsEarlier
  let approvedRevisionIds := (tables.exceptionHeads.filter fun head =>
    head.status == .approved && revisions.any fun row => row.exceptionId == head.exceptionId).map
      ExceptionHead.currentRevisionId
  (revisions.filter fun row => approvedRevisionIds.contains row.id).map (loadedException engine tables)

def PreferenceRow.candidate (row : PreferenceRow) : PreferenceCandidate :=
  ⟨row.version, row.identityId, row.channel, row.purpose, row.contactKind, row.decision,
    row.timezone, row.preferredWindows⟩

def preferencesInForce (rows : List PreferenceRow) (contactId : String) (now : Instant) :
    List PreferenceRow :=
  (rows.filter fun row => row.contactId == contactId &&
    inForce row.effectiveFrom row.effectiveTo now).insertionSort
      fun left right => right.version ≤ left.version

/-- The rows that become preferences of the decision: of each scope the first row in that
order, unless it is a revocation. -/
def loadPreferences (rows : List PreferenceRow) (contactId : String) (now : Instant) :
    List PreferenceRow :=
  (Table.firsts PreferenceRow.scopeHash (preferencesInForce rows contactId now)).filter
    fun row => row.mutationKind == .set

def Cg3PolicyRow.specificity (row : Cg3PolicyRow) : Nat :=
  row.channel.isSome.toNat + row.purpose.isSome.toNat + row.contactKind.isSome.toNat

def scopeCompatible (row : Cg3PolicyRow) (query : FactQuery) : Bool :=
  (row.channel.isNone || row.channel == some query.channel) &&
  (row.purpose.isNone || row.purpose == some query.purpose) &&
  (row.contactKind.isNone || row.contactKind == query.contactKind)

/-- The most specific published policy in force, the one published last among equals. -/
def resolvePolicyRow (tables : FactTables) (query : FactQuery) : Option Cg3PolicyRow :=
  let policyRows := (tables.policies.filter fun row => row.status == .published &&
    inForce row.effectiveFrom row.effectiveTo query.now).insertionSort
      fun left right => right.version ≤ left.version
  let compatible := policyRows.filter fun row => scopeCompatible row query
  let best := (compatible.map Cg3PolicyRow.specificity).foldl max 0
  Table.latest (fun row : Cg3PolicyRow => row.publishedAt.getD 0)
    (compatible.filter fun row => row.specificity == best)

def Cg3PolicyRow.facts (tables : FactTables) (row : Cg3PolicyRow) : PolicyFacts where
  version := row.version
  timezoneFallback := row.timezoneFallback
  quietHours := row.quietHours
  callbackMode := row.callbackMode
  overridableRules := row.overridableRules
  holidays := (tables.holidays.filter fun holiday =>
    holiday.policyId == row.policyId && holiday.policyVersion == row.version).map HolidayRow.entry

def CallbackRow.inScope (query : FactQuery) (row : CallbackRow) : Bool :=
  row.contactId == query.contactId && row.identityId == query.identityId &&
    row.channel == query.channel && row.purpose == query.purpose

def latestCallback (callbacks : List CallbackRow) (query : FactQuery) : Option CallbackRow :=
  Table.latest CallbackRow.version (callbacks.filter (CallbackRow.inScope query))

def CallbackRow.facts (row : CallbackRow) : CallbackFacts :=
  ⟨row.id, row.identityId, row.channel, row.purpose, row.expiresAt, row.approvedExceptionId⟩

def activeCallback (callbacks : List CallbackRow) (query : FactQuery) : Option CallbackFacts :=
  match latestCallback callbacks query with
  | none => none
  | some row => if row.mutationKind = .request then some row.facts else none

structure Cg3Facts where
  aggregateVersion : Nat
  preferences : List PreferenceCandidate
  policy : Option PolicyFacts
  activeCallback : Option CallbackFacts
  activeExceptions : List LoadedException

def loadCg3Facts (engine : DecisionEngine) (tables : FactTables) (callbacks : List CallbackRow)
    (query : FactQuery) : Cg3Facts where
  aggregateVersion := ((Table.lookup ContactStateHead.contactId query.contactId tables.stateHeads).map
    ContactStateHead.aggregateVersion).getD 0
  preferences := (loadPreferences tables.preferences query.contactId query.now).map
    PreferenceRow.candidate
  policy := (resolvePolicyRow tables query).map (Cg3PolicyRow.facts tables)
  activeCallback := activeCallback callbacks query
  activeExceptions := loadCg4ExceptionFacts engine tables query

variable {callbacks : List CallbackRow} {query : FactQuery}

theorem activeCallback_some {callback : CallbackFacts}
    (active : activeCallback callbacks query = some callback) :
    ∃ row ∈ callbacks, row.inScope query = true ∧ row.mutationKind = .request ∧
      callback = row.facts ∧
      ∀ other ∈ callbacks, other.inScope query = true → other.version ≤ row.version := by
  unfold activeCallback at active
  split at active
  next => cases active
  next row found =>
    split at active
    next requested =>
      cases active
      obtain ⟨mem, covered⟩ := List.mem_filter.mp (Table.latest_mem found)
      refine ⟨row, mem, covered, requested, rfl, ?_⟩
      intro other present inScope
      exact Table.le_latest found (List.mem_filter.mpr ⟨present, inScope⟩)
    next => cases active

theorem activeCallback_append {row : CallbackRow} (covered : row.inScope query = true)
    (used : row.mutationKind ≠ .request)
    (later : ∀ other ∈ callbacks, other.inScope query = true → other.version < row.version) :
    activeCallback (callbacks ++ [row]) query = none := by
  have last : latestCallback (callbacks ++ [row]) query = some row := by
    rw [latestCallback, List.filter_append, List.filter_singleton, covered]
    apply Table.latest_append
    intro other mem
    obtain ⟨present, inScope⟩ := List.mem_filter.mp mem
    exact later other present inScope
  rw [activeCallback, last]
  exact if_neg used

end DContact.Governance

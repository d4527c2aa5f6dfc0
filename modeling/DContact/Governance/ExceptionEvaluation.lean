import DContact.Governance.LocalTime
import DContact.Governance.RuleRegistry

/-!
# Approved exceptions

An approved exception lifts a provisional failure only when it is active at the
instant of the decision, every scope dimension matches exactly, its policy
binding is current and the platform still considers the rule overridable.
-/

namespace DContact.Governance

inductive ContactChannel where
  | voice
  | webchat
  | line
  | facebook
  | whatsapp
  | email
  deriving DecidableEq

inductive ExceptionWorkflowState where
  | pending
  | approved
  | rejected
  | cancelled
  | revoked
  deriving DecidableEq

inductive ExceptionEffectiveState where
  | scheduled
  | active
  | expired
  | inactive
  deriving DecidableEq

/-- One approved exception series at its current revision, as loaded for a decision. -/
structure ExceptionFacts where
  seriesId : String
  revisionId : String
  revision : Nat
  workflowState : ExceptionWorkflowState
  identityId : Option String
  scopeKind : IdentityScopeKind
  channel : ContactChannel
  purpose : String
  sourceType : String
  sourceId : String
  allowedRuleCodes : List String
  policyContentDigest : String
  currentPolicyContentDigest : Option String
  policyAllowedRuleCodes : List String
  registryVersion : String
  startsAt : Instant
  expiresAt : Instant
  tier : RiskTier
  contentDigest : String
  approvalDigest : String

structure ExceptionMatchContext where
  identityId : Option String
  channel : ContactChannel
  purpose : String
  source : String
  sourceId : String
  now : Instant

structure AppliedExceptionPin where
  seriesId : String
  revisionId : String
  version : Nat
  contentDigest : String
  approvalDigest : String
  matchedRuleCode : String

/-- `expiresAt` is exclusive: at that instant the exception has already expired. -/
def resolveCg4EffectiveState (workflowState : ExceptionWorkflowState)
    (startsAt expiresAt now : Instant) : ExceptionEffectiveState :=
  if workflowState ≠ .approved then
    .inactive
  else if now < startsAt then
    .scheduled
  else if now ≥ expiresAt then
    .expired
  else
    .active

inductive ExceptionMismatch where
  | notActive
  | scopeMismatch
  | ruleNotCovered
  | policyBindingStale
  | registryVersionStale
  | ruleNotOverridable

def scopeMatches (facts : ExceptionFacts) (context : ExceptionMatchContext) : Bool :=
  let identityMatches :=
    match facts.scopeKind with
    | .contactWide => facts.identityId.isNone
    | .exactIdentity => facts.identityId.isSome && facts.identityId == context.identityId
  identityMatches && facts.channel == context.channel && facts.purpose == context.purpose &&
    facts.sourceType == context.source && facts.sourceId == context.sourceId

/-- The question put to the registry again whenever an exception is read. -/
def ExceptionFacts.eligibilityInput (facts : ExceptionFacts) (reasonCode : String) :
    OverrideEligibilityInput where
  ruleCode := reasonCode
  mechanism := .approvedException
  identityScope := facts.scopeKind
  policyAllowedRuleCodes := facts.policyAllowedRuleCodes
  riskTier := facts.tier
  requestedRuleCount := facts.allowedRuleCodes.length
  lifetimeSeconds := (facts.expiresAt - facts.startsAt) / 1000

def ExceptionFacts.pin (facts : ExceptionFacts) (reasonCode : String) : AppliedExceptionPin where
  seriesId := facts.seriesId
  revisionId := facts.revisionId
  version := facts.revision
  contentDigest := facts.contentDigest
  approvalDigest := facts.approvalDigest
  matchedRuleCode := reasonCode

def coversRule (facts : ExceptionFacts) (context : ExceptionMatchContext)
    (reasonCode : String) : Except ExceptionMismatch AppliedExceptionPin :=
  if resolveCg4EffectiveState facts.workflowState facts.startsAt facts.expiresAt context.now ≠
      .active then
    .error .notActive
  else if !scopeMatches facts context then
    .error .scopeMismatch
  else if !facts.allowedRuleCodes.contains reasonCode then
    .error .ruleNotCovered
  else if facts.registryVersion ≠ ruleRegistryVersion then
    .error .registryVersionStale
  else if facts.currentPolicyContentDigest ≠ some facts.policyContentDigest then
    .error .policyBindingStale
  else
    match resolveCg4OverrideEligibility (facts.eligibilityInput reasonCode) with
    | .error _ => .error .ruleNotOverridable
    | .ok _ => .ok (facts.pin reasonCode)

/-- The loop of `resolveCg4ExceptionCoverage`, carrying the last mismatch. -/
def exceptionCoverageFrom (context : ExceptionMatchContext) (reasonCode : String) :
    ExceptionMismatch → List ExceptionFacts → Except ExceptionMismatch AppliedExceptionPin
  | lastReason, [] => .error lastReason
  | _, facts :: rest =>
      match coversRule facts context reasonCode with
      | .ok pin => .ok pin
      | .error reason => exceptionCoverageFrom context reasonCode reason rest

def resolveCg4ExceptionCoverage (exceptions : List ExceptionFacts)
    (context : ExceptionMatchContext) (reasonCode : String) :
    Except ExceptionMismatch AppliedExceptionPin :=
  exceptionCoverageFrom context reasonCode .ruleNotCovered exceptions

def Covers (facts : ExceptionFacts) (context : ExceptionMatchContext) (reasonCode : String) :
    Prop :=
  ∃ pin, coversRule facts context reasonCode = .ok pin

theorem exceptionCoverageFrom_ok_iff (context : ExceptionMatchContext) (reasonCode : String)
    (lastReason : ExceptionMismatch) (exceptions : List ExceptionFacts) :
    (∃ pin, exceptionCoverageFrom context reasonCode lastReason exceptions = .ok pin) ↔
      ∃ facts ∈ exceptions, Covers facts context reasonCode := by
  induction exceptions generalizing lastReason with
  | nil => simp [exceptionCoverageFrom]
  | cons facts rest ih =>
      unfold exceptionCoverageFrom
      cases covered : coversRule facts context reasonCode with
      | ok pin => simp [Covers, covered]
      | error reason => simp [ih, Covers, covered]

/-- Coverage is found exactly when some candidate covers the rule. -/
theorem resolveCg4ExceptionCoverage_ok_iff (exceptions : List ExceptionFacts)
    (context : ExceptionMatchContext) (reasonCode : String) :
    (∃ pin, resolveCg4ExceptionCoverage exceptions context reasonCode = .ok pin) ↔
      ∃ facts ∈ exceptions, Covers facts context reasonCode :=
  exceptionCoverageFrom_ok_iff context reasonCode .ruleNotCovered exceptions

theorem Covers.eligible {facts : ExceptionFacts} {context : ExceptionMatchContext}
    {reasonCode : String} (covers : Covers facts context reasonCode) :
    ∃ cap, resolveCg4OverrideEligibility (facts.eligibilityInput reasonCode) = .ok cap := by
  obtain ⟨pin, covered⟩ := covers
  unfold coversRule at covered
  repeat' split at covered
  all_goals first
    | contradiction
    | exact ⟨_, ‹_›⟩

theorem not_covers_preferenceWindowClosed (facts : ExceptionFacts)
    (context : ExceptionMatchContext) :
    ¬ Covers facts context RuleCode.preferenceWindowClosed.text := by
  intro covers
  obtain ⟨cap, eligible⟩ := covers.eligible
  have listed := mechanism_of_eligible eligible
  have unlisted : OverrideMechanism.approvedException ∉
      (resolveCg4RuleMetadata
        RuleCode.preferenceWindowClosed.text).metadata.allowedOverrideMechanisms := by
    decide
  exact unlisted listed

end DContact.Governance

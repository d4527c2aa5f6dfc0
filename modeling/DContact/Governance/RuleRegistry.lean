import Mathlib.Data.List.Basic

/-!
# The rule registry and override eligibility

The registry is closed: a caller names a rule by its code and can declare
nothing about it. Policies and exceptions store rule codes as plain strings, so
the lookup is by string and an unknown code resolves to metadata which nothing
can override.
-/

namespace DContact.Governance

/-- `CG4_RULE_REGISTRY_VERSION`. -/
def ruleRegistryVersion : String := "CG4_RULE_REGISTRY_V1"

inductive RuleCode where
  | identityAmbiguous
  | identityNotFound
  | tenantScopeNotAllowed
  | teamSegmentNotAllowed
  | capabilityRequired
  | authorizationContextUnavailable
  | dncGlobal
  | purposeObjected
  | consentRevoked
  | consentRequired
  | consentExpired
  | lawfulBasisRequired
  | regulatoryRestriction
  | safetyRestriction
  | preferenceBlocked
  | preferenceDeferred
  | timezoneUnknown
  | senderIdentityRequired
  | senderIdentityInvalid
  | governanceKillSwitchActive
  | outboundTrafficDisabled
  | governanceVersionStale
  | governanceStateUnavailable
  | governancePolicyVersionUnsupported
  | callbackOverrideNotAllowed
  | callbackOverrideExpired
  | preferenceWindowClosed
  | quietHours
  | tenantHoliday
  | minGap
  | dailyAttemptCap
  | dailyTouchCap

namespace RuleCode

/-- The code under which policies, exceptions and traces name the rule. -/
def text : RuleCode → String
  | identityAmbiguous => "IDENTITY_AMBIGUOUS"
  | identityNotFound => "IDENTITY_NOT_FOUND"
  | tenantScopeNotAllowed => "TENANT_SCOPE_NOT_ALLOWED"
  | teamSegmentNotAllowed => "TEAM_SEGMENT_NOT_ALLOWED"
  | capabilityRequired => "CAPABILITY_REQUIRED"
  | authorizationContextUnavailable => "AUTHORIZATION_CONTEXT_UNAVAILABLE"
  | dncGlobal => "DNC_GLOBAL"
  | purposeObjected => "PURPOSE_OBJECTED"
  | consentRevoked => "CONSENT_REVOKED"
  | consentRequired => "CONSENT_REQUIRED"
  | consentExpired => "CONSENT_EXPIRED"
  | lawfulBasisRequired => "LAWFUL_BASIS_REQUIRED"
  | regulatoryRestriction => "REGULATORY_RESTRICTION"
  | safetyRestriction => "SAFETY_RESTRICTION"
  | preferenceBlocked => "PREFERENCE_BLOCKED"
  | preferenceDeferred => "PREFERENCE_DEFERRED"
  | timezoneUnknown => "TIMEZONE_UNKNOWN"
  | senderIdentityRequired => "SENDER_IDENTITY_REQUIRED"
  | senderIdentityInvalid => "SENDER_IDENTITY_INVALID"
  | governanceKillSwitchActive => "GOVERNANCE_KILL_SWITCH_ACTIVE"
  | outboundTrafficDisabled => "OUTBOUND_TRAFFIC_DISABLED"
  | governanceVersionStale => "GOVERNANCE_VERSION_STALE"
  | governanceStateUnavailable => "GOVERNANCE_STATE_UNAVAILABLE"
  | governancePolicyVersionUnsupported => "GOVERNANCE_POLICY_VERSION_UNSUPPORTED"
  | callbackOverrideNotAllowed => "CALLBACK_OVERRIDE_NOT_ALLOWED"
  | callbackOverrideExpired => "CALLBACK_OVERRIDE_EXPIRED"
  | preferenceWindowClosed => "PREFERENCE_WINDOW_CLOSED"
  | quietHours => "QUIET_HOURS"
  | tenantHoliday => "TENANT_HOLIDAY"
  | minGap => "MIN_GAP"
  | dailyAttemptCap => "DAILY_ATTEMPT_CAP"
  | dailyTouchCap => "DAILY_TOUCH_CAP"

def all : List RuleCode :=
  [identityAmbiguous, identityNotFound, tenantScopeNotAllowed, teamSegmentNotAllowed,
    capabilityRequired, authorizationContextUnavailable, dncGlobal, purposeObjected,
    consentRevoked, consentRequired, consentExpired, lawfulBasisRequired,
    regulatoryRestriction, safetyRestriction, preferenceBlocked, preferenceDeferred,
    timezoneUnknown, senderIdentityRequired, senderIdentityInvalid,
    governanceKillSwitchActive, outboundTrafficDisabled, governanceVersionStale,
    governanceStateUnavailable, governancePolicyVersionUnsupported,
    callbackOverrideNotAllowed, callbackOverrideExpired, preferenceWindowClosed, quietHours,
    tenantHoliday, minGap, dailyAttemptCap, dailyTouchCap]

end RuleCode

inductive RuleClass where
  | nonOverridable
  | customerRequestScoped
  | approvalRequiredOperational

inductive OverrideMechanism where
  | customerCallback
  | approvedException
  deriving DecidableEq

inductive IdentityScopeKind where
  | exactIdentity
  | contactWide
  deriving DecidableEq

inductive RiskTier where
  | standard
  | high
  | emergency

/-- `CG4_PLATFORM_LIFETIME_CAP_SECONDS`. -/
def platformLifetimeCapSeconds : RiskTier → Nat
  | .standard => 4 * 60 * 60
  | .high => 24 * 60 * 60
  | .emergency => 30 * 60

structure RuleMetadata where
  ruleCode : String
  ruleClass : RuleClass
  overridable : Bool
  allowedOverrideMechanisms : List OverrideMechanism
  supportedExceptionScopes : List IdentityScopeKind
  riskFloor : Option RiskTier
  platformLifetimeCapSeconds : RiskTier → Nat

def allScopes : List IdentityScopeKind := [.exactIdentity, .contactWide]

/-- `rule` of the source: a rule is overridable when it lists a mechanism. -/
def ruleMetadata (ruleCode : String) (ruleClass : RuleClass)
    (mechanisms : List OverrideMechanism) (scopes : List IdentityScopeKind)
    (riskFloor : Option RiskTier) (lifetimeCapSeconds : RiskTier → Nat) : RuleMetadata where
  ruleCode := ruleCode
  ruleClass := ruleClass
  overridable := !mechanisms.isEmpty
  allowedOverrideMechanisms := mechanisms
  supportedExceptionScopes := scopes
  riskFloor := riskFloor
  platformLifetimeCapSeconds := lifetimeCapSeconds

/-- `hard`, and also the metadata of a code the registry does not know. -/
def hard (ruleCode : String) : RuleMetadata :=
  ruleMetadata ruleCode .nonOverridable [] [] none fun _ => 0

def callbackScoped (ruleCode : String) : RuleMetadata :=
  ruleMetadata ruleCode .customerRequestScoped [.customerCallback] allScopes
    (some .standard) platformLifetimeCapSeconds

def operational (ruleCode : String) (riskFloor : RiskTier)
    (mechanisms : List OverrideMechanism) : RuleMetadata :=
  ruleMetadata ruleCode .approvalRequiredOperational mechanisms allScopes (some riskFloor)
    platformLifetimeCapSeconds

/-- `CG4_RULE_REGISTRY`: what is not listed is a hard rule. -/
def ruleRegistry (code : RuleCode) : RuleMetadata :=
  match code with
  | .preferenceWindowClosed => callbackScoped code.text
  | .quietHours => operational code.text .standard [.customerCallback, .approvedException]
  | .tenantHoliday => operational code.text .standard [.customerCallback, .approvedException]
  | .minGap => operational code.text .high [.approvedException]
  | .dailyAttemptCap => operational code.text .high [.approvedException]
  | .dailyTouchCap => operational code.text .high [.approvedException]
  | _ => hard code.text

structure RuleResolution where
  known : Bool
  metadata : RuleMetadata

/-- A property lookup on the registry object also finds what the object inherits.
The value found is truthy and has none of the metadata fields. -/
def inheritedObjectKeys : List String :=
  ["constructor", "__defineGetter__", "__defineSetter__", "hasOwnProperty",
    "__lookupGetter__", "__lookupSetter__", "isPrototypeOf", "propertyIsEnumerable",
    "toString", "valueOf", "__proto__", "toLocaleString"]

def resolveCg4RuleMetadata (ruleCode : String) : RuleResolution :=
  match RuleCode.all.find? (fun code => code.text == ruleCode) with
  | some code => ⟨true, ruleRegistry code⟩
  | none => ⟨inheritedObjectKeys.contains ruleCode, hard ruleCode⟩

inductive OverrideIneligibility where
  | ruleNotRegistered
  | nonOverridableRule
  | overrideMechanismNotAllowed
  | scopeNotSupported
  | ruleNotEnabledByPolicy
  | ruleSetInvalid
  | riskTierTooLow
  | lifetimeExceedsCap

def RiskTier.rank : RiskTier → Nat
  | .standard => 0
  | .high => 1
  | .emergency => 2

structure OverrideEligibilityInput where
  ruleCode : String
  mechanism : OverrideMechanism
  identityScope : IdentityScopeKind
  policyAllowedRuleCodes : List String
  riskTier : RiskTier
  requestedRuleCount : Nat
  lifetimeSeconds : Int

/-- The floor rises to `HIGH` for a contact-wide scope or a set of rules. -/
def effectiveRiskFloor (input : OverrideEligibilityInput) (metadata : RuleMetadata) :
    Option RiskTier :=
  if input.identityScope = .contactWide ∨ input.requestedRuleCount > 1 then
    some .high
  else
    metadata.riskFloor

def resolveCg4OverrideEligibility (input : OverrideEligibilityInput) :
    Except OverrideIneligibility Nat :=
  let resolution := resolveCg4RuleMetadata input.ruleCode
  let metadata := resolution.metadata
  let cap := metadata.platformLifetimeCapSeconds input.riskTier
  if !resolution.known then
    .error .ruleNotRegistered
  else if !metadata.overridable then
    .error .nonOverridableRule
  else if !metadata.allowedOverrideMechanisms.contains input.mechanism then
    .error .overrideMechanismNotAllowed
  else if !metadata.supportedExceptionScopes.contains input.identityScope then
    .error .scopeNotSupported
  else if !input.policyAllowedRuleCodes.contains input.ruleCode then
    .error .ruleNotEnabledByPolicy
  else if input.requestedRuleCount = 0 then
    .error .ruleSetInvalid
  else if (effectiveRiskFloor input metadata).any
      (fun floor => decide (input.riskTier.rank < floor.rank)) then
    .error .riskTierTooLow
  else if input.lifetimeSeconds ≤ 0 ∨ input.lifetimeSeconds > cap then
    .error .lifetimeExceedsCap
  else
    .ok cap

theorem mechanism_of_eligible {input : OverrideEligibilityInput} {cap : Nat}
    (eligible : resolveCg4OverrideEligibility input = .ok cap) :
    input.mechanism ∈
      (resolveCg4RuleMetadata input.ruleCode).metadata.allowedOverrideMechanisms := by
  unfold resolveCg4OverrideEligibility at eligible
  by_contra absent
  simp only [List.contains_eq_mem, absent, decide_false, Bool.not_false, if_true] at eligible
  split at eligible
  · contradiction
  · split at eligible <;> contradiction

end DContact.Governance

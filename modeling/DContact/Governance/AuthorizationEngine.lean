import DContact.Governance.PolicyDiff

/-!
# Maker-checker authorization

Pure rules of the approval engine: which grant backs an action, who may vote on a
request, and how recorded approvals are counted against a quorum. Callers resolve
the subject and load the votes; nothing here reads a store.
-/

namespace DContact.Governance

open Lib

inductive Capability where
  | exceptionRequest
  | exceptionAmend
  | exceptionApproveStandard
  | exceptionApproveHigh
  | exceptionRevoke
  | policyDraft
  | policyPublish
  | policyPublishRelaxation
  | policyRollback
  deriving DecidableEq

def delegableCapabilities : List Capability := [.exceptionRequest, .exceptionApproveStandard]

inductive GrantSource where
  | direct
  | delegated
  deriving DecidableEq

structure CapabilityGrant where
  capability : Capability
  scopeKey : String
  source : GrantSource
  delegationId : Option String
  expiresAt : Option Instant

/-- The current authority of one human subject, as IAM has resolved it. -/
structure AuthorizationSubject where
  subjectId : String
  capabilities : List CapabilityGrant
  directComplianceAuthority : Bool
  emergencyAuthority : Bool
  authorizationEpoch : Nat
  scopeVersion : Nat

inductive AuthorizationError where
  | capabilityRequired (capability : Capability)
  | selfApprovalForbidden
  | duplicateChecker
  | delegationNotAllowed
  | quorumNotMet (required current : Nat)

def findActiveGrant (subject : AuthorizationSubject) (capability : Capability) (scopeKey : String)
    (now : Instant) : Option CapabilityGrant :=
  subject.capabilities.find? fun grant =>
    grant.capability == capability && grant.scopeKey == scopeKey &&
      grant.expiresAt.all fun expiresAt => decide (now < expiresAt)

/-- A delegated grant backs a request or a standard approval only. -/
def assertDelegationAllowed (capability : Capability) (grant : CapabilityGrant) :
    Except AuthorizationError Unit :=
  if grant.source = .delegated ∧ capability ∉ delegableCapabilities then
    .error .delegationNotAllowed
  else
    .ok ()

def requireGrant (subject : AuthorizationSubject) (capability : Capability) (scopeKey : String)
    (now : Instant) : Except AuthorizationError CapabilityGrant :=
  match findActiveGrant subject capability scopeKey now with
  | none => .error (.capabilityRequired capability)
  | some grant => do
      assertDelegationAllowed capability grant
      .ok grant

/-- A maker needs a grant and no quorum. -/
def assertCg4RequestAuthorization (subject : AuthorizationSubject) (capability : Capability)
    (scopeKey : String) (now : Instant) : Except AuthorizationError Unit := do
  let _ ← requireGrant subject capability scopeKey now
  .ok ()

/-- One recorded vote; what it decided is not part of it. -/
structure RecordedApproval where
  checkerSubjectId : String
  capability : Capability
  directComplianceAuthority : Bool
  emergencyAuthority : Bool
  source : GrantSource
  delegationId : Option String
  authorizationEpoch : Nat
  scopeVersion : Nat
  decidedAt : Instant

def assertCg4ApprovalAuthorization (requiredCapability : Capability)
    (checker : AuthorizationSubject) (scopeKey makerSubjectId : String)
    (existingApprovals : List RecordedApproval) (now : Instant) :
    Except AuthorizationError CapabilityGrant :=
  if checker.subjectId = makerSubjectId then
    .error .selfApprovalForbidden
  else if existingApprovals.any fun approval => approval.checkerSubjectId == checker.subjectId then
    .error .duplicateChecker
  else
    requireGrant checker requiredCapability scopeKey now

def resolveCg4RequiredExceptionCapability : RiskTier → Capability
  | .standard => .exceptionApproveStandard
  | _ => .exceptionApproveHigh

def resolveCg4RequiredPolicyCapability : DiffClass → Capability
  | .relaxation => .policyPublishRelaxation
  | _ => .policyPublish

structure QuorumRequirement where
  requiredApprovers : Nat
  requireDirectCompliance : Nat
  requireEmergencyAuthority : Nat
  emergencyAcknowledgementWindowSeconds : Option Nat

def resolveCg4ExceptionQuorum : RiskTier → QuorumRequirement
  | .standard => ⟨1, 0, 0, none⟩
  | .high => ⟨2, 1, 0, none⟩
  | .emergency => ⟨2, 1, 1, some (15 * 60)⟩

def resolveCg4PolicyQuorum : DiffClass → QuorumRequirement
  | .relaxation => ⟨2, 1, 0, none⟩
  | _ => ⟨1, 1, 0, none⟩

inductive QuorumStatus where
  | pending
  | met
  | rejected
  | emergencyActivatedAckPending
  | emergencyAckExpired
  deriving DecidableEq

structure QuorumEvaluation where
  status : QuorumStatus
  required : Nat
  current : Nat
  distinctApprovers : List String
  deriving DecidableEq

def quorumStatus (requirement : QuorumRequirement) (distinct : List RecordedApproval)
    (now : Instant) : QuorumStatus :=
  let compliance := (distinct.filter RecordedApproval.directComplianceAuthority).length
  let emergency := (distinct.filter RecordedApproval.emergencyAuthority).length
  let quorumSizeMet := requirement.requiredApprovers ≤ distinct.length
  let complianceMet := requirement.requireDirectCompliance ≤ compliance
  let emergencyMet := requirement.requireEmergencyAuthority ≤ emergency
  match requirement.emergencyAcknowledgementWindowSeconds with
  | some window =>
      match distinct.find? RecordedApproval.emergencyAuthority with
      | none => .pending
      | some activation =>
          if quorumSizeMet ∧ complianceMet ∧ emergencyMet then .met
          else if activation.decidedAt + window * 1000 < now then .emergencyAckExpired
          else .emergencyActivatedAckPending
  | none => if quorumSizeMet ∧ complianceMet then .met else .pending

/-- A later approval of the same subject takes the place of an earlier one. -/
def evaluateCg4Quorum (requirement : QuorumRequirement) (approvals : List RecordedApproval)
    (rejected : Bool) (now : Instant) : QuorumEvaluation :=
  let distinct := Table.ofEntries RecordedApproval.checkerSubjectId approvals
  { status := if rejected then .rejected else quorumStatus requirement distinct now
    required := requirement.requiredApprovers
    current := distinct.length
    distinctApprovers := distinct.map RecordedApproval.checkerSubjectId }

def assertCg4QuorumMet (evaluation : QuorumEvaluation) : Except AuthorizationError Unit :=
  if evaluation.status ≠ .met then .error (.quorumNotMet evaluation.required evaluation.current)
  else .ok ()

theorem quorumStatus_ne_rejected (requirement : QuorumRequirement)
    (distinct : List RecordedApproval) (now : Instant) :
    quorumStatus requirement distinct now ≠ .rejected := by
  unfold quorumStatus
  dsimp only
  repeat' split
  all_goals exact QuorumStatus.noConfusion

variable {requirement : QuorumRequirement} {approvals : List RecordedApproval} {rejected : Bool}
  {now : Instant}

/-- The status says that somebody rejected exactly when the caller says so. -/
theorem evaluateCg4Quorum_rejected_iff :
    (evaluateCg4Quorum requirement approvals rejected now).status = .rejected ↔
      rejected = true := by
  cases rejected with
  | true => simp [evaluateCg4Quorum]
  | false => simp [evaluateCg4Quorum, quorumStatus_ne_rejected]

theorem evaluateCg4Quorum_current
    (distinct : (approvals.map RecordedApproval.checkerSubjectId).Nodup) :
    (evaluateCg4Quorum requirement approvals rejected now).current = approvals.length := by
  simp [evaluateCg4Quorum, Table.ofEntries_of_nodup distinct]

end DContact.Governance

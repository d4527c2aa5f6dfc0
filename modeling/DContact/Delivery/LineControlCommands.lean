import DContact.Delivery.LineControlPlane

/-!
# The commands of the LINE control plane

What operators do to a gate, its allowlist, its credentials and its runs. Most commands look at a row
that the caller has read before, so that the update itself has to notice when it has changed. Nobody
approves a run that they have proposed.
-/

namespace DContact.Delivery

open Lib
open Governance (Instant)
open LineProgram
open LineControlStore (LineRunClosure)

def isSingleStepAdvance (source target : LineRolloutState) : Bool :=
  rolloutRank target = rolloutRank source + 1

def isLowering (source target : LineRolloutState) : Bool := rolloutRank target < rolloutRank source

/-- What an update under a version comes to. -/
def LineControlOutcome.ofUpdate {α : Type} : Option α → LineControlOutcome α
  | some value => .applied value
  | none => .stale

def ensureScope (actor : LineControlActor) (scope : LineGateScope) : LineProgram DlLineScopeGate := do
  assertControlAuthority actor.role .setTechnicalSwitch
  let id ← newId
  askControl (.ensureGate id scope)

def advanceState (actor : LineControlActor) (gate : DlLineScopeGate) (target : LineRolloutState)
    (configDigest : Option String) : LineProgram (LineControlOutcome DlLineScopeGate) := do
  assertControlAuthority actor.role .advanceState
  if gate.killed then pure (.denied .lineGateKilled)
  else if isSingleStepAdvance gate.businessState target = false then
    pure (.denied .lineGateInvalidTransition)
  else
    let digest := configDigest.or gate.configDigest
    if target ≠ .dryRun ∧ digest.isNone then pure (.denied .configDigestMismatch)
    else do
      let updated ← askControl (.compareAndSetGate gate.id gate.version
        ⟨some target, none, if digest = gate.configDigest then none else some digest⟩)
      pure (.ofUpdate updated)

def lowerState (actor : LineControlActor) (gate : DlLineScopeGate) (target : LineRolloutState) :
    LineProgram (LineControlOutcome DlLineScopeGate) := do
  assertControlAuthority actor.role .lowerState
  if isLowering gate.businessState target = false then pure (.denied .lineGateInvalidTransition)
  else do
    let updated ← askControl (.compareAndSetGate gate.id gate.version ⟨some target, none, none⟩)
    pure (.ofUpdate updated)

def setTechnicalSwitch (actor : LineControlActor) (gate : DlLineScopeGate) (on : Bool) :
    LineProgram (LineControlOutcome DlLineScopeGate) := do
  assertControlAuthority actor.role .setTechnicalSwitch
  if on ∧ gate.killed then pure (.denied .lineGateKilled)
  else do
    let updated ← askControl (.compareAndSetGate gate.id gate.version ⟨none, some on, none⟩)
    pure (.ofUpdate updated)

def operatorKillReasonFor : LineControlActorRole → LineKillReason
  | .compliance => .complianceKill
  | _ => .operatorKill

def killByActor (actor : LineControlActor) (gate : DlLineScopeGate) (now : Instant) :
    LineProgram DlLineScopeGate :=
  kill actor gate (operatorKillReasonFor actor.role) now

def clearWithApproval (actor : LineControlActor) (gate : DlLineScopeGate) (killClearedRef : String) :
    LineProgram (LineControlOutcome DlLineScopeGate) := do
  assertControlAuthority actor.role .clearKill
  if gate.killed = false then pure (.denied .lineGateInvalidTransition)
  else if gate.killClearedRef = some killClearedRef then
    pure (.denied .lineGateAuthorizationDenied)
  else do
    let updated ← askControl (.clearGateKill gate.id gate.version killClearedRef)
    pure (.ofUpdate updated)

structure RegisterLineAllowlistCommand where
  gateId : String
  scope : LineGateScope
  recipientFingerprint : String
  recipientProtectedRef : String
  contentRef : String
  contentDigest : String
  configDigest : String
  validFrom : Instant
  validUntil : Instant

def registerAllowlistEntry (actor : LineControlActor) (command : RegisterLineAllowlistCommand) :
    LineProgram DlLineAllowlistEntry := do
  assertControlAuthority actor.role .registerAllowlist
  let id ← newId
  askControl (.addAllowlistEntry command.scope
    { id := id
      gateId := command.gateId
      recipientFingerprint := command.recipientFingerprint
      recipientProtectedRef := command.recipientProtectedRef
      contentRef := command.contentRef
      contentDigest := command.contentDigest
      configDigest := command.configDigest
      validFrom := command.validFrom
      validUntil := command.validUntil
      revokedAt := none })

def revokeAllowlist (actor : LineControlActor) (id : String) (now : Instant) : LineProgram Bool := do
  assertControlAuthority actor.role .revokeAllowlist
  askControl (.revokeAllowlistEntry id now)

structure RegisterLineCredentialCommand where
  channelAccountId : String
  credentialKind : LineCredentialKind
  version : Nat
  expiresAt : Option Instant

def registerCredential (actor : LineControlActor) (command : RegisterLineCredentialCommand) :
    LineProgram DlLineCredentialRef := do
  assertControlAuthority actor.role .registerCredential
  let id ← newId
  askControl (.registerCredentialRef
    { id := id
      channelAccountId := command.channelAccountId
      credentialKind := command.credentialKind
      version := command.version
      status := .candidate
      expiresAt := command.expiresAt })

/-- The channel that the provider has answered with must be that of the candidate. -/
def verifyAndActivateCredential (actor : LineControlActor) (credentialId channelAccountId : String)
    (now : Instant) : LineProgram (LineControlOutcome DlLineCredentialRef) := do
  assertControlAuthority actor.role .activateCredential
  let candidate ← askControl (.findCredentialRef credentialId)
  match candidate with
  | none => pure (.denied .credentialUnavailable)
  | some candidate =>
      if candidate.channelAccountId ≠ channelAccountId then pure (.denied .credentialUnavailable)
      else if candidate.expiresAt.any fun expiry => expiry ≤ now then
        pure (.denied .credentialUnavailable)
      else do
        let activated ← askControl (.activateCredentialRef credentialId)
        pure (.ofUpdate activated)

def revokeCredential (actor : LineControlActor) (credentialId : String) : LineProgram Bool := do
  assertControlAuthority actor.role .revokeCredential
  askControl (.revokeCredentialRef credentialId)

structure ProposeLineRunCommand where
  gate : DlLineScopeGate
  allowlistEntry : DlLineAllowlistEntry
  credential : DlLineCredentialRef
  proposalRef : String
  proposedAt : Instant
  capProviderAttempts : Option Nat

/-- The part of a digest that only a trial has. -/
structure LineTrialBinding where
  trialRef : String
  contactId : String
  identityId : Option String

structure LineRunProposalDigestInput where
  run : DlLineRunAuthorization
  scope : LineGateScope
  recipientFingerprint : String
  contentDigest : String
  proposalRef : String
  trial : Option LineTrialBinding

/-- Half an hour, `LINE_PILOT_CAPS.runAuthorizationTtlMinutes`. -/
def lineRunExpiry (proposedAt : Instant) : Instant := proposedAt + 30 * 60000

/-- A token of the channel that is in use. -/
def DlLineCredentialRef.activeToken (credential : DlLineCredentialRef) : Bool :=
  credential.status = .active && !credential.credentialKind.secret

def proposedRun (actor : LineControlActor) (caps : LineRunCapSource) (gate : DlLineScopeGate)
    (entry : DlLineAllowlistEntry) (credential : DlLineCredentialRef)
    (capProviderAttempts : Option Nat) (proposedAt expiresAt : Instant) : DlLineRunAuthorization where
  toLineRunCapSource := caps
  id := ""
  gateId := gate.id
  allowlistEntryId := entry.id
  credentialRefId := credential.id
  credentialVersion := credential.version
  proposalDigest := ""
  configDigest := entry.configDigest
  capProviderAttempts := min (capProviderAttempts.getD providerAttemptsPerLogicalDelivery)
    providerAttemptsPerLogicalDelivery
  proposedBy := actor.ref
  proposedAt := proposedAt
  tenantAdminApprovedBy := none
  complianceApprovedBy := none
  expiresAt := expiresAt
  state := .proposed
  consumedDeliveryId := none

def pilotCapSource : LineRunCapSource := ⟨.pilot, linePilotDeliveryCaps.perRun, none, none, none⟩

/-- The proposal is made under the digest of all that its approvers see. -/
def createRun (digest : LineRunProposalDigestInput → String) (gate : DlLineScopeGate)
    (entry : DlLineAllowlistEntry) (proposalRef : String) (trial : Option LineTrialBinding)
    (run : DlLineRunAuthorization) : LineProgram DlLineRunAuthorization := do
  let id ← newId
  askControl (.proposeRun { run with
    id := id
    proposalDigest := digest
      { run := run
        scope := gate.scope
        recipientFingerprint := entry.recipientFingerprint
        contentDigest := entry.contentDigest
        proposalRef := proposalRef
        trial := trial } })

def proposeRun (digest : LineRunProposalDigestInput → String) (actor : LineControlActor)
    (command : ProposeLineRunCommand) : LineProgram (LineControlOutcome DlLineRunAuthorization) := do
  assertControlAuthority actor.role .proposeRun
  if command.gate.killed then pure (.denied .lineGateKilled)
  else if command.allowlistEntry.gateId ≠ command.gate.id ∨
      command.allowlistEntry.usable command.proposedAt = false then
    pure (.denied .lineGateScopeNotAllowed)
  else if command.gate.configDigest ≠ some command.allowlistEntry.configDigest then
    pure (.denied .configDigestMismatch)
  else if command.credential.activeToken = false ∨
      command.credential.expiresAt.any fun expiry => expiry ≤ lineRunExpiry command.proposedAt then
    pure (.denied .credentialUnavailable)
  else do
    let proposed ← createRun digest command.gate command.allowlistEntry command.proposalRef none
      (proposedRun actor pilotCapSource command.gate command.allowlistEntry command.credential
        command.capProviderAttempts command.proposedAt (lineRunExpiry command.proposedAt))
    pure (.applied proposed)

structure LineTrialRecipient where
  allowlistEntry : DlLineAllowlistEntry
  contactId : String
  identityId : Option String

structure ProposeLineTeamTrialCommand where
  gate : DlLineScopeGate
  credential : DlLineCredentialRef
  recipients : List LineTrialRecipient
  trialRef : String
  proposedAt : Instant
  ttlDays : Int
  perRecipientPer24h : Int
  per24h : Int
  lifetime : Int
  capProviderAttempts : Option Nat

def lineTeamTrialDays (days : Int) : Int := min (max days 1) 30

def lineTeamTrialExpiry (proposedAt : Instant) (days : Int) : Instant :=
  proposedAt + lineTeamTrialDays days * dayMs

/-- `trial-` and 36 digits or hyphens. -/
def isTrialRef (trialRef : String) : Bool :=
  let chars := trialRef.toList
  chars.take 6 = "trial-".toList && chars.length = 42 &&
    (chars.drop 6).all fun char => "0123456789abcdef-".toList.contains char

def lineTeamTrialContentClass : String := "content-class:text-500/v1"

/-- Why a recipient cannot be part of a trial. The entry must last as long as the trial. -/
def refuseTrialRecipient (command : ProposeLineTeamTrialCommand) (expiresAt : Instant)
    (recipient : LineTrialRecipient) : Option LineGateErrorCode :=
  let entry := recipient.allowlistEntry
  if entry.gateId ≠ command.gate.id ∨ entry.revokedAt.isSome ∨
      entry.contentRef ≠ lineTeamTrialContentClass ∨ command.proposedAt < entry.validFrom ∨
      entry.validUntil < expiresAt then some .lineGateScopeNotAllowed
  else if command.gate.configDigest ≠ some entry.configDigest then some .configDigestMismatch
  else none

/-- A number between one and a maximum. -/
def between (value : Int) (max : Nat) : Bool := 1 ≤ value && value ≤ max

def trialCapSource (command : ProposeLineTeamTrialCommand) : LineRunCapSource where
  profile := .teamTrial
  capLogicalDeliveries := min (command.perRecipientPer24h * lineTeamTrialDays command.ttlDays)
    lineTeamTrialMaxCaps.perRun
  capRecipientPer24h := some command.perRecipientPer24h
  capPer24h := some command.per24h
  capLifetime := some command.lifetime

def proposeTeamTrial (digest : LineRunProposalDigestInput → String) (actor : LineControlActor)
    (command : ProposeLineTeamTrialCommand) :
    LineProgram (LineControlOutcome (List DlLineRunAuthorization)) := do
  assertControlAuthority actor.role .proposeRun
  let expiresAt := lineTeamTrialExpiry command.proposedAt command.ttlDays
  if command.gate.killed then pure (.denied .lineGateKilled)
  else if isTrialRef command.trialRef = false ∨ command.recipients = [] ∨
      between command.perRecipientPer24h lineTeamTrialMaxCaps.perRecipientPer24h = false ∨
      between command.per24h lineTeamTrialMaxCaps.per24h = false ∨
      between command.lifetime lineTeamTrialMaxCaps.lifetime = false then
    pure (.denied .lineGateScopeNotAllowed)
  else if command.credential.activeToken = false ∨
      command.credential.expiresAt.any fun expiry => expiry ≤ expiresAt then
    pure (.denied .credentialUnavailable)
  else
    match command.recipients.findSome? (refuseTrialRecipient command expiresAt) with
    | some code => pure (.denied code)
    | none => do
        let runs ← Program.forEach command.recipients fun recipient =>
          createRun digest command.gate recipient.allowlistEntry
            (command.trialRef ++ ":" ++ recipient.allowlistEntry.id)
            (some ⟨command.trialRef, recipient.contactId, recipient.identityId⟩)
            (proposedRun actor (trialCapSource command) command.gate recipient.allowlistEntry
              command.credential command.capProviderAttempts command.proposedAt expiresAt)
        pure (.applied runs)

/-- Nobody approves a run that they have proposed. -/
def approveRun (actor : LineControlActor) (runId : String) (now : Instant) :
    LineProgram (LineControlOutcome DlLineRunAuthorization) := do
  let compliance := actor.role = .compliance
  assertControlAuthority actor.role
    (if compliance then .approveRunCompliance else .approveRunTenantAdmin)
  let found ← askControl (.findRun runId)
  match found with
  | none => pure (.denied .runAuthorizationMissing)
  | some run =>
      if run.proposedBy = actor.ref then pure (.denied .lineGateAuthorizationDenied)
      else if run.state ≠ .proposed then pure (.denied .runAuthorizationMissing)
      else if run.expiresAt < now then pure (.denied .runAuthorizationExpired)
      else do
        let approved ← askControl (.approveRun runId
          (if compliance then .compliance else .tenantAdmin) actor.ref)
        pure (.ofUpdate approved)

def closeRun (actor : LineControlActor) (runId : String) (closure : LineRunClosure) :
    LineProgram Bool := do
  assertControlAuthority actor.role .closeRun
  askControl (.closeRun runId closure)

end DContact.Delivery

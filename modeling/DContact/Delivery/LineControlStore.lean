import DContact.Delivery.LineControlPolicy

/-!
# The store of the LINE control plane

Gates, allowlist entries, credential references and run authorizations of one tenant, with the
updates that the repository makes. What was approved is pinned: a gate changes under its version, an
allowlist entry can only be revoked, and a run moves on from a proposal to its end.
-/

namespace DContact.Delivery

open Lib
open Governance (Instant)

structure GateLatch where
  id : String
  killed : Bool

def GateLatch.latch (killed : Bool) (gate : GateLatch) : GateLatch := { gate with killed := killed }

@[simp] theorem GateLatch.latch_id (killed : Bool) (gate : GateLatch) :
    (gate.latch killed).id = gate.id := rfl

structure LineGateScope where
  channelAccountId : String
  senderIdentityId : String
  purpose : String
  contactKind : String
  deriving DecidableEq

inductive LineRolloutState where
  | disabled
  | dryRun
  | providerConformance
  | cappedPilot
  deriving DecidableEq

def rolloutRank : LineRolloutState → Nat
  | .disabled => 0
  | .dryRun => 1
  | .providerConformance => 2
  | .cappedPilot => 3

inductive LineKillReason where
  | allowlistBindingMismatch
  | unknownOutcomeExpired
  | providerAttemptsExhausted
  | authFailure
  | quotaExhausted
  | capAccountingInconsistency
  | operatorKill
  | complianceKill
  deriving DecidableEq

structure DlLineScopeGate extends GateLatch where
  scope : LineGateScope
  businessState : LineRolloutState
  technicalSwitchOn : Bool
  configDigest : Option String
  version : Nat
  killReason : Option LineKillReason
  killedAt : Option Instant
  killClearedRef : Option String

structure DlLineAllowlistEntry where
  id : String
  gateId : String
  recipientFingerprint : String
  recipientProtectedRef : String
  contentRef : String
  contentDigest : String
  configDigest : String
  validFrom : Instant
  validUntil : Instant
  revokedAt : Option Instant
  deriving DecidableEq

inductive LineCredentialKind where
  | channelAccessTokenV21
  | channelAccessTokenLongLived
  | channelSecret
  deriving DecidableEq

inductive LineCredentialStatus where
  | candidate
  | active
  | retired
  | revoked
  deriving DecidableEq

structure DlLineCredentialRef where
  id : String
  channelAccountId : String
  credentialKind : LineCredentialKind
  version : Nat
  status : LineCredentialStatus
  expiresAt : Option Instant
  deriving DecidableEq

/-- The tokens of a channel are one class, and its secret is the other. -/
def LineCredentialKind.secret (kind : LineCredentialKind) : Bool := kind = .channelSecret

inductive LineRunAuthorizationState where
  | proposed
  | approved
  | consumed
  | expired
  | revoked
  deriving DecidableEq

structure DlLineRunAuthorization extends LineRunCapSource where
  id : String
  gateId : String
  allowlistEntryId : String
  credentialRefId : String
  credentialVersion : Nat
  proposalDigest : String
  configDigest : String
  capProviderAttempts : Nat
  proposedBy : String
  proposedAt : Instant
  tenantAdminApprovedBy : Option String
  complianceApprovedBy : Option String
  expiresAt : Instant
  state : LineRunAuthorizationState
  consumedDeliveryId : Option String
  deriving DecidableEq

structure LineControlStore where
  gates : List DlLineScopeGate
  allowlist : List DlLineAllowlistEntry
  credentials : List DlLineCredentialRef
  runs : List DlLineRunAuthorization
  ledger : List DlLineCapLedgerEntry

inductive LineControlError where
  | bindingRejected
  | idempotencyConflict
  | uniqueViolation
  | checkViolation
  | guardViolation

def LineCapError.control : LineCapError → LineControlError
  | .bindingRejected => .bindingRejected
  | .idempotencyConflict => .idempotencyConflict
  | .uniqueViolation => .uniqueViolation
  | .checkViolation => .checkViolation

namespace LineControlStore

variable (store : LineControlStore)

def findGate (scope : LineGateScope) : Option DlLineScopeGate :=
  store.gates.find? fun gate => gate.scope = scope

def gate (gateId : String) : Option DlLineScopeGate :=
  Table.lookup (fun gate => gate.id) gateId store.gates

def withGate (gateId : String) (rewrite : DlLineScopeGate → DlLineScopeGate) : LineControlStore :=
  { store with gates := Table.update (fun gate => gate.id) gateId rewrite store.gates }

/-- `ensureGate` creates a gate that is disabled. -/
def ensureGate (id : String) (scope : LineGateScope) :
    Except LineControlError (DlLineScopeGate × LineControlStore) :=
  match store.findGate scope with
  | some gate => .ok (gate, store)
  | none =>
      if (store.gate id).isSome then .error .uniqueViolation
      else
        let gate : DlLineScopeGate :=
          { id := id, killed := false, scope := scope, businessState := .disabled,
            technicalSwitchOn := false, configDigest := none, version := 1, killReason := none,
            killedAt := none, killClearedRef := none }
        .ok (gate, { store with gates := store.gates ++ [gate] })

structure LineGatePatch where
  businessState : Option LineRolloutState
  technicalSwitchOn : Option Bool
  configDigest : Option (Option String)
  deriving DecidableEq

def LineGatePatch.apply (patch : LineGatePatch) (gate : DlLineScopeGate) : DlLineScopeGate :=
  { gate with
    businessState := patch.businessState.getD gate.businessState
    technicalSwitchOn := patch.technicalSwitchOn.getD gate.technicalSwitchOn
    configDigest := patch.configDigest.getD gate.configDigest
    version := gate.version + 1 }

/-- What the trigger and the checks of the table let pass. -/
def gateUpdateAllowed (before after : DlLineScopeGate) : Bool :=
  rolloutRank after.businessState ≤ rolloutRank before.businessState + 1 &&
    (!(before.killed || after.killed) ||
      rolloutRank after.businessState ≤ rolloutRank before.businessState) &&
    !(after.killed && after.technicalSwitchOn) &&
    (rolloutRank after.businessState ≤ 1 || after.configDigest.isSome)

/-- `compareAndSetGate`: nothing if somebody has changed the gate before. -/
def compareAndSetGate (gateId : String) (expectedVersion : Nat) (patch : LineGatePatch) :
    Except LineControlError (Option DlLineScopeGate × LineControlStore) :=
  match (store.gate gateId).filter fun gate => gate.version = expectedVersion with
  | none => .ok (none, store)
  | some gate =>
      if gateUpdateAllowed gate (patch.apply gate) then
        .ok (some (patch.apply gate), store.withGate gateId patch.apply)
      else .error .guardViolation

def kill (reason : LineKillReason) (now : Instant) (gate : DlLineScopeGate) : DlLineScopeGate :=
  if gate.killed then gate
  else
    { gate with
      killed := true
      killReason := some reason
      killedAt := some now
      technicalSwitchOn := false
      version := gate.version + 1 }

/-- `killGate`: the first kill gives the reason, and a later one changes nothing. -/
def killGate (gateId : String) (reason : LineKillReason) (now : Instant) :
    Except LineControlError (DlLineScopeGate × LineControlStore) :=
  match store.gate gateId with
  | none => .error .bindingRejected
  | some gate => .ok (kill reason now gate, store.withGate gateId (kill reason now))

def clearKill (killClearedRef : String) (gate : DlLineScopeGate) : DlLineScopeGate :=
  { gate with
    killed := false
    killReason := none
    killedAt := none
    killClearedRef := some killClearedRef
    businessState := .disabled
    version := gate.version + 1 }

/-- `clearGateKill`; the trigger asks for a reference that is new. -/
def clearGateKill (gateId : String) (expectedVersion : Nat) (killClearedRef : String) :
    Except LineControlError (Option DlLineScopeGate × LineControlStore) :=
  match (store.gate gateId).filter fun gate => gate.version = expectedVersion && gate.killed with
  | none => .ok (none, store)
  | some gate =>
      if gate.killClearedRef = some killClearedRef then .error .guardViolation
      else .ok (some (clearKill killClearedRef gate),
        store.withGate gateId (clearKill killClearedRef))

def findAllowlistEntry (id : String) : Option DlLineAllowlistEntry :=
  Table.lookup DlLineAllowlistEntry.id id store.allowlist

def findAllowlistEntryByTuple (gateId recipientFingerprint contentDigest configDigest : String) :
    Option DlLineAllowlistEntry :=
  store.allowlist.find? fun entry => entry.gateId = gateId &&
    entry.recipientFingerprint = recipientFingerprint && entry.contentDigest = contentDigest &&
    entry.configDigest = configDigest

/-- `addAllowlistEntry`; the tuple carries the scope of its gate. -/
def addAllowlistEntry (scope : LineGateScope) (entry : DlLineAllowlistEntry) :
    Except LineControlError (DlLineAllowlistEntry × LineControlStore) :=
  if !(store.gate entry.gateId).any fun gate => gate.scope = scope then .error .bindingRejected
  else if entry.validUntil ≤ entry.validFrom then .error .checkViolation
  else if (store.findAllowlistEntry entry.id).isSome || (store.findAllowlistEntryByTuple entry.gateId
      entry.recipientFingerprint entry.contentDigest entry.configDigest).isSome then
    .error .uniqueViolation
  else
    let created := { entry with revokedAt := none }
    .ok (created, { store with allowlist := store.allowlist ++ [created] })

def revoke (now : Instant) (entry : DlLineAllowlistEntry) : DlLineAllowlistEntry :=
  { entry with revokedAt := entry.revokedAt.or (some now) }

def revokeAllowlistEntry (id : String) (now : Instant) : Bool × LineControlStore :=
  match (store.findAllowlistEntry id).filter fun entry => entry.revokedAt.isNone with
  | none => (false, store)
  | some _ =>
      (true, { store with
        allowlist := Table.update DlLineAllowlistEntry.id id (revoke now) store.allowlist })

def findCredentialRef (id : String) : Option DlLineCredentialRef :=
  Table.lookup DlLineCredentialRef.id id store.credentials

def findActiveCredentialRef (channelAccountId : String) (secret : Bool) :
    Option DlLineCredentialRef :=
  store.credentials.find? fun credential => credential.channelAccountId = channelAccountId &&
    credential.status = .active && credential.credentialKind.secret = secret

def registerCredentialRef (credential : DlLineCredentialRef) :
    Except LineControlError (DlLineCredentialRef × LineControlStore) :=
  if store.credentials.any fun other => other.id = credential.id ||
      other.channelAccountId = credential.channelAccountId &&
        other.credentialKind = credential.credentialKind && other.version = credential.version then
    .error .uniqueViolation
  else
    let created := { credential with status := .candidate }
    .ok (created, { store with credentials := store.credentials ++ [created] })

def withStatus (status : LineCredentialStatus) (credential : DlLineCredentialRef) :
    DlLineCredentialRef :=
  { credential with status := status }

/-- `activateCredentialRef`: the active reference of the class retires in the same transaction. -/
def activateCredentialRef (id : String) : Option DlLineCredentialRef × LineControlStore :=
  match (store.findCredentialRef id).filter fun credential => credential.status = .candidate with
  | none => (none, store)
  | some candidate =>
      let retire (other : DlLineCredentialRef) : DlLineCredentialRef :=
        if other.channelAccountId = candidate.channelAccountId ∧ other.status = .active ∧
            other.credentialKind.secret = candidate.credentialKind.secret then
          withStatus .retired other
        else other
      (some (withStatus .active candidate), { store with
        credentials := Table.update DlLineCredentialRef.id id (withStatus .active)
          (store.credentials.map retire) })

def revokeCredentialRef (id : String) : Bool × LineControlStore :=
  match (store.findCredentialRef id).filter fun credential => credential.status ≠ .revoked with
  | none => (false, store)
  | some _ =>
      (true, { store with
        credentials := Table.update DlLineCredentialRef.id id (withStatus .revoked)
          store.credentials })

def findRun (id : String) : Option DlLineRunAuthorization :=
  Table.lookup DlLineRunAuthorization.id id store.runs

def withRun (id : String) (rewrite : DlLineRunAuthorization → DlLineRunAuthorization) :
    LineControlStore :=
  { store with runs := Table.update DlLineRunAuthorization.id id rewrite store.runs }

def proposal (run : DlLineRunAuthorization) : DlLineRunAuthorization :=
  { run with
    tenantAdminApprovedBy := none
    complianceApprovedBy := none
    state := .proposed
    consumedDeliveryId := none }

/-- `proposeRun`: a digest that is known answers with its run, if it binds the same. -/
def proposeRun (run : DlLineRunAuthorization) :
    Except LineControlError (DlLineRunAuthorization × LineControlStore) :=
  if !(1 ≤ run.capProviderAttempts && run.capProviderAttempts ≤ 4 &&
      run.proposedAt < run.expiresAt) then .error .checkViolation
  else if store.runs.any fun other => other.id = run.id || other.proposalDigest = run.proposalDigest
  then
    match store.runs.find? fun other => other.proposalDigest = run.proposalDigest with
    | some existing =>
        if existing.gateId = run.gateId ∧ existing.allowlistEntryId = run.allowlistEntryId ∧
            existing.credentialRefId = run.credentialRefId ∧
            existing.credentialVersion = run.credentialVersion ∧
            existing.configDigest = run.configDigest then
          .ok (existing, store)
        else .error .idempotencyConflict
    | none => .error .idempotencyConflict
  else if !(store.allowlist.any fun entry => entry.id = run.allowlistEntryId &&
        entry.gateId = run.gateId) ||
      !(store.credentials.any fun credential => credential.id = run.credentialRefId &&
        credential.version = run.credentialVersion) then .error .bindingRejected
  else .ok (proposal run, { store with runs := store.runs ++ [proposal run] })

inductive LineRunApprovalRole where
  | tenantAdmin
  | compliance
  deriving DecidableEq

/-- The approval of one role, and the move to approved once both roles have given theirs. -/
def approve (role : LineRunApprovalRole) (actor : String) (run : DlLineRunAuthorization) :
    DlLineRunAuthorization :=
  let given : DlLineRunAuthorization :=
    match role with
    | .tenantAdmin => { run with tenantAdminApprovedBy := some actor }
    | .compliance => { run with complianceApprovedBy := some actor }
  if given.tenantAdminApprovedBy.isSome && given.complianceApprovedBy.isSome then
    { given with state := .approved }
  else given

def approvable (role : LineRunApprovalRole) (run : DlLineRunAuthorization) : Bool :=
  run.state = .proposed &&
    match role with
    | .tenantAdmin => run.tenantAdminApprovedBy.isNone
    | .compliance => run.complianceApprovedBy.isNone

/-- `approveRun`: each role approves once, while the run is proposed. -/
def approveRun (id : String) (role : LineRunApprovalRole) (actor : String) :
    Option DlLineRunAuthorization × LineControlStore :=
  match (store.findRun id).filter (approvable role) with
  | none => (none, store)
  | some run => (some (approve role actor run), store.withRun id (approve role actor))

inductive ConsumeLineRunResult where
  | consumed (authorization : DlLineRunAuthorization)
  | denied (code : LineGateErrorCode)

def consume (deliveryId : String) (run : DlLineRunAuthorization) : DlLineRunAuthorization :=
  { run with state := .consumed, consumedDeliveryId := some deliveryId }

/-- `consumeRun`: one delivery consumes one run, and a run is consumed once. -/
def consumeRun (id deliveryId : String) (now : Instant) :
    Except LineControlError (ConsumeLineRunResult × LineControlStore) :=
  match store.findRun id with
  | none => .ok (.denied .runAuthorizationMissing, store)
  | some run =>
      if run.state = .approved ∧ now ≤ run.expiresAt then
        if run.profile = .teamTrial then .error .checkViolation
        else if store.runs.any fun other => other.consumedDeliveryId = some deliveryId then
          .error .idempotencyConflict
        else .ok (.consumed (consume deliveryId run), store.withRun id (consume deliveryId))
      else
        match run.state with
        | .proposed | .revoked => .ok (.denied .runAuthorizationMissing, store)
        | .consumed => .ok (.denied .runAuthorizationConsumed, store)
        | _ => .ok (.denied .runAuthorizationExpired, store)

inductive LineRunClosure where
  | expired
  | revoked
  deriving DecidableEq

def close (closure : LineRunClosure) (run : DlLineRunAuthorization) : DlLineRunAuthorization :=
  { run with
    state := match closure with
      | .expired => .expired
      | .revoked => .revoked }

def closeRun (id : String) (closure : LineRunClosure) : Bool × LineControlStore :=
  match (store.findRun id).filter fun run => run.state = .proposed || run.state = .approved with
  | none => (false, store)
  | some _ => (true, store.withRun id (close closure))

def reserveCap (input : ReserveLineCapInput) :
    Except LineControlError (ReserveLineCapResult × LineControlStore) :=
  match store.gate input.gateId with
  | none => .error .bindingRejected
  | some gate =>
      match Delivery.reserveCap gate.killed store.ledger input with
      | .error error => .error error.control
      | .ok (answer, ledger) => .ok (answer, { store with ledger := ledger })

def settleCap (deliveryId : String) (capKind : LineCapKind) (attemptNo : Nat)
    (settlement : LineCapSettlement) (now : Instant) :
    Except LineControlError (Bool × LineControlStore) :=
  match Delivery.settleCap store.ledger deliveryId capKind attemptNo settlement now with
  | .error error => .error error.control
  | .ok (settled, ledger) => .ok (settled, { store with ledger := ledger })

def listActiveCapEntries (gateId : String) (capKind : LineCapKind) : List DlLineCapLedgerEntry :=
  store.ledger.filter fun entry => entry.gateId = gateId && entry.capKind = capKind &&
    entry.state = .reserved

end LineControlStore

end DContact.Delivery

import DContact.Delivery.LineRequests

/-!
# The LINE control plane

The programs that decide whether a delivery may be pushed. The evaluation only reads. A run begins
by consuming its authorization and reserving its caps, in that order, and every refusal says why.
-/

namespace DContact.Delivery

open Lib
open Governance (Instant)
open LineProgram
open LineControlStore (ConsumeLineRunResult)

inductive LineProviderOperation where
  | localValidation
  | tokenVerify
  | quotaRead
  | messageValidate
  | webhookTest
  | push
  deriving DecidableEq

/-- `LINE_OPERATION_MINIMUM_STATE` -/
def lineOperationMinimumState : LineProviderOperation → LineRolloutState
  | .localValidation => .dryRun
  | .tokenVerify | .quotaRead | .messageValidate | .webhookTest => .providerConformance
  | .push => .cappedPilot

def allowsOperation (state : LineRolloutState) (operation : LineProviderOperation) : Bool :=
  state ≠ .disabled && rolloutRank (lineOperationMinimumState operation) ≤ rolloutRank state

def needsProviderCredential (operation : LineProviderOperation) : Bool :=
  operation ≠ .localValidation

structure LineQuotaSnapshot where
  limited : Bool
  targetLimit : Option Int
  totalUsage : Int
  observedAt : Instant

inductive LineQuotaAdvisoryStatus where
  | ok
  | exhausted
  | stale
  | unavailable

/-- Half the time that a run stays valid. -/
def lineQuotaSnapshotMaxAgeMs : Int := 15 * 60000

/-- The quota may only refuse. One message is asked for. -/
def evaluateQuotaAdvisory (snapshot : Option LineQuotaSnapshot) (now : Instant) :
    LineQuotaAdvisoryStatus :=
  match snapshot with
  | none => .unavailable
  | some snapshot =>
      let age := now - snapshot.observedAt
      if age < 0 ∨ lineQuotaSnapshotMaxAgeMs < age then .stale
      else if snapshot.limited = false then .ok
      else
        match snapshot.targetLimit with
        | none => .unavailable
        | some limit => if 1 ≤ limit - snapshot.totalUsage then .ok else .exhausted

inductive LineControlSignal where
  | allowlistBindingMismatch
  | unknownOutcomeExpired
  | providerAttemptsExhausted
  | authFailure
  | quotaExhausted
  | capAccountingInconsistency

def automaticKillReasonFor : LineControlSignal → LineKillReason
  | .allowlistBindingMismatch => .allowlistBindingMismatch
  | .unknownOutcomeExpired => .unknownOutcomeExpired
  | .providerAttemptsExhausted => .providerAttemptsExhausted
  | .authFailure => .authFailure
  | .quotaExhausted => .quotaExhausted
  | .capAccountingInconsistency => .capAccountingInconsistency

structure LineGateEvaluationRequest where
  scope : LineGateScope
  operation : LineProviderOperation
  now : Instant
  configDigest : Option String
  quota : Option LineQuotaSnapshot
  runAuthorizationId : Option String
  deliveryId : Option String
  recipientFingerprint : Option String
  contentDigest : Option String

structure LineGateDenied where
  code : LineGateErrorCode
  signal : Option LineControlSignal

/-- A refusal without a signal. -/
def LineGateDenied.of (code : LineGateErrorCode) : LineGateDenied := ⟨code, none⟩

structure LineGateAllowed where
  gate : DlLineScopeGate
  credential : Option DlLineCredentialRef
  allowlistEntry : Option DlLineAllowlistEntry
  run : Option DlLineRunAuthorization
  alreadyConsumed : Bool

inductive LineGateDecision where
  | allowed (allowed : LineGateAllowed)
  | denied (denied : LineGateDenied)

def DlLineAllowlistEntry.usable (entry : DlLineAllowlistEntry) (now : Instant) : Bool :=
  entry.revokedAt.isNone && entry.validFrom ≤ now && now < entry.validUntil

def matchedAllowlistEntry (gate : DlLineScopeGate) (request : LineGateEvaluationRequest) :
    LineProgram (Option DlLineAllowlistEntry) :=
  match request.recipientFingerprint, request.contentDigest, request.configDigest with
  | some recipientFingerprint, some contentDigest, some configDigest => do
      let entry ← askControl (.findAllowlistEntryByTuple gate.id recipientFingerprint contentDigest
        configDigest)
      pure (Option.filter (fun entry => entry.usable request.now) entry)
  | _, _, _ => pure none

/-- What the state of a run says to one more delivery. -/
def runDecision (gate : DlLineScopeGate) (credential : DlLineCredentialRef)
    (entry : DlLineAllowlistEntry) (run : DlLineRunAuthorization)
    (request : LineGateEvaluationRequest) : LineGateDecision :=
  let allowed (alreadyConsumed : Bool) : LineGateDecision :=
    .allowed ⟨gate, some credential, some entry, some run, alreadyConsumed⟩
  match run.state with
  | .consumed =>
      if request.deliveryId.isSome ∧ run.consumedDeliveryId = request.deliveryId then allowed true
      else .denied (.of .runAuthorizationConsumed)
  | .expired => .denied (.of .runAuthorizationExpired)
  | .approved =>
      if run.expiresAt < request.now then .denied (.of .runAuthorizationExpired)
      else allowed false
  | _ => .denied (.of .runAuthorizationMissing)

/-- The checks on the entry of a run. A mismatch within an approved run is a bypass. -/
def entryDecision (gate : DlLineScopeGate) (credential : DlLineCredentialRef)
    (run : DlLineRunAuthorization) (request : LineGateEvaluationRequest)
    (entry : Option DlLineAllowlistEntry) : LineGateDecision :=
  match entry.filter fun entry => entry.usable request.now with
  | none => .denied (.of .lineGateScopeNotAllowed)
  | some entry =>
      if some entry.recipientFingerprint ≠ request.recipientFingerprint ∨
          some entry.contentDigest ≠ request.contentDigest ∨
          some entry.configDigest ≠ request.configDigest then
        .denied ⟨.lineGateScopeNotAllowed, some .allowlistBindingMismatch⟩
      else if run.credentialRefId ≠ credential.id ∨ run.credentialVersion ≠ credential.version then
        .denied (.of .credentialVersionMismatch)
      else runDecision gate credential entry run request

/-- The part of the evaluation that only a push goes through. -/
def evaluatePush (gate : DlLineScopeGate) (credential : DlLineCredentialRef)
    (request : LineGateEvaluationRequest) : LineProgram LineGateDecision :=
  match request.runAuthorizationId with
  | none => pure (.denied (.of .runAuthorizationMissing))
  | some runAuthorizationId =>
      if request.recipientFingerprint.isNone ∨ request.contentDigest.isNone then
        pure (.denied (.of .runAuthorizationMissing))
      else do
        let found ← askControl (.findRun runAuthorizationId)
        match Option.filter (fun run => run.gateId = gate.id) found with
        | none => pure (.denied (.of .runAuthorizationMissing))
        | some run =>
            if some run.configDigest ≠ gate.configDigest then
              pure (.denied ⟨.configDigestMismatch, some .allowlistBindingMismatch⟩)
            else do
              let entry ← askControl (.findAllowlistEntry run.allowlistEntryId)
              pure (entryDecision gate credential run request entry)

def evaluateProvider (gate : DlLineScopeGate) (request : LineGateEvaluationRequest) :
    LineProgram LineGateDecision :=
  if gate.configDigest.isNone ∨ gate.configDigest ≠ request.configDigest then
    pure (.denied (.of .configDigestMismatch))
  else do
    let found ← askControl (.findActiveCredentialRef gate.scope.channelAccountId false)
    match Option.filter (fun credential => credential.expiresAt.all fun expiry => request.now < expiry)
        found with
    | none => pure (.denied (.of .credentialUnavailable))
    | some credential =>
        match evaluateQuotaAdvisory request.quota request.now with
        | .exhausted => pure (.denied ⟨.lineGateAuthorizationDenied, some .quotaExhausted⟩)
        | .stale | .unavailable => pure (.denied (.of .lineGateAuthorizationDenied))
        | .ok =>
            if request.operation ≠ .push then
              pure (.allowed ⟨gate, some credential, none, none, false⟩)
            else evaluatePush gate credential request

/-- A dry run still looks for the entry when it is told a recipient or a content. -/
def evaluateLocally (gate : DlLineScopeGate) (request : LineGateEvaluationRequest) :
    LineProgram LineGateDecision :=
  if request.recipientFingerprint.isSome ∨ request.contentDigest.isSome then do
    let entry ← matchedAllowlistEntry gate request
    match entry with
    | none => pure (.denied (.of .lineGateScopeNotAllowed))
    | some entry => pure (.allowed ⟨gate, none, some entry, none, false⟩)
  else pure (.allowed ⟨gate, none, none, none, false⟩)

def evaluate (request : LineGateEvaluationRequest) : LineProgram LineGateDecision := do
  let found ← askControl (.findGate request.scope)
  match found with
  | none => pure (.denied (.of .lineGateScopeNotAllowed))
  | some gate =>
      if gate.killed then pure (.denied (.of .lineGateKilled))
      else if gate.technicalSwitchOn = false then pure (.denied (.of .lineGateTechnicalSwitchOff))
      else if allowsOperation gate.businessState request.operation = false then
        pure (.denied (.of .lineGateAuthorizationDenied))
      else if needsProviderCredential request.operation = false then evaluateLocally gate request
      else evaluateProvider gate request

def kill (actor : LineControlActor) (gate : DlLineScopeGate) (reason : LineKillReason)
    (now : Instant) : LineProgram DlLineScopeGate := do
  assertControlAuthority actor.role .kill
  askControl (.killGate gate.id reason now)

def killOnSignal (gate : DlLineScopeGate) (signal : LineControlSignal) (now : Instant) :
    LineProgram DlLineScopeGate :=
  kill ⟨.system, "system"⟩ gate (automaticKillReasonFor signal) now

structure BeginLineRunCommand where
  scope : LineGateScope
  runAuthorizationId : String
  deliveryId : String
  recipientFingerprint : String
  contentDigest : String
  configDigest : String
  quota : Option LineQuotaSnapshot
  now : Instant

inductive LineBarrier where
  | pre
  | post
  deriving DecidableEq

structure LineRunGrant where
  gate : DlLineScopeGate
  run : DlLineRunAuthorization
  allowlistEntry : DlLineAllowlistEntry
  credential : DlLineCredentialRef
  logicalDelivery : DlLineCapLedgerEntry
  barrier : LineBarrier
  concurrencySlot : Option DlLineCapLedgerEntry

inductive LineRunResult where
  | authorized (grant : LineRunGrant)
  | denied (denied : LineGateDenied)

/-- A refusal that carries a signal kills the gate. -/
def denyRun (command : BeginLineRunCommand) (denied : LineGateDenied) :
    LineProgram LineRunResult :=
  match denied.signal with
  | none => pure (.denied denied)
  | some signal => do
      let gate ← askControl (.findGate command.scope)
      match gate with
      | none => pure (.denied denied)
      | some gate => do
          let _ ← killOnSignal gate signal command.now
          pure (.denied denied)

def reserve (command : BeginLineRunCommand) (gateId runAuthorizationId : String)
    (capKind : LineCapKind) (runCapProviderAttempts attemptNo : Option Nat)
    (deliveryCaps : Option LineDeliveryCaps) : LineProgram ReserveLineCapResult := do
  let id ← newId
  askControl (.reserveCap
    { id := id
      gateId := gateId
      runAuthorizationId := runAuthorizationId
      deliveryId := command.deliveryId
      capKind := capKind
      attemptNo := attemptNo
      recipientFingerprint := command.recipientFingerprint
      reservedAt := command.now
      limits := lineCapLimits ⟨capKind, command.now, runCapProviderAttempts, deliveryCaps⟩ })

/-- The slot of a submission. Before the barrier a unit that was just reserved is given back. -/
def reserveSlot (command : BeginLineRunCommand) (allowed : LineGateAllowed)
    (run : DlLineRunAuthorization) (allowlistEntry : DlLineAllowlistEntry)
    (credential : DlLineCredentialRef) (logicalDelivery : DlLineCapLedgerEntry) (replay : Bool) :
    LineProgram LineRunResult := do
  let slot ← reserve command allowed.gate.id run.id .concurrentSubmission none none none
  match slot with
  | .denied code => do
      if replay then denyRun command (.of code)
      else do
        let _ ← askControl (.settleCap command.deliveryId .logicalDelivery 0 .released command.now)
        denyRun command (.of code)
  | .reserved slot _ =>
      if slot.state ≠ .reserved then
        denyRun command ⟨.capAccountingInconsistency, some .capAccountingInconsistency⟩
      else
        pure (.authorized
          ⟨allowed.gate, run, allowlistEntry, credential, logicalDelivery, .pre, some slot⟩)

def reserveDelivery (command : BeginLineRunCommand) (allowed : LineGateAllowed)
    (run : DlLineRunAuthorization) (allowlistEntry : DlLineAllowlistEntry)
    (credential : DlLineCredentialRef) : LineProgram LineRunResult := do
  let logical ← reserve command allowed.gate.id run.id .logicalDelivery
    (some run.capProviderAttempts) none (some (lineDeliveryCapsFor run.toLineRunCapSource))
  match logical with
  | .denied code => denyRun command (.of code)
  | .reserved entry replay =>
      match entry.state with
      | .released =>
          denyRun command ⟨.capAccountingInconsistency, some .capAccountingInconsistency⟩
      | .committed =>
          pure (.authorized ⟨allowed.gate, run, allowlistEntry, credential, entry, .post, none⟩)
      | .reserved => reserveSlot command allowed run allowlistEntry credential entry replay

def consumeDelivery (command : BeginLineRunCommand) (allowed : LineGateAllowed)
    (run : DlLineRunAuthorization) (allowlistEntry : DlLineAllowlistEntry)
    (credential : DlLineCredentialRef) : LineProgram LineRunResult :=
  if allowed.alreadyConsumed = false ∧ run.profile ≠ .teamTrial then do
    let consumed ← askControl (.consumeRun run.id command.deliveryId command.now)
    match consumed with
    | .denied code => denyRun command (.of code)
    | .consumed _ => reserveDelivery command allowed run allowlistEntry credential
  else reserveDelivery command allowed run allowlistEntry credential

def BeginLineRunCommand.evaluation (command : BeginLineRunCommand) : LineGateEvaluationRequest where
  scope := command.scope
  operation := .push
  now := command.now
  configDigest := some command.configDigest
  quota := command.quota
  runAuthorizationId := some command.runAuthorizationId
  deliveryId := some command.deliveryId
  recipientFingerprint := some command.recipientFingerprint
  contentDigest := some command.contentDigest

def beginRun (actor : LineControlActor) (command : BeginLineRunCommand) :
    LineProgram LineRunResult := do
  assertControlAuthority actor.role .executeRun
  let decision ← evaluate command.evaluation
  match decision with
  | .denied denied => denyRun command denied
  | .allowed allowed =>
      match allowed.run, allowed.allowlistEntry, allowed.credential with
      | some run, some allowlistEntry, some credential => do
          let unknown ← askControl (.listActiveCapEntries allowed.gate.id .concurrentUnknown)
          if List.any unknown fun entry => entry.deliveryId ≠ command.deliveryId then
            denyRun command (.of .concurrentUnknownReconcilingCapExceeded)
          else consumeDelivery command allowed run allowlistEntry credential
      | _, _, _ => pure (.denied (.of .runAuthorizationMissing))

inductive LineControlOutcome (α : Type) where
  | applied (value : α)
  | stale
  | denied (code : LineGateErrorCode)

def reserveProviderAttempt (actor : LineControlActor) (command : BeginLineRunCommand)
    (gate : DlLineScopeGate) (run : DlLineRunAuthorization) (attemptNo : Nat) :
    LineProgram (LineControlOutcome DlLineCapLedgerEntry) := do
  assertControlAuthority actor.role .executeRun
  if gate.killed then pure (.denied .lineGateKilled)
  else do
    let reserved ← reserve command gate.id run.id .providerAttempt (some run.capProviderAttempts)
      (some attemptNo) none
    match reserved with
    | .reserved entry _ => pure (.applied entry)
    | .denied code =>
        if code = .providerAttemptCapExceeded then do
          let _ ← killOnSignal gate .providerAttemptsExhausted command.now
          pure (.denied code)
        else pure (.denied code)

/-- Past the barrier: the unit is committed, and the slot is given back. -/
def commitDelivery (deliveryId : String) (now : Instant) : LineProgram Bool := do
  let committed ← askControl (.settleCap deliveryId .logicalDelivery 0 .committed now)
  let _ ← askControl (.settleCap deliveryId .concurrentSubmission 0 .released now)
  pure committed

def enterUnknownReconciling (command : BeginLineRunCommand) (gateId runAuthorizationId : String) :
    LineProgram (LineControlOutcome DlLineCapLedgerEntry) := do
  let reserved ← reserve command gateId runAuthorizationId .concurrentUnknown none none none
  match reserved with
  | .denied code => pure (.denied code)
  | .reserved entry _ => pure (.applied entry)

def exitUnknownReconciling (deliveryId : String) (now : Instant) : LineProgram Bool :=
  askControl (.settleCap deliveryId .concurrentUnknown 0 .released now)

end DContact.Delivery

import DContact.Dialer.DialerAdmitCampaignTargetService

/-!
# The originate barrier

The barrier checks the gate, the record and its scope, asks governance for a reservation, claims the
record by a conditional update and then calls the transport under a claim of the reservation. What
the transport answers decides the state that the record leaves its claim for.
-/

namespace DContact.Dialer

open Lib
open Governance (ContactDecision DeliveryOutcome Instant RuntimeCommand RuntimeError
  RuntimeOperation SettlementView TerminalOutcome)

inductive OriginateOutcome where
  | originated
  | rejected
  | gateClosed
  | shadowObserved
  | conformanceObserved
  | outOfScope
  | scopeDenied
  | governanceUnavailable
  | reservationInvalidated
  | governanceBlocked
  | governanceDeferred
  | governanceReview
  | notEligible
  | expired
  deriving DecidableEq

inductive SimulationResult where
  | accepted
  | rejected
  | invalidated
  deriving DecidableEq

/-- `SIMULATION_OUTCOME`. -/
def SimulationResult.outcome : SimulationResult → OriginateOutcome
  | .accepted => .originated
  | .rejected => .rejected
  | .invalidated => .reservationInvalidated

/-- `mapNonAllowDecision`. -/
def mapNonAllowDecision : ContactDecision → OriginateOutcome
  | .block => .governanceBlocked
  | .defer => .governanceDeferred
  | _ => .governanceReview

def currentGate : DialerProgram DialerGateState := ask .gate

def isScopeAllowed (kind : RolloutScopeKind) (scopeRef : String) : DialerProgram Bool :=
  ask (.scopeAllowed kind scopeRef)

/-- Governance that does not answer allows nothing; `none` is `UNAVAILABLE`. -/
def authorizeAndReserve (input : OriginateAuthorization) :
    DialerProgram (Option OriginateDecision) := do
  match ← Program.attempt (DialerRequest.authorize input) with
  | .ok decision => pure (some decision)
  | .error _ => pure none

def govern (command : RuntimeCommand) : DialerProgram SettlementView := ask (.governance command)

def tryGovern (command : RuntimeCommand) : DialerProgram (Except DialerError SettlementView) :=
  Program.attempt (DialerRequest.governance command)

def originate (request : TelephonyOriginateRequest) : DialerProgram TelephonyOriginateResponse :=
  ask (.originate request)

/-- The actions under which governance knows the calls of a record. -/
def originateActionKey : TargetKind → String → String
  | .campaignTarget, id => "originate:campaign-target:" ++ id
  | .callback, id => "originate:callback:" ++ id

def outreachPurpose : TargetKind → String
  | .campaignTarget => "CAMPAIGN_OUTREACH"
  | .callback => "CALLBACK_OUTREACH"

section Barrier

variable (host : DialerHost)

/-- What the commands of one call have in common. -/
structure OriginateDelivery where
  correlationId : String
  reservationId : String
  actionKey : String
  deliveryId : String

def deliveryCommand (delivery : OriginateDelivery) (operation : RuntimeOperation) :
    RuntimeCommand where
  tenantId := host.tenantId
  correlationId := delivery.correlationId
  reservationId := delivery.reservationId
  actionKey := delivery.actionKey
  operation := operation

def claimCommand (delivery : OriginateDelivery) (kind : TargetKind) (contactId : String)
    (leaseExpiresAt : Instant) : RuntimeCommand :=
  deliveryCommand host delivery (.claim
    { deliveryId := delivery.deliveryId
      contactId := contactId
      identityId := none
      channel := .voice
      purpose := outreachPurpose kind
      senderIdentityId := "dialer-originate-test-adapter" } (some leaseExpiresAt))

/-- `settleDelivery`: the reference and the time of an outcome are its own. -/
def settleOutcome (delivery : OriginateDelivery) (providerRequestKey : String)
    (outcome : TerminalOutcome) : DialerProgram SettlementView := do
  let outcomeRef ← randomUUID
  let occurredAt ← readClock
  govern (deliveryCommand host delivery (.settle
    { deliveryId := delivery.deliveryId
      providerRequestKey := providerRequestKey
      outcomeRef := outcomeRef
      outcome := .terminal outcome
      rejectionScope := none
      occurredAt := some occurredAt }))

/-- The errors of a claim after which nothing has been sent and nothing will be. -/
def invalidating (error : RuntimeError) : Bool :=
  error == .reservationNotReserved || error == .reservationExpired

/-- Past the claim of the reservation. -/
def submitCall (delivery : OriginateDelivery) (providerRequestKey : String) (kind : TargetKind)
    (targetId : String) : DialerProgram SimulationResult := do
  let _ ← govern (deliveryCommand host delivery
    (.beginSubmission delivery.deliveryId 1 providerRequestKey))
  match ← originate ⟨kind, targetId, providerRequestKey⟩ with
  | .accepted => do
      let _ ← govern (deliveryCommand host delivery (.confirm delivery.deliveryId providerRequestKey))
      let _ ← settleOutcome host delivery providerRequestKey .delivered
      pure .accepted
  | .rejected _ => do
      let _ ← settleOutcome host delivery providerRequestKey .providerRejected
      pure .rejected

def runTelephonySimulation (correlationId reservationId contactId : String) (kind : TargetKind)
    (targetId : String) : DialerProgram SimulationResult := do
  let deliveryId ← randomUUID
  let providerRequestKey ← randomUUID
  let now ← readClock
  let delivery : OriginateDelivery :=
    ⟨correlationId, reservationId, originateActionKey kind targetId, deliveryId⟩
  match ← tryGovern (claimCommand host delivery kind contactId (now + host.originateLeaseMs)) with
  | .ok _ => submitCall host delivery providerRequestKey kind targetId
  | .error (.runtime error) =>
      if invalidating error then pure .invalidated else .throw (.runtime error)
  | .error failure => .throw failure

/-- Off the admitted targets, unless somebody has moved the target on. -/
def deferCampaignTarget (target : ObCampaignTarget) : DialerProgram Unit := do
  let _ ← moveTarget target.id ⟨some .admitted, some target.version⟩ .deferred .only
  pure ()

/-- From the claim of the record to its end. -/
def callCampaignTarget (target : ObCampaignTarget) (correlationId reservationId : String) :
    DialerProgram OriginateOutcome := do
  let now ← readClock
  match ← moveTarget target.id ⟨some .admitted, none⟩ .originating
      (.claimed (now + host.originateLeaseMs)) with
  | none => pure .notEligible
  | some _ => do
      let simulated ← runTelephonySimulation host correlationId reservationId target.contactId
        .campaignTarget target.id
      let _ ← moveTarget target.id ⟨some .originating, none⟩
        (if simulated = .accepted then .consumed else .deferred) .left
      pure simulated.outcome

def authorizeCampaignTarget (target : ObCampaignTarget) (correlationId : String) :
    DialerProgram OriginateOutcome := do
  let input : OriginateAuthorization :=
    { purpose := outreachPurpose .campaignTarget
      sourceId := target.id
      actionKey := originateActionKey .campaignTarget target.id
      contactId := target.contactId
      correlationId := correlationId }
  match ← authorizeAndReserve input with
  | none => pure .governanceUnavailable
  | some authorized =>
      match authorized.decision, authorized.reservationId.filter (· ≠ "") with
      | .allow, some reservationId => callCampaignTarget host target correlationId reservationId
      | decision, _ => do
          deferCampaignTarget target
          pure (mapNonAllowDecision decision)

def originateCampaignTarget (campaignTargetId correlationId : String) :
    DialerProgram OriginateOutcome := do
  let gateState ← currentGate
  if gateState = .disabled ∨ gateState = .killed then pure .gateClosed
  else do
    match ← findTarget campaignTargetId with
    | none => pure .notEligible
    | some target =>
        if target.state ≠ .admitted then pure .notEligible
        else do
          let campaign ← findCampaign target.campaignId
          if !campaign.any fun campaign => campaign.status == .active then do
            deferCampaignTarget target
            pure .notEligible
          else do
            let _ ← readClock
            let scope ← authorizeScope target.targetOwnerTeamId target.contactId
            if scope ≠ .allow then do
              deferCampaignTarget target
              pure .scopeDenied
            else if gateState = .shadowReceipt then pure .shadowObserved
            else if gateState = .ownerConformance then pure .conformanceObserved
            else do
              let allowed ← isScopeAllowed .campaign target.campaignId
              if !allowed then pure .outOfScope
              else authorizeCampaignTarget host target correlationId

/-- From the claim of the record to its end. -/
def callCallback (callback : ObCallback) (correlationId reservationId : String) :
    DialerProgram OriginateOutcome := do
  let now ← readClock
  match ← moveCallback callback.id ⟨some .scheduled, none⟩ .originating
      (.claimed (now + host.originateLeaseMs)) with
  | none => pure .notEligible
  | some _ => do
      let simulated ← runTelephonySimulation host correlationId reservationId callback.contactId
        .callback callback.id
      let _ ← moveCallback callback.id ⟨some .originating, none⟩
        (if simulated = .accepted then .consumed else .scheduled) .left
      pure simulated.outcome

def authorizeCallback (callback : ObCallback) (correlationId : String) :
    DialerProgram OriginateOutcome := do
  let input : OriginateAuthorization :=
    { purpose := outreachPurpose .callback
      sourceId := callback.id
      actionKey := originateActionKey .callback callback.id
      contactId := callback.contactId
      correlationId := correlationId }
  match ← authorizeAndReserve input with
  | none => pure .governanceUnavailable
  | some authorized =>
      match authorized.decision, authorized.reservationId.filter (· ≠ "") with
      | .allow, some reservationId => callCallback host callback correlationId reservationId
      | decision, _ => pure (mapNonAllowDecision decision)

def originateCallback (callbackId correlationId : String) : DialerProgram OriginateOutcome := do
  let gateState ← currentGate
  if gateState = .disabled ∨ gateState = .killed then pure .gateClosed
  else do
    match ← findCallback callbackId with
    | none => pure .notEligible
    | some callback =>
        if callback.state ≠ .scheduled then pure .notEligible
        else do
          let now ← readClock
          if now > callback.expiresAt then pure .expired
          else if now < callback.requestedFor - host.callbackEarlyToleranceMs then
            pure .notEligible
          else do
            let scope ← authorizeScope callback.targetOwnerTeamId callback.contactId
            if scope ≠ .allow then pure .scopeDenied
            else if gateState = .shadowReceipt then pure .shadowObserved
            else if gateState = .ownerConformance then pure .conformanceObserved
            else do
              let allowed ← isScopeAllowed .callbackQueue callback.queueId
              if !allowed then pure .outOfScope
              else authorizeCallback host callback correlationId

end Barrier

def listStaleCallbacks (deadline : Instant) (batchSize : Nat) : DialerProgram (List ObCallback) :=
  ask (.staleCallbacks deadline batchSize)

def listStaleTargets (deadline : Instant) (batchSize : Nat) :
    DialerProgram (List ObCampaignTarget) :=
  ask (.staleTargets deadline batchSize)

/-- `OriginateReconcileEvidence`. -/
structure OriginateReconcileEvidence where
  kind : TargetKind
  recordId : String
  leaseExpiredAt : Option Instant
  reconciledAt : Instant
  correlationId : String
  deriving DecidableEq

/-- A record that somebody has moved on in the meantime is passed over. -/
def reconcileTarget (deadline : Instant) (correlationId : String) (target : ObCampaignTarget) :
    DialerProgram (Option OriginateReconcileEvidence) := do
  let moved ← moveTarget target.id ⟨some .originating, some target.version⟩ .reconciling .left
  pure (moved.map fun _ =>
    ⟨.campaignTarget, target.id, target.originateLeaseExpiresAt, deadline, correlationId⟩)

def reconcileCallback (deadline : Instant) (correlationId : String) (callback : ObCallback) :
    DialerProgram (Option OriginateReconcileEvidence) := do
  let moved ← moveCallback callback.id ⟨some .originating, some callback.version⟩ .reconciling .left
  pure (moved.map fun _ =>
    ⟨.callback, callback.id, callback.originateLeaseExpiresAt, deadline, correlationId⟩)

def reconcileExpired (correlationId : String) (batchSize : Nat) :
    DialerProgram (List OriginateReconcileEvidence) := do
  let deadline ← readClock
  let targets ← listStaleTargets deadline batchSize
  let movedTargets ← Program.forEach targets (reconcileTarget deadline correlationId)
  let callbacks ← listStaleCallbacks deadline batchSize
  let movedCallbacks ← Program.forEach callbacks (reconcileCallback deadline correlationId)
  pure (movedTargets.filterMap id ++ movedCallbacks.filterMap id)

end DContact.Dialer

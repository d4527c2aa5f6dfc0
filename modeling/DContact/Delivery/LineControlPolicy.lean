import DContact.Delivery.LineCapLedger

/-!
# The cap policy of the LINE control plane

The numbers of the pilot are constants, and those of a team trial stand in the row of its run, up to
a maximum. Every reservation is checked against all the limits of its kind.
-/

namespace DContact.Delivery

open Governance (Instant)

structure LineDeliveryCaps where
  perRun : Nat
  perRecipientPer24h : Nat
  per24h : Nat
  lifetime : Nat

inductive LineRunProfile where
  | pilot
  | teamTrial
  deriving DecidableEq

/-- `LINE_PILOT_CAPS` for logical deliveries. -/
def linePilotDeliveryCaps : LineDeliveryCaps := ⟨1, 1, 3, 10⟩

/-- `LINE_TEAM_TRIAL_MAX_CAPS` for logical deliveries. -/
def lineTeamTrialMaxCaps : LineDeliveryCaps := ⟨600, 20, 100, 3000⟩

def concurrentSubmissions : Nat := 1

def concurrentUnknownReconciling : Nat := 1

def providerAttemptsPerLogicalDelivery : Nat := 4

structure LineRunCapSource where
  profile : LineRunProfile
  capLogicalDeliveries : Int
  capRecipientPer24h : Option Int
  capPer24h : Option Int
  capLifetime : Option Int
  deriving DecidableEq

/-- A missing value is nothing at all. -/
def bounded (value : Option Int) (max : Nat) : Nat := min (value.getD 0).toNat max

def lineDeliveryCapsFor (run : LineRunCapSource) : LineDeliveryCaps :=
  match run.profile with
  | .pilot => linePilotDeliveryCaps
  | .teamTrial =>
      { perRun := bounded (some run.capLogicalDeliveries) lineTeamTrialMaxCaps.perRun
        perRecipientPer24h := bounded run.capRecipientPer24h lineTeamTrialMaxCaps.perRecipientPer24h
        per24h := bounded run.capPer24h lineTeamTrialMaxCaps.per24h
        lifetime := bounded run.capLifetime lineTeamTrialMaxCaps.lifetime }

def dayMs : Int := 24 * 60 * 60000

structure LineCapLimitInput where
  capKind : LineCapKind
  now : Instant
  runCapProviderAttempts : Option Nat
  deliveryCaps : Option LineDeliveryCaps

def lineCapLimits (input : LineCapLimitInput) : List LineCapLimit :=
  let since := input.now - dayMs
  let caps := input.deliveryCaps.getD linePilotDeliveryCaps
  let limit (code : LineGateErrorCode) (max : Nat) : LineCapLimit :=
    { code := code, capKind := input.capKind, max := max, sameRecipient := false, sameRun := false,
      sameDelivery := false, since := none, activeOnly := false }
  match input.capKind with
  | .logicalDelivery =>
      [{ limit .runDeliveryCapExceeded caps.perRun with sameRun := true },
        { limit .contactWindowCapExceeded caps.perRecipientPer24h with
          sameRecipient := true, since := some since },
        { limit .submissionWindowCapExceeded caps.per24h with since := some since },
        limit .lifetimeCapExceeded caps.lifetime]
  | .concurrentSubmission =>
      [{ limit .concurrentSubmissionCapExceeded concurrentSubmissions with activeOnly := true }]
  | .concurrentUnknown =>
      [{ limit .concurrentUnknownReconcilingCapExceeded concurrentUnknownReconciling with
          activeOnly := true }]
  | .providerAttempt =>
      [{ limit .providerAttemptCapExceeded
          (min (input.runCapProviderAttempts.getD providerAttemptsPerLogicalDelivery)
            providerAttemptsPerLogicalDelivery) with sameDelivery := true }]

end DContact.Delivery

import DContact.Governance.IncrementalProjection
import DContact.Lib.Table
import Mathlib.Algebra.Order.Ring.Rat

/-!
# Anomaly alerts

The rules of the registry watch the metrics of a tenant. The evaluator is a pure function of one
observation and of what the alert was before; the repository moves the stored alert along the
table of legal transitions; the engine runs all rules one after the other, and what one rule has
written stays written when a later one fails.
-/

namespace DContact.Governance

open Lib

inductive Cg5RuleKind where
  | fixedThreshold
  | baselineRelative
  deriving DecidableEq

inductive Cg5AlertSeverity where
  | warning
  | critical

inductive Cg5RuleCode where
  | projectionLag
  | baselineUnavailable
  | blockRateShift
  | reasonMixShift
  | optOutSpike
  | policyPublishImpact
  | exceptionUsageSpike
  | quotaExhaustion
  | reservationLeak
  | exportVolumeSpike
  deriving DecidableEq

structure Cg5RuleMetadata where
  kind : Cg5RuleKind
  defaultSeverity : Cg5AlertSeverity
  metricKey : Option Cg5MetricKey

def cg5RuleMetadata : Cg5RuleCode → Cg5RuleMetadata
  | .projectionLag => ⟨.fixedThreshold, .critical, none⟩
  | .baselineUnavailable => ⟨.fixedThreshold, .warning, none⟩
  | .blockRateShift => ⟨.baselineRelative, .critical, some .decision⟩
  | .reasonMixShift => ⟨.baselineRelative, .warning, some .decision⟩
  | .optOutSpike => ⟨.baselineRelative, .warning, some .restriction⟩
  | .policyPublishImpact => ⟨.baselineRelative, .critical, some .policyHealth⟩
  | .exceptionUsageSpike => ⟨.baselineRelative, .warning, some .exception⟩
  | .quotaExhaustion => ⟨.baselineRelative, .warning, some .frequency⟩
  | .reservationLeak => ⟨.baselineRelative, .warning, some .reservation⟩
  | .exportVolumeSpike => ⟨.baselineRelative, .warning, some .audit⟩

def cg5RuleCodes : List Cg5RuleCode :=
  [.projectionLag, .baselineUnavailable, .blockRateShift, .reasonMixShift, .optOutSpike,
    .policyPublishImpact, .exceptionUsageSpike, .quotaExhaustion, .reservationLeak,
    .exportVolumeSpike]

theorem mem_cg5RuleCodes (code : Cg5RuleCode) : code ∈ cg5RuleCodes := by
  cases code <;> decide

theorem cg5RuleCodes_nodup : cg5RuleCodes.Nodup := by decide

inductive Cg5AlertState where
  | opened
  | acked
  | resolved
  | suppressed
  deriving DecidableEq

/-- The settings of a tenant that the evaluator reads. -/
structure Cg5AnomalyConfig where
  lagSloSeconds : ℚ
  anomalyMinimumVolume : ℚ

structure Cg5AnomalyObservation where
  ruleCode : Cg5RuleCode
  value : ℚ
  baseline : Option ℚ
  volume : ℚ
  projectionLagSeconds : ℚ
  scopePaused : Bool

structure Cg5AnomalyResult where
  state : Cg5AlertState
  value : ℚ
  threshold : ℚ
  reason : Option String

/-- What the evaluator is told of the alert as it was. -/
structure Cg5PreviousAlert where
  state : Cg5AlertState
  consecutiveHits : Nat

/-- `needed`: the part of the threshold above which the alert is open. -/
def neededPart (previous : Option Cg5PreviousAlert) : ℚ :=
  match previous.map Cg5PreviousAlert.state with
  | some .opened | some .acked => 4 / 5
  | _ => 1

def evaluateCg5Anomaly (observation : Cg5AnomalyObservation) (config : Cg5AnomalyConfig)
    (previous : Option Cg5PreviousAlert) : Cg5AnomalyResult :=
  match (cg5RuleMetadata observation.ruleCode).kind with
  | .fixedThreshold =>
      let threshold := if observation.ruleCode = .projectionLag then config.lagSloSeconds else 0
      let value :=
        if observation.ruleCode = .projectionLag then observation.projectionLagSeconds
        else observation.value
      if value > threshold then ⟨.opened, value, threshold, none⟩
      else ⟨.resolved, value, threshold, none⟩
  | .baselineRelative =>
      if observation.scopePaused = true ∨ observation.projectionLagSeconds > config.lagSloSeconds then
        ⟨.suppressed, observation.value, 0, some "DATA_GAP"⟩
      else
        match observation.baseline with
        | none => ⟨.suppressed, observation.value, 0, some "BASELINE_UNAVAILABLE"⟩
        | some baseline =>
            if observation.volume < config.anomalyMinimumVolume then
              ⟨.suppressed, observation.value, 0, some "BASELINE_UNAVAILABLE"⟩
            else
              let threshold := baseline * (3 / 2)
              if observation.value > threshold ∨
                  observation.value > threshold * neededPart previous then
                ⟨.opened, observation.value, threshold, none⟩
              else ⟨.resolved, observation.value, threshold, none⟩

/-- `CG5_ALERT_TRANSITIONS`. -/
def canCg5AlertTransition (before after : Cg5AlertState) : Bool :=
  match before with
  | .opened => after ∈ [.acked, .resolved, .suppressed]
  | .acked => after ∈ [.opened, .resolved, .suppressed]
  | .resolved => after ∈ [.opened]
  | .suppressed => after ∈ [.opened, .resolved]

/-- A stored alert. The engine evaluates one scope, so that the rule is its key. -/
structure Cg5AlertRow where
  ruleCode : Cg5RuleCode
  state : Cg5AlertState
  severity : Cg5AlertSeverity
  value : ℚ
  threshold : ℚ
  consecutiveHits : Nat
  openedAt : Option Instant
  ackedAt : Option Instant
  ackedByRef : Option String
  resolvedAt : Option Instant
  version : Nat
  updatedAt : Instant

structure Cg5AlertTransition where
  ruleCode : Cg5RuleCode
  fromState : Option Cg5AlertState
  toState : Cg5AlertState
  fromVersion : Nat
  toVersion : Nat
  actorRef : String
  occurredAt : Instant

structure Cg5AlertStore where
  alerts : List Cg5AlertRow
  transitions : List Cg5AlertTransition

inductive Cg5AlertError where
  | illegalTransition
  | notFound
  | notAcknowledgeable
  | versionConflict (expectedVersion actualVersion : Nat)
  deriving DecidableEq

namespace Cg5AlertError

end Cg5AlertError

namespace Cg5AlertStore

def find (store : Cg5AlertStore) (code : Cg5RuleCode) : Option Cg5AlertRow :=
  Table.lookup Cg5AlertRow.ruleCode code store.alerts

def state (store : Cg5AlertStore) (code : Cg5RuleCode) : Option Cg5AlertState :=
  (store.find code).map Cg5AlertRow.state

/-- The alert as the evaluator is meant to know it. -/
def previous (store : Cg5AlertStore) (code : Cg5RuleCode) : Option Cg5PreviousAlert :=
  (store.find code).map fun row => ⟨row.state, row.consecutiveHits⟩

def write (store : Cg5AlertStore) (before : Option Cg5AlertRow) (after : Cg5AlertRow)
    (actorRef : String) (now : Instant) : Cg5AlertStore where
  alerts := Table.put Cg5AlertRow.ruleCode store.alerts after
  transitions := store.transitions ++
    [{ ruleCode := after.ruleCode
       fromState := before.map Cg5AlertRow.state
       toState := after.state
       fromVersion := (before.map Cg5AlertRow.version).getD 0
       toVersion := after.version
       actorRef := actorRef
       occurredAt := now }]

/-- `record`. -/
def record (store : Cg5AlertStore) (code : Cg5RuleCode) (result : Cg5AnomalyResult)
    (severity : Cg5AlertSeverity) (now : Instant) : Except Cg5AlertError Cg5AlertStore := do
  let current := store.find code
  if current.map Cg5AlertRow.state = some result.state then return store
  ensure (current.all (fun row => canCg5AlertTransition row.state result.state) = true)
    Cg5AlertError.illegalTransition
  return store.write current
    { ruleCode := code
      state := result.state
      severity := severity
      value := result.value
      threshold := result.threshold
      consecutiveHits :=
        if result.state = .opened then (current.map Cg5AlertRow.consecutiveHits).getD 0 + 1 else 0
      openedAt :=
        let openedAt := current.bind Cg5AlertRow.openedAt
        if result.state = .opened then some (openedAt.getD now) else openedAt
      ackedAt := current.bind Cg5AlertRow.ackedAt
      ackedByRef := current.bind Cg5AlertRow.ackedByRef
      resolvedAt :=
        if result.state = .opened then none
        else if result.state = .resolved then some now
        else current.bind Cg5AlertRow.resolvedAt
      version := (current.map Cg5AlertRow.version).getD 0 + 1
      updatedAt := now }
    "cg5-anomaly-engine" now

end Cg5AlertStore

inductive Cg5ProjectionReadinessState where
  | notReady
  | backfillRunning
  | ready
  | failed
  deriving DecidableEq

structure Cg5ProjectionReadiness where
  state : Cg5ProjectionReadinessState
  updatedAt : Option Instant

structure Cg5MetricSnapshot where
  current : Cg5MetricKey → Option ℚ
  /-- The average of four weeks, if all four have it. -/
  baseline : Cg5MetricKey → Option ℚ
  scopePaused : Bool

/-- What one call of `evaluateTenant` reads, and when. -/
structure Cg5EvaluationInputs where
  now : Instant
  recordedAt : Cg5RuleCode → Instant
  config : Cg5AnomalyConfig
  readiness : Cg5ProjectionReadiness
  snapshot : Cg5MetricSnapshot

/-- `Number.MAX_SAFE_INTEGER`. -/
def maxSafeInteger : Int := 9007199254740991

namespace Cg5EvaluationInputs

def lagSeconds (inputs : Cg5EvaluationInputs) : ℚ :=
  match inputs.readiness.updatedAt with
  | some updatedAt => ((max 0 ((inputs.now - updatedAt) / 1000) : Int) : ℚ)
  | none => (maxSafeInteger : ℚ)

def dataGap (inputs : Cg5EvaluationInputs) : Bool :=
  decide (inputs.readiness.state ≠ .ready) || inputs.snapshot.scopePaused

def baselineRules : List Cg5RuleCode :=
  cg5RuleCodes.filter fun code => (cg5RuleMetadata code).kind = .baselineRelative

def baselineMissing (inputs : Cg5EvaluationInputs) : Bool :=
  baselineRules.any fun code =>
    match (cg5RuleMetadata code).metricKey with
    | some key => (inputs.snapshot.baseline key).isNone
    | none => false

def current (inputs : Cg5EvaluationInputs) (code : Cg5RuleCode) : ℚ :=
  match (cg5RuleMetadata code).metricKey with
  | some key => (inputs.snapshot.current key).getD 0
  | none => 0

def observation (inputs : Cg5EvaluationInputs) (code : Cg5RuleCode) : Cg5AnomalyObservation where
  ruleCode := code
  value :=
    if code = .baselineUnavailable then if inputs.baselineMissing then 1 else 0
    else inputs.current code
  baseline := (cg5RuleMetadata code).metricKey.bind inputs.snapshot.baseline
  volume := inputs.current code
  projectionLagSeconds := inputs.lagSeconds
  scopePaused := inputs.dataGap

/-- One turn of the loop: the evaluator is given no previous alert. -/
def evaluateRule (inputs : Cg5EvaluationInputs) (store : Cg5AlertStore) (code : Cg5RuleCode) :
    Except Cg5AlertError Cg5AlertStore :=
  store.record code (evaluateCg5Anomaly (inputs.observation code) inputs.config none)
    (cg5RuleMetadata code).defaultSeverity (inputs.recordedAt code)

/-- The loop over the rules; it ends with the first failure. -/
def evaluateRules (inputs : Cg5EvaluationInputs) (store : Cg5AlertStore) :
    List Cg5RuleCode → Cg5AlertStore × Option Cg5AlertError
  | [] => (store, none)
  | code :: rest =>
      match inputs.evaluateRule store code with
      | .error error => (store, some error)
      | .ok after => inputs.evaluateRules after rest

def evaluateTenant (inputs : Cg5EvaluationInputs) (store : Cg5AlertStore) :
    Cg5AlertStore × Option Cg5AlertError :=
  inputs.evaluateRules store cg5RuleCodes

end Cg5EvaluationInputs

end DContact.Governance

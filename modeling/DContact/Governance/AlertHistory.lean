import DContact.Governance.AlertEvaluation

/-!
# Alerts against their evaluation

What a call of the engine makes of every alert, compared with what the evaluator says when it is
told of the alert as it was. The two agree as long as no resolved alert meets a data gap, no
acknowledged alert is still to be open, and no open alert is in the band in which it is to stay
open.
-/

namespace DContact.Governance

open Lib

/-- The state an alert is to be left in: an acknowledged one stays so while it would be open. -/
def expectedAlertState (before : Option Cg5AlertState) (evaluated : Cg5AlertState) :
    Cg5AlertState :=
  if before = some .acked ∧ evaluated = .opened then .acked else evaluated

/-- The call runs through all rules, and leaves every alert as the evaluation of it demands. -/
structure FollowsEvaluation (inputs : Cg5EvaluationInputs) (store : Cg5AlertStore) : Prop where
  completes : (inputs.evaluateTenant store).2 = none
  follows : ∀ code, (inputs.evaluateTenant store).1.state code =
    some (expectedAlertState (store.state code)
      (evaluateCg5Anomaly (inputs.observation code) inputs.config (store.previous code)).state)

namespace Cg5EvaluationInputs

variable (inputs : Cg5EvaluationInputs) (code : Cg5RuleCode)

def lacksData : Prop :=
  (cg5RuleMetadata code).kind = .baselineRelative ∧
    (inputs.dataGap = true ∨ inputs.lagSeconds > inputs.config.lagSloSeconds ∨
      (inputs.observation code).baseline = none ∨
      inputs.current code < inputs.config.anomalyMinimumVolume)

def exceeds (part : ℚ) : Prop :=
  match (cg5RuleMetadata code).kind with
  | .fixedThreshold =>
      if code = .projectionLag then inputs.lagSeconds > inputs.config.lagSloSeconds
      else (inputs.observation code).value > 0
  | .baselineRelative =>
      ∃ baseline, (inputs.observation code).baseline = some baseline ∧
        (inputs.observation code).value > baseline * (3 / 2) * part

/-- The alerts that the engine deals with as their evaluation demands. -/
def tractable : Option Cg5AlertState → Prop
  | some .resolved => ¬ inputs.lacksData code
  | some .acked => inputs.lacksData code ∨ (¬ inputs.exceeds code 1 ∧ ¬ inputs.exceeds code (4 / 5))
  | some .opened => inputs.lacksData code ∨ inputs.exceeds code 1 ∨ ¬ inputs.exceeds code (4 / 5)
  | some .suppressed | none => True

open Classical in
theorem evaluate_state (previous : Option Cg5PreviousAlert) :
    (evaluateCg5Anomaly (inputs.observation code) inputs.config previous).state =
      if inputs.lacksData code then .suppressed
      else if inputs.exceeds code 1 ∨ inputs.exceeds code (neededPart previous) then .opened
      else .resolved := by
  have same : (inputs.observation code).ruleCode = code := rfl
  unfold evaluateCg5Anomaly lacksData exceeds
  rw [same]
  cases kind : (cg5RuleMetadata code).kind with
  | fixedThreshold =>
      simp only [reduceCtorEq, false_and, if_false, or_self]
      by_cases lag : code = .projectionLag
      · simp only [lag, if_true]
        exact apply_ite Cg5AnomalyResult.state _ _ _
      · simp only [lag, if_false]
        exact apply_ite Cg5AnomalyResult.state _ _ _
  | baselineRelative =>
      have gap : (inputs.observation code).scopePaused = inputs.dataGap := rfl
      have lag : (inputs.observation code).projectionLagSeconds = inputs.lagSeconds := rfl
      have volume : (inputs.observation code).volume = inputs.current code := rfl
      simp only [true_and, gap, lag, volume]
      by_cases paused : inputs.dataGap = true ∨ inputs.lagSeconds > inputs.config.lagSloSeconds
      · rw [if_pos paused, if_pos]
        rcases paused with paused | late
        · exact .inl paused
        · exact .inr (.inl late)
      · rw [if_neg paused]
        cases baseline : (inputs.observation code).baseline with
        | none => simp
        | some average =>
            by_cases small : inputs.current code < inputs.config.anomalyMinimumVolume
            · rw [if_pos (.inr (.inr (.inr small)))]
              simp [small]
            · rw [not_or] at paused
              rw [if_neg (by simp [paused.1, paused.2, small])]
              simp only [small, if_false, Option.some.injEq, exists_eq_left', mul_one]
              exact apply_ite Cg5AnomalyResult.state _ _ _

end Cg5EvaluationInputs

/-- The repository lets an alert go from one state to another. -/
def acceptsAlertState (before : Option Cg5AlertState) (after : Cg5AlertState) : Prop :=
  ∀ state, before = some state → state = after ∨ canCg5AlertTransition state after = true

namespace Cg5AlertStore

variable {store after : Cg5AlertStore} {code : Cg5RuleCode} {result : Cg5AnomalyResult}
  {severity : Cg5AlertSeverity} {now : Instant}

theorem state_write (before : Option Cg5AlertRow) (row : Cg5AlertRow) (actorRef : String)
    (other : Cg5RuleCode) :
    (store.write before row actorRef now).state other =
      if row.ruleCode = other then some row.state else store.state other := by
  rw [state, find, write, Table.lookup_put]
  split
  · rfl
  · rfl

/-- A record that succeeds was legal, and moves the alert of its rule alone. -/
theorem record_ok (recorded : store.record code result severity now = .ok after) :
    acceptsAlertState (store.state code) result.state ∧
      ∀ other, after.state other = if code = other then some result.state else store.state other := by
  rw [record] at recorded
  dsimp only at recorded
  split at recorded
  next same =>
    cases recorded
    constructor
    · intro state found
      exact .inl (Option.some.inj (found.symm.trans same))
    · intro other
      split
      next equal => exact equal ▸ same
      next => rfl
  next =>
    obtain ⟨_, legal, written⟩ := bind_ok recorded
    rw [ensure_ok] at legal
    cases written
    constructor
    · intro state found
      obtain ⟨row, hit, rfl⟩ := Option.map_eq_some_iff.mp found
      rw [hit] at legal
      exact .inr legal
    · exact fun other => state_write ..

theorem record_of_accepts (severity : Cg5AlertSeverity) (now : Instant)
    (accepts : acceptsAlertState (store.state code) result.state) :
    ∃ after, store.record code result severity now = .ok after := by
  rw [record]
  dsimp only
  split
  next => exact ⟨store, rfl⟩
  next differs =>
    have legal : (store.find code).all
        (fun row => canCg5AlertTransition row.state result.state) = true := by
      cases hit : store.find code with
      | none => rfl
      | some row =>
          have found : store.state code = some row.state := by rw [state, hit]; rfl
          rcases accepts row.state found with same | legal
          · rw [hit, Option.map_some, same] at differs
            exact absurd rfl differs
          · exact legal
    rw [ensure, if_pos legal]
    exact ⟨_, rfl⟩

end Cg5AlertStore

namespace Cg5EvaluationInputs

variable (inputs : Cg5EvaluationInputs)

def computed (code : Cg5RuleCode) : Cg5AlertState :=
  (evaluateCg5Anomaly (inputs.observation code) inputs.config none).state

/-- The loop ends well exactly if every rule finds a state it may leave, and then the alerts of
its rules have the computed states. -/
theorem evaluateRules_completes (codes : List Cg5RuleCode) (distinct : codes.Nodup)
    (store : Cg5AlertStore) :
    ((inputs.evaluateRules store codes).2 = none ↔
      ∀ code ∈ codes, acceptsAlertState (store.state code) (inputs.computed code)) ∧
    ((inputs.evaluateRules store codes).2 = none → ∀ code,
      (inputs.evaluateRules store codes).1.state code =
        if code ∈ codes then some (inputs.computed code) else store.state code) := by
  induction codes generalizing store with
  | nil => simp [evaluateRules]
  | cons code rest ih =>
      obtain ⟨absent, others⟩ := List.nodup_cons.mp distinct
      cases recorded : inputs.evaluateRule store code with
      | error error =>
          have refused : ¬ acceptsAlertState (store.state code) (inputs.computed code) := by
            intro accepts
            obtain ⟨after, ok⟩ := Cg5AlertStore.record_of_accepts
              (cg5RuleMetadata code).defaultSeverity (inputs.recordedAt code) accepts
            rw [evaluateRule] at recorded
            cases recorded.symm.trans ok
          have ends : inputs.evaluateRules store (code :: rest) = (store, some error) := by
            rw [evaluateRules, recorded]
          rw [ends]
          refine ⟨⟨nofun, fun all => absurd (all code List.mem_cons_self) refused⟩, nofun⟩
      | ok after =>
          obtain ⟨accepts, moved⟩ := Cg5AlertStore.record_ok recorded
          have goesOn : inputs.evaluateRules store (code :: rest) = inputs.evaluateRules after rest := by
            rw [evaluateRules, recorded]
          have untouched : ∀ other ∈ rest, after.state other = store.state other := by
            intro other mem
            rw [moved other, if_neg]
            rintro rfl
            exact absent mem
          obtain ⟨completes, states⟩ := ih others after
          rw [goesOn]
          constructor
          · rw [completes, List.forall_mem_cons]
            constructor
            · exact fun all => ⟨accepts, fun other mem => untouched other mem ▸ all other mem⟩
            · exact fun all other mem => (untouched other mem).symm ▸ all.2 other mem
          · intro done other
            rw [states done other]
            by_cases later : other ∈ rest
            · rw [if_pos later, if_pos (List.mem_cons_of_mem _ later)]
            · rw [if_neg later, moved other]
              by_cases same : code = other
              · subst same
                rw [if_pos rfl, if_pos List.mem_cons_self]
                rfl
              · rw [if_neg same, if_neg]
                intro mem
                rcases List.mem_cons.mp mem with equal | inside
                · exact same equal.symm
                · exact later inside

/-- The engine meets the specification exactly if for every rule the computed state is legal and
the expected one. -/
theorem followsEvaluation_iff_computed (store : Cg5AlertStore) :
    FollowsEvaluation inputs store ↔ ∀ code,
      acceptsAlertState (store.state code) (inputs.computed code) ∧
        inputs.computed code = expectedAlertState (store.state code)
          (evaluateCg5Anomaly (inputs.observation code) inputs.config (store.previous code)).state := by
  obtain ⟨completes, states⟩ :=
    inputs.evaluateRules_completes cg5RuleCodes cg5RuleCodes_nodup store
  constructor
  · intro follows code
    have done := follows.completes
    refine ⟨completes.mp done code (mem_cg5RuleCodes code), ?_⟩
    have left := states done code
    rw [if_pos (mem_cg5RuleCodes code)] at left
    exact Option.some.inj (left.symm.trans (follows.follows code))
  · intro every
    have done := completes.mpr fun code _ => (every code).1
    refine ⟨done, fun code => ?_⟩
    rw [← (every code).2]
    have left := states done code
    rw [if_pos (mem_cg5RuleCodes code)] at left
    exact left

theorem state_of_previous (store : Cg5AlertStore) (code : Cg5RuleCode) :
    (store.previous code).map Cg5PreviousAlert.state = store.state code := by
  rw [Cg5AlertStore.previous, Cg5AlertStore.state, Option.map_map]
  rfl

theorem computed_expected_iff (store : Cg5AlertStore) (code : Cg5RuleCode) :
    (acceptsAlertState (store.state code) (inputs.computed code) ∧
      inputs.computed code = expectedAlertState (store.state code)
        (evaluateCg5Anomaly (inputs.observation code) inputs.config (store.previous code)).state) ↔
      inputs.tractable code (store.state code) := by
  classical
  rw [computed, evaluate_state, evaluate_state, neededPart, neededPart, state_of_previous]
  cases stored : store.state code with
  | none => simp [acceptsAlertState, expectedAlertState, tractable]
  | some state =>
      by_cases lacks : inputs.lacksData code <;> by_cases full : inputs.exceeds code 1 <;>
        by_cases part : inputs.exceeds code (4 / 5) <;> cases state <;>
        simp [acceptsAlertState, expectedAlertState, tractable, canCg5AlertTransition, lacks, full, part]

end Cg5EvaluationInputs

/-- A call of the engine leaves the alerts as their evaluation demands exactly if each of them is
tractable. -/
theorem alerts_follow_evaluation_iff (inputs : Cg5EvaluationInputs) (store : Cg5AlertStore) :
    FollowsEvaluation inputs store ↔ ∀ code, inputs.tractable code (store.state code) := by
  rw [inputs.followsEvaluation_iff_computed]
  exact forall_congr' fun code => inputs.computed_expected_iff store code

/-- A healthy evaluation: every metric has its baseline and none is raised. -/
def quietInputs : Cg5EvaluationInputs where
  now := 1000000
  recordedAt _ := 1000000
  config := ⟨300, 50⟩
  readiness := ⟨.ready, some 999000⟩
  snapshot := ⟨fun _ => some 100, fun _ => some 100, false⟩

/-- The same five minutes later, while a scope is paused. -/
def pausedInputs : Cg5EvaluationInputs :=
  { quietInputs with
    now := 1300000
    recordedAt := fun _ => 1300000
    readiness := ⟨.ready, some 1299000⟩
    snapshot := { quietInputs.snapshot with scopePaused := true } }

theorem paused_scope_wedges_evaluation :
    ¬ FollowsEvaluation pausedInputs (quietInputs.evaluateTenant ⟨[], []⟩).1 := by
  intro follows
  have failed : (pausedInputs.evaluateTenant (quietInputs.evaluateTenant ⟨[], []⟩).1).2 =
      some .illegalTransition := by decide +kernel
  rw [follows.completes] at failed
  cases failed

end DContact.Governance

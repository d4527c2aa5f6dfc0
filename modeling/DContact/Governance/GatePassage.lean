import DContact.Governance.OverrideLaw

/-!
# How a request passes the gates

A request on which the evaluator makes no decision has passed in one of three ways: no
temporal rule applied, a callback lifted the rule, or an approved exception did. The trace
and the callback that is used up follow from the way alone. A callback wins over an
exception, so a request that rests on its callback is one that no exception covers.
-/

namespace DContact.Governance

/-! ## The lifting of one rule -/

def deferredBy (rule : TemporalRule) : TraceEntry :=
  ⟨.temporalPolicy, .settled .defer, some (.temporal rule)⟩

def callbackPassed : TraceEntry := ⟨.callbackException, .pass, some .customerRequestedCallback⟩

def exceptionPassed : TraceEntry := ⟨.approvedException, .pass, some .approvedExceptionApplied⟩

variable {input : EvaluationInput} {rule : TemporalRule}

theorem callbackWillOverride_of_callbackLifts
    (lifted : callbackLifts input rule = true) : callbackWillOverride input rule = true := by
  simp only [callbackLifts, Bool.and_eq_true] at lifted
  obtain ⟨⟨stands, allowed⟩, mode⟩ := lifted
  rw [callbackWillOverride_iff]
  refine ⟨stands, allowed, ?_⟩
  cases isMode : input.callbackMode with
  | noOverride =>
      rw [isMode] at mode
      exact Bool.noConfusion mode
  | scopedOverride => trivial
  | timePolicyOverride =>
      rw [isMode] at mode
      dsimp only at mode
      unfold callbackBacked at mode
      cases active : input.activeCallback with
      | none =>
          rw [active] at mode
          cases mode
      | some callback =>
          rw [active] at mode
          refine ⟨callback, rfl, ?_⟩
          simp only [Option.any_some, referencedException] at mode
          split at mode
          next => cases mode
          next => exact mode

theorem policy_of_callbackLifts (lifted : callbackLifts input rule = true) :
    ∃ policy, input.policy = some policy ∧ rule.code ∈ policy.overridableRules := by
  simp only [callbackLifts, Bool.and_eq_true] at lifted
  have allowed := lifted.1.2
  unfold EvaluationInput.overridable at allowed
  cases isPolicy : input.policy with
  | none =>
      rw [isPolicy] at allowed
      cases allowed
  | some policy =>
      rw [isPolicy] at allowed
      exact ⟨policy, rfl, by simpa using allowed⟩

theorem callbackGate_ok {deferred : TraceEntry}
    {lift : Lift} (allowed : input.overridable rule = true)
    (ok : callbackGate input rule deferred = .ok lift) :
    ∃ callback, input.activeCallback = some callback ∧ callbackLifts input rule = true ∧
      lift.trace = [deferred, callbackPassed] ∧ lift.callbackOverrodeBlock = true := by
  have lifted := (callbackGate_ok_iff input rule deferred allowed).mp ⟨lift, ok⟩
  unfold callbackGate at ok
  split at ok
  next => cases ok
  next callback active =>
    split at ok
    next => cases ok
    split at ok
    next => cases ok
    split at ok
    next => cases ok
    dsimp only at ok
    split at ok
    next => cases ok
    cases ok
    exact ⟨callback, active, lifted, rfl, rfl⟩

theorem overrideGate_ok {lift : Lift} (ok : overrideGate input rule = .ok lift) :
    (∃ callback, input.activeCallback = some callback ∧ callbackLifts input rule = true ∧
      lift.trace = [deferredBy rule, callbackPassed] ∧ lift.callbackOverrodeBlock = true) ∨
    ∃ pin, callbackLifts input rule = false ∧ approvedExceptionFor input rule none = some pin ∧
      lift = ⟨[deferredBy rule, exceptionPassed], [pin], false⟩ := by
  unfold overrideGate at ok
  dsimp only at ok
  split at ok
  next pin applied =>
    cases ok
    refine .inr ⟨pin, ?_, ?_, rfl⟩
    · cases lifted : callbackLifts input rule with
      | false => rfl
      | true =>
          rw [callbackWillOverride_of_callbackLifts lifted] at applied
          cases applied
    · split at applied
      next => cases applied
      next => exact applied
  next =>
    split at ok
    next => cases ok
    next allowed => exact .inl (callbackGate_ok (by simpa using allowed) ok)

variable {pin : AppliedExceptionPin}

/-- The pin of an exception names the rule that it was applied to. -/
theorem exceptionCoverageFrom_pin {context : ExceptionMatchContext} {reasonCode : String}
    {lastReason : ExceptionMismatch} {exceptions : List ExceptionFacts}
    (covered : exceptionCoverageFrom context reasonCode lastReason exceptions = .ok pin) :
    ∃ facts ∈ exceptions, pin = facts.pin reasonCode ∧ Covers facts context reasonCode := by
  induction exceptions generalizing lastReason with
  | nil => cases covered
  | cons facts rest ih =>
      unfold exceptionCoverageFrom at covered
      split at covered
      next own covers =>
        cases covered
        refine ⟨facts, List.mem_cons_self, ?_, pin, covers⟩
        unfold coversRule at covers
        repeat' split at covers
        all_goals cases covers
        rfl
      next =>
        obtain ⟨found, mem, same, covers⟩ := ih covered
        exact ⟨found, List.mem_cons_of_mem _ mem, same, covers⟩

theorem approvedExceptionFor_pin (covered : approvedExceptionFor input rule none = some pin) :
    pin.matchedRuleCode = rule.code ∧
      ∃ facts ∈ input.activeExceptions, rule.code ∈ facts.allowedRuleCodes ∧
        pin.revisionId = facts.revisionId := by
  unfold approvedExceptionFor at covered
  split at covered
  next => cases covered
  next source sourceId _ _ _ =>
    simp only [Option.getD_none, if_true] at covered
    cases found : resolveCg4ExceptionCoverage input.activeExceptions
        ⟨input.identityId, input.channel, input.purpose, source, sourceId, input.now⟩ rule.code with
    | error mismatch =>
        rw [found] at covered
        cases covered
    | ok own =>
        rw [found] at covered
        cases covered
        obtain ⟨facts, mem, rfl, _, covers⟩ := exceptionCoverageFrom_pin found
        refine ⟨rfl, facts, mem, ?_, rfl⟩
        unfold coversRule at covers
        repeat' split at covers
        all_goals first
          | contradiction
          | simp_all
  next => cases covered

/-! ## The reported rule -/

def reported (zones : ZoneDatabase) (input : EvaluationInput) : Option TemporalBlock :=
  if hasTemporalConstraint input.winner input then
    (resolvedTimezone zones input.winner input).bind fun zone => blockAt input.winner input zone.1
  else none

def shownTimezone (zones : ZoneDatabase) (input : EvaluationInput) : Option TimezoneSource :=
  if hasTemporalConstraint input.winner input then
    (resolvedTimezone zones input.winner input).map Prod.snd
  else none

/-- The ways in which a request passes. -/
inductive Passage (zones : ZoneDatabase) (input : EvaluationInput) (outcome : GateOutcome) : Prop where
  | clear (free : reported zones input = none)
      (trace : outcome.trace = [⟨.preference, .pass, none⟩, ⟨.temporalPolicy, .pass, none⟩,
        ⟨.attemptTouchCap, .pass, none⟩, ⟨.senderIdentity, .pass, none⟩])
      (consumes : outcome.consumedCallbackRequestId = none)
  | callback (block : TemporalBlock) (callback : CallbackFacts)
      (blocked : reported zones input = some block)
      (active : input.activeCallback = some callback)
      (lifted : callbackLifts input block.rule = true)
      (trace : outcome.trace = [⟨.preference, .pass, none⟩, deferredBy block.rule, callbackPassed,
        ⟨.attemptTouchCap, .pass, none⟩, ⟨.senderIdentity, .pass, none⟩])
      (consumes : outcome.consumedCallbackRequestId = some callback.requestId)
      (ref : outcome.exceptionRef = some callback.requestId)
  | exception (block : TemporalBlock) (pin : AppliedExceptionPin)
      (blocked : reported zones input = some block)
      (unlifted : callbackLifts input block.rule = false)
      (covered : approvedExceptionFor input block.rule none = some pin)
      (trace : outcome.trace = [⟨.preference, .pass, none⟩, deferredBy block.rule, exceptionPassed,
        ⟨.attemptTouchCap, .pass, none⟩, ⟨.senderIdentity, .pass, none⟩])
      (consumes : outcome.consumedCallbackRequestId = none)
      (applies : outcome.appliedExceptions = [pin])

/-- What a passing outcome shows apart from the trace and the overrides. -/
structure PassingFields (zones : ZoneDatabase) (input : EvaluationInput) (outcome : GateOutcome) :
    Prop where
  reasonCode : outcome.reasonCode = none
  nextEligibleAt : outcome.nextEligibleAt = none
  matchedWindowRef : outcome.matchedWindowRef =
    (reported zones input).map TemporalBlock.matchedWindowRef
  timezoneSource : outcome.timezoneSource = shownTimezone zones input
  exceptionMode : outcome.exceptionMode =
    (reported zones input).bind fun _ => input.policy.map PolicyFacts.callbackMode

variable {trace : List TraceEntry} {source : Option TimezoneSource} {passed : GateOutcome}

theorem senderGate_passed (undecided : (senderGate input trace source passed).decision = none) :
    senderGate input trace source passed = { passed with
      trace := trace ++ [⟨.attemptTouchCap, .pass, none⟩] ++ [⟨.senderIdentity, .pass, none⟩] } := by
  unfold senderGate at undecided ⊢
  dsimp only at undecided ⊢
  split at undecided
  next => cases undecided
  next valid => rw [if_neg valid]

variable {zones : ZoneDatabase}

theorem afterPass_passage
    {resolved : Option (Zone × TimezoneSource)} (free : reported zones input = none)
    (shown : (if hasTemporalConstraint input.winner input then resolved.map Prod.snd else none) =
      shownTimezone zones input)
    (undecided : (afterPass input input.winner resolved).decision = none) :
    Passage zones input (afterPass input input.winner resolved) ∧
      PassingFields zones input (afterPass input input.winner resolved) := by
  unfold afterPass at undecided ⊢
  dsimp only at undecided ⊢
  rw [senderGate_passed undecided]
  exact ⟨.clear free rfl rfl, ⟨rfl, rfl, by rw [free]; rfl, shown, by rw [free]; rfl⟩⟩

theorem afterBlock_passage {resolved : Zone × TimezoneSource} {block : TemporalBlock}
    (blocked : reported zones input = some block) (shown : shownTimezone zones input = some resolved.2)
    (undecided : (afterBlock input input.winner resolved block).decision = none) :
    Passage zones input (afterBlock input input.winner resolved block) ∧
      PassingFields zones input (afterBlock input input.winner resolved block) := by
  unfold afterBlock at undecided ⊢
  dsimp only at undecided ⊢
  cases gate : overrideGate input block.rule with
  | error refusal =>
      rw [gate] at undecided
      cases undecided
  | ok lift =>
      rw [gate] at undecided
      dsimp only at undecided ⊢
      rw [senderGate_passed undecided]
      refine ⟨?_, ⟨rfl, rfl, by rw [blocked]; rfl, shown.symm, by rw [blocked]; rfl⟩⟩
      rcases overrideGate_ok gate with ⟨callback, active, lifted, trace, overrode⟩ |
        ⟨pin, unlifted, covered, rfl⟩
      · refine .callback block callback blocked active lifted ?_ ?_ ?_
        · simp [trace]
        · simp [overrode, active]
        · obtain ⟨policy, isPolicy, -⟩ := policy_of_callbackLifts lifted
          simp [active, isPolicy]
      · exact .exception block pin blocked unlifted covered rfl rfl rfl

theorem evaluateCg3Policy_passage (undecided : (evaluateCg3Policy zones input).decision = none) :
    Passage zones input (evaluateCg3Policy zones input) ∧
      PassingFields zones input (evaluateCg3Policy zones input) := by
  have winner : resolveEffectivePreference input.preferences input = input.winner := rfl
  unfold evaluateCg3Policy at undecided ⊢
  rw [winner] at undecided ⊢
  dsimp only at undecided ⊢
  cases settled : preferenceRefusal input.winner with
  | some refusal =>
      rw [settled] at undecided
      cases undecided
  | none =>
      rw [settled] at undecided
      dsimp only at undecided ⊢
      by_cases constrained : hasTemporalConstraint input.winner input = true
      · have unconstrained : ¬ (!hasTemporalConstraint input.winner input) = true := by
          simp [constrained]
        rw [if_neg unconstrained] at undecided ⊢
        cases zoned : resolvedTimezone zones input.winner input with
        | none =>
            rw [zoned] at undecided
            cases undecided
        | some zone =>
            rw [zoned] at undecided
            dsimp only at undecided ⊢
            cases block : blockAt input.winner input zone.1 with
            | none =>
                rw [block] at undecided
                refine afterPass_passage ?_ ?_ undecided
                · rw [reported, if_pos constrained, zoned]
                  exact block
                · rw [shownTimezone, zoned]
            | some found =>
                rw [block] at undecided
                refine afterBlock_passage ?_ ?_ undecided
                · rw [reported, if_pos constrained, zoned]
                  exact block
                · rw [shownTimezone, if_pos constrained, zoned]
                  rfl
      · have free : reported zones input = none := if_neg constrained
        rw [if_pos (by simpa using constrained)] at undecided ⊢
        refine afterPass_passage free ?_ undecided
        rw [shownTimezone, if_neg constrained]

/-! ## The verdict that allows is no verdict -/

theorem preferenceRefusal_ne_allow {winner : Option PreferenceCandidate}
    {candidate : PreferenceCandidate} {decision : PreferenceDecision}
    (refused : preferenceRefusal winner = some (candidate, decision)) :
    decision.toContactDecision ≠ .allow := by
  unfold preferenceRefusal at refused
  repeat' split at refused
  all_goals cases refused
  cases decision <;> simp_all [PreferenceDecision.toContactDecision]

theorem overrideGate_refusal {refusal : Refusal}
    (refused : overrideGate input rule = .error refusal) : refusal.decision ≠ .allow := by
  unfold overrideGate callbackGate at refused
  dsimp only at refused
  repeat' split at refused
  all_goals cases refused
  all_goals simp [callbackRefusal]

theorem senderGate_ne_allow (undecided : passed.decision = none) :
    (senderGate input trace source passed).decision ≠ some .allow := by
  unfold senderGate
  dsimp only
  split
  next => simp
  next => simp [undecided]

/-- Only a request that passes uses its callback up. -/
theorem undecided_of_consumed {requestId : String}
    (consumed : (evaluateCg3Policy zones input).consumedCallbackRequestId = some requestId) :
    (evaluateCg3Policy zones input).decision = none := by
  unfold evaluateCg3Policy afterPass afterBlock senderGate at consumed ⊢
  dsimp only at consumed ⊢
  repeat' split at consumed
  all_goals first
    | contradiction
    | simp_all

/-- The evaluator never decides to allow: it leaves the request undecided. -/
theorem evaluateCg3Policy_ne_allow (zones : ZoneDatabase) (input : EvaluationInput) :
    (evaluateCg3Policy zones input).decision ≠ some .allow := by
  unfold evaluateCg3Policy
  dsimp only
  split
  next candidate decision refused =>
    intro allows
    exact preferenceRefusal_ne_allow refused (Option.some.inj allows)
  next =>
    split
    next => exact senderGate_ne_allow rfl
    split
    next => simp
    next zone _ =>
      split
      next => exact senderGate_ne_allow rfl
      next block _ =>
        unfold afterBlock
        dsimp only
        split
        next refusal refused =>
          intro allows
          exact overrideGate_refusal refused (Option.some.inj allows)
        next => exact senderGate_ne_allow rfl

/-! ## The same request once its callback is used up -/

/-- The request as it is asked about again: its callback is gone, and no sender is known yet. -/
def EvaluationInput.askedAgain (input : EvaluationInput) (callback : Option CallbackFacts) :
    EvaluationInput :=
  { input with activeCallback := callback, senderIdentityId := none }

section AskedAgain

theorem senderInvalid_of_undecided (undecided : (evaluateCg3Policy zones input).decision = none) :
    senderInvalid input = false := by
  have passes : blocks zones input = false := by simp [blocks, undecided]
  rw [blocks_eq] at passes
  simp only [Bool.or_eq_false_iff] at passes
  exact passes.2

section
variable (valid : senderInvalid input = false)
include valid

theorem senderGate_askedAgain (trace : List TraceEntry) (source : Option TimezoneSource)
    (passed : GateOutcome) :
    senderGate (input.askedAgain input.activeCallback) trace source passed =
      senderGate input trace source passed := by
  have again : senderInvalid (input.askedAgain input.activeCallback) = false := rfl
  simp only [senderGate, valid, again]

theorem afterPass_askedAgain (winner : Option PreferenceCandidate)
    (resolved : Option (Zone × TimezoneSource)) :
    afterPass (input.askedAgain input.activeCallback) winner resolved =
      afterPass input winner resolved := by
  unfold afterPass
  exact senderGate_askedAgain valid _ _ _

theorem afterBlock_askedAgain (winner : Option PreferenceCandidate)
    (resolved : Zone × TimezoneSource) (block : TemporalBlock) :
    afterBlock (input.askedAgain input.activeCallback) winner resolved block =
      afterBlock input winner resolved block := by
  have gate : overrideGate (input.askedAgain input.activeCallback) block.rule =
      overrideGate input block.rule := rfl
  unfold afterBlock
  rw [gate]
  cases overrideGate input block.rule with
  | error refusal => rfl
  | ok lift => exact senderGate_askedAgain valid _ _ _

/-- A valid sender makes no difference. -/
theorem evaluateCg3Policy_askedAgain :
    evaluateCg3Policy zones (input.askedAgain input.activeCallback) =
      evaluateCg3Policy zones input := by
  have winner : resolveEffectivePreference (input.askedAgain input.activeCallback).preferences
      (input.askedAgain input.activeCallback) = input.winner := rfl
  have constrained : hasTemporalConstraint input.winner (input.askedAgain input.activeCallback) =
      hasTemporalConstraint input.winner input := rfl
  have zoned : resolvedTimezone zones input.winner (input.askedAgain input.activeCallback) =
      resolvedTimezone zones input.winner input := rfl
  have block : ∀ zone, blockAt input.winner (input.askedAgain input.activeCallback) zone =
      blockAt input.winner input zone := fun _ => rfl
  unfold evaluateCg3Policy
  simp only [winner, constrained, zoned, block, afterPass_askedAgain valid,
    afterBlock_askedAgain valid]
  rfl

end

theorem lifts_askedAgain (input : EvaluationInput) (rule : TemporalRule) :
    lifts (input.askedAgain none) rule = exceptionCovers input rule := by
  have pending : callbackWillOverride (input.askedAgain none) rule = false := rfl
  have lifted : callbackLifts (input.askedAgain none) rule = false := rfl
  have covers : exceptionCovers (input.askedAgain none) rule = exceptionCovers input rule := rfl
  rw [lifts, pending, lifted, covers]
  simp

theorem temporalRefuses_eq_reported
    (resolves : hasTemporalConstraint input.winner input = true →
      (resolvedTimezone zones input.winner input).isSome = true) :
    temporalRefuses zones input = (reported zones input).any fun block => !lifts input block.rule := by
  unfold temporalRefuses reported
  cases constraint : hasTemporalConstraint input.winner input with
  | false => simp
  | true =>
      obtain ⟨zone, found⟩ := Option.isSome_iff_exists.mp (resolves constraint)
      simp [found]

theorem resolves_of_not_temporalRefuses (open_ : temporalRefuses zones input = false)
    (constraint : hasTemporalConstraint input.winner input = true) :
    (resolvedTimezone zones input.winner input).isSome = true := by
  cases zone : resolvedTimezone zones input.winner input with
  | none => simp [temporalRefuses, constraint, zone] at open_
  | some found => rfl

/-- A request that has passed passes again without its callback exactly when an exception
covers the rule that was reported. -/
theorem undecided_askedAgain_iff (undecided : (evaluateCg3Policy zones input).decision = none) :
    (evaluateCg3Policy zones (input.askedAgain none)).decision = none ↔
      ∀ block, reported zones input = some block → exceptionCovers input block.rule = true := by
  have passes : blocks zones input = false := by simp [blocks, undecided]
  rw [blocks_eq] at passes
  simp only [Bool.or_eq_false_iff] at passes
  obtain ⟨⟨preferred, open_⟩, -⟩ := passes
  have again : blocks zones (input.askedAgain none) =
      (reported zones input).any fun block => !exceptionCovers input block.rule := by
    have refusal : preferenceRefusal (input.askedAgain none).winner =
        preferenceRefusal input.winner := rfl
    have sender : senderInvalid (input.askedAgain none) = false := rfl
    have same : reported zones (input.askedAgain none) = reported zones input := rfl
    have resolves : hasTemporalConstraint input.winner input = true →
        (resolvedTimezone zones input.winner input).isSome = true :=
      resolves_of_not_temporalRefuses open_
    have refuses : temporalRefuses zones (input.askedAgain none) =
        (reported zones (input.askedAgain none)).any
          fun block => !lifts (input.askedAgain none) block.rule :=
      temporalRefuses_eq_reported resolves
    rw [blocks_eq, refusal, preferred, sender, refuses, same]
    simp only [lifts_askedAgain, Bool.false_or, Bool.or_false]
  have silent : (evaluateCg3Policy zones (input.askedAgain none)).decision = none ↔
      blocks zones (input.askedAgain none) = false := by simp [blocks]
  rw [silent, again]
  cases reported zones input with
  | none => simp
  | some block => simp

theorem unconsumed_askedAgain
    (undecided : (evaluateCg3Policy zones (input.askedAgain none)).decision = none) :
    (evaluateCg3Policy zones (input.askedAgain none)).consumedCallbackRequestId = none := by
  cases (evaluateCg3Policy_passage undecided).1 with
  | clear free trace consumes => exact consumes
  | callback block callback blocked active lifted trace consumes ref => cases active
  | exception block pin blocked unlifted covered trace consumes applies => exact consumes

end AskedAgain

end DContact.Governance

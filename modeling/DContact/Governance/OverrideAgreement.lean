import DContact.Governance.DiffSoundness
import DContact.Governance.GatePassage

/-!
# The check before the callback gate, and the gate

Before the gate the evaluator asks whether the callback will override. Where the policy wants
an exception behind the callback, the check takes any exception for a callback that names none,
and the gate takes none at all. The callback then owns an override which it is refused.
-/

namespace DContact.Governance

variable {zones : ZoneDatabase} {input : EvaluationInput} {rule : TemporalRule}
  {block : TemporalBlock}

/-- The policy wants an exception behind the callback, some exception covers the rule, and the
callback names none. -/
structure Stranded (input : EvaluationInput) (rule : TemporalRule) : Prop where
  mode : input.callbackMode = .timePolicyOverride
  stands : callbackStands input = true
  unnamed : callbackUnnamed input = true
  overridable : input.overridable rule = true
  covered : exceptionCovers input rule = true

theorem stranded_iff : Stranded input rule ↔
    callbackWillOverride input rule = true ∧ callbackLifts input rule = false := by
  rw [callbackWillOverride_iff]
  constructor
  · rintro ⟨mode, stands, unnamed, overridable, covered⟩
    unfold callbackUnnamed at unnamed
    cases active : input.activeCallback with
    | none =>
        rw [active] at unnamed
        cases unnamed
    | some callback =>
        rw [active, Option.any_some, decide_eq_true_iff] at unnamed
        have precheck := approvedExceptionFor_unnamed input rule unnamed
        refine ⟨⟨stands, overridable, ?_⟩, ?_⟩
        · rw [mode]
          exact ⟨callback, rfl, precheck.trans covered⟩
        · simp [callbackLifts, mode, callbackBacked, active, referencedException, unnamed]
  · rintro ⟨⟨stands, overridable, exception⟩, unlifted⟩
    cases mode : input.callbackMode with
    | noOverride =>
        rw [mode] at exception
        exact exception.elim
    | scopedOverride => simp [callbackLifts, stands, overridable, mode] at unlifted
    | timePolicyOverride =>
        rw [mode] at exception
        obtain ⟨callback, active, approved⟩ := exception
        have unnamed : callback.approvedExceptionId.getD "" = "" := by
          by_contra named
          simp [callbackLifts, stands, overridable, mode, callbackBacked, active,
            referencedException, named, Option.isSome_iff_ne_none.mp approved] at unlifted
        exact ⟨mode, stands, by simp [callbackUnnamed, active, unnamed], overridable,
          exceptionCovers_of_named approved⟩

/-- The gates after the reported rule. -/
theorem evaluateCg3Policy_of_reported (open_ : preferenceRefusal input.winner = none)
    (blocked : reported zones input = some block) :
    ∃ resolved, evaluateCg3Policy zones input = afterBlock input input.winner resolved block := by
  have winner : resolveEffectivePreference input.preferences input = input.winner := rfl
  unfold reported at blocked
  split at blocked
  next constrained =>
    obtain ⟨zone, zoned, reports⟩ := Option.bind_eq_some_iff.mp blocked
    refine ⟨zone, ?_⟩
    simp [evaluateCg3Policy, winner, open_, constrained, zoned, reports]
  next => cases blocked

variable {refusal : Refusal}

theorem overrideGate_error (refused : overrideGate input rule = .error refusal) :
    (refusal.decision = .defer ∨ refusal.decision = .review) ∧ callbackPassed ∉ refusal.trace := by
  unfold overrideGate callbackGate at refused
  dsimp only at refused
  repeat' split at refused
  all_goals cases refused
  all_goals simp [callbackRefusal, callbackPassed]

theorem lifts_of_error (refused : overrideGate input rule = .error refusal) :
    lifts input rule = false := by
  rw [← Bool.not_eq_true, ← overrideGate_ok_iff, refused]
  rintro ⟨lift, ⟨⟩⟩

/-- The two gates hold a request back exactly if the rule is not lifted. -/
theorem afterBlock_held (resolved : Zone × TimezoneSource) :
    ((afterBlock input input.winner resolved block).decision = some .defer ∨
      (afterBlock input input.winner resolved block).decision = some .review) ↔
      lifts input block.rule = false := by
  unfold afterBlock
  cases gate : overrideGate input block.rule with
  | error refusal => simpa [lifts_of_error gate] using (overrideGate_error gate).1
  | ok lift =>
      rw [(overrideGate_ok_iff input block.rule).mp ⟨lift, gate⟩]
      unfold senderGate
      dsimp only
      split <;> simp

theorem afterBlock_callbackPassed (resolved : Zone × TimezoneSource) :
    callbackPassed ∈ (afterBlock input input.winner resolved block).trace ↔
      callbackLifts input block.rule = true := by
  unfold afterBlock
  cases gate : overrideGate input block.rule with
  | error refusal =>
      have unlifted := lifts_of_error gate
      rw [lifts, Bool.or_eq_false_iff] at unlifted
      simpa [unlifted.1, callbackPassed] using (overrideGate_error gate).2
  | ok lift =>
      have shown (passed : GateOutcome) (trace : List TraceEntry) (source : Option TimezoneSource) :
          callbackPassed ∈ (senderGate input trace source passed).trace ↔ callbackPassed ∈ trace := by
        unfold senderGate
        dsimp only
        split <;> simp [callbackPassed]
      rw [shown]
      rcases overrideGate_ok gate with ⟨callback, -, lifted, trace, -⟩ | ⟨pin, unlifted, -, rfl⟩
      · simp [trace, lifted]
      · simp [unlifted, callbackPassed, deferredBy, exceptionPassed]

/-- What the check before the gate and the gate say of a reported rule agree. -/
def GatesAgree (zones : ZoneDatabase) (input : EvaluationInput) : Prop :=
  ∀ block, preferenceRefusal input.winner = none → reported zones input = some block →
    (exceptionCovers input block.rule = true →
      (evaluateCg3Policy zones input).decision ≠ some .defer ∧
        (evaluateCg3Policy zones input).decision ≠ some .review) ∧
    (callbackWillOverride input block.rule = true ↔
      callbackPassed ∈ (evaluateCg3Policy zones input).trace)

theorem gates_agree_iff (zones : ZoneDatabase) (input : EvaluationInput) :
    GatesAgree zones input ↔ preferenceRefusal input.winner = none →
      ∀ block, reported zones input = some block → ¬ Stranded input block.rule := by
  unfold GatesAgree
  constructor
  · intro agree open_ block blocked stranded
    obtain ⟨resolved, same⟩ := evaluateCg3Policy_of_reported open_ blocked
    obtain ⟨pending, unlifted⟩ := stranded_iff.mp stranded
    have passed := ((agree block open_ blocked).2.mp pending)
    rw [same, afterBlock_callbackPassed, unlifted] at passed
    cases passed
  · intro free block open_ blocked
    obtain ⟨resolved, same⟩ := evaluateCg3Policy_of_reported open_ blocked
    have lifted : callbackWillOverride input block.rule = true ↔
        callbackLifts input block.rule = true := by
      refine ⟨fun pending => ?_, callbackWillOverride_of_callbackLifts⟩
      by_contra unlifted
      exact free open_ block blocked (stranded_iff.mpr ⟨pending, by simpa using unlifted⟩)
    rw [same, afterBlock_callbackPassed]
    refine ⟨fun covered => ?_, lifted⟩
    rw [← not_or, afterBlock_held, lifts, covered, Bool.true_and]
    cases pending : callbackWillOverride input block.rule with
    | true => simp [lifted.mp pending]
    | false => simp

/-- A message on Christmas night under an exception from the quiet hours. The customer has
asked to be called back as well. -/
def christmasCallbackRequest : EvaluationInput :=
  { christmasExceptionRequest with
    preferences := []
    policy := some { nightPolicy [] ["QUIET_HOURS"] with callbackMode := .timePolicyOverride }
    activeCallback := some { christmasCallback with identityId := some "identity" }
    activeExceptions := [{ probeException .quietHours with
      startsAt := dateUtc 2026 12 25 15 30
      expiresAt := dateUtc 2026 12 25 16 30 }] }

/-- The exception would have lifted the quiet hours; the callback sends the message to review. -/
theorem callback_strands_excepted_request : ¬ ∀ zones input, GatesAgree zones input := by
  intro agree
  have held := ((agree bangkokAtChristmas christmasCallbackRequest ⟨.quietHours, "policy:quietHours"⟩
    rfl rfl).1 (by decide)).2
  revert held
  decide

end DContact.Governance

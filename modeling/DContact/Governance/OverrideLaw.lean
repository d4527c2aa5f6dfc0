import DContact.Governance.PolicyEvaluator

/-!
# What an override lifts

The evaluator decides a request in one Boolean equation: it blocks when the
preference settles it, when the temporal gate refuses, or when the sender is
invalid. The temporal gate refuses exactly when no zone resolves or the one rule
it reports is not lifted. A rule that no override lifts therefore blocks the
contact unless another rule stands before it, applies as well and is lifted.
-/

namespace DContact.Governance

def exceptionCovers (input : EvaluationInput) (rule : TemporalRule) : Bool :=
  (approvedExceptionFor input rule none).isSome

def callbackStands (input : EvaluationInput) : Bool :=
  input.activeCallback.any fun callback =>
    callbackIsExactScopeMatch callback input && decide (callback.expiresAt > input.now)

def callbackBacked (input : EvaluationInput) (rule : TemporalRule) : Bool :=
  input.activeCallback.any fun callback => (referencedException input rule callback).isSome

/-- The policy lets the callback override the rule, and in the strictest mode the
callback is backed by the exception it names. -/
def callbackLifts (input : EvaluationInput) (rule : TemporalRule) : Bool :=
  callbackStands input && input.overridable rule &&
    match input.callbackMode with
    | .noOverride => false
    | .scopedOverride => true
    | .timePolicyOverride => callbackBacked input rule

/-- A callback that is about to override keeps an exception from being applied. -/
def lifts (input : EvaluationInput) (rule : TemporalRule) : Bool :=
  callbackLifts input rule || (exceptionCovers input rule && !callbackWillOverride input rule)

theorem callbackGate_ok_iff (input : EvaluationInput) (rule : TemporalRule)
    (deferred : TraceEntry) (allowed : input.overridable rule = true) :
    (∃ lift, callbackGate input rule deferred = .ok lift) ↔ callbackLifts input rule = true := by
  unfold callbackGate callbackLifts callbackStands callbackBacked
  cases input.activeCallback with
  | none => simp
  | some callback =>
      by_cases live : callback.expiresAt > input.now
      · have notExpired : ¬ callback.expiresAt ≤ input.now := Int.not_le.mpr live
        cases mode : input.callbackMode <;>
          cases matched : callbackIsExactScopeMatch callback input <;>
          cases referenced : referencedException input rule callback <;>
          simp [allowed, matched, live, notExpired, referenced]
      · have expired : callback.expiresAt ≤ input.now := Int.not_lt.mp live
        cases mode : input.callbackMode <;>
          cases matched : callbackIsExactScopeMatch callback input <;>
          simp [matched, live, expired]

/-- The three conditions under which a pending callback is about to override. -/
theorem callbackWillOverride_iff (input : EvaluationInput) (rule : TemporalRule) :
    callbackWillOverride input rule = true ↔
      callbackStands input = true ∧ input.overridable rule = true ∧
        match input.callbackMode with
        | .noOverride => False
        | .scopedOverride => True
        | .timePolicyOverride => ∃ callback, input.activeCallback = some callback ∧
            (approvedExceptionFor input rule callback.approvedExceptionId).isSome = true := by
  unfold callbackWillOverride callbackStands
  cases input.activeCallback with
  | none => simp
  | some callback =>
      cases mode : input.callbackMode <;> simp [and_assoc]

variable {input : EvaluationInput} {rule : TemporalRule}

theorem overridable_of_callbackWillOverride
    (pending : callbackWillOverride input rule = true) : input.overridable rule = true :=
  ((callbackWillOverride_iff input rule).mp pending).2.1

theorem overrideGate_ok_iff (input : EvaluationInput) (rule : TemporalRule) :
    (∃ lift, overrideGate input rule = .ok lift) ↔ lifts input rule = true := by
  unfold overrideGate lifts exceptionCovers
  cases pending : callbackWillOverride input rule with
  | true =>
      have allowed := overridable_of_callbackWillOverride pending
      simpa [allowed] using callbackGate_ok_iff input rule _ allowed
  | false =>
      cases approvedExceptionFor input rule none with
      | some pin => simp
      | none =>
          cases allowed : input.overridable rule with
          | true => simpa [allowed] using callbackGate_ok_iff input rule _ allowed
          | false => simp [allowed, callbackLifts]

theorem not_lifts (noCallback : callbackLifts input rule = false)
    (noException : exceptionCovers input rule = false) : lifts input rule = false := by
  simp [lifts, noCallback, noException]

/-- The evaluator returns a decision. -/
def blocks (zones : ZoneDatabase) (input : EvaluationInput) : Bool :=
  (evaluateCg3Policy zones input).decision.isSome

/-- The winning preference of the request. -/
def EvaluationInput.winner (input : EvaluationInput) : Option PreferenceCandidate :=
  resolveEffectivePreference input.preferences input

def temporalRefuses (zones : ZoneDatabase) (input : EvaluationInput) : Bool :=
  hasTemporalConstraint input.winner input &&
    match resolvedTimezone zones input.winner input with
    | none => true
    | some resolved =>
        (blockAt input.winner input resolved.1).any fun block => !lifts input block.rule

theorem senderGate_decision (input : EvaluationInput) (trace : List TraceEntry)
    (source : Option TimezoneSource) {passed : GateOutcome} (undecided : passed.decision = none) :
    (senderGate input trace source passed).decision.isSome = senderInvalid input := by
  unfold senderGate
  cases senderInvalid input <;> simp [undecided]

theorem afterBlock_decision (input : EvaluationInput) (winner : Option PreferenceCandidate)
    (resolved : Zone × TimezoneSource) (block : TemporalBlock) :
    (afterBlock input winner resolved block).decision.isSome =
      (!lifts input block.rule || senderInvalid input) := by
  have gate := overrideGate_ok_iff input block.rule
  unfold afterBlock
  cases passed : overrideGate input block.rule with
  | error refusal =>
      have refused : lifts input block.rule = false := by simpa [passed] using gate
      simp [refused]
  | ok lift =>
      have lifted : lifts input block.rule = true := by simpa [passed] using gate
      simp [lifted, senderGate_decision]

theorem blocks_eq (zones : ZoneDatabase) (input : EvaluationInput) :
    blocks zones input =
      ((preferenceRefusal input.winner).isSome || temporalRefuses zones input ||
        senderInvalid input) := by
  have winner : resolveEffectivePreference input.preferences input = input.winner := rfl
  simp only [blocks, evaluateCg3Policy, temporalRefuses, winner]
  cases preferenceRefusal input.winner with
  | some refusal => simp
  | none =>
      cases hasTemporalConstraint input.winner input with
      | false => simp [afterPass, senderGate_decision]
      | true =>
          cases resolvedTimezone zones input.winner input with
          | none => simp
          | some resolved =>
              cases reported : blockAt input.winner input resolved.1 with
              | none => simp [reported, afterPass, senderGate_decision]
              | some block => simp [reported, afterBlock_decision]

def TemporalRule.rank : TemporalRule → Nat
  | .tenantHoliday => 0
  | .quietHours => 1
  | .preferenceWindowClosed => 2

/-- Whether a rule applies at the current instant, taken by itself. -/
def applies (input : EvaluationInput) (zone : Zone) : TemporalRule → Bool
  | .tenantHoliday => holidayCloses (zone input.now) input.holidays
  | .quietHours =>
      anyWindowMatches input.quietHours (zone input.now).weekday (zone input.now).minuteOfDay
  | .preferenceWindowClosed =>
      !(preferredWindowsOf input.winner).isEmpty &&
        !anyWindowMatches (preferredWindowsOf input.winner) (zone input.now).weekday
          (zone input.now).minuteOfDay

def AppliesFirst (input : EvaluationInput) (zone : Zone) (rule : TemporalRule) : Prop :=
  applies input zone rule = true ∧
    ∀ other : TemporalRule, other.rank < rule.rank → applies input zone other = false

theorem blockAt_rule_iff (input : EvaluationInput) (zone : Zone) (rule : TemporalRule) :
    (∃ block, blockAt input.winner input zone = some block ∧ block.rule = rule) ↔
      AppliesFirst input zone rule := by
  have ranked (P : TemporalRule → Prop) :
      (∀ other : TemporalRule, other.rank < rule.rank → P other) ↔
        (0 < rule.rank → P .tenantHoliday) ∧ (1 < rule.rank → P .quietHours) := by
    constructor
    · exact fun before => ⟨before .tenantHoliday, before .quietHours⟩
    · rintro ⟨holiday, quiet⟩ (_ | _ | _) below
      · exact holiday below
      · exact quiet below
      · cases rule <;> simp [TemporalRule.rank] at below
  unfold AppliesFirst
  rw [ranked fun other => applies input zone other = false]
  unfold blockAt evaluateInstant applies
  cases holidayCloses (zone input.now) input.holidays <;>
    cases anyWindowMatches input.quietHours (zone input.now).weekday
      (zone input.now).minuteOfDay <;>
    cases (!(preferredWindowsOf input.winner).isEmpty &&
      !anyWindowMatches (preferredWindowsOf input.winner) (zone input.now).weekday
        (zone input.now).minuteOfDay) <;>
    cases rule <;> simp [TemporalRule.rank]

variable {zone : Zone}

/-- An applying rule is reported, or one of smaller rank is. -/
theorem exists_appliesFirst (inside : applies input zone rule = true) :
    ∃ first : TemporalRule, first.rank ≤ rule.rank ∧ AppliesFirst input zone first := by
  induction order : rule.rank using Nat.strong_induction_on generalizing rule with
  | _ rank ih =>
      by_cases hidden : ∃ other : TemporalRule, other.rank < rule.rank ∧
          applies input zone other = true
      · obtain ⟨other, below, applied⟩ := hidden
        obtain ⟨first, least, firstApplies⟩ := ih other.rank (order ▸ below) applied rfl
        exact ⟨first, by omega, firstApplies⟩
      · refine ⟨rule, by omega, inside, fun other below => ?_⟩
        by_contra applied
        exact hidden ⟨other, below, by simpa using applied⟩

variable {left right : TemporalRule}

theorem TemporalRule.rank_injective (same : left.rank = right.rank) : left = right := by
  cases left <;> cases right <;> simp_all [TemporalRule.rank]

theorem AppliesFirst.unique (first : AppliesFirst input zone left)
    (second : AppliesFirst input zone right) : left = right := by
  apply TemporalRule.rank_injective
  by_contra different
  rcases Nat.lt_or_gt_of_ne different with below | below
  · exact absurd first.1 (by simp [second.2 left below])
  · exact absurd second.1 (by simp [first.2 right below])

theorem hasTemporalConstraint_of_applies (inside : applies input zone rule = true) :
    hasTemporalConstraint input.winner input = true := by
  unfold hasTemporalConstraint
  cases rule with
  | tenantHoliday =>
      cases listed : input.holidays with
      | nil => simp [applies, listed, holidayCloses] at inside
      | cons entry rest => simp
  | quietHours =>
      cases listed : input.quietHours with
      | nil => simp [applies, listed, anyWindowMatches] at inside
      | cons window rest => simp
  | preferenceWindowClosed =>
      have nonempty := (Bool.and_eq_true_iff.mp inside).1
      simp [nonempty]

def MaskedByLifted (input : EvaluationInput) (zone : Zone) (rule : TemporalRule) : Prop :=
  ∃ mask : TemporalRule, mask.rank < rule.rank ∧ AppliesFirst input zone mask ∧
    lifts input mask = true

theorem temporalRefuses_iff {zones : ZoneDatabase} {resolved : Zone × TimezoneSource}
    (zone : resolvedTimezone zones input.winner input = some resolved)
    {first : TemporalRule} (reported : AppliesFirst input resolved.1 first) :
    temporalRefuses zones input = true ↔ lifts input first = false := by
  obtain ⟨block, reports, sameRule⟩ := (blockAt_rule_iff input resolved.1 first).mpr reported
  simp [temporalRefuses, hasTemporalConstraint_of_applies reported.1, zone, reports, sameRule]

/-- A rule which neither the callback nor an exception reaches blocks the contact
exactly when no lifted rule of smaller rank hides it, unless the preference or
the sender settles the request anyway. -/
theorem blocks_iff_not_maskedByLifted (zones : ZoneDatabase) (input : EvaluationInput)
    (resolved : Zone × TimezoneSource) (rule : TemporalRule)
    (zone : resolvedTimezone zones input.winner input = some resolved)
    (inside : applies input resolved.1 rule = true)
    (noCallback : callbackLifts input rule = false)
    (noException : exceptionCovers input rule = false) :
    blocks zones input = true ↔
      (preferenceRefusal input.winner).isSome = true ∨ senderInvalid input = true ∨
        ¬ MaskedByLifted input resolved.1 rule := by
  obtain ⟨first, least, reported⟩ := exists_appliesFirst inside
  have refuses := temporalRefuses_iff zone reported
  have masked : MaskedByLifted input resolved.1 rule ↔ lifts input first = true := by
    constructor
    · rintro ⟨mask, -, maskFirst, lifted⟩
      rwa [reported.unique maskFirst]
    · intro lifted
      refine ⟨first, ?_, reported, lifted⟩
      refine Nat.lt_of_le_of_ne least fun same => ?_
      rw [TemporalRule.rank_injective same, not_lifts noCallback noException] at lifted
      exact Bool.noConfusion lifted
  rw [blocks_eq, masked]
  simp only [Bool.or_eq_true, refuses, Bool.not_eq_true]
  tauto

/-- Friday, 25 December 2026, 23:00. -/
def christmasNight : ZonedParts where
  year := 2026
  month := 12
  day := 25
  weekday := 5
  hour := 23
  minute := 0
  year_pos := by decide
  month_range := by decide
  day_range := by decide
  weekday_eq := by decide
  hour_lt := by decide
  minute_lt := by decide

/-- The wall clock of Bangkok at 16:00 UTC of that day. -/
def bangkokAtChristmas : ZoneDatabase := fun timeZone =>
  if timeZone = "Asia/Bangkok" then some fun _ => christmasNight else none

def everyDay : List Nat := [1, 2, 3, 4, 5, 6, 7]

def nightPolicy (holidays : List HolidayEntry) (overridableRules : List String) : PolicyFacts where
  version := 1
  timezoneFallback := some "Asia/Bangkok"
  quietHours := [⟨everyDay, ⟨21, 0⟩, ⟨8, 0⟩⟩]
  callbackMode := .scopedOverride
  overridableRules := overridableRules
  holidays := holidays

def christmasCallback : CallbackFacts where
  requestId := "callback-1"
  identityId := none
  channel := .line
  purpose := "MARKETING"
  expiresAt := dateUtc 2026 12 25 23 0
  approvedExceptionId := none

/-- A marketing message on Christmas night with a callback requested by the customer. -/
def christmasRequest (policy : PolicyFacts) : EvaluationInput where
  now := dateUtc 2026 12 25 16 0
  identityId := none
  channel := .line
  purpose := "MARKETING"
  contactKind := none
  senderIdentityId := none
  customerExplicitTimezone := none
  customer360Timezone := none
  tenantDefaultTimezone := none
  preferences := []
  policy := some policy
  activeCallback := some christmasCallback
  source := none
  sourceId := none
  activeExceptions := []

/-- On a closed holiday which the callback may override, the quiet hours which it
may not override are passed as well. -/
theorem quietHours_passed_behind_lifted_holiday :
    ¬ ∀ (zones : ZoneDatabase) (input : EvaluationInput) (resolved : Zone × TimezoneSource)
      (rule : TemporalRule), resolvedTimezone zones input.winner input = some resolved →
      applies input resolved.1 rule = true → callbackLifts input rule = false →
      exceptionCovers input rule = false → blocks zones input = true := by
  intro law
  have blocked := law bangkokAtChristmas
    (christmasRequest (nightPolicy [⟨⟨2026, 12, 25⟩, .closed, []⟩] ["TENANT_HOLIDAY"]))
    (fun _ => christmasNight, .policyFallback) .quietHours rfl (by decide) (by decide) (by decide)
  revert blocked
  decide

/-- The same night without the holiday: the quiet hours hold the message back. -/
theorem quietHours_block_without_holiday :
    blocks bangkokAtChristmas (christmasRequest (nightPolicy [] ["TENANT_HOLIDAY"])) = true := by
  refine (blocks_iff_not_maskedByLifted _ _ (fun _ => christmasNight, .policyFallback)
    .quietHours rfl (by decide) (by decide) (by decide)).mpr (.inr (.inr ?_))
  rintro ⟨mask, below, ⟨applied, -⟩, -⟩
  cases mask with
  | tenantHoliday => exact absurd applied (by decide)
  | quietHours | preferenceWindowClosed => exact absurd below (by decide)

end DContact.Governance

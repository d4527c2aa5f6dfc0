import DContact.Governance.OverrideLaw
import DContact.Governance.PolicyDiff

/-!
# When a diff that is no relaxation blocks no less

A change which the diff does not call a relaxation still permits requests that
the base blocks whenever the two contents report different rules at some local
instant, name different fallback zones, or combine callback modes so that the
base alone sends a covered request to review. `Transparent` lists these
conditions, and the main theorem shows that they are exact.
-/

namespace DContact.Governance

open Lib Option

/-! ## Evaluation under a content -/

def EvaluationInput.under (input : EvaluationInput) (content : PolicyContent) (version : Nat) :
    EvaluationInput :=
  { input with policy := some (content.facts version) }

def PolicyContent.policyRule (content : PolicyContent) (parts : ZonedParts) :
    Option TemporalRule :=
  (evaluateInstant parts [] content.quietHours content.holidays).map TemporalBlock.rule

def windowRule (winner : Option PreferenceCandidate) (parts : ZonedParts) : Option TemporalRule :=
  if !(preferredWindowsOf winner).isEmpty &&
      !anyWindowMatches (preferredWindowsOf winner) parts.weekday parts.minuteOfDay then
    some .preferenceWindowClosed
  else
    none

def reportedRule (input : EvaluationInput) (zone : Zone) : Option TemporalRule :=
  (blockAt input.winner input zone).map TemporalBlock.rule

section
variable (input : EvaluationInput) (content : PolicyContent) (version : Nat)
include input content version

theorem winner_under : (input.under content version).winner = input.winner := rfl

theorem reportedRule_under (zone : Zone) :
    reportedRule (input.under content version) zone =
      (content.policyRule (zone input.now)).or (windowRule input.winner (zone input.now)) := by
  have quiet : (input.under content version).quietHours = content.quietHours := rfl
  have holidays : (input.under content version).holidays = content.holidays := rfl
  have now : (input.under content version).now = input.now := rfl
  simp only [reportedRule, blockAt, PolicyContent.policyRule, windowRule, evaluateInstant,
    winner_under, quiet, holidays, now]
  split
  · rfl
  · split
    · rfl
    · split <;> simp_all

theorem hasTemporalConstraint_under :
    hasTemporalConstraint input.winner (input.under content version) =
      (!(preferredWindowsOf input.winner).isEmpty || content.hasTemporalConstraint) := by
  have quiet : (input.under content version).quietHours = content.quietHours := rfl
  have holidays : (input.under content version).holidays = content.holidays := rfl
  simp [hasTemporalConstraint, PolicyContent.hasTemporalConstraint, quiet, holidays, Bool.or_assoc]

end

variable {input : EvaluationInput} {rule : TemporalRule}

theorem hasTemporalConstraint_of_reported {zone : Zone}
    (reported : reportedRule input zone = some rule) :
    hasTemporalConstraint input.winner input = true := by
  obtain ⟨block, reports, sameRule⟩ := map_eq_some_iff.mp reported
  have first := (blockAt_rule_iff input zone rule).mp ⟨block, reports, sameRule⟩
  exact hasTemporalConstraint_of_applies first.1

variable {zones : ZoneDatabase}

theorem temporalRefuses_of_zone {resolved : Zone × TimezoneSource}
    (zone : resolvedTimezone zones input.winner input = some resolved) :
    temporalRefuses zones input =
      (reportedRule input resolved.1).any fun rule => !lifts input rule := by
  cases reported : reportedRule input resolved.1 with
  | some rule =>
      have constrained := hasTemporalConstraint_of_reported reported
      obtain ⟨block, reports, sameRule⟩ := map_eq_some_iff.mp reported
      simp [temporalRefuses, constrained, zone, reports, sameRule]
  | none =>
      have silent : blockAt input.winner input resolved.1 = none := by
        simpa [reportedRule] using reported
      simp [temporalRefuses, zone, silent]

variable {content : PolicyContent} {version : Nat}

theorem temporalRefuses_of_no_zone
    (unresolved : resolvedTimezone zones input.winner (input.under content version) = none) :
    temporalRefuses zones (input.under content version) =
      (!(preferredWindowsOf input.winner).isEmpty || content.hasTemporalConstraint) := by
  rw [temporalRefuses, winner_under, unresolved, hasTemporalConstraint_under, Bool.and_true]

/-! ## Lifting under a content -/

def callbackUnnamed (input : EvaluationInput) : Bool :=
  input.activeCallback.any fun callback => decide (callback.approvedExceptionId.getD "" = "")

theorem approvedExceptionFor_isSome_iff (input : EvaluationInput) (rule : TemporalRule)
    (seriesId : Option String) :
    (approvedExceptionFor input rule seriesId).isSome = true ↔
      ∃ source sourceId, input.source = some source ∧ input.sourceId = some sourceId ∧
        ∃ facts ∈ input.activeExceptions,
          (seriesId.getD "" = "" ∨ facts.seriesId = seriesId.getD "") ∧
          Covers facts ⟨input.identityId, input.channel, input.purpose, source, sourceId,
            input.now⟩ rule.code := by
  have found (result : Except ExceptionMismatch AppliedExceptionPin) :
      result.toOption.isSome = true ↔ ∃ pin, result = .ok pin := by
    cases result <;> simp [Except.toOption]
  unfold approvedExceptionFor
  cases listed : input.activeExceptions with
  | nil => simp
  | cons first rest =>
      cases hsource : input.source with
      | none => simp
      | some source =>
          cases hsourceId : input.sourceId with
          | none => simp
          | some sourceId =>
              simp only [found, resolveCg4ExceptionCoverage_ok_iff, Option.some.injEq,
                exists_and_left, exists_eq_left']
              by_cases unnamed : seriesId.getD "" = ""
              · simp [unnamed]
              · simp only [unnamed, if_false, List.mem_filter, beq_iff_eq, false_or, and_assoc]

theorem exceptionCovers_of_named {seriesId : Option String}
    (named : (approvedExceptionFor input rule seriesId).isSome = true) :
    exceptionCovers input rule = true := by
  obtain ⟨source, sourceId, sourceEq, sourceIdEq, facts, mem, -, covers⟩ :=
    (approvedExceptionFor_isSome_iff input rule seriesId).mp named
  exact (approvedExceptionFor_isSome_iff input rule none).mpr
    ⟨source, sourceId, sourceEq, sourceIdEq, facts, mem, .inl rfl, covers⟩

theorem approvedExceptionFor_unnamed (input : EvaluationInput) (rule : TemporalRule)
    {seriesId : Option String} (unnamed : seriesId.getD "" = "") :
    (approvedExceptionFor input rule seriesId).isSome = exceptionCovers input rule := by
  rw [Bool.eq_iff_iff, exceptionCovers, approvedExceptionFor_isSome_iff,
    approvedExceptionFor_isSome_iff]
  simp [unnamed]

/-- In the strictest mode a callback without a named exception is about to
override through any exception, and is then sent to review for naming none. -/
theorem lifts_timePolicyOverride (mode : input.callbackMode = .timePolicyOverride) :
    lifts input rule = (exceptionCovers input rule &&
      !(callbackStands input && callbackUnnamed input && input.overridable rule)) := by
  have pending := callbackWillOverride_iff input rule
  simp only [mode] at pending
  unfold lifts callbackLifts callbackBacked callbackUnnamed
  simp only [mode]
  cases present : input.activeCallback with
  | none =>
      have idle : callbackWillOverride input rule = false := by
        rw [← Bool.not_eq_true, pending]
        simp [present]
      simp [idle, callbackStands, present]
  | some callback =>
      simp only [present, Option.some.injEq, exists_eq_left'] at pending
      by_cases unnamed : callback.approvedExceptionId.getD "" = ""
      · have same := approvedExceptionFor_unnamed input rule unnamed
        rw [same] at pending
        have will : callbackWillOverride input rule = (callbackStands input &&
            input.overridable rule && exceptionCovers input rule) := by
          rw [Bool.eq_iff_iff, pending]
          simp [and_assoc]
        simp only [will, referencedException, unnamed, if_true, any_some, decide_true]
        cases callbackStands input <;> cases input.overridable rule <;>
          cases exceptionCovers input rule <;> rfl
      · have implied := @exceptionCovers_of_named input rule callback.approvedExceptionId
        have will : callbackWillOverride input rule = (callbackStands input &&
            input.overridable rule &&
            (approvedExceptionFor input rule callback.approvedExceptionId).isSome) := by
          rw [Bool.eq_iff_iff, pending]
          simp [and_assoc]
        simp only [will, referencedException, unnamed, if_false, any_some, decide_false]
        cases named : (approvedExceptionFor input rule callback.approvedExceptionId).isSome with
        | true =>
            rw [implied named]
            cases callbackStands input <;> cases input.overridable rule <;> rfl
        | false => simp

theorem lifts_scopedOverride (mode : input.callbackMode = .scopedOverride) :
    lifts input rule = (exceptionCovers input rule ||
      (callbackStands input && input.overridable rule)) := by
  have will : callbackWillOverride input rule =
      (callbackStands input && input.overridable rule) := by
    rw [Bool.eq_iff_iff, callbackWillOverride_iff, mode]
    simp
  simp only [lifts, callbackLifts, mode, will]
  cases callbackStands input <;> cases input.overridable rule <;>
    cases exceptionCovers input rule <;> rfl

theorem lifts_noOverride (mode : input.callbackMode = .noOverride) :
    lifts input rule = exceptionCovers input rule := by
  have idle : callbackWillOverride input rule = false := by
    rw [← Bool.not_eq_true, callbackWillOverride_iff, mode]
    simp
  simp [lifts, callbackLifts, mode, idle]

/-- The three modes in terms of the content; the rest of the request is unchanged. -/
theorem lifts_under (input : EvaluationInput) (content : PolicyContent) (version : Nat)
    (rule : TemporalRule) :
    lifts (input.under content version) rule =
      match content.callbackMode with
      | .noOverride => exceptionCovers input rule
      | .scopedOverride => exceptionCovers input rule ||
          (callbackStands input && content.overridableRules.contains rule.code)
      | .timePolicyOverride => exceptionCovers input rule &&
          !(callbackStands input && callbackUnnamed input &&
            content.overridableRules.contains rule.code) := by
  have under : (input.under content version).callbackMode = content.callbackMode := rfl
  cases mode : content.callbackMode with
  | noOverride => exact lifts_noOverride (under.trans mode)
  | scopedOverride => exact lifts_scopedOverride (under.trans mode)
  | timePolicyOverride => exact lifts_timePolicyOverride (under.trans mode)

theorem lifts_under_of_no_callback
    (absent : input.activeCallback = none) (content : PolicyContent) (version : Nat)
    (rule : TemporalRule) :
    lifts (input.under content version) rule = exceptionCovers input rule := by
  have idle : callbackStands input = false := by simp [callbackStands, absent]
  rw [lifts_under, idle]
  cases content.callbackMode <;> simp

theorem exceptionCovers_preferenceWindowClosed (input : EvaluationInput) :
    exceptionCovers input .preferenceWindowClosed = false := by
  rw [← Bool.not_eq_true, exceptionCovers, approvedExceptionFor_isSome_iff]
  rintro ⟨source, sourceId, -, -, facts, -, -, covers⟩
  exact not_covers_preferenceWindowClosed facts _ covers

/-! ## Rules reported by two contents -/

theorem policyRule_eq (content : PolicyContent) (parts : ZonedParts) :
    content.policyRule parts =
      if holidayCloses parts content.holidays then some .tenantHoliday
      else if anyWindowMatches content.quietHours parts.weekday parts.minuteOfDay then
        some .quietHours
      else none := by
  simp only [PolicyContent.policyRule, evaluateInstant]
  split
  · rfl
  · split <;> simp_all

theorem policyRule_ne_preferenceWindowClosed (content : PolicyContent) (parts : ZonedParts) :
    content.policyRule parts ≠ some .preferenceWindowClosed := by
  rw [policyRule_eq]
  split
  · simp
  · split <;> simp

theorem policyRule_of_unconstrained
    (free : content.hasTemporalConstraint = false) (parts : ZonedParts) :
    content.policyRule parts = none := by
  have lists : content.quietHours = [] ∧ content.holidays = [] := by
    simpa [PolicyContent.hasTemporalConstraint] using free
  simp [policyRule_eq, lists.1, lists.2, holidayCloses, anyWindowMatches]

/-! ## The preview's copy of the window rule -/

variable {base candidate : PolicyContent} {parts : ZonedParts}

theorem NotRelaxed.holidayCloses (narrower : NotRelaxed base candidate)
    (baseDates : (base.holidays.map HolidayEntry.localDate).Nodup)
    (candidateDates : (candidate.holidays.map HolidayEntry.localDate).Nodup)
    (closed : holidayCloses parts base.holidays = true) :
    holidayCloses parts candidate.holidays = true := by
  obtain ⟨date, named, blocked⟩ := (holidayCloses_iff baseDates parts).mp closed
  exact (holidayCloses_iff candidateDates parts).mpr
    ⟨date, named, narrower.holidays _ blocked⟩

theorem NotRelaxed.quietHours (narrower : NotRelaxed base candidate)
    (quiet : anyWindowMatches base.quietHours parts.weekday parts.minuteOfDay = true) :
    anyWindowMatches candidate.quietHours parts.weekday parts.minuteOfDay = true := by
  have blocked := mem_quietMinutes.mpr ⟨parts.weekday_range, parts.minuteOfDay_lt, quiet⟩
  exact (mem_quietMinutes.mp (narrower.quiet _ blocked)).2.2

theorem NotRelaxed.reports (narrower : NotRelaxed base candidate)
    (baseDates : (base.holidays.map HolidayEntry.localDate).Nodup)
    (candidateDates : (candidate.holidays.map HolidayEntry.localDate).Nodup)
    (silent : candidate.policyRule parts = none) :
    base.policyRule parts = none := by
  rw [policyRule_eq] at silent ⊢
  by_cases closed : Governance.holidayCloses parts base.holidays = true
  · simp [narrower.holidayCloses baseDates candidateDates closed] at silent
  · by_cases within : anyWindowMatches base.quietHours parts.weekday parts.minuteOfDay = true
    · rw [narrower.quietHours within] at silent
      split at silent <;> simp at silent
    · simp [closed, within]

/-! ## The exact condition -/

/-- Whatever the zones, the preferences, the callback and the exceptions are, a
request blocked under the base is blocked under the candidate. -/
def DiffSound (base candidate : PolicyContent) : Prop :=
  ∀ (zones : ZoneDatabase) (input : EvaluationInput) (baseVersion candidateVersion : Nat),
    (∀ zone, base.timezoneFallback = some zone → isValidTimeZone zones zone = true) →
    (∀ zone, candidate.timezoneFallback = some zone → isValidTimeZone zones zone = true) →
    blocks zones (input.under base baseVersion) = true →
    blocks zones (input.under candidate candidateVersion) = true

/-- The two contents report the same rule at every displayed instant and name the
same zone; a candidate without temporal rules names a zone if the base has such
rules; and no combination of callback modes sends a request to review under the
base alone. -/
structure Transparent (base candidate : PolicyContent) : Prop where
  rules : ∀ parts, base.policyRule parts = candidate.policyRule parts
  zone : base.timezoneFallback = candidate.timezoneFallback
  constrained : base.hasTemporalConstraint = true →
    candidate.hasTemporalConstraint = true ∨ candidate.timezoneFallback ≠ none
  review : base.callbackMode = .timePolicyOverride →
    ∀ parts rule, base.policyRule parts = some rule → rule.code ∈ base.overridableRules →
      candidate.callbackMode = .timePolicyOverride ∧ rule.code ∈ candidate.overridableRules
  windows : base.callbackMode = .timePolicyOverride → candidate.callbackMode = .scopedOverride →
    TemporalRule.preferenceWindowClosed.code ∈ candidate.overridableRules →
      ∀ parts, base.policyRule parts ≠ none

theorem reportedRule_under_cases {zone : Zone}
    (reported : reportedRule (input.under content version) zone = some rule) :
    content.policyRule (zone input.now) = some rule ∨
      (content.policyRule (zone input.now) = none ∧ rule = .preferenceWindowClosed) := by
  rw [reportedRule_under] at reported
  cases policy : content.policyRule (zone input.now) with
  | some first =>
      left
      simpa [policy] using reported
  | none =>
      right
      rw [policy, none_or, windowRule] at reported
      split at reported <;> simp_all

theorem Transparent.lifts
    (transparent : Transparent base candidate) (narrower : NotRelaxed base candidate)
    {baseVersion candidateVersion : Nat} {zone : Zone}
    (reported : reportedRule (input.under base baseVersion) zone = some rule)
    (lifted : lifts (input.under candidate candidateVersion) rule = true) :
    lifts (input.under base baseVersion) rule = true := by
  have fewer : candidate.overridableRules.contains rule.code = true →
      base.overridableRules.contains rule.code = true := by
    simpa using narrower.overridable rule.code
  have rank := narrower.callbackMode
  rw [lifts_under] at lifted ⊢
  cases baseMode : base.callbackMode with
  | noOverride =>
      cases candidateMode : candidate.callbackMode <;>
        simp_all [CallbackMode.rank]
  | scopedOverride =>
      cases candidateMode : candidate.callbackMode with
      | noOverride => simp_all
      | scopedOverride =>
          simp only [candidateMode, Bool.or_eq_true, Bool.and_eq_true] at lifted ⊢
          exact lifted.imp_right fun both => ⟨both.1, fewer both.2⟩
      | timePolicyOverride => simp [baseMode, candidateMode, CallbackMode.rank] at rank
  | timePolicyOverride =>
      rcases reportedRule_under_cases reported with policy | ⟨silent, rfl⟩
      · by_cases listed : rule.code ∈ base.overridableRules
        · obtain ⟨candidateMode, candidateLists⟩ :=
            transparent.review baseMode (zone input.now) rule policy listed
          simp only [candidateMode, List.contains_eq_mem, candidateLists] at lifted
          simpa only [List.contains_eq_mem, listed] using lifted
        · have candidateUnlisted : rule.code ∉ candidate.overridableRules :=
            fun mem => listed (narrower.overridable rule.code mem)
          cases candidateMode : candidate.callbackMode <;>
            simp_all
      · have uncovered := exceptionCovers_preferenceWindowClosed input
        cases candidateMode : candidate.callbackMode with
        | noOverride | timePolicyOverride => simp [candidateMode, uncovered] at lifted
        | scopedOverride =>
            have listed : TemporalRule.preferenceWindowClosed.code ∈
                candidate.overridableRules := by
              simp only [candidateMode, uncovered, Bool.false_or, Bool.and_eq_true,
                List.contains_eq_mem, decide_eq_true_eq] at lifted
              exact lifted.2
            exact absurd silent (transparent.windows baseMode candidateMode listed _)

theorem resolvedTimezone_isSome {winner : Option PreferenceCandidate} {zone : String}
    (fallback : content.timezoneFallback = some zone) (named : zone ≠ "")
    (known : isValidTimeZone zones zone = true) :
    (resolvedTimezone zones winner (input.under content version)).isSome = true := by
  rw [resolvedTimezone, List.findSome?_isSome_iff]
  refine ⟨(content.timezoneFallback, .policyFallback), ?_, ?_⟩
  · simp [timezoneChain, EvaluationInput.under, PolicyContent.facts]
  · simpa [zoneOf, fallback, named, isValidTimeZone] using known

theorem resolvedTimezone_under_congr
    (same : base.timezoneFallback = candidate.timezoneFallback) (zones : ZoneDatabase)
    (winner : Option PreferenceCandidate) (input : EvaluationInput)
    (baseVersion candidateVersion : Nat) :
    resolvedTimezone zones winner (input.under base baseVersion) =
      resolvedTimezone zones winner (input.under candidate candidateVersion) := by
  simp only [resolvedTimezone, timezoneChain, EvaluationInput.under, PolicyContent.facts, same,
    bind_some]

/-- Transparency is enough: what the base refuses, the candidate refuses. -/
theorem Transparent.sound (normalized : Normalized candidate)
    (narrower : NotRelaxed base candidate) (transparent : Transparent base candidate) :
    DiffSound base candidate := by
  intro zones input baseVersion candidateVersion _ known blocked
  rw [blocks_eq] at blocked ⊢
  suffices temporalRefuses zones (input.under base baseVersion) = true →
      temporalRefuses zones (input.under candidate candidateVersion) = true by
    simp only [Bool.or_eq_true] at blocked ⊢
    exact blocked.imp_left (Or.imp_right this)
  intro refused
  have sameZone := resolvedTimezone_under_congr transparent.zone zones input.winner input
    baseVersion candidateVersion
  cases resolved : resolvedTimezone zones input.winner (input.under base baseVersion) with
  | some zone =>
      rw [temporalRefuses_of_zone resolved] at refused
      rw [temporalRefuses_of_zone (sameZone ▸ resolved)]
      have sameRule : reportedRule (input.under candidate candidateVersion) zone.1 =
          reportedRule (input.under base baseVersion) zone.1 := by
        rw [reportedRule_under, reportedRule_under, transparent.rules]
      rw [sameRule]
      cases reported : reportedRule (input.under base baseVersion) zone.1 with
      | none => simp [reported] at refused
      | some rule =>
          simp only [reported, any_some, Bool.not_eq_true'] at refused ⊢
          rw [← Bool.not_eq_true] at refused ⊢
          exact fun lifted => refused (transparent.lifts narrower reported lifted)
  | none =>
      have unresolved := sameZone ▸ resolved
      rw [temporalRefuses_of_no_zone resolved, Bool.or_eq_true] at refused
      rw [temporalRefuses_of_no_zone unresolved, Bool.or_eq_true]
      refine refused.imp_right fun constrained => ?_
      rcases transparent.constrained constrained with kept | named
      · exact kept
      · obtain ⟨zone, fallback⟩ := ne_none_iff_exists'.mp named
        have found : (resolvedTimezone zones input.winner
            (input.under candidate candidateVersion)).isSome = true :=
          resolvedTimezone_isSome fallback (normalized.zone_ne_empty fallback)
            (known zone fallback)
        simp [unresolved] at found

/-! ## Requests that tell two contents apart -/

/-- An exception for one rule alone, valid for the hour from the origin of time. -/
def probeException (rule : TemporalRule) : ExceptionFacts where
  seriesId := "series"
  revisionId := "revision"
  revision := 1
  workflowState := .approved
  identityId := some "identity"
  scopeKind := .exactIdentity
  channel := .line
  purpose := "MARKETING"
  sourceType := "JOURNEY"
  sourceId := "journey"
  allowedRuleCodes := [rule.code]
  policyContentDigest := "digest"
  currentPolicyContentDigest := some "digest"
  policyAllowedRuleCodes := [rule.code]
  registryVersion := ruleRegistryVersion
  startsAt := 0
  expiresAt := 3600000
  tier := .standard
  contentDigest := "content"
  approvalDigest := "approval"

/-- A standing callback that names no exception. -/
def probeCallback : CallbackFacts where
  requestId := "callback"
  identityId := some "identity"
  channel := .line
  purpose := "MARKETING"
  expiresAt := 1
  approvedExceptionId := none

/-- A request whose only preference carries the windows given. -/
def probe (explicitZone tenantZone : Option String) (windows : List LocalTimeWindow)
    (callback : Option CallbackFacts) (excepted : List TemporalRule) : EvaluationInput where
  now := 0
  identityId := some "identity"
  channel := .line
  purpose := "MARKETING"
  contactKind := none
  senderIdentityId := none
  customerExplicitTimezone := explicitZone
  customer360Timezone := none
  tenantDefaultTimezone := tenantZone
  preferences := [⟨1, none, none, none, none, none, none, windows⟩]
  policy := none
  activeCallback := callback
  source := some "JOURNEY"
  sourceId := some "journey"
  activeExceptions := excepted.map probeException

section Probe

variable (explicitZone tenantZone : Option String) (windows : List LocalTimeWindow)
  (callback : Option CallbackFacts)

theorem probe_winner (excepted : List TemporalRule) :
    (probe explicitZone tenantZone windows callback excepted).winner =
      some ⟨1, none, none, none, none, none, none, windows⟩ := rfl

theorem probe_covers (temporal : rule ≠ .preferenceWindowClosed) :
    exceptionCovers (probe explicitZone tenantZone windows callback [rule]) rule = true := by
  cases rule with
  | tenantHoliday => rfl
  | quietHours => rfl
  | preferenceWindowClosed => exact absurd rfl temporal

theorem probe_covers_other {other : TemporalRule} (different : other ≠ rule) :
    exceptionCovers (probe explicitZone tenantZone windows callback [rule]) other = false := by
  cases rule <;> cases other <;> first | rfl | exact absurd rfl different

theorem probe_covers_nil (rule : TemporalRule) :
    exceptionCovers (probe explicitZone tenantZone windows callback []) rule = false := rfl

theorem probe_resolved (excepted : List TemporalRule) (zones : ZoneDatabase)
    (content : PolicyContent) (version : Nat) :
    resolvedTimezone zones (probe none tenantZone windows callback excepted).winner
        ((probe none tenantZone windows callback excepted).under content version) =
      [(content.timezoneFallback, TimezoneSource.policyFallback),
        (tenantZone, TimezoneSource.tenantDefault)].findSome? fun candidate =>
          (zoneOf zones candidate.1).map fun zone => (zone, candidate.2) := rfl

theorem probe_lifts (excepted : List TemporalRule) (content : PolicyContent) (version : Nat)
    (rule : TemporalRule) :
    lifts ((probe explicitZone tenantZone windows none excepted).under content version) rule =
      exceptionCovers (probe explicitZone tenantZone windows none excepted) rule :=
  lifts_under_of_no_callback rfl content version rule

/-- Neither the preference nor the sender settles a probe. -/
theorem probe_blocks (excepted : List TemporalRule) (zones : ZoneDatabase)
    (content : PolicyContent) (version : Nat) :
    blocks zones ((probe explicitZone tenantZone windows callback excepted).under content version) =
      temporalRefuses zones
        ((probe explicitZone tenantZone windows callback excepted).under content version) := by
  rw [blocks_eq, winner_under, probe_winner]
  have sender : senderInvalid ((probe explicitZone tenantZone windows callback excepted).under
      content version) = false := rfl
  simp [preferenceRefusal, sender]

/-- Every identifier names a zone that always displays the same instant. -/
def constantZones (parts : ZonedParts) : ZoneDatabase := fun _ => some fun _ => parts

theorem constantZones_valid (parts : ZonedParts) (content : PolicyContent) (zone : String)
    (_ : content.timezoneFallback = some zone) :
    isValidTimeZone (constantZones parts) zone = true := rfl

/-- A probe at a displayed instant is decided by the rule reported there. -/
theorem probe_blocks_at (parts : ZonedParts) (excepted : List TemporalRule)
    (content : PolicyContent) (version : Nat) :
    blocks (constantZones parts)
        ((probe (some "Etc/UTC") none windows callback excepted).under content version) =
      ((content.policyRule parts).or
        (windowRule (some ⟨1, none, none, none, none, none, none, windows⟩) parts)).any
        fun rule => !lifts
          ((probe (some "Etc/UTC") none windows callback excepted).under content version) rule := by
  have resolved : resolvedTimezone (constantZones parts)
      ((probe (some "Etc/UTC") none windows callback excepted).under content version).winner
      ((probe (some "Etc/UTC") none windows callback excepted).under content version) =
        some (fun _ => parts, .customerExplicit) := rfl
  rw [probe_blocks, temporalRefuses_of_zone resolved, reportedRule_under, probe_winner]

end Probe

def closedWindow (parts : ZonedParts) : LocalTimeWindow := ⟨[parts.weekday % 7 + 1], ⟨0, 0⟩, ⟨0, 0⟩⟩

theorem windowRule_closedWindow (parts : ZonedParts) :
    windowRule (some ⟨1, none, none, none, none, none, none, [closedWindow parts]⟩) parts =
      some .preferenceWindowClosed := by
  have range := parts.weekday_range
  have other : ¬ parts.weekday = parts.weekday % 7 + 1 := by omega
  simp [windowRule, preferredWindowsOf, anyWindowMatches, withinWindow, closedWindow, other]

theorem windowRule_nil (parts : ZonedParts) :
    windowRule (some ⟨1, none, none, none, none, none, none, []⟩) parts = none := rfl

/-- Different rules at one instant: an exception for the candidate's rule alone
opens the request that the base still blocks by another rule. -/
theorem DiffSound.rules (baseDates : (base.holidays.map HolidayEntry.localDate).Nodup)
    (candidateDates : (candidate.holidays.map HolidayEntry.localDate).Nodup)
    (narrower : NotRelaxed base candidate) (sound : DiffSound base candidate)
    (parts : ZonedParts) : base.policyRule parts = candidate.policyRule parts := by
  cases candidateRule : candidate.policyRule parts with
  | none => exact narrower.reports baseDates candidateDates candidateRule
  | some rule =>
      by_contra different
      have temporal : rule ≠ .preferenceWindowClosed := fun same =>
        policyRule_ne_preferenceWindowClosed candidate parts (same ▸ candidateRule)
      have transfer := sound (constantZones parts)
        (probe (some "Etc/UTC") none [closedWindow parts] none [rule]) 1 1
        (constantZones_valid parts base) (constantZones_valid parts candidate)
      rw [probe_blocks_at, probe_blocks_at, windowRule_closedWindow, candidateRule] at transfer
      simp only [probe_lifts, some_or, any_some, probe_covers _ _ _ _ temporal] at transfer
      refine Bool.noConfusion (transfer ?_)
      cases baseRule : base.policyRule parts with
      | none => simp [probe_covers_other _ _ _ _ temporal.symm]
      | some first =>
          have distinct : first ≠ rule := fun same => different (same ▸ baseRule)
          simp [probe_covers_other _ _ _ _ distinct]

def mondayNoon : ZonedParts where
  year := 2026
  month := 1
  day := 5
  weekday := 1
  hour := 12
  minute := 0
  year_pos := christmasNight.year_pos
  month_range := by decide
  day_range := by decide
  weekday_eq := by decide
  hour_lt := by decide
  minute_lt := christmasNight.minute_lt

@[inherit_doc mondayNoon]
def tuesdayNoon : ZonedParts where
  year := 2026
  month := 1
  day := 6
  weekday := 2
  hour := 12
  minute := 0
  year_pos := christmasNight.year_pos
  month_range := by decide
  day_range := by decide
  weekday_eq := by decide
  hour_lt := by decide
  minute_lt := christmasNight.minute_lt

def tuesdayWindows : List LocalTimeWindow := [⟨[2], ⟨0, 0⟩, ⟨0, 0⟩⟩]

def mondayIn (zone : String) : ZoneDatabase := fun timeZone =>
  some fun _ => if timeZone = zone then mondayNoon else tuesdayNoon

/-- A probe without explicit zone, for contents that report no rule, is decided by
the preferred windows in the zone of the content or else of the tenant. -/
theorem probe_blocks_windows (silent : ∀ parts, content.policyRule parts = none)
    {tenantZone : Option String} {zone : Zone} {source : TimezoneSource}
    (resolved : resolvedTimezone zones (probe none tenantZone tuesdayWindows none []).winner
      ((probe none tenantZone tuesdayWindows none []).under content version) =
        some (zone, source)) :
    blocks zones ((probe none tenantZone tuesdayWindows none []).under content version) =
      (windowRule (some ⟨1, none, none, none, none, none, none, tuesdayWindows⟩) (zone 0)).isSome := by
  rw [probe_blocks, temporalRefuses_of_zone resolved, reportedRule_under, probe_winner, silent,
    none_or]
  change (windowRule _ (zone 0)).any _ = _
  cases windowRule (some ⟨1, none, none, none, none, none, none, tuesdayWindows⟩) (zone 0) with
  | none => rfl
  | some rule => simp [probe_lifts, probe_covers_nil]

/-- Different fallback zones: the preferred windows are closed in the base's zone
and open in the candidate's, or the base has no zone to read them in. -/
theorem DiffSound.zone (baseNormalized : Normalized base)
    (candidateNormalized : Normalized candidate) (narrower : NotRelaxed base candidate)
    (rules : ∀ parts, base.policyRule parts = candidate.policyRule parts)
    (sound : DiffSound base candidate) :
    base.timezoneFallback = candidate.timezoneFallback := by
  by_contra different
  have candidateSilent : ∀ parts, candidate.policyRule parts = none := by
    rcases narrower.timezone with same | free | free
    · exact absurd same different
    · exact fun parts => rules parts ▸ policyRule_of_unconstrained free parts
    · exact policyRule_of_unconstrained free
  have baseSilent : ∀ parts, base.policyRule parts = none :=
    fun parts => (rules parts).trans (candidateSilent parts)
  cases baseZone : base.timezoneFallback with
  | some zone =>
      have baseNamed := baseNormalized.zone_ne_empty baseZone
      obtain ⟨tenant, tenantNamed, tenantOther⟩ : ∃ tenant : String, tenant ≠ "" ∧ tenant ≠ zone := by
        by_cases utc : zone = "Etc/UTC"
        · exact ⟨"Etc/GMT", by decide, by rw [utc]; decide⟩
        · exact ⟨"Etc/UTC", by decide, fun same => utc same.symm⟩
      have transfer := sound (mondayIn zone) (probe none (some tenant) tuesdayWindows none []) 1 1
        (fun _ _ => rfl) (fun _ _ => rfl)
      have baseResolved : resolvedTimezone (mondayIn zone)
          (probe none (some tenant) tuesdayWindows none []).winner
          ((probe none (some tenant) tuesdayWindows none []).under base 1) =
            some (fun _ => mondayNoon, .policyFallback) := by
        simp [probe_resolved, zoneOf, mondayIn, baseZone, baseNamed]
      have candidateResolved : ∃ source, resolvedTimezone (mondayIn zone)
          (probe none (some tenant) tuesdayWindows none []).winner
          ((probe none (some tenant) tuesdayWindows none []).under candidate 1) =
            some (fun _ => tuesdayNoon, source) := by
        cases candidateZone : candidate.timezoneFallback with
        | none =>
            exact ⟨.tenantDefault, by
              simp [probe_resolved, zoneOf, mondayIn, candidateZone, tenantNamed, tenantOther]⟩
        | some other =>
            have otherNamed := candidateNormalized.zone_ne_empty candidateZone
            have distinct : other ≠ zone := by
              rintro rfl
              exact different (baseZone.trans candidateZone.symm)
            exact ⟨.policyFallback, by
              simp [probe_resolved, zoneOf, mondayIn, candidateZone, otherNamed, distinct]⟩
      obtain ⟨source, candidateResolved⟩ := candidateResolved
      rw [probe_blocks_windows baseSilent baseResolved,
        probe_blocks_windows candidateSilent candidateResolved] at transfer
      exact absurd (transfer (by decide)) (by decide)
  | none =>
      obtain ⟨zone, candidateZone⟩ := ne_none_iff_exists'.mp
        (fun none => different (baseZone.trans none.symm))
      have named := candidateNormalized.zone_ne_empty candidateZone
      have transfer := sound (constantZones tuesdayNoon) (probe none none tuesdayWindows none [])
        1 1 (fun _ _ => rfl) (fun _ _ => rfl)
      have candidateResolved : resolvedTimezone (constantZones tuesdayNoon)
          (probe none none tuesdayWindows none []).winner
          ((probe none none tuesdayWindows none []).under candidate 1) =
            some (fun _ => tuesdayNoon, .policyFallback) := by
        simp [probe_resolved, zoneOf, constantZones, candidateZone, named]
      have baseUnresolved : resolvedTimezone (constantZones tuesdayNoon)
          (probe none none tuesdayWindows none []).winner
          ((probe none none tuesdayWindows none []).under base 1) = none := by
        simp [probe_resolved, zoneOf, baseZone]
      rw [probe_blocks_windows candidateSilent candidateResolved, probe_blocks] at transfer
      refine absurd (transfer ?_) (by decide)
      rw [temporalRefuses_of_no_zone baseUnresolved]
      rfl

theorem probe_unresolved (content : PolicyContent) : resolvedTimezone (fun _ => none)
    (probe none none [] none []).winner ((probe none none [] none []).under content 1) = none := by
  cases named : content.timezoneFallback <;> simp [probe_resolved, zoneOf, named]

/-- A base whose rules never fire still defers a request that has no zone. -/
theorem DiffSound.constrained
    (zone : base.timezoneFallback = candidate.timezoneFallback) (sound : DiffSound base candidate)
    (constrained : base.hasTemporalConstraint = true) :
    candidate.hasTemporalConstraint = true ∨ candidate.timezoneFallback ≠ none := by
  by_contra neither
  obtain ⟨free, unnamed⟩ := not_or.mp neither
  rw [Bool.not_eq_true] at free
  rw [ne_eq, not_not] at unnamed
  have transfer := sound (fun _ => none) (probe none none [] none []) 1 1
    (by simp [zone, unnamed]) (by simp [unnamed])
  rw [probe_blocks, probe_blocks, temporalRefuses_of_no_zone (probe_unresolved base),
    temporalRefuses_of_no_zone (probe_unresolved candidate), constrained, free, probe_winner]
    at transfer
  exact absurd (transfer rfl) (by decide)

section
variable (rules : ∀ parts, base.policyRule parts = candidate.policyRule parts)
  (sound : DiffSound base candidate) (mode : base.callbackMode = .timePolicyOverride)
include rules sound mode

/-- A callback without a named exception: the base alone sends it to review. -/
theorem DiffSound.review (parts : ZonedParts) (rule : TemporalRule)
    (reported : base.policyRule parts = some rule) (listed : rule.code ∈ base.overridableRules) :
    candidate.callbackMode = .timePolicyOverride ∧ rule.code ∈ candidate.overridableRules := by
  by_contra escapes
  have temporal : rule ≠ .preferenceWindowClosed := fun same =>
    policyRule_ne_preferenceWindowClosed base parts (same ▸ reported)
  have transfer := sound (constantZones parts)
    (probe (some "Etc/UTC") none [] (some probeCallback) [rule]) 1 1
    (constantZones_valid parts base) (constantZones_valid parts candidate)
  have stands : callbackStands (probe (some "Etc/UTC") none [] (some probeCallback) [rule]) =
    true := rfl
  have unnamed : callbackUnnamed (probe (some "Etc/UTC") none [] (some probeCallback) [rule]) =
    true := rfl
  rw [probe_blocks_at, probe_blocks_at, windowRule_nil, ← rules, reported] at transfer
  simp only [or_none, any_some, lifts_under, mode,
    probe_covers _ _ _ _ temporal, stands, unnamed, List.contains_eq_mem, listed] at transfer
  cases candidateMode : candidate.callbackMode <;> simp_all

theorem DiffSound.windows (candidateMode : candidate.callbackMode = .scopedOverride)
    (listed : TemporalRule.preferenceWindowClosed.code ∈ candidate.overridableRules)
    (parts : ZonedParts) : base.policyRule parts ≠ none := by
  intro silent
  have transfer := sound (constantZones parts)
    (probe (some "Etc/UTC") none [closedWindow parts] (some probeCallback) []) 1 1
    (constantZones_valid parts base) (constantZones_valid parts candidate)
  have stands : callbackStands
    (probe (some "Etc/UTC") none [closedWindow parts] (some probeCallback) []) = true := rfl
  rw [probe_blocks_at, probe_blocks_at, windowRule_closedWindow, ← rules, silent] at transfer
  simp [lifts_under, mode, candidateMode, probe_covers_nil, stands, listed] at transfer

end

/-- A change which the diff does not call a relaxation blocks every request that
the base blocks exactly when the two contents are transparent to each other. -/
theorem diffSound_iff_transparent (base candidate : PolicyContent)
    (baseNormalized : Normalized base) (candidateNormalized : Normalized candidate)
    (notRelaxation : (classifyCg4PolicyDiff (some base) candidate).diffClass ≠ .relaxation) :
    DiffSound base candidate ↔ Transparent base candidate := by
  have narrower := classify_ne_relaxation_iff.mp notRelaxation
  constructor
  · intro sound
    have rules := sound.rules baseNormalized.dates_nodup candidateNormalized.dates_nodup narrower
    have zone := sound.zone baseNormalized candidateNormalized narrower rules
    exact ⟨rules, zone, sound.constrained zone, sound.review rules, sound.windows rules⟩
  · exact Transparent.sound candidateNormalized narrower

/-! ## One tightening that opens a request and one that does not -/

def holidayContent (holidays : List HolidayEntry) : PolicyContent :=
  { emptyPolicyContent with holidays := holidays }

theorem emptyPolicyContent_normalized : Normalized emptyPolicyContent :=
  ⟨fun _ => none, .obj [("callbackMode", .str "NO_OVERRIDE")], rfl⟩

theorem christmasContent_normalized :
    Normalized (holidayContent [⟨⟨2026, 12, 25⟩, .closed, []⟩]) :=
  ⟨fun _ => none, .obj [("callbackMode", .str "NO_OVERRIDE"),
    ("holidays", .arr [.obj [("localDate", .str "2026-12-25"), ("effect", .str "CLOSED")]])], rfl⟩

def christmasExceptionRequest : EvaluationInput :=
  { christmasRequest (nightPolicy [] []) with
    identityId := some "identity"
    customerExplicitTimezone := some "Asia/Bangkok"
    preferences := [⟨1, none, none, none, none, none, none, [⟨[1], ⟨9, 0⟩, ⟨17, 0⟩⟩]⟩]
    activeCallback := none
    source := some "JOURNEY"
    sourceId := some "journey"
    activeExceptions := [{ probeException .tenantHoliday with
      startsAt := dateUtc 2026 12 25 15 30
      expiresAt := dateUtc 2026 12 25 16 30 }] }

/-- Closing Christmas is no relaxation, and yet a request which the empty content
holds back for the customer's preferred windows passes under the new content: the
exception from the holiday hides the closed window. -/
theorem closing_christmas_opens_request :
    ¬ ∀ base candidate : PolicyContent, Normalized base → Normalized candidate →
      (classifyCg4PolicyDiff (some base) candidate).diffClass ≠ .relaxation →
      DiffSound base candidate := by
  intro law
  have notRelaxed : NotRelaxed emptyPolicyContent
      (holidayContent [⟨⟨2026, 12, 25⟩, .closed, []⟩]) := by
    refine ⟨?_, ?_, by decide, by decide, by decide, .inl rfl⟩
    · rintro ⟨weekday, minute⟩ blocked
      exact absurd (mem_quietMinutes.mp blocked).2.2 Bool.false_ne_true
    · intro entry blocked
      exact absurd blocked List.not_mem_nil
  have sound := law emptyPolicyContent (holidayContent [⟨⟨2026, 12, 25⟩, .closed, []⟩])
    emptyPolicyContent_normalized christmasContent_normalized
    (classify_ne_relaxation_iff.mpr notRelaxed)
  have blocked := sound bangkokAtChristmas christmasExceptionRequest 1 2
    (fun _ named => nomatch named) (fun _ named => nomatch named) (by decide)
  revert blocked
  decide

def nightContent (callbackMode : CallbackMode) (overridableRules : List String) :
    PolicyContent where
  timezoneFallback := some "Asia/Bangkok"
  quietHours := [⟨everyDay, ⟨21, 0⟩, ⟨8, 0⟩⟩]
  callbackMode := callbackMode
  overridableRules := overridableRules
  allowedOperationalRuleCodes := []
  holidays := []

/-- The authoring input of `nightContent`. -/
def nightJson (callbackMode : String) (overridableRules : List String) : Json :=
  .obj [("timezoneFallback", .str "Asia/Bangkok"), ("callbackMode", .str callbackMode),
    ("overridableRules", .arr (overridableRules.map .str)),
    ("quietHours", .arr [.obj [("daysOfWeek", .arr (everyDay.map fun day => .num day)),
      ("startLocal", .str "21:00"), ("endLocal", .str "08:00")]])]

/-- Taking the callback away from a night policy blocks no less. -/
theorem withdrawing_callback_sound :
    DiffSound (nightContent .scopedOverride ["QUIET_HOURS"]) (nightContent .noOverride []) := by
  have narrower : NotRelaxed (nightContent .scopedOverride ["QUIET_HOURS"])
      (nightContent .noOverride []) :=
    ⟨fun _ blocked => blocked, fun _ blocked => blocked, by decide, by decide, by decide, .inl rfl⟩
  refine (diffSound_iff_transparent _ _
    ⟨bangkokAtChristmas, nightJson "SCOPED_OVERRIDE" ["QUIET_HOURS"], rfl⟩
    ⟨bangkokAtChristmas, nightJson "NO_OVERRIDE" [], rfl⟩
    (classify_ne_relaxation_iff.mpr narrower)).mpr ?_
  exact {
    rules := fun _ => rfl
    zone := rfl
    constrained := fun constrained => .inl constrained
    review := fun mode => CallbackMode.noConfusion mode
    windows := fun mode => CallbackMode.noConfusion mode }

end DContact.Governance

import DContact.Governance.ExceptionEvaluation
import DContact.Lib.Text

/-!
# The contact policy evaluator

The evaluator walks the gates in a fixed order: preference, temporal policy,
overrides of a temporal block, sender identity. It returns a decision when a
gate settles the request and no decision when every gate has passed.

The temporal gate reports one rule only. A holiday hides quiet hours, and quiet
hours hide the preferred windows, so the override gate never sees more than the
first rule that applies.
-/

namespace DContact.Governance

open Lib

inductive PreferenceDecision where
  | allow
  | block
  | defer
  deriving DecidableEq

inductive CallbackMode where
  | noOverride
  | scopedOverride
  | timePolicyOverride
  deriving DecidableEq

structure PreferenceCandidate where
  version : Nat
  identityId : Option String
  channel : Option ContactChannel
  purpose : Option String
  contactKind : Option String
  decision : Option PreferenceDecision
  timezone : Option String
  preferredWindows : List LocalTimeWindow

inductive HolidayEffect where
  | closed
  | windows
  deriving DecidableEq

structure HolidayEntry where
  localDate : CalendarDate
  effect : HolidayEffect
  windows : List LocalTimeWindow
  deriving DecidableEq

structure PolicyFacts where
  version : Nat
  timezoneFallback : Option String
  quietHours : List LocalTimeWindow
  callbackMode : CallbackMode
  overridableRules : List String
  holidays : List HolidayEntry
  deriving DecidableEq

/-- `expiresAt` is the instant of a stored timestamp, which the source carries as
its ISO text. -/
structure CallbackFacts where
  requestId : String
  identityId : Option String
  channel : ContactChannel
  purpose : String
  expiresAt : Instant
  approvedExceptionId : Option String

structure EvaluationInput where
  now : Instant
  identityId : Option String
  channel : ContactChannel
  purpose : String
  contactKind : Option String
  senderIdentityId : Option String
  customerExplicitTimezone : Option String
  customer360Timezone : Option String
  tenantDefaultTimezone : Option String
  preferences : List PreferenceCandidate
  policy : Option PolicyFacts
  activeCallback : Option CallbackFacts
  source : Option String
  sourceId : Option String
  activeExceptions : List ExceptionFacts

/-- The rules which the temporal gate can report, in the order of their rank. -/
inductive TemporalRule where
  | tenantHoliday
  | quietHours
  | preferenceWindowClosed
  deriving DecidableEq

def TemporalRule.code : TemporalRule → String
  | .tenantHoliday => RuleCode.tenantHoliday.text
  | .quietHours => RuleCode.quietHours.text
  | .preferenceWindowClosed => RuleCode.preferenceWindowClosed.text

inductive Reason where
  | preferenceBlocked
  | temporal (rule : TemporalRule)
  | timezoneUnknown
  | callbackOverrideNotAllowed
  | callbackOverrideExpired
  | exceptionApprovalRequired
  | customerRequestedCallback
  | approvedExceptionApplied
  | senderIdentityInvalid

def Reason.text : Reason → String
  | .preferenceBlocked => RuleCode.preferenceBlocked.text
  | .temporal rule => rule.code
  | .timezoneUnknown => RuleCode.timezoneUnknown.text
  | .callbackOverrideNotAllowed => RuleCode.callbackOverrideNotAllowed.text
  | .callbackOverrideExpired => RuleCode.callbackOverrideExpired.text
  | .exceptionApprovalRequired => "EXCEPTION_APPROVAL_REQUIRED"
  | .customerRequestedCallback => "CUSTOMER_REQUESTED_CALLBACK"
  | .approvedExceptionApplied => "APPROVED_EXCEPTION_APPLIED"
  | .senderIdentityInvalid => RuleCode.senderIdentityInvalid.text

inductive ContactDecision where
  | allow
  | block
  | defer
  | review
  deriving DecidableEq

inductive PolicyGate where
  | preference
  | temporalPolicy
  | callbackException
  | approvedException
  | attemptTouchCap
  | senderIdentity

inductive GateVerdict where
  | pass
  | settled (decision : ContactDecision)
  deriving DecidableEq

structure TraceEntry where
  gate : PolicyGate
  outcome : GateVerdict
  reasonCode : Option Reason := none

inductive TimezoneSource where
  | preference
  | customerExplicit
  | customer360
  | policyFallback
  | tenantDefault
  deriving DecidableEq

structure MatchedScope where
  identityId : Option String
  channel : Option ContactChannel
  purpose : Option String
  contactKind : Option String

/-- No `decision` means that every gate has passed. -/
structure GateOutcome where
  trace : List TraceEntry
  decision : Option ContactDecision := none
  reasonCode : Option Reason := none
  preferenceVersion : Option Nat := none
  nextEligibleAt : Option Instant := none
  timezoneSource : Option TimezoneSource := none
  matchedScope : Option MatchedScope := none
  matchedWindowRef : Option String := none
  exceptionMode : Option CallbackMode := none
  exceptionRef : Option String := none
  consumedCallbackRequestId : Option String := none
  appliedExceptions : List AppliedExceptionPin := []

def preferenceMatches (candidate : PreferenceCandidate) (input : EvaluationInput) : Bool :=
  (candidate.identityId.isNone || candidate.identityId == input.identityId) &&
  (candidate.channel.isNone || candidate.channel == some input.channel) &&
  (candidate.purpose.isNone || candidate.purpose == some input.purpose) &&
  (candidate.contactKind.isNone || candidate.contactKind == input.contactKind)

def specificityOf (candidate : PreferenceCandidate) : Nat :=
  candidate.identityId.isSome.toNat + candidate.channel.isSome.toNat +
    candidate.purpose.isSome.toNat + candidate.contactKind.isSome.toNat

def PreferenceDecision.restrictiveness : PreferenceDecision → Nat
  | .block => 0
  | .defer => 1
  | .allow => 2

/-- The most specific candidate, the most restrictive one among equals. -/
def resolveEffectivePreference (candidates : List PreferenceCandidate)
    (input : EvaluationInput) : Option PreferenceCandidate :=
  let matching := candidates.filter fun candidate => preferenceMatches candidate input
  let maxSpecificity := (matching.map specificityOf).foldl max 0
  let winners := matching.filter fun candidate => specificityOf candidate == maxSpecificity
  let rank (candidate : PreferenceCandidate) :=
    (candidate.decision.getD .allow).restrictiveness
  (winners.insertionSort fun left right => rank left ≤ rank right).head?

def PreferenceDecision.toContactDecision : PreferenceDecision → ContactDecision
  | .allow => .allow
  | .block => .block
  | .defer => .defer

/-- The decision with which the winning preference settles the request. -/
def preferenceRefusal (winner : Option PreferenceCandidate) :
    Option (PreferenceCandidate × PreferenceDecision) :=
  match winner with
  | none => none
  | some candidate =>
      match candidate.decision with
      | none => none
      | some decision => if decision = .allow then none else some (candidate, decision)

structure TemporalBlock where
  rule : TemporalRule
  matchedWindowRef : String

def HolidayEntry.closedAt (entry : HolidayEntry) (weekday minuteOfDay : Nat) : Bool :=
  match entry.effect with
  | .closed => true
  | .windows => !anyWindowMatches entry.windows weekday minuteOfDay

/-- Whether the first calendar entry of the displayed date closes the instant. -/
def holidayCloses (parts : ZonedParts) (holidays : List HolidayEntry) : Bool :=
  match holidays.find? fun entry => entry.localDate.text == localDateKey parts with
  | none => false
  | some holiday => holiday.closedAt parts.weekday parts.minuteOfDay

/-- One instant: holiday, then quiet hours, then preferred windows. `none` means
that the instant is eligible. -/
def evaluateInstant (parts : ZonedParts) (preferredWindows quietHours : List LocalTimeWindow)
    (holidays : List HolidayEntry) : Option TemporalBlock :=
  if holidayCloses parts holidays then
    some ⟨.tenantHoliday, "holiday:" ++ localDateKey parts⟩
  else if anyWindowMatches quietHours parts.weekday parts.minuteOfDay then
    some ⟨.quietHours, "policy:quietHours"⟩
  else if !preferredWindows.isEmpty &&
      !anyWindowMatches preferredWindows parts.weekday parts.minuteOfDay then
    some ⟨.preferenceWindowClosed, "preference:preferredWindows"⟩
  else
    none

def nextEligibleMaxLookaheadDays : Nat := 30
def nextEligibleStepMinutes : Nat := 5

/-- The bounded forward scan for an instant which passes the temporal gate. -/
def findNextEligibleAt (now : Instant) (zone : Zone)
    (preferredWindows quietHours : List LocalTimeWindow) (holidays : List HolidayEntry) :
    Option Instant :=
  let horizon := nextEligibleMaxLookaheadDays * 24 * 60
  (List.range (horizon / nextEligibleStepMinutes + 1)).findSome? fun step =>
    let candidate := now + ((step * nextEligibleStepMinutes : Nat) : Int) * 60000
    let parts := zone candidate
    match evaluateInstant parts preferredWindows quietHours holidays with
    | none => some (zonedToUtc zone parts.year parts.month parts.day parts.hour parts.minute)
    | some _ => none

/-- A chain entry counts when it is a nonempty identifier of a known zone. -/
def zoneOf (zones : ZoneDatabase) (value : Option String) : Option Zone :=
  value.bind fun timeZone => if timeZone = "" then none else zones timeZone

def timezoneChain (winner : Option PreferenceCandidate) (input : EvaluationInput) :
    List (Option String × TimezoneSource) :=
  [(winner.bind PreferenceCandidate.timezone, .preference),
    (input.customerExplicitTimezone, .customerExplicit),
    (input.customer360Timezone, .customer360),
    (input.policy.bind PolicyFacts.timezoneFallback, .policyFallback),
    (input.tenantDefaultTimezone, .tenantDefault)]

def resolvedTimezone (zones : ZoneDatabase) (winner : Option PreferenceCandidate)
    (input : EvaluationInput) : Option (Zone × TimezoneSource) :=
  (timezoneChain winner input).findSome? fun candidate =>
    (zoneOf zones candidate.1).map fun zone => (zone, candidate.2)

def preferredWindowsOf (winner : Option PreferenceCandidate) : List LocalTimeWindow :=
  (winner.map PreferenceCandidate.preferredWindows).getD []

def EvaluationInput.quietHours (input : EvaluationInput) : List LocalTimeWindow :=
  (input.policy.map PolicyFacts.quietHours).getD []

def EvaluationInput.holidays (input : EvaluationInput) : List HolidayEntry :=
  (input.policy.map PolicyFacts.holidays).getD []

def hasTemporalConstraint (winner : Option PreferenceCandidate) (input : EvaluationInput) :
    Bool :=
  !(preferredWindowsOf winner).isEmpty || !input.quietHours.isEmpty || !input.holidays.isEmpty

/-- The rule that applies at the current instant on the wall clock of a zone. -/
def blockAt (winner : Option PreferenceCandidate) (input : EvaluationInput) (zone : Zone) :
    Option TemporalBlock :=
  evaluateInstant (zone input.now) (preferredWindowsOf winner) input.quietHours input.holidays

/-- The pin of an exception that covers the rule. A series identifier narrows the
search; an empty one is no identifier. -/
def approvedExceptionFor (input : EvaluationInput) (rule : TemporalRule)
    (seriesId : Option String) : Option AppliedExceptionPin :=
  match input.activeExceptions, input.source, input.sourceId with
  | [], _, _ => none
  | candidates, some source, some sourceId =>
      let context : ExceptionMatchContext :=
        ⟨input.identityId, input.channel, input.purpose, source, sourceId, input.now⟩
      let series := seriesId.getD ""
      let considered :=
        if series = "" then candidates
        else candidates.filter fun entry => entry.seriesId == series
      (resolveCg4ExceptionCoverage considered context rule.code).toOption
  | _, _, _ => none

def callbackIsExactScopeMatch (callback : CallbackFacts) (input : EvaluationInput) : Bool :=
  callback.identityId == input.identityId && callback.channel == input.channel &&
    callback.purpose == input.purpose

def EvaluationInput.callbackMode (input : EvaluationInput) : CallbackMode :=
  (input.policy.map PolicyFacts.callbackMode).getD .scopedOverride

/-- Whether the policy in force lets a callback override the rule. -/
def EvaluationInput.overridable (input : EvaluationInput) (rule : TemporalRule) : Bool :=
  (input.policy.map fun policy => policy.overridableRules.contains rule.code).getD false

def callbackWillOverride (input : EvaluationInput) (rule : TemporalRule) : Bool :=
  match input.activeCallback with
  | none => false
  | some callback =>
      decide (input.callbackMode ≠ .noOverride) &&
      callbackIsExactScopeMatch callback input &&
      decide (callback.expiresAt > input.now) &&
      input.overridable rule &&
      (decide (input.callbackMode ≠ .timePolicyOverride) ||
        (approvedExceptionFor input rule callback.approvedExceptionId).isSome)

def referencedException (input : EvaluationInput) (rule : TemporalRule)
    (callback : CallbackFacts) : Option AppliedExceptionPin :=
  if callback.approvedExceptionId.getD "" = "" then none
  else approvedExceptionFor input rule callback.approvedExceptionId

/-- Who lifted a temporal block, with the trace of having done so. -/
structure Lift where
  trace : List TraceEntry
  appliedExceptions : List AppliedExceptionPin
  callbackOverrodeBlock : Bool

structure Refusal where
  trace : List TraceEntry
  decision : ContactDecision
  reasonCode : Reason

/-- The gate's own refusal, traced under the gate that makes it. -/
def callbackRefusal (deferred : TraceEntry) (decision : ContactDecision) (reason : Reason) :
    Refusal where
  trace := [deferred, ⟨.callbackException, .settled decision, some reason⟩]
  decision := decision
  reasonCode := reason

def callbackGate (input : EvaluationInput) (rule : TemporalRule) (deferred : TraceEntry) :
    Except Refusal Lift :=
  match input.activeCallback with
  | none => .error (callbackRefusal deferred .defer (.temporal rule))
  | some callback =>
      if input.callbackMode = .noOverride then
        .error (callbackRefusal deferred .defer .callbackOverrideNotAllowed)
      else if !callbackIsExactScopeMatch callback input then
        .error (callbackRefusal deferred .defer .callbackOverrideNotAllowed)
      else if callback.expiresAt ≤ input.now then
        .error (callbackRefusal deferred .defer .callbackOverrideExpired)
      else
        let referenced := referencedException input rule callback
        if input.callbackMode = .timePolicyOverride ∧ referenced.isNone then
          .error (callbackRefusal deferred .review .exceptionApprovalRequired)
        else
          .ok {
            trace := [deferred,
              ⟨.callbackException, .pass, some .customerRequestedCallback⟩]
            appliedExceptions := referenced.toList
            callbackOverrodeBlock := true }

/-- A callback that will override owns the override. Otherwise an exception lifts
the block by itself, and only then does the policy's own list decide. -/
def overrideGate (input : EvaluationInput) (rule : TemporalRule) : Except Refusal Lift :=
  let deferred : TraceEntry := ⟨.temporalPolicy, .settled .defer, some (.temporal rule)⟩
  let appliedException :=
    if callbackWillOverride input rule then none else approvedExceptionFor input rule none
  match appliedException with
  | some pin =>
      .ok {
        trace := [deferred, ⟨.approvedException, .pass, some .approvedExceptionApplied⟩]
        appliedExceptions := [pin]
        callbackOverrodeBlock := false }
  | none =>
      if !input.overridable rule then
        .error ⟨[deferred], .defer, .temporal rule⟩
      else
        callbackGate input rule deferred

def senderInvalid (input : EvaluationInput) : Bool := input.senderIdentityId.any Text.isBlank

def senderGate (input : EvaluationInput) (trace : List TraceEntry)
    (source : Option TimezoneSource) (passed : GateOutcome) : GateOutcome :=
  let capped := trace ++ [⟨.attemptTouchCap, .pass, none⟩]
  if senderInvalid input then
    { trace := capped ++ [⟨.senderIdentity, .settled .block, some .senderIdentityInvalid⟩]
      decision := some .block
      reasonCode := some .senderIdentityInvalid
      preferenceVersion := passed.preferenceVersion
      timezoneSource := source }
  else
    { passed with trace := capped ++ [⟨.senderIdentity, .pass, none⟩] }

def afterBlock (input : EvaluationInput) (winner : Option PreferenceCandidate)
    (resolved : Zone × TimezoneSource) (block : TemporalBlock) : GateOutcome :=
  let preferencePassed : TraceEntry := ⟨.preference, .pass, none⟩
  let version := winner.map PreferenceCandidate.version
  match overrideGate input block.rule with
  | .error refusal =>
      { trace := preferencePassed :: refusal.trace
        decision := some refusal.decision
        reasonCode := some refusal.reasonCode
        preferenceVersion := version
        nextEligibleAt := findNextEligibleAt input.now resolved.1 (preferredWindowsOf winner)
          input.quietHours input.holidays
        timezoneSource := some resolved.2
        matchedWindowRef := some block.matchedWindowRef }
  | .ok lift =>
      senderGate input (preferencePassed :: lift.trace) (some resolved.2)
        { trace := []
          preferenceVersion := version
          timezoneSource := some resolved.2
          matchedWindowRef := some block.matchedWindowRef
          exceptionMode := input.policy.map PolicyFacts.callbackMode
          exceptionRef := input.policy.bind fun _ =>
            input.activeCallback.map CallbackFacts.requestId
          consumedCallbackRequestId :=
            if lift.callbackOverrodeBlock then
              input.activeCallback.map CallbackFacts.requestId
            else none
          appliedExceptions := lift.appliedExceptions }

def afterPass (input : EvaluationInput) (winner : Option PreferenceCandidate)
    (resolved : Option (Zone × TimezoneSource)) : GateOutcome :=
  let source := resolved.map Prod.snd
  senderGate input [⟨.preference, .pass, none⟩, ⟨.temporalPolicy, .pass, none⟩] source
    { trace := []
      preferenceVersion := winner.map PreferenceCandidate.version
      timezoneSource := if hasTemporalConstraint winner input then source else none }

def evaluateCg3Policy (zones : ZoneDatabase) (input : EvaluationInput) : GateOutcome :=
  let winner := resolveEffectivePreference input.preferences input
  match preferenceRefusal winner with
  | some (candidate, decision) =>
      { trace := [⟨.preference, .settled decision.toContactDecision, some .preferenceBlocked⟩]
        decision := some decision.toContactDecision
        reasonCode := some .preferenceBlocked
        preferenceVersion := some candidate.version
        matchedScope := some ⟨candidate.identityId, candidate.channel, candidate.purpose,
          candidate.contactKind⟩ }
  | none =>
      let resolved := resolvedTimezone zones winner input
      if !hasTemporalConstraint winner input then
        afterPass input winner resolved
      else
        match resolved with
        | none =>
            { trace := [⟨.preference, .pass, none⟩,
                ⟨.temporalPolicy, .settled .defer, some .timezoneUnknown⟩]
              decision := some .defer
              reasonCode := some .timezoneUnknown
              preferenceVersion := winner.map PreferenceCandidate.version }
        | some zone =>
            match blockAt winner input zone.1 with
            | none => afterPass input winner (some zone)
            | some block => afterBlock input winner zone block

end DContact.Governance

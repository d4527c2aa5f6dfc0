import DContact.Governance.Authorization
import DContact.Governance.GatePassage

/-!
# What a decision to allow rests on

A deliberation allows the contact exactly when every gate is open: the identity is known,
no restriction applies, the latest consent is granted and has not run out, no kill switch
covers the request, and the contact policy leaves it undecided. The trace of such a
deliberation shows one gate at most that did not pass, and then the override that lifted it.
-/

namespace DContact.Governance

open Lib List PolicyVerdict

def policyReading (engine : DecisionEngine) (tables : FactTables) (callbacks : List CallbackRow)
    (request : ContactRequest) (now : Instant) : PolicyReading :=
  readPolicy engine tables request (loadCg3Facts engine tables callbacks (request.query now)) now

structure GatesOpen (engine : DecisionEngine) (tables : FactTables) (callbacks : List CallbackRow)
    (request : ContactRequest) (now : Instant) : Prop where
  identity : identityKnown tables request = true
  restriction : findRestriction tables request now = none
  consent : ∃ lawfulBasis, consentFacts tables request now = some (.granted, lawfulBasis)
  killSwitch : killSwitchCovers tables request = false
  policy : (policyReading engine tables callbacks request now).verdict.decision = none

def passedBefore : List DecisionTraceEntry :=
  [⟨.identity, .pass, none⟩, ⟨.hardRestriction, .pass, none⟩, ⟨.consent, .pass, none⟩]

theorem evaluateContactPolicy_allow_iff (facts : ContactPolicyFacts) :
    (evaluateContactPolicy facts).decision = .allow ↔
      facts.identityResolution = .resolved ∧ facts.activeRestriction = none ∧
        ∃ lawfulBasis, facts.consent = some (.granted, lawfulBasis) := by
  obtain ⟨version, resolution, restriction, consent⟩ := facts
  cases resolution with
  | resolved =>
      cases restriction with
      | some row => simp [evaluateContactPolicy, settledAt]
      | none =>
          match consent with
          | none | some (.granted, basis) | some (.revoked, basis) | some (.expired, basis) =>
              simp [evaluateContactPolicy, consentGate, settledAt]
  | _ => simp [evaluateContactPolicy, settledAt]

theorem evaluateContactPolicy_allow {facts : ContactPolicyFacts}
    (allowed : (evaluateContactPolicy facts).decision = .allow) :
    passLast (evaluateContactPolicy facts).trace = passedBefore := by
  obtain ⟨resolved, free, basis, granted⟩ := (evaluateContactPolicy_allow_iff facts).mp allowed
  rw [evaluateContactPolicy, resolved, free]
  simp [consentGate, granted, settledAt, passLast, passedBefore]

theorem readPolicy_verdict (engine : DecisionEngine) (tables : FactTables) (request : ContactRequest)
    (facts : Cg3Facts) (now : Instant) :
    (∃ gate reasonCode, (readPolicy engine tables request facts now).verdict =
      .failClosed gate reasonCode) ∨
    ∃ policy, (readPolicy engine tables request facts now).verdict =
      evaluate engine request facts now policy := by
  unfold readPolicy
  dsimp only
  split
  next =>
    split
    next => exact .inl ⟨_, _, rfl⟩
    next => exact .inr ⟨_, rfl⟩
    next => exact .inr ⟨_, rfl⟩
  next => exact .inr ⟨_, rfl⟩
  next =>
    split
    next => exact .inr ⟨_, rfl⟩
    dsimp only
    split
    next => exact .inl ⟨_, _, rfl⟩
    next => exact .inr ⟨_, rfl⟩

variable {requestId : String}

section Verdicts

variable {engine : DecisionEngine} {tables : FactTables} {request : ContactRequest}
  {facts : Cg3Facts} {now : Instant}

/-- A verdict without a decision comes from walking the gates. -/
theorem verdict_evaluated
    (undecided : (readPolicy engine tables request facts now).verdict.decision = none) :
    ∃ policy, (readPolicy engine tables request facts now).verdict =
      evaluate engine request facts now policy := by
  rcases readPolicy_verdict engine tables request facts now with ⟨gate, reason, closed⟩ | walked
  · rw [closed] at undecided
    cases undecided
  · exact walked

/-- A verdict lets the contact through exactly when it makes no decision. -/
theorem verdict_allow_iff :
    (readPolicy engine tables request facts now).verdict.decision.getD .allow = .allow ↔
      (readPolicy engine tables request facts now).verdict.decision = none := by
  rcases readPolicy_verdict engine tables request facts now with
    ⟨gate, reason, closed⟩ | ⟨policy, walked⟩
  · simp [closed, decision]
  · have ne : (evaluate engine request facts now policy).decision ≠ some .allow :=
      evaluateCg3Policy_ne_allow _ _
    rw [walked]
    cases decided : (evaluate engine request facts now policy).decision with
    | none => simp
    | some decision =>
        rw [decided] at ne
        simp only [Option.getD_some, reduceCtorEq, iff_false]
        intro allows
        exact ne (congrArg some allows)

/-- Only a verdict that lets the contact through uses a callback up. -/
theorem verdict_consumed
    (consumed : (readPolicy engine tables request facts now).verdict.consumedCallbackRequestId =
      some requestId) : (readPolicy engine tables request facts now).verdict.decision = none := by
  rcases readPolicy_verdict engine tables request facts now with
    ⟨gate, reason, closed⟩ | ⟨policy, walked⟩
  · rw [closed] at consumed
    cases consumed
  · rw [walked] at consumed ⊢
    exact undecided_of_consumed consumed

end Verdicts

structure Allowed (engine : DecisionEngine) (tables : FactTables) (callbacks : List CallbackRow)
    (input : AuthorizeAndReserveInput) (now : Instant) (contactId : String)
    (identityId : Option String) : Prop where
  subject : input.subject = .contact contactId identityId
  contact : contactKnown tables contactId = true
  gates : GatesOpen engine tables callbacks (input.request contactId identityId) now
  trace : (deliberate engine tables callbacks input now).trace = passedBefore ++
    (policyReading engine tables callbacks (input.request contactId identityId) now).verdict.trace
  facts : (deliberate engine tables callbacks input now).facts =
    some (loadCg3Facts engine tables callbacks ((input.request contactId identityId).query now))
  reading : (deliberate engine tables callbacks input now).reading =
    some (policyReading engine tables callbacks (input.request contactId identityId) now)

variable {callbacks : List CallbackRow} {engine : DecisionEngine} {tables : FactTables}
  {request : ContactRequest} {now : Instant}

theorem contactGates_allow {passed : ContactPolicyResult} :
    (contactGates engine tables callbacks request passed now).decision = .allow ↔
      killSwitchCovers tables request = false ∧
        (policyReading engine tables callbacks request now).verdict.decision = none := by
  unfold contactGates
  split
  next covered => simp [covered]
  next uncovered =>
    have free : killSwitchCovers tables request = false := by simpa using uncovered
    simpa [free, policyReading] using verdict_allow_iff

variable {input : AuthorizeAndReserveInput}

theorem legacyFacts_allow :
    (evaluateContactPolicy (legacyFacts tables input now)).decision = .allow ↔
      ∃ contactId identityId, input.subject = .contact contactId identityId ∧
        contactKnown tables contactId = true ∧
        identityKnown tables (input.request contactId identityId) = true ∧
        findRestriction tables (input.request contactId identityId) now = none ∧
        ∃ lawfulBasis, consentFacts tables (input.request contactId identityId) now =
          some (.granted, lawfulBasis) := by
  rw [evaluateContactPolicy_allow_iff, legacyFacts]
  cases input.subject with
  | unresolved resolution =>
      cases resolution <;> simp [UnresolvedIdentity.identityResolution]
  | contact contactId identityId =>
      cases known : contactKnown tables contactId with
      | false => simp [known]
      | true =>
          cases identity : identityKnown tables (input.request contactId identityId) with
          | false => simp [known, identity]
          | true => simp [known, identity]

theorem deliberate_allow_iff :
    (deliberate engine tables callbacks input now).decision = .allow ↔
      ∃ contactId identityId, Allowed engine tables callbacks input now contactId identityId := by
  constructor
  · intro allowed
    have legacy : (evaluateContactPolicy (legacyFacts tables input now)).decision = .allow := by
      unfold deliberate at allowed
      dsimp only at allowed
      split at allowed
      next => exact allowed
      split at allowed
      next legacy => exact legacy
      next => exact allowed
    obtain ⟨contactId, identityId, subject, contact, identity, free, consent⟩ :=
      legacyFacts_allow.mp legacy
    have gates : deliberate engine tables callbacks input now =
        contactGates engine tables callbacks (input.request contactId identityId)
          (evaluateContactPolicy (legacyFacts tables input now)) now := by
      simp only [deliberate, subject]
      rw [if_pos legacy]
    rw [gates] at allowed
    obtain ⟨uncovered, undecided⟩ := contactGates_allow.mp allowed
    refine ⟨contactId, identityId, subject, contact, ⟨identity, free, consent, uncovered, undecided⟩,
      ?_, ?_, ?_⟩
    · rw [gates, contactGates, if_neg (by simp [uncovered])]
      rw [evaluateContactPolicy_allow legacy]
      rfl
    · rw [gates, contactGates, if_neg (by simp [uncovered])]
    · rw [gates, contactGates, if_neg (by simp [uncovered])]
      rfl
  · rintro ⟨contactId, identityId, allowed⟩
    have legacy : (evaluateContactPolicy (legacyFacts tables input now)).decision = .allow :=
      legacyFacts_allow.mpr ⟨contactId, identityId, allowed.subject, allowed.contact,
        allowed.gates.identity, allowed.gates.restriction, allowed.gates.consent⟩
    simp only [deliberate, allowed.subject]
    rw [if_pos legacy]
    exact contactGates_allow.mpr ⟨allowed.gates.killSwitch, allowed.gates.policy⟩

section
variable (gates : GatesOpen engine tables callbacks request now)
include gates

theorem GatesOpen.no_restriction {row : RestrictionRow} (mem : row ∈ tables.restrictions) :
    row.applies request now = false := by
  have none_ := filter_eq_nil_iff.mp (Table.latest_none.mp gates.restriction) row mem
  simpa using none_

theorem GatesOpen.granted :
    ∃ row ∈ tables.consents, row.concerns request = true ∧ row.status = .granted ∧
      (∀ ends, row.expiresAt = some ends → now < ends) ∧
      ∀ other ∈ tables.consents, other.concerns request = true → other.createdAt ≤ row.createdAt := by
  obtain ⟨basis, facts⟩ := gates.consent
  obtain ⟨row, found, same⟩ := Option.map_eq_some_iff.mp facts
  obtain ⟨mem, concerned⟩ := mem_filter.mp (Table.latest_mem found)
  have granted : row.statusAt now = .granted := congrArg Prod.fst same
  have status : row.status = .granted ∧ ∀ ends, row.expiresAt = some ends → now < ends := by
    unfold ConsentRow.statusAt at granted
    split at granted
    next => cases granted
    next unexpired =>
      refine ⟨granted, ?_⟩
      intro ends expires
      simpa [granted, expires] using unexpired
  refine ⟨row, mem, concerned, status.1, status.2, ?_⟩
  intro other present concerns
  exact Table.le_latest found (mem_filter.mpr ⟨present, concerns⟩)

theorem GatesOpen.no_killSwitch {row : KillSwitchRow} (mem : row ∈ tables.studio.killSwitches)
    (active : row.active = true) : killSwitchCoversReservation row.scopeKey request = false := by
  have none_ := any_eq_false.mp gates.killSwitch row mem
  simpa [active] using none_

end

def deferredEntry (rule : TemporalRule) : DecisionTraceEntry :=
  ⟨.contactPolicy .temporalPolicy, .settled .defer, some rule.code⟩

def callbackEntry : DecisionTraceEntry :=
  ⟨.contactPolicy .callbackException, .pass, some "CUSTOMER_REQUESTED_CALLBACK"⟩

def exceptionEntry : DecisionTraceEntry :=
  ⟨.contactPolicy .approvedException, .pass, some "APPROVED_EXCEPTION_APPLIED"⟩

def evaluationFacts (engine : DecisionEngine) (tables : FactTables) (callbacks : List CallbackRow)
    (request : ContactRequest) (now : Instant) (policy : Option PolicyFacts) : EvaluationInput :=
  evaluationInput request (loadCg3Facts engine tables callbacks (request.query now)) now policy

/-- An open policy gate was passed in one of the three ways. -/
theorem GatesOpen.passage (gates : GatesOpen engine tables callbacks request now) :
    ∃ policy outcome,
      (policyReading engine tables callbacks request now).verdict = .evaluated outcome ∧
      outcome = evaluateCg3Policy engine.zones
        (evaluationFacts engine tables callbacks request now policy) ∧
      Passage engine.zones (evaluationFacts engine tables callbacks request now policy) outcome := by
  obtain ⟨policy, verdict⟩ := verdict_evaluated gates.policy
  have undecided := gates.policy
  rw [policyReading, verdict] at undecided
  exact ⟨policy, _, verdict, rfl, (evaluateCg3Policy_passage undecided).1⟩

/-- Whether the callback is used up can be read off the trace. -/
theorem GatesOpen.consumed_iff (gates : GatesOpen engine tables callbacks request now) :
    (policyReading engine tables callbacks request now).verdict.consumedCallbackRequestId =
        some requestId ↔
      callbackEntry ∈ passedBefore ++ (policyReading engine tables callbacks request now).verdict.trace ∧
        ((policyReading engine tables callbacks request now).verdict.outcome.bind
          GateOutcome.exceptionRef) = some requestId := by
  obtain ⟨policy, outcome, verdict, -, passage⟩ := gates.passage
  rw [verdict]
  simp only [PolicyVerdict.consumedCallbackRequestId, PolicyVerdict.outcome, PolicyVerdict.trace,
    Option.bind_some]
  cases passage with
  | clear free trace consumes =>
      simp [trace, consumes, callbackEntry, passedBefore]
  | callback block callback blocked active lifted trace consumes ref =>
      simp [trace, consumes, ref, callbackEntry, passedBefore, callbackPassed, Reason.text]
  | exception block pin blocked unlifted covered trace consumes applies =>
      simp [trace, consumes, callbackEntry, passedBefore, exceptionPassed, deferredBy]

def BlockLifted (engine : DecisionEngine) (tables : FactTables) (callbacks : List CallbackRow)
    (request : ContactRequest) (now : Instant) (requestId : String) : Prop :=
  ∃ policy block callback,
    (policyReading engine tables callbacks request now).verdict = .evaluated (evaluateCg3Policy
      engine.zones (evaluationFacts engine tables callbacks request now policy)) ∧
    reported engine.zones (evaluationFacts engine tables callbacks request now policy) =
      some block ∧
    (evaluationFacts engine tables callbacks request now policy).activeCallback = some callback ∧
    callback.requestId = requestId ∧
    callbackLifts (evaluationFacts engine tables callbacks request now policy) block.rule = true

/-- The callback is used up exactly when it lifted the rule that was reported. -/
theorem GatesOpen.consumed_lifted (gates : GatesOpen engine tables callbacks request now) :
    (policyReading engine tables callbacks request now).verdict.consumedCallbackRequestId =
        some requestId ↔ BlockLifted engine tables callbacks request now requestId := by
  constructor
  · intro consumed
    obtain ⟨policy, outcome, verdict, isOutcome, passage⟩ := gates.passage
    rw [verdict] at consumed
    simp only [PolicyVerdict.consumedCallbackRequestId, PolicyVerdict.outcome,
      Option.bind_some] at consumed
    cases passage with
    | clear free trace consumes => simp [consumes] at consumed
    | callback block callback blocked active lifted trace consumes ref =>
        rw [consumes] at consumed
        exact ⟨policy, block, callback, isOutcome ▸ verdict, blocked, active,
          Option.some.inj consumed, lifted⟩
    | exception block pin blocked unlifted covered trace consumes applies =>
        simp [consumes] at consumed
  · rintro ⟨policy, block, callback, verdict, blocked, active, rfl, lifted⟩
    have undecided := gates.policy
    rw [verdict] at undecided ⊢
    simp only [consumedCallbackRequestId, outcome, Option.bind_some]
    cases (evaluateCg3Policy_passage undecided).1 with
    | clear free trace consumes =>
        rw [free] at blocked
        cases blocked
    | callback other own otherBlocked otherActive otherLifted trace consumes ref =>
        rw [active] at otherActive
        cases otherActive
        exact consumes
    | exception other pin otherBlocked unlifted covered trace consumes applies =>
        rw [blocked] at otherBlocked
        cases otherBlocked
        rw [lifted] at unlifted
        cases unlifted

/-- The callback that a request rests on is the latest request of its exact scope and has not
run out. -/
theorem evaluationFacts_callback
    {policy : Option PolicyFacts} {callback : CallbackFacts} {rule : TemporalRule}
    (active : (evaluationFacts engine tables callbacks request now policy).activeCallback =
      some callback)
    (lifted : callbackLifts (evaluationFacts engine tables callbacks request now policy) rule = true) :
    ∃ row ∈ callbacks, row.id = callback.requestId ∧ row.inScope (request.query now) = true ∧
      row.mutationKind = .request ∧ now < row.expiresAt ∧
      ∀ other ∈ callbacks, other.inScope (request.query now) = true → other.version ≤ row.version := by
  obtain ⟨row, mem, covered, requested, rfl, last⟩ := activeCallback_some active
  refine ⟨row, mem, rfl, covered, requested, ?_, last⟩
  simp only [callbackLifts, Bool.and_eq_true, callbackStands, active, Option.any_some,
    decide_eq_true_eq] at lifted
  exact lifted.1.1.2

theorem GatesOpen.deferred (gates : GatesOpen engine tables callbacks request now)
    (lifted : callbackEntry ∈
      passedBefore ++ (policyReading engine tables callbacks request now).verdict.trace) :
    ∃ rule, deferredEntry rule ∈
      passedBefore ++ (policyReading engine tables callbacks request now).verdict.trace := by
  obtain ⟨policy, outcome, verdict, -, passage⟩ := gates.passage
  rw [verdict] at lifted ⊢
  simp only [trace] at lifted ⊢
  cases passage with
  | clear free trace consumes =>
      simp [trace, callbackEntry, passedBefore] at lifted
  | callback block callback blocked active passed trace consumes ref =>
      exact ⟨block.rule, by simp [trace, deferredEntry, deferredBy, Reason.text]⟩
  | exception block pin blocked unlifted covered trace consumes applies =>
      simp [trace, callbackEntry, passedBefore, exceptionPassed, deferredBy] at lifted

/-- The override that lifted a rule: a callback under a policy that names the rule, or an
exception whose pin names it. -/
inductive Override (engine : DecisionEngine) (tables : FactTables) (callbacks : List CallbackRow)
    (request : ContactRequest) (now : Instant) (verdict : PolicyVerdict) (rule : TemporalRule) :
    Prop where
  | callback (policy : PolicyFacts) (row : CallbackRow)
      (read : verdict = .evaluated (evaluateCg3Policy engine.zones
        (evaluationFacts engine tables callbacks request now (some policy))))
      (names : rule.code ∈ policy.overridableRules)
      (shown : callbackEntry ∈ verdict.trace)
      (mem : row ∈ callbacks) (requested : row.mutationKind = .request)
      (covered : row.inScope (request.query now) = true) (live : now < row.expiresAt)
      (consumed : verdict.consumedCallbackRequestId = some row.id)
  | exception (pin : AppliedExceptionPin)
      (names : pin.matchedRuleCode = rule.code)
      (shown : exceptionEntry ∈ verdict.trace)
      (applied : verdict.appliedExceptions = [pin])

theorem GatesOpen.traced
    (gates : GatesOpen engine tables callbacks request now) {entry : DecisionTraceEntry}
    (listed : entry ∈
      passedBefore ++ (policyReading engine tables callbacks request now).verdict.trace) :
    entry.outcome = .pass ∨ ∃ rule, entry = deferredEntry rule ∧
      Override engine tables callbacks request now
        (policyReading engine tables callbacks request now).verdict rule := by
  obtain ⟨policy, outcome, verdict, isOutcome, passage⟩ := gates.passage
  rw [verdict] at listed ⊢
  simp only [trace] at listed
  cases passage with
  | clear free trace consumes =>
      simp only [trace, passedBefore, map_cons, map_nil, mem_append, mem_cons,
        not_mem_nil, or_false] at listed
      rcases listed with (rfl | rfl | rfl) | rfl | rfl | rfl | rfl <;> exact .inl rfl
  | callback block callback blocked active lifted trace consumes ref =>
      simp only [trace, passedBefore, map_cons, map_nil, mem_append, mem_cons,
        not_mem_nil, or_false] at listed
      rcases listed with (rfl | rfl | rfl) | rfl | rfl | rfl | rfl | rfl
      case inr.inr.inl =>
        refine .inr ⟨block.rule, rfl, ?_⟩
        obtain ⟨row, mem, isRow, covered, requested, live, -⟩ :=
          evaluationFacts_callback active lifted
        obtain ⟨own, isPolicy, names⟩ := policy_of_callbackLifts lifted
        cases (isPolicy : policy = some own)
        refine .callback own row (by rw [isOutcome]) names ?_ mem requested covered live ?_
        · simp [PolicyVerdict.trace, trace, callbackEntry, callbackPassed, Reason.text]
        · simp [PolicyVerdict.consumedCallbackRequestId, PolicyVerdict.outcome, consumes, isRow]
      all_goals exact .inl rfl
  | exception block pin blocked unlifted covered trace consumes applies =>
      simp only [trace, passedBefore, map_cons, map_nil, mem_append, mem_cons,
        not_mem_nil, or_false] at listed
      rcases listed with (rfl | rfl | rfl) | rfl | rfl | rfl | rfl | rfl
      case inr.inr.inl =>
        refine .inr ⟨block.rule, rfl, .exception pin (approvedExceptionFor_pin covered).1 ?_ ?_⟩
        · simp [PolicyVerdict.trace, trace, exceptionEntry, exceptionPassed, Reason.text]
        · simp [PolicyVerdict.appliedExceptions, PolicyVerdict.outcome, applies]
      all_goals exact .inl rfl

end DContact.Governance

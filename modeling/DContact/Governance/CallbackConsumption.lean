import DContact.Governance.AuthorizationSafety

/-!
# Callbacks are used once

The row that uses a request up is the next one of its series, and it names the decision
that it was written for. Two such rows of one request would meet in the unique index of the
series, so whatever the order of the calls, one decision at most has used the request up.
It is a decision that allows the contact and whose temporal block the callback lifted.
-/

namespace DContact.Governance

open Lib

def Consumes (store : GovernanceStore) (decision : DecisionRow) (request : CallbackRow) : Prop :=
  ∃ row ∈ store.callbacks, row.mutationKind = .consume ∧ row.supersedesId = some request.id ∧
    row.evidenceRef = usedBy decision.id

variable {request : CallbackRow} {plan : AuthorizationPlan}

section Rows

variable {made : AuthorizeAndReserveInput → AuthorizationPlan → Prop}
  {committed : List AuthorizationPlan} {state : GovernanceState}

section
variable (accounts : Accounts made committed state)
include accounts

variable {row : CallbackRow}

theorem Accounts.consumedBy (mem : row ∈ state.store.callbacks) (used : row.mutationKind = .consume) :
    ∃ plan ∈ committed, plan.consumption = some row ∧
      ∃ original ∈ state.store.callbacks, UsesUp plan.decision original row := by
  have listed : row ∈ committed.filterMap AuthorizationPlan.consumption := by
    rw [← accounts.consumptions]
    exact List.mem_filter.mpr ⟨mem, by simp [used]⟩
  obtain ⟨plan, planned, consumes⟩ := List.mem_filterMap.mp listed
  obtain ⟨input, standing⟩ := accounts.standing plan planned
  exact ⟨plan, planned, consumes, standing.original row consumes⟩

/-- The original of such a row is the request whose identifier it carries. -/
theorem Accounts.usesUp (present : request ∈ state.store.callbacks)
    (mem : row ∈ state.store.callbacks) (used : row.mutationKind = .consume)
    (supersedes : row.supersedesId = some request.id) :
    ∃ plan ∈ committed, plan.consumption = some row ∧ UsesUp plan.decision request row := by
  obtain ⟨plan, planned, consumes, original, known, uses⟩ := accounts.consumedBy mem used
  have same : original = request := by
    apply Table.eq_of_key_eq accounts.callbacks.ids known present
    exact Option.some.inj (uses.supersedes.symm.trans supersedes)
  exact ⟨plan, planned, consumes, same ▸ uses⟩

theorem Accounts.usesUp_unique {left right : CallbackRow} {first second : DecisionRow}
    (leftMember : left ∈ state.store.callbacks) (rightMember : right ∈ state.store.callbacks)
    (leftUses : UsesUp first request left) (rightUses : UsesUp second request right) :
    left = right := by
  apply Table.eq_of_key_eq accounts.callbacks.series leftMember rightMember
  show (left.seriesId, left.version) = (right.seriesId, right.version)
  rw [leftUses.series, leftUses.version, rightUses.series, rightUses.version]

theorem Accounts.consumes_iff (present : request ∈ state.store.callbacks)
    (listed : plan ∈ committed) :
    Consumes state.store plan.decision request ↔
      ∃ row, plan.consumption = some row ∧ row.supersedesId = some request.id := by
  have decided : ∀ {other}, other ∈ committed → other.decision ∈ state.store.decisions := by
    intro other otherListed
    rw [accounts.decisions]
    exact List.mem_map_of_mem otherListed
  constructor
  · rintro ⟨row, mem, used, supersedes, evidence⟩
    obtain ⟨other, otherListed, consumes, uses⟩ := accounts.usesUp present mem used supersedes
    -- the identifier of the decision is in the row, and the key of an action in the decision
    have sameDecision : other.decision = plan.decision := by
      apply Table.eq_of_key_eq accounts.ids (decided otherListed) (decided listed)
      exact usedBy_injective (uses.evidence.symm.trans evidence)
    have planIds : (committed.map fun plan => plan.decision.id).Nodup := by
      have ids := accounts.ids
      rwa [accounts.decisions, List.map_map] at ids
    have samePlan : other = plan :=
      Table.eq_of_key_eq planIds otherListed listed (congrArg DecisionRow.id sameDecision)
    exact ⟨row, samePlan ▸ consumes, supersedes⟩
  · rintro ⟨row, consumes, supersedes⟩
    have mem : row ∈ state.store.callbacks.filter fun row => row.mutationKind == .consume := by
      rw [accounts.consumptions]
      exact List.mem_filterMap.mpr ⟨plan, listed, consumes⟩
    obtain ⟨input, standing⟩ := accounts.standing plan listed
    obtain ⟨original, -, uses⟩ := standing.original row consumes
    exact ⟨row, (List.mem_filter.mp mem).1, uses.kind, supersedes, uses.evidence⟩

end

end Rows

variable {store : GovernanceStore} {input : AuthorizeAndReserveInput} {ids : AuthorizationIds}
  {now : Instant}

/-- A plan has a row to use a request up exactly when its deliberation has used it. -/
theorem plan_supersedes_iff {tenantId : String} {engine : GovernanceEngine}
    (planned : planAuthorization tenantId engine store input ids now = .ok plan)
    {requestId : String} :
    (∃ row, plan.consumption = some row ∧ row.supersedesId = some requestId) ↔
      (deliberate engine.toDecisionEngine store.tables store.callbacks input now).consumed =
        some requestId := by
  cases consumption : plan.consumption with
  | none => simp [plan_unconsumed planned consumption]
  | some row =>
      obtain ⟨original, -, consumed, rfl⟩ := plan_consumption planned consumption
      rw [consumed]
      simp [consumptionOf]

theorem plan_blockLifted_iff {tenantId : String} {engine : GovernanceEngine}
    (planned : planAuthorization tenantId engine store input ids now = .ok plan)
    (allows : plan.decision.decision = .allow) {requestId : String} :
    (deliberate engine.toDecisionEngine store.tables store.callbacks input now).consumed =
        some requestId ↔
      ∃ contactId identityId, input.subject = .contact contactId identityId ∧
        BlockLifted engine.toDecisionEngine store.tables store.callbacks
          (input.request contactId identityId) now requestId := by
  rw [plan_decision planned] at allows
  obtain ⟨contactId, identityId, allowed⟩ := deliberate_allow_iff.mp allows
  rw [Deliberation.consumed, allowed.reading, Option.bind_some]
  constructor
  · intro consumed
    exact ⟨contactId, identityId, allowed.subject, allowed.gates.consumed_lifted.mp consumed⟩
  · rintro ⟨otherContact, otherIdentity, subject, lifted⟩
    rw [allowed.subject] at subject
    cases subject
    exact allowed.gates.consumed_lifted.mpr lifted

section Runs

variable {tenantId : String} {engine : GovernanceEngine} {digests : CallbackDigests}
  {state : GovernanceState}

def LiftedWhenRead (tenantId : String) (engine : GovernanceEngine) (digests : CallbackDigests)
    (state : GovernanceState) (decision : DecisionRow) (requestId : String) : Prop :=
  ∃ input plan earlier ids contactId identityId, plan.decision = decision ∧
    ReadIn tenantId engine digests state input plan earlier ids ∧
    input.subject = .contact contactId identityId ∧
    BlockLifted engine.toDecisionEngine earlier.store.tables earlier.store.callbacks
      (input.request contactId identityId) decision.decidedAt requestId

theorem Accounts.consumes_lifted {committed : List AuthorizationPlan}
    (accounts : Accounts (Made tenantId engine digests state) committed state)
    (present : request ∈ state.store.callbacks)
    (listed : plan ∈ committed) :
    Consumes state.store plan.decision request ↔ plan.decision.decision = .allow ∧
      LiftedWhenRead tenantId engine digests state plan.decision request.id := by
  obtain ⟨input, standing⟩ := accounts.standing plan listed
  obtain ⟨earlier, ids, read⟩ := standing.made
  rw [accounts.consumes_iff present listed, plan_supersedes_iff read.planned]
  constructor
  · intro consumed
    have allows := ((plan_consumed_iff read.planned).mp consumed).1
    obtain ⟨contactId, identityId, subject, lifted⟩ :=
      (plan_blockLifted_iff read.planned allows).mp consumed
    exact ⟨allows, input, plan, earlier, ids, contactId, identityId, rfl, read, subject, lifted⟩
  · rintro ⟨allows, own, other, source, otherIds, contactId, identityId, same, otherRead, subject,
      lifted⟩
    -- both plans have left the same decision, and the decision shows the callback
    have otherAllows : other.decision.decision = .allow := by rw [same]; exact allows
    have otherConsumed := (plan_blockLifted_iff otherRead.planned otherAllows).mpr
      ⟨contactId, identityId, subject, by rw [same]; exact lifted⟩
    have shown := (plan_consumed_iff otherRead.planned).mp otherConsumed
    rw [same] at shown
    exact (plan_consumed_iff read.planned).mpr shown

/-- In every run, a callback is used up by one decision at most, and exactly by a decision that
allows the contact and whose temporal block it lifted. -/
theorem callbacks_used_once (reachable : (governance tenantId engine digests).Reachable state)
    {request : CallbackRow} (present : request ∈ state.store.callbacks) :
    (∀ left ∈ state.store.decisions, ∀ right ∈ state.store.decisions,
      Consumes state.store left request → Consumes state.store right request → left = right) ∧
    (∀ decision ∈ state.store.decisions, Consumes state.store decision request ↔
      decision.decision = .allow ∧
        LiftedWhenRead tenantId engine digests state decision request.id) ∧
    (∀ decision ∈ state.store.decisions, decision.decision ≠ .allow →
      ¬ Consumes state.store decision request) ∧
    ∀ row ∈ state.store.callbacks, row.mutationKind = .consume →
      row.supersedesId = some request.id →
      ∃ decision ∈ state.store.decisions, row.evidenceRef = usedBy decision.id := by
  obtain ⟨-, committed, accounts⟩ := accounted_reachable reachable
  have exactly : ∀ decision ∈ state.store.decisions, Consumes state.store decision request ↔
      decision.decision = .allow ∧
        LiftedWhenRead tenantId engine digests state decision request.id := by
    intro decision mem
    rw [accounts.decisions] at mem
    obtain ⟨plan, listed, rfl⟩ := List.mem_map.mp mem
    exact accounts.consumes_lifted present listed
  refine ⟨?_, exactly, ?_, ?_⟩
  · rintro left hleft right hright ⟨row, mem, used, supersedes, evidence⟩
      ⟨other, otherMember, otherUsed, otherSupersedes, otherEvidence⟩
    obtain ⟨_, -, -, uses⟩ := accounts.usesUp present mem used supersedes
    obtain ⟨_, -, -, otherUses⟩ := accounts.usesUp present otherMember otherUsed otherSupersedes
    have same := accounts.usesUp_unique mem otherMember uses otherUses
    apply Table.eq_of_key_eq accounts.ids hleft hright
    apply usedBy_injective
    rw [← evidence, ← otherEvidence, same]
  · intro decision mem refuses consumes
    exact refuses ((exactly decision mem).mp consumes).1
  · intro row mem used supersedes
    obtain ⟨plan, listed, -, uses⟩ := accounts.usesUp present mem used supersedes
    refine ⟨plan.decision, ?_, uses.evidence⟩
    rw [accounts.decisions]
    exact List.mem_map_of_mem listed

end Runs

/-- Two actions want the same callback, one after the other. -/
def twoActions : List GovernanceAction :=
  [.begin 1 (christmasCall "first"), .read 1 (sampleIds "first") (dateUtc 2026 12 25 16 0),
    .write 1, .begin 2 (christmasCall "second"),
    .read 2 (sampleIds "second") (dateUtc 2026 12 25 16 5)]

/-- The first action uses the callback up, and the second is deferred. -/
theorem first_action_uses_callback :
    ∃ state decision other, (governance "tenant" sampleEngine sampleCallbackDigests).Reachable state ∧
      christmasCallbackRow ∈ state.store.callbacks ∧ decision ∈ state.store.decisions ∧
      decision.decision = .allow ∧ Consumes state.store decision christmasCallbackRow ∧
      LiftedWhenRead "tenant" sampleEngine sampleCallbackDigests state decision "callback" ∧
      other ∈ state.store.decisions ∧ other.decision = .defer ∧
      ¬ Consumes state.store other christmasCallbackRow := by
  have ends : System.endsWith (governanceNext "tenant" sampleEngine sampleCallbackDigests)
      ⟨christmasStore, [], []⟩ twoActions (.write 2)
      (fun _ after => decide (christmasCallbackRow ∈ after.store.callbacks ∧
        (∃ decision ∈ after.store.decisions, ∃ row ∈ after.store.callbacks,
          row.mutationKind = .consume ∧ row.supersedesId = some "callback" ∧
          row.evidenceRef = usedBy decision.id) ∧
        ∃ other ∈ after.store.decisions, other.decision = .defer)) = true := by
    decide +kernel
  obtain ⟨before, after, reachable, taken, found⟩ := System.Reachable.endsWith christmas_undecided ends
  have arrives : (governance "tenant" sampleEngine sampleCallbackDigests).Reachable after :=
    System.Reachable.step reachable taken
  obtain ⟨present, ⟨decision, mem, consumes⟩, other, otherMember, deferred⟩ :=
    of_decide_eq_true found
  obtain ⟨-, exactly, refused, -⟩ := callbacks_used_once arrives present
  obtain ⟨allows, lifted⟩ := (exactly decision mem).mp consumes
  exact ⟨after, decision, other, arrives, present, mem, allows, consumes, lifted, otherMember,
    deferred, refused other otherMember (by simp [deferred])⟩

end DContact.Governance

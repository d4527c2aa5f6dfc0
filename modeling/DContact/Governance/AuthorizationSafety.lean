import DContact.Governance.AuthorizationGates
import DContact.Governance.ReservationSafety
import DContact.Lib.Sessions

/-!
# Authorization over whole runs

Calls of `authorizeAndReserve` take their locks, read and decide, and write. Between the
steps of one call other calls take theirs, callbacks are requested, reservations run
through their life and every table that decisions read may change. The plans that have
been committed account for the decisions, the reservations and the used callbacks of the
store, and each plan was made in some state before. Everything below follows from that.
-/

namespace DContact.Governance

open Lib List Session

variable {tenantId : String} {engine : GovernanceEngine} {store : GovernanceStore}
  {ids : AuthorizationIds} {now : Instant} {plan : AuthorizationPlan}

theorem planAuthorization_ok {input : AuthorizeAndReserveInput}
    (planned : planAuthorization tenantId engine store input ids now = .ok plan) :
    ∃ pins,
      (deliberate engine.toDecisionEngine store.tables store.callbacks input now).pins
        engine.toDecisionEngine = .ok pins ∧
      planConsumption engine.toDecisionEngine store.callbacks ids
        (deliberate engine.toDecisionEngine store.tables store.callbacks input now).consumed =
          .ok plan.consumption ∧
      planReservation tenantId engine input
        (deliberate engine.toDecisionEngine store.tables store.callbacks input now) ids now =
          .ok plan.reservation ∧
      plan.decision = decisionFor engine store.tables input
        (deliberate engine.toDecisionEngine store.tables store.callbacks input now) pins
        plan.reservation ids now := by
  obtain ⟨pins, isPins, planned⟩ := bind_ok planned
  obtain ⟨consumption, isConsumption, planned⟩ := bind_ok planned
  obtain ⟨reservation, isReservation, planned⟩ := bind_ok planned
  cases planned
  exact ⟨pins, isPins, isConsumption, isReservation, rfl⟩

section Plans

variable {input : AuthorizeAndReserveInput}

section
variable (planned : planAuthorization tenantId engine store input ids now = .ok plan)
include planned

theorem plan_actionKey : plan.decision.actionKey = input.actionKey := by
  obtain ⟨pins, -, -, -, isDecision⟩ := planAuthorization_ok planned
  rw [isDecision]
  rfl

theorem plan_decision :
    plan.decision.decision =
      (deliberate engine.toDecisionEngine store.tables store.callbacks input now).decision := by
  obtain ⟨pins, -, -, -, isDecision⟩ := planAuthorization_ok planned
  rw [isDecision]
  rfl

theorem plan_reservation :
    (plan.reservation.isSome = true ↔ plan.decision.decision = .allow) ∧
      ∀ row ∈ plan.reservation, row.actionKey = plan.decision.actionKey := by
  have sameKey := plan_actionKey planned
  rw [plan_decision planned, sameKey]
  obtain ⟨pins, -, -, isReservation, -⟩ := planAuthorization_ok planned
  unfold planReservation at isReservation
  split at isReservation
  next allows =>
    split at isReservation
    next => cases isReservation
    split at isReservation
    next => cases isReservation
    rw [← Except.ok.inj isReservation]
    refine ⟨by simp [allows], ?_⟩
    intro row planned
    rw [← Option.some.inj planned]
    rfl
  next refuses =>
    rw [← Except.ok.inj isReservation]
    exact ⟨by simp [refuses], by simp⟩

/-- The row that uses up a request is made from the row that the request was read from. -/
theorem plan_consumption {row : CallbackRow} (consumes : plan.consumption = some row) :
    ∃ original ∈ store.callbacks,
      (deliberate engine.toDecisionEngine store.tables store.callbacks input now).consumed =
        some original.id ∧ row = consumptionOf engine.toDecisionEngine ids original := by
  obtain ⟨pins, -, isConsumption, -, -⟩ := planAuthorization_ok planned
  cases consumed :
      (deliberate engine.toDecisionEngine store.tables store.callbacks input now).consumed with
  | none =>
      rw [consumed, consumes] at isConsumption
      cases isConsumption
  | some requestId =>
      rw [consumed, consumes] at isConsumption
      obtain ⟨original, found, same⟩ := bind_ok isConsumption
      have isFound := orFail_ok.mp found
      cases same
      refine ⟨original, Table.lookup_mem isFound, ?_, rfl⟩
      rw [Table.lookup_key isFound]

theorem plan_unconsumed (consumes : plan.consumption = none) :
    (deliberate engine.toDecisionEngine store.tables store.callbacks input now).consumed = none := by
  obtain ⟨pins, -, isConsumption, -, -⟩ := planAuthorization_ok planned
  cases consumed :
      (deliberate engine.toDecisionEngine store.tables store.callbacks input now).consumed with
  | none => rfl
  | some requestId =>
      rw [consumed, consumes] at isConsumption
      obtain ⟨original, -, same⟩ := bind_ok isConsumption
      cases same

end

end Plans

/-- The entries that show a callback lifting a temporal block. -/
def LiftedByCallback (decision : DecisionRow) (requestId : String) : Prop :=
  (∃ rule, deferredEntry rule ∈ decision.trace) ∧ callbackEntry ∈ decision.trace ∧
    decision.exceptionRef = some requestId

variable {tables : FactTables} {callbacks : List CallbackRow}

theorem deliberate_consumed {engine : DecisionEngine} {input : AuthorizeAndReserveInput}
    {requestId : String}
    (consumed : (deliberate engine tables callbacks input now).consumed = some requestId) :
    (deliberate engine tables callbacks input now).decision = .allow := by
  cases subject : input.subject with
  | unresolved resolution =>
      simp [Deliberation.consumed, deliberate, subject] at consumed
  | contact contactId identityId =>
      simp only [Deliberation.consumed, deliberate, subject] at consumed ⊢
      split at consumed
      next legacy =>
        rw [if_pos legacy]
        unfold contactGates at consumed ⊢
        split at consumed
        next => cases consumed
        next uncovered =>
          rw [if_neg uncovered]
          exact verdict_allow_iff.mpr (verdict_consumed consumed)
      next => cases consumed

theorem plan_consumed_iff {input : AuthorizeAndReserveInput}
    (planned : planAuthorization tenantId engine store input ids now = .ok plan)
    {requestId : String} :
    (deliberate engine.toDecisionEngine store.tables store.callbacks input now).consumed =
        some requestId ↔
      plan.decision.decision = .allow ∧ LiftedByCallback plan.decision requestId := by
  rw [plan_decision planned]
  obtain ⟨pins, -, -, -, isDecision⟩ := planAuthorization_ok planned
  rw [isDecision]
  constructor
  · intro consumed
    have allows := deliberate_consumed consumed
    obtain ⟨contactId, identityId, allowed⟩ := deliberate_allow_iff.mp allows
    rw [Deliberation.consumed, allowed.reading, Option.bind_some] at consumed
    obtain ⟨shown, ref⟩ := allowed.gates.consumed_iff.mp consumed
    refine ⟨allows, ?_, ?_, ?_⟩
    · simp only [decisionFor, allowed.trace]
      exact allowed.gates.deferred shown
    · simp only [decisionFor, allowed.trace]
      exact shown
    · simp only [decisionFor, allowed.reading, Option.bind_some]
      exact ref
  · rintro ⟨allows, -, shown, ref⟩
    obtain ⟨contactId, identityId, allowed⟩ := deliberate_allow_iff.mp allows
    rw [Deliberation.consumed, allowed.reading, Option.bind_some]
    simp only [decisionFor, allowed.trace] at shown
    simp only [decisionFor, allowed.reading, Option.bind_some] at ref
    exact allowed.gates.consumed_iff.mpr ⟨shown, ref⟩

theorem insertPlanned_ok {α : Type} {insert : List α → α → Except GovernanceError (List α)}
    {rows after : List α} {planned : Option α}
    (ok : insertPlanned insert rows planned = .ok after)
    (appends : ∀ row, insert rows row = .ok after → after = rows ++ [row]) :
    after = rows ++ planned.toList := by
  cases planned with
  | none =>
      cases ok
      simp
  | some row => exact appends row ok

structure Committed (plan : AuthorizationPlan) (before after : GovernanceStore) : Prop where
  tables : after.tables = before.tables
  decisions : after.decisions = before.decisions ++ [plan.decision]
  callbacks : after.callbacks = before.callbacks ++ plan.consumption.toList
  reservations : after.reservations = before.reservations ++ plan.reservation.toList
  fresh : ∀ other ∈ before.decisions, other.id ≠ plan.decision.id
  reserved : ∀ row ∈ plan.reservation, ∀ other ∈ before.reservations, other.id ≠ row.id
  keyed : CallbacksKeyed before.callbacks → CallbacksKeyed after.callbacks

theorem insertReservation_ok {reservations after : List AuthorizedReservation}
    {row : AuthorizedReservation} (ok : insertReservation tables reservations row = .ok after) :
    after = reservations ++ [row] ∧ ∀ other ∈ reservations, other.id ≠ row.id := by
  obtain ⟨_, fresh, ok⟩ := bind_ok ok
  replace ok := rest_ok (rest_ok (rest_ok ok))
  cases ok
  exact ⟨rfl, ensure_ok.mp fresh⟩

variable {after : GovernanceStore} {made : AuthorizeAndReserveInput → AuthorizationPlan → Prop}

theorem commitPlan_ok {before : GovernanceStore}
    (ok : commitPlan before plan = .ok after) : Committed plan before after := by
  obtain ⟨mismatches, -, ok⟩ := bind_ok ok
  obtain ⟨callbacks, isCallbacks, ok⟩ := bind_ok ok
  obtain ⟨reservations, isReservations, ok⟩ := bind_ok ok
  obtain ⟨decisions, isDecisions, ok⟩ := bind_ok ok
  obtain ⟨_, fresh, isDecisions⟩ := bind_ok isDecisions
  cases isDecisions
  cases ok
  refine ⟨rfl, rfl, ?_, ?_, ensure_ok.mp fresh, ?_, ?_⟩
  · refine insertPlanned_ok isCallbacks ?_
    intro row inserted
    exact (insertCallback_ok (mapError_ok.mp inserted)).1
  · exact insertPlanned_ok isReservations fun row inserted => (insertReservation_ok inserted).1
  · intro row reserves
    rw [reserves] at isReservations
    exact (insertReservation_ok isReservations).2
  · intro keyed
    cases consumption : plan.consumption with
    | none =>
        rw [consumption] at isCallbacks
        cases isCallbacks
        exact keyed
    | some row =>
        rw [consumption] at isCallbacks
        exact keyed.insert (mapError_ok.mp isCallbacks)

/-- How far a call has come: it holds its locks, or it has read everything and decided. -/
inductive AuthorizationWork where
  | locked (input : AuthorizeAndReserveInput)
  | planned (input : AuthorizeAndReserveInput) (plan : AuthorizationPlan)

def AuthorizationWork.input : AuthorizationWork → AuthorizeAndReserveInput
  | .locked input | .planned input _ => input

structure GovernanceState where
  store : GovernanceStore
  sessions : List (Session AuthorizationWork)
  answers : List (AuthorizeAndReserveInput × AuthorizationOutcome)

def sharesLock (left right : AuthorizeAndReserveInput) : Bool :=
  left.actionKey == right.actionKey ||
    match left.subject, right.subject with
    | .contact leftId _, .contact rightId _ => decide (leftId ≠ "") && leftId == rightId
    | _, _ => false

theorem sharesLock_comm (left right : AuthorizeAndReserveInput) :
    sharesLock left right = sharesLock right left := by
  unfold sharesLock
  rw [BEq.comm]
  cases left.subject <;> cases right.subject <;> simp only []
  rw [Bool.eq_iff_iff]
  simp only [Bool.or_eq_true, Bool.and_eq_true, decide_eq_true_eq, beq_iff_eq]
  constructor
  · rintro (same | ⟨given, rfl⟩)
    · exact .inl same
    · exact .inr ⟨given, rfl⟩
  · rintro (same | ⟨given, rfl⟩)
    · exact .inl same
    · exact .inr ⟨given, rfl⟩

inductive GovernanceAction where
  | begin (pid : Nat) (input : AuthorizeAndReserveInput)
  | read (pid : Nat) (ids : AuthorizationIds) (now : Instant)
  | write (pid : Nat)
  | abort (pid : Nat)
  | request (input : RequestCallbackInput) (ids : CallbackIds)
  | settle (reservationId : String) (update : RowUpdate)
  | change (tables : FactTables)

def GovernanceState.ended (state : GovernanceState) (pid : Nat) : GovernanceState :=
  { state with sessions := Session.drop state.sessions pid }

def GovernanceState.answered (state : GovernanceState) (pid : Nat) (input : AuthorizeAndReserveInput)
    (outcome : AuthorizationOutcome) : GovernanceState :=
  { state.ended pid with answers := state.answers ++ [(input, outcome)] }

/-- The reads of a call: a stored decision answers it, and otherwise it decides. -/
def readStep (tenantId : String) (engine : GovernanceEngine) (state : GovernanceState) (pid : Nat)
    (input : AuthorizeAndReserveInput) (ids : AuthorizationIds) (now : Instant) : GovernanceState :=
  match existingDecision state.store input.actionKey with
  | some existing =>
      if existing.inputHash ≠ engine.inputHash input then state.ended pid
      else state.answered pid input (toOutcome state.store.reservations existing)
  | none =>
      match planAuthorization tenantId engine state.store input ids now with
      | .error _ => state.ended pid
      | .ok plan => { state with sessions := Session.replace state.sessions pid (.planned input plan) }

/-- The writes of a call, all or none. -/
def writeStep (state : GovernanceState) (pid : Nat) (input : AuthorizeAndReserveInput)
    (plan : AuthorizationPlan) : GovernanceState :=
  match commitPlan state.store plan with
  | .error _ => state.ended pid
  | .ok after =>
      { state with store := after }.answered pid input (toOutcome after.reservations plan.decision)

def settleRows (reservations : List AuthorizedReservation) (reservationId : String)
    (update : RowUpdate) : List AuthorizedReservation :=
  Table.update (fun row => row.id) reservationId
    (fun row => { row with toReservationRow := update.apply row.toReservationRow }) reservations

def requestStep (zones : ZoneDatabase) (digests : CallbackDigests) (store : GovernanceStore)
    (input : RequestCallbackInput) (ids : CallbackIds) : GovernanceStore :=
  match requestCallback zones digests store.tables store.callbacks store.callbackReceipts input ids with
  | .error _ => store
  | .ok (_, callbacks, receipts) => { store with callbacks := callbacks, callbackReceipts := receipts }

def governanceNext (tenantId : String) (engine : GovernanceEngine) (digests : CallbackDigests)
    (state : GovernanceState) : GovernanceAction → Option GovernanceState
  | .begin pid input =>
      if Session.find state.sessions pid = none ∧
          (state.sessions.any fun session => sharesLock session.work.input input) = false then
        some { state with sessions := ⟨pid, .locked input⟩ :: state.sessions }
      else none
  | .read pid ids now =>
      match Session.find state.sessions pid with
      | some (.locked input) => some (readStep tenantId engine state pid input ids now)
      | _ => none
  | .write pid =>
      match Session.find state.sessions pid with
      | some (.planned input plan) => some (writeStep state pid input plan)
      | _ => none
  | .abort pid => some (state.ended pid)
  | .request input ids =>
      some { state with store := requestStep engine.zones digests state.store input ids }
  | .settle reservationId update =>
      some { state with store := { state.store with
        reservations := settleRows state.store.reservations reservationId update } }
  | .change tables => some { state with store := { state.store with tables := tables } }

def Undecided (state : GovernanceState) : Prop :=
  state.store.decisions = [] ∧ state.store.reservations = [] ∧ state.sessions = [] ∧
    state.answers = [] ∧ CallbacksKeyed state.store.callbacks ∧
    ∀ row ∈ state.store.callbacks, row.mutationKind ≠ .consume

def governance (tenantId : String) (engine : GovernanceEngine) (digests : CallbackDigests) :
    System GovernanceState GovernanceAction :=
  .ofNext Undecided (governanceNext tenantId engine digests)

/-- What a decision leaves on the row that uses a callback up for it. -/
def usedBy (decisionId : String) : String := "system:authorizeAndReserve:" ++ decisionId

theorem usedBy_injective {left right : String} (same : usedBy left = usedBy right) : left = right := by
  unfold usedBy at same
  exact (String.append_right_inj _).mp same

structure UsesUp (decision : DecisionRow) (original row : CallbackRow) : Prop where
  kind : row.mutationKind = .consume
  supersedes : row.supersedesId = some original.id
  series : row.seriesId = original.seriesId
  version : row.version = original.version + 1
  evidence : row.evidenceRef = usedBy decision.id

structure Standing (made : AuthorizeAndReserveInput → AuthorizationPlan → Prop)
    (callbacks : List CallbackRow) (input : AuthorizeAndReserveInput) (plan : AuthorizationPlan) :
    Prop where
  made : made input plan
  key : plan.decision.actionKey = input.actionKey
  original : ∀ row, plan.consumption = some row →
    ∃ original ∈ callbacks, UsesUp plan.decision original row

theorem Standing.grow {added : List CallbackRow} {input : AuthorizeAndReserveInput}
    (standing : Standing made callbacks input plan) :
    Standing made (callbacks ++ added) input plan := by
  refine ⟨standing.made, standing.key, ?_⟩
  intro row consumes
  obtain ⟨original, mem, uses⟩ := standing.original row consumes
  exact ⟨original, mem_append_left _ mem, uses⟩

theorem standing_of_plan {input : AuthorizeAndReserveInput} (isMade : made input plan)
    (planned : planAuthorization tenantId engine store input ids now = .ok plan) :
    Standing made store.callbacks input plan := by
  refine ⟨isMade, plan_actionKey planned, ?_⟩
  intro row consumes
  obtain ⟨original, mem, -, rfl⟩ := plan_consumption planned consumes
  obtain ⟨pins, -, -, -, isDecision⟩ := planAuthorization_ok planned
  refine ⟨original, mem, rfl, rfl, rfl, rfl, ?_⟩
  rw [isDecision]
  rfl

def reservationKey (row : AuthorizedReservation) : String × String := (row.id, row.actionKey)

structure Accounts (made : AuthorizeAndReserveInput → AuthorizationPlan → Prop)
    (committed : List AuthorizationPlan) (state : GovernanceState) : Prop where
  decisions : state.store.decisions = committed.map AuthorizationPlan.decision
  consumptions : state.store.callbacks.filter (fun row => row.mutationKind == .consume) =
    committed.filterMap AuthorizationPlan.consumption
  reservations : state.store.reservations.map reservationKey =
    (committed.filterMap AuthorizationPlan.reservation).map reservationKey
  ids : (state.store.decisions.map DecisionRow.id).Nodup
  keys : (state.store.decisions.map DecisionRow.actionKey).Nodup
  callbacks : CallbacksKeyed state.store.callbacks
  apart : ∀ left ∈ state.sessions, ∀ right ∈ state.sessions, left.pid ≠ right.pid →
    sharesLock left.work.input right.work.input = false
  waiting : ∀ session ∈ state.sessions, ∀ input plan, session.work = .planned input plan →
    Standing made state.store.callbacks input plan ∧
      input.actionKey ∉ state.store.decisions.map DecisionRow.actionKey
  standing : ∀ plan ∈ committed, ∃ input,
    Standing made state.store.callbacks input plan
  answers : ∀ answer ∈ state.answers, ∃ row ∈ state.store.decisions,
    row.actionKey = answer.1.actionKey ∧ ∃ reservations, answer.2 = toOutcome reservations row

variable {pid : Nat} {input : AuthorizeAndReserveInput}

section Steps

variable {made : AuthorizeAndReserveInput → AuthorizationPlan → Prop}
  {committed : List AuthorizationPlan} {state : GovernanceState}

theorem accounts_init (undecided : Undecided state) :
    Accounts made [] state := by
  obtain ⟨decisions, reservations, sessions, answers, keyed, unused⟩ := undecided
  refine ⟨by simp [decisions], ?_, by simp [reservations], by simp [decisions], by simp [decisions],
    keyed, by simp [sessions], by simp [sessions], by simp, by simp [answers]⟩
  rw [filterMap_nil, filter_eq_nil_iff]
  intro row mem
  simpa using unused row mem

theorem Accounts.ended (accounts : Accounts made committed state) (pid : Nat) :
    Accounts made committed (state.ended pid) :=
  { accounts with
    apart := fun left hleft right hright =>
      accounts.apart left (mem_drop.mp hleft).1 right (mem_drop.mp hright).1
    waiting := forall_drop accounts.waiting }

theorem Accounts.answered (accounts : Accounts made committed state) {row : DecisionRow}
    (mem : row ∈ state.store.decisions)
    (same : row.actionKey = input.actionKey) (reservations : List AuthorizedReservation) :
    Accounts made committed
      (state.answered pid input (toOutcome reservations row)) := by
  refine { accounts.ended pid with answers := ?_ }
  intro answer listed
  rcases mem_snoc.mp listed with old | rfl
  · exact accounts.answers answer old
  · exact ⟨row, mem, same, reservations, rfl⟩

theorem Accounts.begun (accounts : Accounts made committed state)
    (free : (state.sessions.any fun session => sharesLock session.work.input input) = false) :
    Accounts made committed
      { state with sessions := ⟨pid, .locked input⟩ :: state.sessions } := by
  have clear : ∀ session ∈ state.sessions, sharesLock session.work.input input = false := by
    intro session mem
    simpa using any_eq_false.mp free session mem
  refine { accounts with apart := ?_, waiting := ?_ }
  · intro left hleft right hright different
    rcases mem_cons.mp hleft with rfl | leftOld <;> rcases mem_cons.mp hright with rfl | rightOld
    · exact absurd rfl different
    · rw [sharesLock_comm]
      exact clear right rightOld
    · exact clear left leftOld
    · exact accounts.apart left leftOld right rightOld different
  · intro session mem own plan isPlanned
    rcases mem_cons.mp mem with rfl | old
    · cases isPlanned
    · exact accounts.waiting session old own plan isPlanned

variable {actionKey : String}

theorem existingDecision_none (absent : existingDecision store actionKey = none) :
    actionKey ∉ store.decisions.map DecisionRow.actionKey := by
  intro known
  obtain ⟨row, mem, same⟩ := mem_map.mp known
  have none_ := filter_eq_nil_iff.mp (Table.latest_none.mp absent) row mem
  exact none_ (by simpa using same)

theorem existingDecision_some {row : DecisionRow}
    (found : existingDecision store actionKey = some row) :
    row ∈ store.decisions ∧ row.actionKey = actionKey := by
  obtain ⟨mem, same⟩ := mem_filter.mp (Table.latest_mem found)
  exact ⟨mem, by simpa using same⟩

theorem Accounts.planned
    (accounts : Accounts made committed state)
    (held : Session.find state.sessions pid = some (.locked input))
    (absent : existingDecision state.store input.actionKey = none) (isMade : made input plan)
    (planned : planAuthorization tenantId engine state.store input ids now = .ok plan) :
    Accounts made committed
      { state with sessions := Session.replace state.sessions pid (.planned input plan) } := by
  have own := find_mem held
  refine { accounts with apart := ?_, waiting := ?_ }
  · exact pairs_replace accounts.apart (fun different => absurd rfl different)
      fun session old _ => ⟨accounts.apart ⟨pid, .locked input⟩ own session old,
        accounts.apart session old ⟨pid, .locked input⟩ own⟩
  · apply forall_replace accounts.waiting
    intro other otherPlan isPlanned
    cases isPlanned
    exact ⟨standing_of_plan isMade planned, existingDecision_none absent⟩

theorem Accounts.commit (accounts : Accounts made committed state)
    (held : Session.find state.sessions pid = some (.planned input plan))
    (ok : commitPlan state.store plan = .ok after) :
    Accounts made (committed ++ [plan])
      ({ state with store := after }.answered pid input
        (toOutcome after.reservations plan.decision)) := by
  have own := find_mem held
  have effect := commitPlan_ok ok
  obtain ⟨standing, fresh⟩ := accounts.waiting _ own input plan rfl
  have sameKey := standing.key
  have added : plan.decision ∈ after.decisions := by
    rw [effect.decisions]
    exact mem_append_right _ (mem_singleton.mpr rfl)
  have consumed : plan.consumption.toList.filter (fun row => row.mutationKind == .consume) =
      plan.consumption.toList := by
    cases consumption : plan.consumption with
    | none => rfl
    | some row =>
        obtain ⟨original, -, uses⟩ := standing.original row consumption
        simp [uses.kind]
  refine ⟨?_, ?_, ?_, ?_, ?_, effect.keyed accounts.callbacks, ?_, ?_, ?_, ?_⟩
  · simp [GovernanceState.answered, GovernanceState.ended, effect.decisions, accounts.decisions]
  · simp only [GovernanceState.answered, GovernanceState.ended, effect.callbacks, filter_append,
      accounts.consumptions, consumed, filterMap_append]
    cases consumption : plan.consumption <;> simp [consumption]
  · simp only [GovernanceState.answered, GovernanceState.ended, effect.reservations, map_append,
      accounts.reservations, filterMap_append]
    cases reservation : plan.reservation <;> simp [reservation]
  · simp only [GovernanceState.answered, GovernanceState.ended, effect.decisions]
    apply Table.nodup_append accounts.ids
    intro known
    obtain ⟨other, mem, same⟩ := mem_map.mp known
    exact effect.fresh other mem same
  · simp only [GovernanceState.answered, GovernanceState.ended, effect.decisions]
    apply Table.nodup_append accounts.keys
    rw [sameKey]
    exact fresh
  · exact (accounts.ended pid).apart
  · intro session mem other otherPlan isPlanned
    obtain ⟨present, different⟩ := mem_drop.mp mem
    obtain ⟨stands, unknown⟩ := accounts.waiting session present other otherPlan isPlanned
    refine ⟨?_, ?_⟩
    · simp only [GovernanceState.answered, GovernanceState.ended, effect.callbacks]
      exact stands.grow
    · -- the other session holds the lock of another action
      have free := accounts.apart session present _ own different
      rw [isPlanned] at free
      simp only [sharesLock, AuthorizationWork.input, Bool.or_eq_false_iff, beq_eq_false_iff_ne] at free
      simp only [GovernanceState.answered, GovernanceState.ended, effect.decisions, map_append,
        map_cons, map_nil, mem_append, mem_singleton, not_or, sameKey]
      exact ⟨unknown, free.1⟩
  · intro other listed
    simp only [GovernanceState.answered, GovernanceState.ended, effect.callbacks]
    rcases mem_snoc.mp listed with old | rfl
    · obtain ⟨ownInput, stands⟩ := accounts.standing other old
      exact ⟨ownInput, stands.grow⟩
    · exact ⟨input, standing.grow⟩
  · intro answer listed
    rcases mem_snoc.mp listed with old | rfl
    · obtain ⟨row, mem, same, answers⟩ := accounts.answers answer old
      refine ⟨row, ?_, same, answers⟩
      simp only [GovernanceState.answered, GovernanceState.ended, effect.decisions]
      exact mem_append_left _ mem
    · exact ⟨plan.decision, added, sameKey, after.reservations, rfl⟩

/-- A request for a callback adds a row that uses nothing up. -/
theorem Accounts.requested (accounts : Accounts made committed state) (zones : ZoneDatabase)
    (digests : CallbackDigests) (input : RequestCallbackInput) (ids : CallbackIds) :
    Accounts made committed
      { state with store := requestStep zones digests state.store input ids } := by
  unfold requestStep
  split
  next => exact accounts
  next result callbacks receipts ok =>
    rcases requestCallback_callbacks ok with rfl | ⟨row, requested, inserted⟩
    · exact { accounts with }
    · obtain ⟨rfl, -, -⟩ := insertCallback_ok inserted
      refine { accounts with
        consumptions := ?_, callbacks := accounts.callbacks.insert inserted, waiting := ?_,
        standing := ?_ }
      · simp [filter_append, requested, accounts.consumptions]
      · intro session mem own plan isPlanned
        obtain ⟨stands, unknown⟩ := accounts.waiting session mem own plan isPlanned
        exact ⟨stands.grow, unknown⟩
      · intro plan listed
        obtain ⟨own, stands⟩ := accounts.standing plan listed
        exact ⟨own, stands.grow⟩

theorem RowUpdate.apply_actionKey (update : RowUpdate) (row : ReservationRow) :
    (update.apply row).actionKey = row.actionKey := by
  cases update <;> rfl

theorem settleRows_keys (reservations : List AuthorizedReservation) (reservationId : String)
    (update : RowUpdate) :
    (settleRows reservations reservationId update).map reservationKey =
      reservations.map reservationKey := by
  rw [settleRows, Table.update, map_map]
  apply map_congr_left
  intro row _
  by_cases same : row.id = reservationId
  · simp [same, reservationKey, RowUpdate.apply_id, RowUpdate.apply_actionKey]
  · simp [same]

section
variable (accounts : Accounts made committed state)
include accounts

theorem Accounts.settled (reservationId : String) (update : RowUpdate) :
    Accounts made committed { state with store := { state.store with
      reservations := settleRows state.store.reservations reservationId update } } := by
  refine { accounts with reservations := ?_ }
  rw [settleRows_keys]
  exact accounts.reservations

theorem Accounts.changed (tables : FactTables) :
    Accounts made committed
      { state with store := { state.store with tables := tables } } :=
  { accounts with }

theorem Accounts.remember {later : AuthorizeAndReserveInput → AuthorizationPlan → Prop}
    (weaker : ∀ input plan, made input plan → later input plan) :
    Accounts later committed state := by
  have keeps : ∀ {input plan}, Standing made state.store.callbacks input plan →
      Standing later state.store.callbacks input plan :=
    fun standing => ⟨weaker _ _ standing.made, standing.key, standing.original⟩
  refine { accounts with waiting := ?_, standing := ?_ }
  · intro session mem input plan isPlanned
    obtain ⟨standing, unknown⟩ := accounts.waiting session mem input plan isPlanned
    exact ⟨keeps standing, unknown⟩
  · intro plan listed
    obtain ⟨input, standing⟩ := accounts.standing plan listed
    exact ⟨input, keeps standing⟩

theorem accounts_write (held : Session.find state.sessions pid = some (.planned input plan)) :
    ∃ later, Accounts made later (writeStep state pid input plan) := by
  unfold writeStep
  split
  next => exact ⟨committed, accounts.ended pid⟩
  next after ok => exact ⟨committed ++ [plan], accounts.commit held ok⟩

theorem accounts_read (held : Session.find state.sessions pid = some (.locked input))
    (makes : ∀ plan, planAuthorization tenantId engine state.store input ids now = .ok plan →
      made input plan) :
    Accounts made committed (readStep tenantId engine state pid input ids now) := by
  unfold readStep
  split
  next existing found =>
    split
    next => exact accounts.ended pid
    obtain ⟨mem, same⟩ := existingDecision_some found
    exact accounts.answered mem same state.store.reservations
  next absent =>
    split
    next => exact accounts.ended pid
    next plan planned => exact accounts.planned held absent (makes plan planned) planned

end

end Steps

section Runs

variable {digests : CallbackDigests} {state : GovernanceState}

structure ReadIn (tenantId : String) (engine : GovernanceEngine) (digests : CallbackDigests)
    (state : GovernanceState) (input : AuthorizeAndReserveInput) (plan : AuthorizationPlan)
    (earlier : GovernanceState) (ids : AuthorizationIds) : Prop where
  reachable : (governance tenantId engine digests).Reachable earlier
  read : ∃ pid after, Session.find earlier.sessions pid = some (.locked input) ∧
    (governance tenantId engine digests).step earlier (.read pid ids plan.decision.decidedAt) after ∧
    (governance tenantId engine digests).Reaches after state
  planned : planAuthorization tenantId engine earlier.store input ids plan.decision.decidedAt =
    .ok plan

def Made (tenantId : String) (engine : GovernanceEngine) (digests : CallbackDigests)
    (state : GovernanceState) (input : AuthorizeAndReserveInput) (plan : AuthorizationPlan) : Prop :=
  ∃ earlier ids, ReadIn tenantId engine digests state input plan earlier ids

variable {action : GovernanceAction}

theorem Made.step {after : GovernanceState} (made : Made tenantId engine digests state input plan)
    (taken : governanceNext tenantId engine digests state action = some after) :
    Made tenantId engine digests after input plan := by
  obtain ⟨earlier, ids, reachable, ⟨pid, next, held, read, run⟩, planned⟩ := made
  exact ⟨earlier, ids, reachable, ⟨pid, next, held, read, run.tail ⟨action, taken⟩⟩, planned⟩

theorem accounts_step {committed : List AuthorizationPlan} {after : GovernanceState}
    (accounts : Accounts (Made tenantId engine digests state) committed state)
    (reachable : (governance tenantId engine digests).Reachable state)
    (taken : governanceNext tenantId engine digests state action = some after) :
    ∃ later, Accounts (Made tenantId engine digests after) later after := by
  have known : Accounts (Made tenantId engine digests after) committed state :=
    accounts.remember fun input plan made => made.step taken
  have step := taken
  cases action with
  | begin pid input =>
      simp only [governanceNext] at taken
      split at taken
      next free =>
        cases taken
        exact ⟨committed, known.begun free.2⟩
      next => cases taken
  | read pid ids now =>
      simp only [governanceNext] at taken
      split at taken
      next input held =>
        cases taken
        refine ⟨committed, accounts_read known held ?_⟩
        intro plan planned
        obtain ⟨pins, -, -, -, isDecision⟩ := planAuthorization_ok planned
        have isNow : plan.decision.decidedAt = now := by rw [isDecision]; rfl
        exact ⟨state, ids, reachable, ⟨pid, _, held, isNow ▸ step, .refl⟩, isNow ▸ planned⟩
      next => cases taken
  | write pid =>
      simp only [governanceNext] at taken
      split at taken
      next input plan held =>
        cases taken
        exact accounts_write known held
      next => cases taken
  | abort pid =>
      cases taken
      exact ⟨committed, known.ended pid⟩
  | request input ids =>
      cases taken
      exact ⟨committed, known.requested engine.zones digests input ids⟩
  | settle reservationId update =>
      cases taken
      exact ⟨committed, known.settled reservationId update⟩
  | change tables =>
      cases taken
      exact ⟨committed, known.changed tables⟩

/-- The state is one that a run arrives at, with accounts that are in order. -/
def Accounted (tenantId : String) (engine : GovernanceEngine) (digests : CallbackDigests)
    (state : GovernanceState) : Prop :=
  (governance tenantId engine digests).Reachable state ∧
    ∃ committed, Accounts (Made tenantId engine digests state) committed state

theorem accounted_reachable (reachable : (governance tenantId engine digests).Reachable state) :
    Accounted tenantId engine digests state := by
  refine reachable.invariant ?_ ?_
  · intro start initial
    exact ⟨.of_init initial, [], accounts_init initial⟩
  · intro source action target before taken
    obtain ⟨arrives, committed, accounts⟩ := before
    exact ⟨arrives.step taken, accounts_step accounts arrives taken⟩

/-- What the store showed when a decision to allow was made. -/
structure Sanctioned (engine : DecisionEngine) (store : GovernanceStore) (request : ContactRequest)
    (row : DecisionRow) : Prop where
  restriction : ∀ restriction ∈ store.tables.restrictions,
    restriction.applies request row.decidedAt = false
  consent : ∃ consent ∈ store.tables.consents, consent.concerns request = true ∧
    consent.status = .granted ∧ (∀ ends, consent.expiresAt = some ends → row.decidedAt < ends) ∧
    ∀ other ∈ store.tables.consents, other.concerns request = true →
      other.createdAt ≤ consent.createdAt
  killSwitch : ∀ kill ∈ store.tables.studio.killSwitches, kill.active = true →
    killSwitchCoversReservation kill.scopeKey request = false
  trace : ∀ entry ∈ row.trace, entry.outcome = .pass ∨ ∃ rule, entry = deferredEntry rule ∧
    Override engine store.tables store.callbacks request row.decidedAt
      (policyReading engine store.tables store.callbacks request row.decidedAt).verdict rule
  pins : ∀ pin ∈ (policyReading engine store.tables store.callbacks request
    row.decidedAt).verdict.appliedExceptions, ∃ pins, row.cg4 = some pins ∧ pin ∈ pins.appliedExceptions

theorem planPins_applied {engine : DecisionEngine} {facts : Cg3Facts} {reading : PolicyReading}
    {planned : Option DecisionPins} (ok : planPins engine facts reading = .ok planned)
    {pin : AppliedExceptionPin} (applied : pin ∈ reading.verdict.appliedExceptions) :
    ∃ pins, planned = some pins ∧ pin ∈ pins.appliedExceptions := by
  unfold planPins at ok
  split at ok
  next empty _ =>
    rw [empty] at applied
    cases applied
  next empty _ =>
    rw [empty] at applied
    cases applied
  next isApplied =>
    obtain ⟨policy, -, ok⟩ := bind_ok ok
    cases ok
    exact ⟨_, rfl, isApplied ▸ applied⟩

theorem plan_sanctioned (planned : planAuthorization tenantId engine store input ids now = .ok plan)
    (allows : plan.decision.decision = .allow) :
    ∃ contactId identityId, input.subject = .contact contactId identityId ∧
      Sanctioned engine.toDecisionEngine store (input.request contactId identityId) plan.decision := by
  rw [plan_decision planned] at allows
  obtain ⟨contactId, identityId, allowed⟩ := deliberate_allow_iff.mp allows
  obtain ⟨pins, isPins, -, -, isDecision⟩ := planAuthorization_ok planned
  have decidedAt : plan.decision.decidedAt = now := by rw [isDecision]; rfl
  have isTrace : plan.decision.trace = passedBefore ++ (policyReading engine.toDecisionEngine
      store.tables store.callbacks (input.request contactId identityId) now).verdict.trace := by
    rw [isDecision, ← allowed.trace]
    rfl
  refine ⟨contactId, identityId, allowed.subject, ?_⟩
  constructor
  · intro restriction mem
    rw [decidedAt]
    exact allowed.gates.no_restriction mem
  · rw [decidedAt]
    exact allowed.gates.granted
  · intro kill mem active
    exact allowed.gates.no_killSwitch mem active
  · intro entry listed
    rw [isTrace] at listed
    rw [decidedAt]
    exact allowed.gates.traced listed
  · intro pin applied
    rw [decidedAt] at applied
    simp only [Deliberation.pins, allowed.facts, allowed.reading] at isPins
    rw [isDecision]
    exact planPins_applied isPins applied

theorem Accounts.reserved_iff {committed : List AuthorizationPlan}
    (accounts : Accounts made committed state)
    (reserves : ∀ plan ∈ committed, (plan.reservation.isSome = true ↔ plan.decision.decision = .allow) ∧
      ∀ row ∈ plan.reservation, row.actionKey = plan.decision.actionKey)
    (listed : plan ∈ committed) :
    (∃ reservation ∈ state.store.reservations, reservation.actionKey = plan.decision.actionKey) ↔
      plan.decision.decision = .allow := by
  constructor
  · rintro ⟨reservation, mem, same⟩
    have booked : reservationKey reservation ∈
        (committed.filterMap AuthorizationPlan.reservation).map reservationKey := by
      rw [← accounts.reservations]
      exact mem_map_of_mem mem
    obtain ⟨row, isRow, sameKey⟩ := mem_map.mp booked
    obtain ⟨other, otherListed, reservedBy⟩ := mem_filterMap.mp isRow
    have key : other.decision.actionKey = plan.decision.actionKey := by
      rw [← (reserves other otherListed).2 row reservedBy, ← same]
      exact congrArg Prod.snd sameKey
    have decision : other.decision = plan.decision := by
      apply Table.eq_of_key_eq accounts.keys _ _ key
      · rw [accounts.decisions]
        exact mem_map_of_mem otherListed
      · rw [accounts.decisions]
        exact mem_map_of_mem listed
    rw [← decision, ← (reserves other otherListed).1, reservedBy]
    rfl
  · intro allows
    obtain ⟨row, reservedBy⟩ := Option.isSome_iff_exists.mp ((reserves plan listed).1.mpr allows)
    have booked : reservationKey row ∈ state.store.reservations.map reservationKey := by
      rw [accounts.reservations]
      exact mem_map_of_mem (mem_filterMap.mpr ⟨plan, listed, reservedBy⟩)
    obtain ⟨reservation, mem, sameKey⟩ := mem_map.mp booked
    refine ⟨reservation, mem, ?_⟩
    rw [← (reserves plan listed).2 row reservedBy]
    exact congrArg Prod.snd sameKey

/-- In every run, an action has at most one decision, and one that a call has answered has
exactly one, which is the answer. A reservation stands under the key of an action exactly when
the decision allows, and a decision allows only if the gates were open in the state that its
call had read. -/
theorem decisions_gated (reachable : (governance tenantId engine digests).Reachable state) :
    (∀ left ∈ state.store.decisions, ∀ right ∈ state.store.decisions,
      left.actionKey = right.actionKey → left = right) ∧
    (∀ answer ∈ state.answers, ∃ row ∈ state.store.decisions,
      row.actionKey = answer.1.actionKey ∧ ∃ reservations, answer.2 = toOutcome reservations row) ∧
    (∀ row ∈ state.store.decisions,
      (∃ reservation ∈ state.store.reservations, reservation.actionKey = row.actionKey) ↔
        row.decision = .allow) ∧
    (∀ reservation ∈ state.store.reservations,
      ∃ row ∈ state.store.decisions, row.actionKey = reservation.actionKey) ∧
    ∀ row ∈ state.store.decisions, row.decision = .allow →
      ∃ input plan earlier ids, plan.decision = row ∧
        ReadIn tenantId engine digests state input plan earlier ids ∧
        ∃ contactId identityId, input.subject = .contact contactId identityId ∧
          Sanctioned engine.toDecisionEngine earlier.store (input.request contactId identityId) row := by
  obtain ⟨-, committed, accounts⟩ := accounted_reachable reachable
  have reserves : ∀ plan ∈ committed,
      (plan.reservation.isSome = true ↔ plan.decision.decision = .allow) ∧
        ∀ row ∈ plan.reservation, row.actionKey = plan.decision.actionKey := by
    intro plan listed
    obtain ⟨input, standing⟩ := accounts.standing plan listed
    obtain ⟨earlier, ids, read⟩ := standing.made
    exact plan_reservation read.planned
  refine ⟨?_, accounts.answers, ?_, ?_, ?_⟩
  · intro left hleft right hright same
    exact Table.eq_of_key_eq accounts.keys hleft hright same
  · intro row mem
    rw [accounts.decisions] at mem
    obtain ⟨plan, listed, rfl⟩ := mem_map.mp mem
    exact accounts.reserved_iff reserves listed
  · intro reservation mem
    have booked := mem_map_of_mem (f := reservationKey) mem
    rw [accounts.reservations] at booked
    obtain ⟨row, isRow, sameKey⟩ := mem_map.mp booked
    obtain ⟨plan, listed, reservedBy⟩ := mem_filterMap.mp isRow
    refine ⟨plan.decision, ?_, ?_⟩
    · rw [accounts.decisions]
      exact mem_map_of_mem listed
    · rw [← (reserves plan listed).2 row reservedBy]
      exact congrArg Prod.snd sameKey
  · intro row mem allows
    rw [accounts.decisions] at mem
    obtain ⟨plan, listed, rfl⟩ := mem_map.mp mem
    obtain ⟨input, standing⟩ := accounts.standing plan listed
    obtain ⟨earlier, ids, read⟩ := standing.made
    exact ⟨input, plan, earlier, ids, rfl, read, plan_sanctioned read.planned allows⟩

/-- A call with nobody else about is a run of the system: it takes its locks, reads and writes. -/
theorem authorizeAndReserve_reaches
    {answers : List (AuthorizeAndReserveInput × AuthorizationOutcome)}
    {input : AuthorizeAndReserveInput}
    {outcome : AuthorizationOutcome}
    (ok : authorizeAndReserve tenantId engine store input ids now = .ok (outcome, after)) :
    (governance tenantId engine digests).Reaches ⟨store, [], answers⟩
      ⟨after, [], answers ++ [(input, outcome)]⟩ := by
  have begun : (governance tenantId engine digests).Next ⟨store, [], answers⟩
      ⟨store, [⟨0, .locked input⟩], answers⟩ := ⟨.begin 0 input, rfl⟩
  have reads : (governance tenantId engine digests).Next ⟨store, [⟨0, .locked input⟩], answers⟩
      (readStep tenantId engine ⟨store, [⟨0, .locked input⟩], answers⟩ 0 input ids now) :=
    ⟨.read 0 ids now, rfl⟩
  refine .head begun ?_
  unfold authorizeAndReserve at ok
  unfold readStep at reads
  split at ok
  next existing found =>
    split at ok
    next => cases ok
    next same =>
      cases ok
      simp only [found, if_neg same] at reads
      exact .single reads
  next absent =>
    obtain ⟨plan, planned, ok⟩ := bind_ok ok
    obtain ⟨written, committed, ok⟩ := bind_ok ok
    cases ok
    simp only [absent, planned] at reads
    refine .head reads (.single ⟨.write 0, ?_⟩)
    show some (writeStep _ 0 input plan) = _
    simp only [writeStep, committed]
    rfl

end Runs

/-- Digests that keep what they are taken of, and no published policy to be compared. -/
def sampleEngine : GovernanceEngine where
  zones := bangkokAtChristmas
  digest := fun _ => "digest"
  runCg4PolicyTests := fun _ _ _ => none
  approvalDigest := fun _ => "approvals"
  pinDigest := fun _ _ => "pins"
  consumeToken := fun requestId decisionId => requestId ++ ":" ++ decisionId
  consumeHash := fun requestId _ => requestId
  outcomeDigest := fun _ reasonCode _ _ => reasonCode
  inputHash := fun input => input.sourceId

/-- The quiet hours of `nightPolicy`, which a callback may override. -/
def nightPolicyRow : Cg3PolicyRow where
  policyId := "night"
  version := 1
  purpose := none
  contactKind := none
  channel := none
  timezoneFallback := some "Asia/Bangkok"
  quietHours := [⟨everyDay, ⟨21, 0⟩, ⟨8, 0⟩⟩]
  callbackMode := .scopedOverride
  overridableRules := ["QUIET_HOURS"]
  status := .published
  effectiveFrom := 0
  effectiveTo := none
  publishedAt := some 0

def christmasTables : FactTables :=
  { FactTables.empty with
    contacts := ["contact"]
    consents := [⟨"contact", none, "MARKETING", .line, .granted, "CONSENT", none, 0⟩]
    policies := [nightPolicyRow] }

def christmasCallbackRow : CallbackRow where
  id := "callback"
  seriesId := "series"
  version := 1
  contactId := "contact"
  identityId := none
  channel := .line
  purpose := "MARKETING"
  requestedAt := dateUtc 2026 12 25 10 0
  requestedTimezone := "Asia/Bangkok"
  expiresAt := dateUtc 2026 12 25 23 0
  sourceKind := .customer
  sourceVersion := none
  oneUseTokenHash := "token"
  approvedExceptionId := none
  mutationKind := .request
  supersedesId := none
  evidenceRef := "call"
  requestHash := "request"
  actorClass := "CUSTOMER"

def christmasStore : GovernanceStore := ⟨christmasTables, [christmasCallbackRow], [], [], [], []⟩

theorem christmas_undecided : Undecided ⟨christmasStore, [], []⟩ :=
  ⟨rfl, rfl, rfl, rfl, ⟨by decide, by decide⟩, by decide⟩

def christmasCall (actionKey : String) : AuthorizeAndReserveInput where
  subject := .contact "contact" none
  channel := .line
  purpose := "MARKETING"
  source := "CAMPAIGN"
  sourceId := "campaign"
  actionKey := actionKey
  policyVersion := 1
  teamId := none
  contactKind := none
  senderIdentityId := none

def sampleIds (name : String) : AuthorizationIds :=
  ⟨name ++ "-decision", name ++ "-mismatch", name ++ "-consumed", name ++ "-reservation"⟩

def sampleCallbackDigests : CallbackDigests := ⟨fun _ => "request", id⟩

/-- A call with nobody else about is decided for the contact. -/
theorem undisturbed_call_is_run :
    ∃ outcome after, (governance "tenant" sampleEngine sampleCallbackDigests).Reachable
      ⟨after, [], [(christmasCall "first", outcome)]⟩ ∧ after.decisions.length = 1 := by
  have asked : succeedsWith (authorizeAndReserve "tenant" sampleEngine christmasStore
      (christmasCall "first") (sampleIds "first") (dateUtc 2026 12 25 16 0))
      (fun result => decide (result.2.decisions.length = 1)) = true := by decide +kernel
  obtain ⟨⟨outcome, after⟩, ok, decided⟩ := of_succeedsWith asked
  have fresh : (governance "tenant" sampleEngine sampleCallbackDigests).Reachable
      ⟨christmasStore, [], []⟩ := .of_init christmas_undecided
  exact ⟨outcome, after, fresh.reaches (authorizeAndReserve_reaches ok), of_decide_eq_true decided⟩

def askedTwice : List GovernanceAction :=
  [.begin 1 (christmasCall "first"), .read 1 (sampleIds "first") (dateUtc 2026 12 25 16 0),
    .write 1, .begin 2 (christmasCall "first")]

/-- The second call is given the decision of the first, which was open. -/
theorem asked_twice_gated :
    ∃ state row, (governance "tenant" sampleEngine sampleCallbackDigests).Reachable state ∧
      state.answers.length = 2 ∧ row ∈ state.store.decisions ∧ row.decision = .allow ∧
      (∃ reservation ∈ state.store.reservations, reservation.actionKey = row.actionKey) ∧
      (∀ other ∈ state.store.decisions, other.actionKey = row.actionKey → other = row) ∧
      ∃ store request, Sanctioned sampleEngine.toDecisionEngine store request row := by
  have ends : System.endsWith (governanceNext "tenant" sampleEngine sampleCallbackDigests)
      ⟨christmasStore, [], []⟩ askedTwice (.read 2 (sampleIds "second") (dateUtc 2026 12 25 16 5))
      (fun _ after => decide (after.answers.length = 2 ∧
        ∃ row ∈ after.store.decisions, row.decision = .allow)) = true := by
    decide +kernel
  obtain ⟨before, after, reachable, taken, found⟩ := System.Reachable.endsWith christmas_undecided ends
  have arrives : (governance "tenant" sampleEngine sampleCallbackDigests).Reachable after :=
    System.Reachable.step reachable taken
  obtain ⟨answered, row, mem, allows⟩ := of_decide_eq_true found
  obtain ⟨one, -, reserved, -, gated⟩ := decisions_gated arrives
  obtain ⟨input, plan, earlier, ids, -, -, contactId, identityId, -, sanctioned⟩ :=
    gated row mem allows
  refine ⟨after, row, arrives, answered, mem, allows, (reserved row mem).mpr allows, ?_,
    earlier.store, _, sanctioned⟩
  intro other otherMember same
  exact one other otherMember row mem same

end DContact.Governance

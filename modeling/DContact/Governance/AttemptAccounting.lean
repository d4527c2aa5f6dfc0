import DContact.Governance.ReservationSafety

/-!
# Attempts and touches

A terminal settlement books an attempt when its policy says that it counts as one, and a
touch when the delivery was successful. A touch can also be correlated later, with an
attempt that the provider has accepted. The ledger below remembers the decision of every
terminal settlement; the tables agree with it whatever the injected policy answers.
-/

namespace DContact.Governance

open Lib List Table

/-! ## Correlated touches -/

structure CorrelatedTouchInput where
  tenantId : String
  correlationId : String
  reservationId : String
  actionKey : String
  deliveryId : String
  attemptId : String
  responseEvidenceRef : String
  evidenceKind : Option TouchEvidenceKind
  occurredAt : Option Instant

inductive CorrelatedTouchError where
  | textBlank (field : String)
  | timestampInvalid (field : String)
  | attemptNotFound
  | attemptNotAccepted
  | touchBindingConflict
  | touchEvidenceConflict
  | touchEvidenceKindUnsupported

def isHexDigit (character : Char) : Bool :=
  character.isDigit || (decide ('a' ≤ character.toLower) && decide (character.toLower ≤ 'f'))

/-- `UUID_PATTERN`. -/
def isUuid (text : String) : Bool :=
  let groups := Text.split text '-'
  groups.map String.length == [8, 4, 4, 4, 12] &&
    groups.all fun group => group.toList.all isHexDigit

structure CorrelatedTouchView where
  touchId : String
  attemptId : String
  reservationId : String
  deliveryId : String
  responseEvidenceRef : String
  evidenceKind : TouchEvidenceKind
  occurredAt : Instant

def correlatedView (touch : TouchRow) (input : CorrelatedTouchInput) (evidenceKind : TouchEvidenceKind) :
    CorrelatedTouchView where
  touchId := touch.id
  attemptId := touch.attemptId
  reservationId := input.reservationId
  deliveryId := input.deliveryId
  responseEvidenceRef := input.responseEvidenceRef
  evidenceKind := evidenceKind
  occurredAt := touch.fact.occurredAt

def touchOf (store : RuntimeStore) (attempt : AttemptRow) : Option TouchRow :=
  store.touches.find? fun touch =>
    touch.fact.tenantId == attempt.fact.tenantId && touch.attemptId == attempt.id

def findAttempt (store : RuntimeStore) (input : CorrelatedTouchInput) :
    Except CorrelatedTouchError AttemptRow := do
  let attempt ← orFail (store.attempts.find? fun attempt =>
    attempt.fact.tenantId == input.tenantId && attempt.id == input.attemptId) .attemptNotFound
  let reservation ← orFail
    (findReservation store attempt.fact.tenantId attempt.fact.reservationId) .attemptNotFound
  ensure (attempt.fact.reservationId = input.reservationId ∧
    attempt.fact.deliveryId = input.deliveryId ∧ reservation.actionKey = input.actionKey)
    .touchBindingConflict
  ensure (attempt.fact.outcome = .providerAccepted) .attemptNotAccepted
  .ok attempt

def correlatedTouch (input : CorrelatedTouchInput) (attempt : AttemptRow)
    (evidenceKind : TouchEvidenceKind) (occurredAt : Instant) (touchId : String) : TouchRow where
  id := touchId
  attemptId := attempt.id
  fact := { attempt.fact with
    occurredAt := occurredAt
    correlationId := input.correlationId
    causationId := some attempt.fact.outcomeRef }
  evidenceKind := some evidenceKind
  responseEvidenceRef := some input.responseEvidenceRef

/-- The unique keys of `cg_touches`. -/
def insertTouch (touches : List TouchRow) (touch : TouchRow) :
    Except CorrelatedTouchError (List TouchRow) := do
  ensure (∀ other ∈ touches, other.fact.tenantId = touch.fact.tenantId →
    other.responseEvidenceRef ≠ touch.responseEvidenceRef ∧
      other.fact.outcomeRef ≠ touch.fact.outcomeRef) .touchEvidenceConflict
  .ok (touches ++ [touch])

def recordCorrelatedTouch (store : RuntimeStore) (input : CorrelatedTouchInput) (touchId : String) :
    Except CorrelatedTouchError (RuntimeStore × CorrelatedTouchView) := do
  ensure (Text.isBlank input.correlationId = false) (.textBlank "correlationId")
  ensure (Text.isBlank input.responseEvidenceRef = false) (.textBlank "responseEvidenceRef")
  let evidenceKind ← orFail input.evidenceKind .touchEvidenceKindUnsupported
  let occurredAt ← orFail input.occurredAt (.timestampInvalid "occurredAt")
  ensure (isUuid input.attemptId = true) .attemptNotFound
  let attempt ← findAttempt store input
  match touchOf store attempt with
  | some touch => do
      ensure (touch.responseEvidenceRef = some input.responseEvidenceRef ∧
        touch.evidenceKind = some evidenceKind ∧ touch.fact.occurredAt = occurredAt)
        .touchEvidenceConflict
      .ok (store, correlatedView touch input evidenceKind)
  | none => do
      let touch := correlatedTouch input attempt evidenceKind occurredAt touchId
      let touches ← insertTouch store.touches touch
      .ok ({ store with touches := touches }, correlatedView touch input evidenceKind)

/-! ## Runs with a ledger -/

/-- What the policy decided when a reservation was settled. -/
structure Settlement where
  reservationId : String
  outcome : TerminalOutcome
  decision : SettlementDecision

structure Ledger where
  store : RuntimeStore
  settlements : List Settlement

/-- The settlement that a command has brought about: its reservation had no terminal outcome
before and has one after. -/
def settlementOf (options : RuntimeOptions) (store after : RuntimeStore) (command : RuntimeCommand) :
    Option Settlement :=
  match command.operation, findReservation store command.tenantId command.reservationId,
      findReservation after command.tenantId command.reservationId with
  | .settle input, some row, some settled =>
      match input.outcome, row.terminalOutcome, settled.terminalOutcome with
      | .terminal outcome, none, some _ =>
          (options.settlementPolicy input outcome row).map fun decision =>
            ⟨row.id, outcome, decision⟩
      | _, _, _ => none
  | _, _, _ => none

inductive LedgerStep where
  | runtime (step : RuntimeStep)
  | correlate (input : CorrelatedTouchInput) (touchId : String)

def Ledger.next (options : RuntimeOptions) (ledger : Ledger) : LedgerStep → Ledger
  | .runtime (.command command now attemptId touchId) =>
      let after := ledger.store.next options (.command command now attemptId touchId)
      ⟨after, ledger.settlements ++ (settlementOf options ledger.store after command).toList⟩
  | .runtime step => { ledger with store := ledger.store.next options step }
  | .correlate input touchId =>
      match recordCorrelatedTouch ledger.store input touchId with
      | .ok (after, _) => { ledger with store := after }
      | .error _ => ledger

/-- Runs from reservations which no command has touched, without attempts or touches. -/
def ledgerSystem (options : RuntimeOptions) : System Ledger LedgerStep where
  init ledger := (runtimeSystem options).init ledger.store ∧ ledger.store.attempts = [] ∧
    ledger.store.touches = [] ∧ ledger.settlements = []
  step ledger step after := after = ledger.next options step

/-! ## What a command books -/

def outcomes (store : RuntimeStore) : List (String × Option TerminalOutcome) :=
  store.reservations.map fun row => (row.id, row.terminalOutcome)

def RowUpdate.settles : RowUpdate → Bool
  | .settle .. => true
  | _ => false

theorem RowUpdate.apply_terminalOutcome {update : RowUpdate} (quiet : update.settles = false)
    (row : ReservationRow) : (update.apply row).terminalOutcome = row.terminalOutcome := by
  cases update with
  | settle => cases quiet
  | _ => rfl

variable {store : RuntimeStore}

theorem outcomes_quiet {id : String} {rewrite : ReservationRow → ReservationRow}
    (ids : ∀ row, (rewrite row).id = row.id)
    (quiet : ∀ row, (rewrite row).terminalOutcome = row.terminalOutcome) :
    (update ReservationRow.id id rewrite store.reservations).map
      (fun row => (row.id, row.terminalOutcome)) = outcomes store := by
  rw [update, map_map, outcomes]
  apply map_congr_left
  intro row _
  by_cases same : row.id = id <;> simp [same, ids, quiet]

inductive Booked (options : RuntimeOptions) (store after : RuntimeStore) : Option Settlement → Prop
  | quiet (same : outcomes after = outcomes store) (attempts : after.attempts = store.attempts)
      (touches : after.touches = store.touches) : Booked options store after none
  | settled (row : ReservationRow) (outcome : TerminalOutcome) (decision : SettlementDecision)
      (mem : row ∈ store.reservations) (unsettled : row.terminalOutcome = none)
      (legal : settlementDecisionLegal outcome decision = true)
      (same : outcomes after = Table.update Prod.fst row.id
        (fun entry => (entry.1, some outcome)) (outcomes store))
      (uncounted : decision.countsAsAttempt = false →
        after.attempts = store.attempts ∧ after.touches = store.touches)
      (counted : decision.countsAsAttempt = true →
        (∃ attempt ∈ store.attempts, attempt.fact.reservationId = row.id) ∨
        ∃ attemptId touchId fact, fact.reservationId = row.id ∧ fact.outcome = outcome ∧
          after.attempts = store.attempts ++ [⟨attemptId, fact⟩] ∧
          after.touches = if decision.countsAsSuccessfulTouch then
            store.touches ++ [⟨touchId, attemptId, fact, none, none⟩] else store.touches) :
      Booked options store after (some ⟨row.id, outcome, decision⟩)

variable {attemptId touchId : String}

theorem recordAttempt_ok {recorded : RuntimeStore} {fact : ContactFact} {touch : Bool}
    (ok : recordAttempt store fact touch attemptId touchId = .ok recorded) :
    (∃ attempt ∈ store.attempts, attempt.fact.reservationId = fact.reservationId ∧
      recorded = store) ∨
    (recorded.attempts = store.attempts ++ [⟨attemptId, fact⟩] ∧
      recorded.touches = if touch then store.touches ++ [⟨touchId, attemptId, fact, none, none⟩]
        else store.touches) := by
  unfold recordAttempt at ok
  simp only [guard_ok_iff] at ok
  obtain ⟨-, -, -, ok⟩ := ok
  split at ok
  next attempt found =>
    split at ok
    next matching =>
      cases ok
      rw [Bool.and_eq_true] at matching
      have same : ({ attempt.fact with correlationId := "", causationId := none } : ContactFact) =
          { fact with correlationId := "", causationId := none } := by
        simpa [matchesCanonicalInput] using matching.1
      have reservation := congrArg ContactFact.reservationId same
      exact .inl ⟨attempt, mem_of_find?_eq_some found, reservation, rfl⟩
    next => cases ok
  next =>
    split at ok
    next => cases ok
    rw [guard_ok_iff] at ok
    obtain ⟨-, ok⟩ := ok
    cases ok
    exact .inr ⟨rfl, rfl⟩

variable {input : SettleInput} {options : RuntimeOptions} {row : ReservationRow} {now : Instant}
  {planned : Plan}

theorem planSettle_ok (ok : planSettle options row input now = .ok planned) :
    planned = .nothing ∨ planned = .row .reconcile ∨
    ∃ outcome decision state confirms, input.outcome = .terminal outcome ∧
      row.terminalOutcome = none ∧ options.settlementPolicy input outcome row = some decision ∧
      settlementDecisionLegal outcome decision = true ∧
      planned = ⟨some (.settle state outcome input.outcomeRef confirms now),
        if decision.countsAsAttempt then some (outcome, decision.countsAsSuccessfulTouch) else none⟩ := by
  replace ok := rest_ok ok
  split at ok
  next =>
    cases ok
    exact .inl rfl
  next unsettled =>
    split at ok
    next =>
      split at ok <;> cases ok
      · exact .inl rfl
      · exact .inr (.inl rfl)
    next outcome isOutcome =>
      split at ok
      next => cases ok
      next decision answered =>
        rw [guard_ok_iff] at ok
        obtain ⟨legal, ok⟩ := ok
        obtain ⟨state, -, ok⟩ := bind_ok ok
        cases ok
        have none : row.terminalOutcome = none := by
          rw [not_or, Option.not_isSome_iff_eq_none] at unsettled
          exact unsettled.1
        exact .inr (.inr ⟨outcome, decision, state, _, isOutcome, none, answered, by simpa using legal,
          rfl⟩)

/-- Only a settlement writes a terminal outcome or an attempt. -/
theorem plan_quiet {operation : RuntimeOperation}
    (ok : plan options store row operation now = .ok planned)
    (other : ∀ input, operation ≠ .settle input) :
    planned.attempt = none ∧ ∀ update, planned.update = some update → update.settles = false := by
  have quiet : ∀ update : RowUpdate, update.settles = false → planned = .row update →
      planned.attempt = none ∧ ∀ update, planned.update = some update → update.settles = false := by
    rintro update unsettling rfl
    refine ⟨rfl, ?_⟩
    rintro other isOther
    cases isOther
    exact unsettling
  cases operation with
  | claim binding leaseExpiresAt =>
      cases leaseExpiresAt with
      | none => cases ok
      | some leaseExpiresAt =>
          simp only [plan, planClaim, guard_ok_iff] at ok
          obtain ⟨-, -, -, -, -, ok⟩ := ok
          cases ok
          exact quiet _ rfl rfl
  | renew deliveryId expectedLeaseVersion leaseExpiresAt =>
      cases leaseExpiresAt with
      | none => cases ok
      | some leaseExpiresAt =>
          simp only [plan, planRenew, guard_ok_iff] at ok
          obtain ⟨-, -, -, -, -, ok⟩ := ok
          split at ok
          next => cases ok
          simp only [guard_ok_iff] at ok
          obtain ⟨-, -, ok⟩ := ok
          cases ok
          exact quiet _ rfl rfl
  | beginSubmission deliveryId expectedLeaseVersion providerRequestKey =>
      simp only [plan, planBeginSubmission, guard_ok_iff] at ok
      obtain ⟨-, -, -, ok⟩ := ok
      split at ok
      next => cases ok
      simp only [guard_ok_iff] at ok
      obtain ⟨-, -, -, -, ok⟩ := ok
      cases ok
      exact quiet _ rfl rfl
  | confirm deliveryId providerRequestKey =>
      replace ok := rest_ok ok
      simp only [guard_ok_iff] at ok
      obtain ⟨-, -, ok⟩ := ok
      cases ok
      exact quiet _ rfl rfl
  | release deliveryId reason =>
      simp only [plan, planRelease, guard_ok_iff] at ok
      obtain ⟨-, -, -, -, ok⟩ := ok
      cases ok
      exact quiet _ rfl rfl
  | settle input => exact absurd rfl (other input)

variable {outcome : TerminalOutcome} {state : ReservationState} {confirms : Bool}

theorem settle_outcomes {outcomeRef : String} :
    (update ReservationRow.id row.id (RowUpdate.settle state outcome outcomeRef confirms now).apply
      store.reservations).map (fun row => (row.id, row.terminalOutcome)) =
    update Prod.fst row.id (fun entry => (entry.1, some outcome)) (outcomes store) := by
  rw [update, update, outcomes, map_map, map_map]
  apply map_congr_left
  intro other _
  by_cases same : other.id = row.id <;> simp [same, RowUpdate.apply]

variable {decision : SettlementDecision}

section Writes

variable {recorded after : RuntimeStore} {command : RuntimeCommand}

/-- A plan without an attempt leaves attempts and touches alone. -/
theorem record_none (none : planned.attempt = none)
    (records : planned.record store command row attemptId touchId = .ok recorded) :
    recorded = store := by
  rw [Plan.record, none] at records
  cases records
  rfl

section
variable (found : findReservation store command.tenantId command.reservationId = some row)
include found

/-- A plan that does not settle is not a settlement. -/
theorem quiet_booked (quiet : ∀ update, planned.update = some update → update.settles = false)
    (rows : after.reservations =
      update ReservationRow.id row.id planned.rewrite store.reservations)
    (attempts : after.attempts = store.attempts) (touches : after.touches = store.touches) :
    Booked options store after (settlementOf options store after command) := by
  have ids : ∀ other, (planned.rewrite other).id = other.id ∧
      (planned.rewrite other).tenantId = other.tenantId ∧
      (planned.rewrite other).terminalOutcome = other.terminalOutcome := by
    intro other
    cases writes : planned.update with
    | none => simp [Plan.rewrite, writes]
    | some update =>
        simp [Plan.rewrite, writes, RowUpdate.apply_id, RowUpdate.apply_tenantId,
          RowUpdate.apply_terminalOutcome (quiet update writes)]
  have refound : findReservation after command.tenantId command.reservationId =
      some (planned.rewrite row) := by
    rw [findReservation, rows]
    exact find?_update (fun other => by rw [(ids other).1, (ids other).2.1]) found
  have unsettled : settlementOf options store after command = Option.none := by
    unfold settlementOf
    rw [found, refound]
    split
    next input before settled _ isBefore isSettled =>
      cases isBefore
      cases isSettled
      split
      next isNone isSome =>
        rw [(ids row).2.2, isNone] at isSome
        cases isSome
      next => rfl
    next => rfl
  rw [unsettled]
  refine .quiet ?_ attempts touches
  rw [outcomes, rows]
  exact outcomes_quiet (fun other => (ids other).1) fun other => (ids other).2.2

theorem settled_booked (isSettle : command.operation = .settle input)
    (isOutcome : input.outcome = .terminal outcome) (unsettled : row.terminalOutcome = none)
    (answered : options.settlementPolicy input outcome row = some decision)
    (legal : settlementDecisionLegal outcome decision = true)
    (isPlan : planned = ⟨some (.settle state outcome input.outcomeRef confirms now),
      if decision.countsAsAttempt then some (outcome, decision.countsAsSuccessfulTouch) else none⟩)
    (rows : recorded.reservations =
      update ReservationRow.id row.id planned.rewrite store.reservations)
    (records : planned.record { store with
      reservations := update ReservationRow.id row.id planned.rewrite store.reservations }
      command row attemptId touchId = .ok recorded) :
    Booked options store recorded (settlementOf options store recorded command) := by
  have rewrites : planned.rewrite =
      (RowUpdate.settle state outcome input.outcomeRef confirms now).apply := by
    rw [isPlan]
    rfl
  rw [rewrites] at rows
  have refound : findReservation recorded command.tenantId command.reservationId =
      some ((RowUpdate.settle state outcome input.outcomeRef confirms now).apply row) := by
    rw [findReservation, rows]
    exact find?_update (fun other => by rw [RowUpdate.apply_id, RowUpdate.apply_tenantId]) found
  have settles : settlementOf options store recorded command = some ⟨row.id, outcome, decision⟩ := by
    simp [settlementOf, isSettle, found, refound, isOutcome, unsettled, RowUpdate.apply, answered]
  have reservation : command.reservationId = row.id := by
    have key := find?_some found
    simp only [Bool.and_eq_true, beq_iff_eq] at key
    exact key.1.symm
  rw [settles]
  refine .settled row outcome decision (findReservation_mem found) unsettled legal ?_ ?_ ?_
  · rw [outcomes, rows]
    exact settle_outcomes
  · intro uncounted
    have none : planned.attempt = none := by
      rw [isPlan, uncounted]
      rfl
    rw [record_none none records]
    exact ⟨rfl, rfl⟩
  · intro counted
    have attempt : planned.attempt = some (outcome, decision.countsAsSuccessfulTouch) := by
      rw [isPlan, counted]
      rfl
    rw [Plan.record, attempt, isSettle] at records
    rcases recordAttempt_ok records with ⟨existing, mem, same, -⟩ | ⟨attempts, touches⟩
    · exact .inl ⟨existing, mem, same.trans reservation⟩
    · exact .inr ⟨attemptId, touchId, _, reservation, rfl, attempts, touches⟩

theorem writePlan_booked (plans : plan options store row command.operation now = .ok planned)
    (records : planned.record { store with
      reservations := update ReservationRow.id row.id planned.rewrite store.reservations }
      command row attemptId touchId = .ok recorded) :
    Booked options store recorded (settlementOf options store recorded command) := by
  have rows : recorded.reservations =
      update ReservationRow.id row.id planned.rewrite store.reservations :=
    (record_keeps records).1
  have quietly : planned.attempt = none →
      (∀ update, planned.update = some update → update.settles = false) →
      Booked options store recorded (settlementOf options store recorded command) := by
    intro none quiet
    have same := record_none none records
    exact quiet_booked found quiet rows (by rw [same]) (by rw [same])
  by_cases settling : ∃ input, command.operation = .settle input
  · obtain ⟨input, isSettle⟩ := settling
    rw [isSettle] at plans
    rcases planSettle_ok plans with nothing | reconcile |
      ⟨outcome, decision, state, confirms, isOutcome, unsettled, answered, legal, isPlan⟩
    · refine quietly (by rw [nothing]; rfl) ?_
      intro update writes
      rw [nothing] at writes
      cases writes
    · refine quietly (by rw [reconcile]; rfl) ?_
      intro update writes
      rw [reconcile] at writes
      cases writes
      rfl
    · exact settled_booked found isSettle isOutcome unsettled answered legal isPlan rows records
  · have other : ∀ input, command.operation ≠ .settle input := by
      intro input isSettle
      exact settling ⟨input, isSettle⟩
    obtain ⟨none, quiet⟩ := plan_quiet plans other
    exact quietly none quiet

end

/-- Receipts play no part. -/
theorem Booked.receipts {receipts : List Receipt} {settlement : Option Settlement}
    (booked : Booked options store recorded settlement) :
    Booked options store { recorded with receipts := receipts } settlement := by
  cases booked with
  | quiet same attempts touches => exact .quiet same attempts touches
  | settled row outcome decision mem unsettled legal same uncounted counted =>
      exact .settled row outcome decision mem unsettled legal same uncounted counted

end Writes

theorem command_booked (options : RuntimeOptions) (store : RuntimeStore) (command : RuntimeCommand)
    (now : Instant) (attemptId touchId : String) :
    Booked options store (store.next options (.command command now attemptId touchId))
      (settlementOf options store (store.next options (.command command now attemptId touchId))
        command) := by
  have kept : ∀ after : RuntimeStore, after.reservations = store.reservations →
      settlementOf options store after command = none := by
    intro after same
    unfold settlementOf findReservation
    rw [same]
    split
    next input row settled _ first second =>
      rw [first] at second
      cases second
      split
      next isNone isSome =>
        rw [isNone] at isSome
        cases isSome
      next => rfl
    next => rfl
  have still : Booked options store store (settlementOf options store store command) := by
    rw [kept store rfl]
    exact .quiet rfl rfl rfl
  rw [RuntimeStore.next]
  cases executed : execute options store command now attemptId touchId with
  | error failure => exact still
  | ok result =>
      obtain ⟨after, response⟩ := result
      rcases execute_ok executed with ⟨_, -, -, -, same, -⟩ | ⟨row, planned, -, found, plans, ok⟩
      · rw [same]
        exact still
      · obtain ⟨recorded, records, ok⟩ := bind_ok ok
        cases ok
        exact (writePlan_booked found plans records).receipts

theorem step_booked (options : RuntimeOptions) (store : RuntimeStore) (step : RuntimeStep)
    (other : ∀ command now attemptId touchId, step ≠ .command command now attemptId touchId) :
    Booked options store (store.next options step) none := by
  cases step with
  | command command now attemptId touchId => exact absurd rfl (other command now attemptId touchId)
  | change tenantId reservationId command now =>
      rw [RuntimeStore.next]
      split
      next after ok =>
        unfold changeReservationState at ok
        split at ok
        next => cases ok
        next row _ =>
          rw [guard_ok_iff] at ok
          obtain ⟨-, ok⟩ := ok
          split at ok
          next => cases ok
          next next _ =>
            split at ok <;> cases ok
            · exact .quiet rfl rfl rfl
            · exact .quiet (outcomes_quiet (RowUpdate.apply_id _)
                (RowUpdate.apply_terminalOutcome rfl)) rfl rfl
      next => exact .quiet rfl rfl rfl
  | governance heads => exact .quiet rfl rfl rfl

/-! ## Accounts in balance -/

/-- A touch of a successful delivery, or one that a response was correlated with. -/
def TouchRow.Earned (touch : TouchRow) : Prop :=
  touch.fact.outcome = .delivered ∧ touch.evidenceKind = none ∨
    touch.fact.outcome = .providerAccepted ∧ touch.evidenceKind.isSome = true

structure Balanced (ledger : Ledger) : Prop where
  ids : ((outcomes ledger.store).map Prod.fst).Nodup
  once : (ledger.settlements.map Settlement.reservationId).Nodup
  settled : ∀ entry ∈ outcomes ledger.store, ∀ outcome, entry.2 = some outcome ↔
    ∃ settlement ∈ ledger.settlements, settlement.reservationId = entry.1 ∧
      settlement.outcome = outcome
  counted : ∀ settlement ∈ ledger.settlements, settlement.decision.countsAsAttempt = true →
    ∃ attempt ∈ ledger.store.attempts, attempt.fact.reservationId = settlement.reservationId
  booked : ∀ attempt ∈ ledger.store.attempts, ∃ settlement ∈ ledger.settlements,
    settlement.reservationId = attempt.fact.reservationId ∧
      settlement.outcome = attempt.fact.outcome ∧ settlement.decision.countsAsAttempt = true
  attempts : (ledger.store.attempts.map fun attempt => attempt.fact.reservationId).Nodup
  touched : ∀ touch ∈ ledger.store.touches, ∃ attempt ∈ ledger.store.attempts,
    attempt.id = touch.attemptId ∧ attempt.fact.tenantId = touch.fact.tenantId ∧
      attempt.fact.reservationId = touch.fact.reservationId
  touches : (ledger.store.touches.map fun touch => touch.fact.reservationId).Nodup
  earned : ∀ touch ∈ ledger.store.touches, touch.Earned

variable {ledger : Ledger}

theorem balanced_of_init (initial : (ledgerSystem options).init ledger) : Balanced ledger := by
  obtain ⟨⟨distinct, untouched⟩, attempts, touches, settlements⟩ := initial
  refine ⟨?_, by simp [settlements], ?_, by simp [settlements], by simp [attempts],
    by simp [attempts], by simp [touches], by simp [touches], by simp [touches]⟩
  · rw [outcomes, map_map]
    exact distinct
  · intro entry mem outcome
    obtain ⟨row, listed, rfl⟩ := mem_map.mp mem
    rw [(untouched row listed).2.2.2.2.2.1, settlements]
    simp

variable {after : RuntimeStore}

theorem Balanced.quiet (balanced : Balanced ledger) (same : outcomes after = outcomes ledger.store)
    (attempts : after.attempts = ledger.store.attempts)
    (touches : after.touches = ledger.store.touches) : Balanced { ledger with store := after } where
  ids := by
    rw [same]
    exact balanced.ids
  once := balanced.once
  settled := by
    rw [same]
    exact balanced.settled
  counted := by
    rw [attempts]
    exact balanced.counted
  booked := by
    rw [attempts]
    exact balanced.booked
  attempts := by
    rw [attempts]
    exact balanced.attempts
  touched := by
    rw [attempts, touches]
    exact balanced.touched
  touches := by
    rw [touches]
    exact balanced.touches
  earned := by
    rw [touches]
    exact balanced.earned

section Settling

theorem Balanced.unbooked (balanced : Balanced ledger) (mem : row ∈ ledger.store.reservations)
    (unsettled : row.terminalOutcome = none) :
    (∀ settlement ∈ ledger.settlements, settlement.reservationId ≠ row.id) ∧
    (∀ attempt ∈ ledger.store.attempts, attempt.fact.reservationId ≠ row.id) ∧
    ∀ touch ∈ ledger.store.touches, touch.fact.reservationId ≠ row.id := by
  have listed : (row.id, row.terminalOutcome) ∈ outcomes ledger.store :=
    mem_map.mpr ⟨row, mem, rfl⟩
  have settlements : ∀ settlement ∈ ledger.settlements, settlement.reservationId ≠ row.id := by
    intro settlement known same
    have settled := (balanced.settled _ listed settlement.outcome).mpr ⟨settlement, known, same, rfl⟩
    rw [unsettled] at settled
    cases settled
  have attempts : ∀ attempt ∈ ledger.store.attempts, attempt.fact.reservationId ≠ row.id := by
    intro attempt known same
    obtain ⟨settlement, present, about, -⟩ := balanced.booked attempt known
    exact settlements settlement present (about.trans same)
  refine ⟨settlements, attempts, ?_⟩
  intro touch known same
  obtain ⟨attempt, present, -, -, about⟩ := balanced.touched touch known
  exact attempts attempt present (about.trans same)

theorem nodup_key_append {α : Type} {key : α → String} {items : List α} {item : α}
    (distinct : (items.map key).Nodup) (fresh : ∀ other ∈ items, key other ≠ key item) :
    ((items ++ [item]).map key).Nodup := by
  refine nodup_append distinct ?_
  intro known
  obtain ⟨other, mem, same⟩ := mem_map.mp known
  exact fresh other mem same

theorem Balanced.settled_after (balanced : Balanced ledger)
    (mem : row ∈ ledger.store.reservations) (unsettled : row.terminalOutcome = none)
    :
    ∀ entry ∈ update Prod.fst row.id (fun entry => (entry.1, some outcome))
        (outcomes ledger.store),
      ∀ reached, entry.2 = some reached ↔
        ∃ settlement ∈ ledger.settlements ++ [⟨row.id, outcome, decision⟩],
          settlement.reservationId = entry.1 ∧ settlement.outcome = reached := by
  have fresh := (balanced.unbooked mem unsettled).1
  intro entry updated reached
  obtain ⟨before, listed, rfl⟩ := mem_update.mp updated
  split
  next here =>
    constructor
    · intro same
      have same : outcome = reached := Option.some.inj same
      exact ⟨_, mem_append_right _ mem_cons_self, here.symm, same⟩
    · rintro ⟨settlement, known, about, same⟩
      rcases mem_snoc.mp known with old | rfl
      · exact absurd (about.trans here) (fresh settlement old)
      · exact congrArg some same
  next other =>
    rw [balanced.settled before listed reached]
    constructor
    · rintro ⟨settlement, known, about⟩
      exact ⟨settlement, mem_append_left _ known, about⟩
    · rintro ⟨settlement, known, about, same⟩
      rcases mem_snoc.mp known with old | rfl
      · exact ⟨settlement, old, about, same⟩
      · exact absurd about.symm other

theorem delivered_of_legal (legal : settlementDecisionLegal outcome decision = true)
    (touching : decision.countsAsSuccessfulTouch = true) : outcome = .delivered := by
  simp only [settlementDecisionLegal, touching, Bool.not_true, Bool.or_false, Bool.and_eq_true,
    decide_eq_true_eq] at legal
  exact legal.1.1.1

/-- The identifiers of the reservations after a settlement. -/
theorem Balanced.ids_after (balanced : Balanced ledger) :
    ((update Prod.fst row.id (fun entry => (entry.1, some outcome))
      (outcomes ledger.store)).map Prod.fst).Nodup := by
  have keys : (update Prod.fst row.id (fun entry => (entry.1, some outcome))
      (outcomes ledger.store)).map Prod.fst = (outcomes ledger.store).map Prod.fst :=
    map_key_update fun _ => rfl
  rw [keys]
  exact balanced.ids

theorem Balanced.settle_uncounted (balanced : Balanced ledger)
    (mem : row ∈ ledger.store.reservations) (unsettled : row.terminalOutcome = none)
    (same : outcomes after = update Prod.fst row.id
      (fun entry => (entry.1, some outcome)) (outcomes ledger.store))
    (uncounted : decision.countsAsAttempt = false)
    (attempts : after.attempts = ledger.store.attempts)
    (touches : after.touches = ledger.store.touches) :
    Balanced ⟨after, ledger.settlements ++ [⟨row.id, outcome, decision⟩]⟩ where
  ids := by
    rw [same]
    exact balanced.ids_after
  once := nodup_key_append balanced.once (balanced.unbooked mem unsettled).1
  settled := by
    rw [same]
    exact balanced.settled_after mem unsettled
  counted := by
    intro settlement known counts
    rw [attempts]
    rcases mem_snoc.mp known with old | rfl
    · exact balanced.counted settlement old counts
    · rw [uncounted] at counts
      cases counts
  booked := by
    intro attempt known
    rw [attempts] at known
    obtain ⟨settlement, present, about⟩ := balanced.booked attempt known
    exact ⟨settlement, mem_append_left _ present, about⟩
  attempts := by
    rw [attempts]
    exact balanced.attempts
  touched := by
    rw [attempts, touches]
    exact balanced.touched
  touches := by
    rw [touches]
    exact balanced.touches
  earned := by
    rw [touches]
    exact balanced.earned

theorem Balanced.settle_counted (balanced : Balanced ledger)
    {fact : ContactFact} (mem : row ∈ ledger.store.reservations)
    (unsettled : row.terminalOutcome = none)
    (legal : settlementDecisionLegal outcome decision = true)
    (same : outcomes after = update Prod.fst row.id
      (fun entry => (entry.1, some outcome)) (outcomes ledger.store))
    (counts : decision.countsAsAttempt = true)
    (about : fact.reservationId = row.id) (carries : fact.outcome = outcome)
    (attempts : after.attempts = ledger.store.attempts ++ [⟨attemptId, fact⟩])
    (touches : after.touches = if decision.countsAsSuccessfulTouch then
      ledger.store.touches ++ [⟨touchId, attemptId, fact, none, none⟩] else ledger.store.touches) :
    Balanced ⟨after, ledger.settlements ++ [⟨row.id, outcome, decision⟩]⟩ := by
  obtain ⟨freshSettlements, freshAttempts, freshTouches⟩ := balanced.unbooked mem unsettled
  have inTouches : ∀ touch ∈ after.touches, touch ∈ ledger.store.touches ∨
      decision.countsAsSuccessfulTouch = true ∧ touch = ⟨touchId, attemptId, fact, none, none⟩ := by
    intro touch known
    rw [touches] at known
    split at known
    next counted =>
      rcases mem_append.mp known with old | new
      · exact .inl old
      · exact .inr ⟨counted, mem_singleton.mp new⟩
    next => exact .inl known
  have grows : ∀ attempt ∈ ledger.store.attempts, attempt ∈ after.attempts := by
    intro attempt known
    rw [attempts]
    exact mem_append_left _ known
  have new : ⟨attemptId, fact⟩ ∈ after.attempts := by
    rw [attempts]
    exact mem_append_right _ mem_cons_self
  refine ⟨?_, nodup_key_append balanced.once freshSettlements, ?_, ?_, ?_, ?_, ?_, ?_, ?_⟩
  · rw [same]
    exact balanced.ids_after
  · rw [same]
    exact balanced.settled_after mem unsettled
  · intro settlement known counted
    rcases mem_snoc.mp known with old | rfl
    · obtain ⟨attempt, present, isAbout⟩ := balanced.counted settlement old counted
      exact ⟨attempt, grows attempt present, isAbout⟩
    · exact ⟨_, new, about⟩
  · intro attempt known
    rw [attempts] at known
    rcases mem_snoc.mp known with old | rfl
    · obtain ⟨settlement, present, isAbout⟩ := balanced.booked attempt old
      exact ⟨settlement, mem_append_left _ present, isAbout⟩
    · exact ⟨_, mem_append_right _ mem_cons_self, about.symm, carries.symm, counts⟩
  · rw [attempts]
    refine nodup_key_append balanced.attempts ?_
    intro other known
    rw [about]
    exact freshAttempts other known
  · intro touch known
    rcases inTouches touch known with old | ⟨-, isNew⟩
    · obtain ⟨attempt, present, isAbout⟩ := balanced.touched touch old
      exact ⟨attempt, grows attempt present, isAbout⟩
    · rw [isNew]
      exact ⟨_, new, rfl, rfl, rfl⟩
  · rw [touches]
    split
    next =>
      refine nodup_key_append balanced.touches ?_
      intro other known
      rw [about]
      exact freshTouches other known
    next => exact balanced.touches
  · intro touch known
    rcases inTouches touch known with old | ⟨touching, isNew⟩
    · exact balanced.earned touch old
    · rw [isNew]
      refine .inl ⟨?_, rfl⟩
      rw [carries]
      exact delivered_of_legal legal touching

theorem Balanced.booking (balanced : Balanced ledger) {settlement : Option Settlement}
    (booked : Booked options ledger.store after settlement) :
    Balanced ⟨after, ledger.settlements ++ settlement.toList⟩ := by
  cases booked with
  | quiet same attempts touches =>
      rw [Option.toList_none, append_nil]
      exact balanced.quiet same attempts touches
  | settled row outcome decision mem unsettled legal same uncounted counted =>
      cases counts : decision.countsAsAttempt with
      | false =>
          obtain ⟨attempts, touches⟩ := uncounted counts
          exact balanced.settle_uncounted mem unsettled same counts attempts touches
      | true =>
          rcases counted counts with ⟨attempt, known, about⟩ |
            ⟨attemptId, touchId, fact, about, carries, attempts, touches⟩
          · exact absurd about ((balanced.unbooked mem unsettled).2.1 attempt known)
          · exact balanced.settle_counted mem unsettled legal same counts about carries attempts
              touches

end Settling

/-! ## Correlating -/

theorem findAttempt_ok {input : CorrelatedTouchInput} {attempt : AttemptRow}
    (ok : findAttempt store input = .ok attempt) :
    attempt ∈ store.attempts ∧ attempt.fact.outcome = .providerAccepted := by
  obtain ⟨found, isFound, ok⟩ := bind_ok ok
  obtain ⟨_, -, ok⟩ := bind_ok ok
  replace ok := rest_ok ok
  obtain ⟨_, accepted, ok⟩ := bind_ok ok
  cases ok
  exact ⟨mem_of_find?_eq_some (orFail_ok.mp isFound), ensure_ok.mp accepted⟩

theorem recordCorrelatedTouch_ok {input : CorrelatedTouchInput} {view : CorrelatedTouchView}
    (ok : recordCorrelatedTouch store input touchId = .ok (after, view)) :
    after = store ∨ ∃ attempt ∈ store.attempts, ∃ kind occurredAt,
      attempt.fact.outcome = .providerAccepted ∧ touchOf store attempt = none ∧
      after = { store with
        touches := store.touches ++ [correlatedTouch input attempt kind occurredAt touchId] } := by
  replace ok := rest_ok (rest_ok ok)
  obtain ⟨kind, -, ok⟩ := bind_ok ok
  obtain ⟨occurredAt, -, ok⟩ := bind_ok ok
  replace ok := rest_ok ok
  obtain ⟨attempt, found, ok⟩ := bind_ok ok
  obtain ⟨mem, accepted⟩ := findAttempt_ok found
  split at ok
  next =>
    replace ok := rest_ok ok
    cases ok
    exact .inl rfl
  next untouched =>
    obtain ⟨touches, inserted, ok⟩ := bind_ok ok
    replace inserted := rest_ok inserted
    cases inserted
    cases ok
    exact .inr ⟨attempt, mem, kind, occurredAt, accepted, untouched, rfl⟩

theorem Balanced.correlate (balanced : Balanced ledger) {attempt : AttemptRow}
    {input : CorrelatedTouchInput} {kind : TouchEvidenceKind} {occurredAt : Instant}
    (mem : attempt ∈ ledger.store.attempts)
    (accepted : attempt.fact.outcome = .providerAccepted)
    (untouched : touchOf ledger.store attempt = none) :
    Balanced { ledger with store := { ledger.store with
      touches := ledger.store.touches ++ [correlatedTouch input attempt kind occurredAt touchId] } } := by
  refine ⟨balanced.ids, balanced.once, balanced.settled, balanced.counted, balanced.booked,
    balanced.attempts, ?_, ?_, ?_⟩
  · intro touch known
    rcases mem_snoc.mp known with old | rfl
    · exact balanced.touched touch old
    · exact ⟨attempt, mem, rfl, rfl, rfl⟩
  · refine nodup_key_append balanced.touches ?_
    intro touch known same
    -- the other touch would be a touch of the same attempt
    obtain ⟨other, present, id, tenant, about⟩ := balanced.touched touch known
    have isAttempt : other = attempt :=
      eq_of_key_eq balanced.attempts present mem (about.trans same)
    have missed := find?_eq_none.mp untouched touch known
    rw [isAttempt] at id tenant
    simp [id, tenant] at missed
  · intro touch known
    rcases mem_snoc.mp known with old | rfl
    · exact balanced.earned touch old
    · exact .inr ⟨accepted, rfl⟩

theorem balanced_of_reachable
    (reachable : (ledgerSystem options).Reachable ledger) : Balanced ledger := by
  refine reachable.invariant (fun _ => balanced_of_init) ?_
  rintro source step _ balanced rfl
  cases step with
  | runtime step =>
      cases step with
      | command command now attemptId touchId =>
          exact balanced.booking (command_booked options source.store command now attemptId touchId)
      | change tenantId reservationId command now =>
          have booked := step_booked options source.store (.change tenantId reservationId command now)
            (fun _ _ _ _ => RuntimeStep.noConfusion)
          simpa [Ledger.next] using balanced.booking booked
      | governance heads =>
          have booked := step_booked options source.store (.governance heads)
            (fun _ _ _ _ => RuntimeStep.noConfusion)
          simpa [Ledger.next] using balanced.booking booked
  | correlate input touchId =>
      rw [Ledger.next]
      split
      next after _ ok =>
        rcases recordCorrelatedTouch_ok ok with rfl | ⟨attempt, mem, kind, occurredAt, accepted,
          untouched, rfl⟩
        · exact balanced
        · exact balanced.correlate mem accepted untouched
      next => exact balanced

/-! ## Every injected policy -/

def BadAnswer (options : RuntimeOptions) (input : SettleInput) (outcome : TerminalOutcome)
    (row : ReservationRow) : Prop :=
  options.settlementPolicy input outcome row = none ∨
    ∃ decision, options.settlementPolicy input outcome row = some decision ∧
      settlementDecisionLegal outcome decision = false

/-- A settlement with a bad answer is refused, unless it has nothing left to do. -/
theorem planSettle_badAnswer
    (isOutcome : input.outcome = .terminal outcome) (bad : BadAnswer options input outcome row)
    (ok : planSettle options row input now = .ok planned) : planned = .nothing := by
  replace ok := rest_ok ok
  split at ok
  next =>
    cases ok
    rfl
  next =>
    rw [isOutcome] at ok
    rcases bad with raised | ⟨decision, answered, illegal⟩
    · simp only [raised] at ok
      cases ok
    · simp only [answered, illegal, Bool.not_false, if_true] at ok
      cases ok

theorem badAnswer_unchanged {command : RuntimeCommand}
    (isSettle : command.operation = .settle input) (isOutcome : input.outcome = .terminal outcome)
    (found : findReservation store command.tenantId command.reservationId = some row)
    (bad : BadAnswer options input outcome row) :
    (store.next options (.command command now attemptId touchId)).reservations =
        store.reservations ∧
      (store.next options (.command command now attemptId touchId)).attempts = store.attempts ∧
      (store.next options (.command command now attemptId touchId)).touches = store.touches := by
  rw [RuntimeStore.next]
  cases executed : execute options store command now attemptId touchId with
  | error failure => exact ⟨rfl, rfl, rfl⟩
  | ok result =>
      obtain ⟨after, response⟩ := result
      have ok := rest_ok executed
      rw [guard_ok_iff] at ok
      obtain ⟨-, ok⟩ := ok
      cases replay : findReceipt store command with
      | some receipt =>
          simp only [replay, guard_ok_iff, Except.ok.injEq, Prod.mk.injEq] at ok
          rw [← ok.2.1]
          exact ⟨rfl, rfl, rfl⟩
      | none =>
          simp only [replay, found, guard_ok_iff] at ok
          obtain ⟨-, ok⟩ := ok
          obtain ⟨planned, plans, ok⟩ := bind_ok ok
          obtain ⟨recorded, records, ok⟩ := bind_ok ok
          cases ok
          rw [isSettle] at plans
          have nothing := planSettle_badAnswer isOutcome bad plans
          subst nothing
          rw [record_none rfl records]
          refine ⟨?_, rfl, rfl⟩
          show update ReservationRow.id row.id id store.reservations = store.reservations
          simp [update]

/-- At most one attempt and one touch for a reservation; a touch only with an attempt, and only
for a delivery or a correlated acceptance; an attempt exactly for the terminal settlements that
count as one. A policy that raises or contradicts the outcome changes nothing. -/
theorem settlements_accounted {options : RuntimeOptions} {ledger : Ledger}
    (reachable : (ledgerSystem options).Reachable ledger) :
    (ledger.store.attempts.map fun attempt => attempt.fact.reservationId).Nodup ∧
    (ledger.store.touches.map fun touch => touch.fact.reservationId).Nodup ∧
    (∀ touch ∈ ledger.store.touches, touch.Earned ∧ ∃ attempt ∈ ledger.store.attempts,
      attempt.id = touch.attemptId ∧ attempt.fact.reservationId = touch.fact.reservationId) ∧
    (∀ row ∈ ledger.store.reservations,
      (∃ attempt ∈ ledger.store.attempts, attempt.fact.reservationId = row.id) ↔
        ∃ settlement ∈ ledger.settlements, settlement.reservationId = row.id ∧
          row.terminalOutcome = some settlement.outcome ∧
          settlement.decision.countsAsAttempt = true) ∧
    (∀ row ∈ ledger.store.reservations, row.terminalOutcome.isSome = true →
      ∃ settlement ∈ ledger.settlements, settlement.reservationId = row.id) ∧
    ∀ command input outcome row now attemptId touchId, command.operation = .settle input →
      input.outcome = .terminal outcome →
      findReservation ledger.store command.tenantId command.reservationId = some row →
      BadAnswer options input outcome row →
      let after := (ledger.next options (.runtime (.command command now attemptId touchId))).store
      after.reservations = ledger.store.reservations ∧ after.attempts = ledger.store.attempts ∧
        after.touches = ledger.store.touches := by
  have balanced := balanced_of_reachable reachable
  refine ⟨balanced.attempts, balanced.touches, ?_, ?_, ?_, ?_⟩
  · intro touch known
    obtain ⟨attempt, present, id, -, about⟩ := balanced.touched touch known
    exact ⟨balanced.earned touch known, attempt, present, id, about⟩
  · intro row mem
    have listed : (row.id, row.terminalOutcome) ∈ outcomes ledger.store :=
      mem_map.mpr ⟨row, mem, rfl⟩
    constructor
    · rintro ⟨attempt, known, about⟩
      obtain ⟨settlement, present, same, -, counts⟩ := balanced.booked attempt known
      refine ⟨settlement, present, same.trans about, ?_, counts⟩
      exact (balanced.settled _ listed settlement.outcome).mpr
        ⟨settlement, present, same.trans about, rfl⟩
    · rintro ⟨settlement, present, same, -, counts⟩
      obtain ⟨attempt, known, about⟩ := balanced.counted settlement present counts
      exact ⟨attempt, known, about.trans same⟩
  · intro row mem terminal
    obtain ⟨outcome, isTerminal⟩ := Option.isSome_iff_exists.mp terminal
    have listed : (row.id, row.terminalOutcome) ∈ outcomes ledger.store :=
      mem_map.mpr ⟨row, mem, rfl⟩
    obtain ⟨settlement, present, same, -⟩ := (balanced.settled _ listed outcome).mp isTerminal
    exact ⟨settlement, present, same⟩
  · intro command input outcome row now attemptId touchId isSettle isOutcome found bad
    exact badAnswer_unchanged isSettle isOutcome found bad

/-! ### An accepted message that is answered -/

/-- The customer quotes the message of an accepted attempt. -/
def quotedResponse : CorrelatedTouchInput where
  tenantId := "tenant"
  correlationId := "correlation"
  reservationId := "reservation"
  actionKey := "action"
  deliveryId := "delivery"
  attemptId := "00000000-0000-0000-0000-000000000001"
  responseEvidenceRef := "webhook"
  evidenceKind := some .userQuotedResponse
  occurredAt := some 30

def acceptedStep (operation : RuntimeOperation) : LedgerStep :=
  .runtime (.command (lineCommand operation) 10 "00000000-0000-0000-0000-000000000001" "unused")

/-- Accepted once, answered once; the repeated settlement and the repeated answer add nothing. -/
def answeredSteps : List LedgerStep :=
  [acceptedStep lineClaim, acceptedStep (.beginSubmission "delivery" 1 "request"),
    acceptedStep (lineSettlement "accepted" .providerAccepted),
    acceptedStep (lineSettlement "delivered" .delivered), .correlate quotedResponse "touch",
    .correlate quotedResponse "again"]

def answeredLedger : Ledger := answeredSteps.foldl (Ledger.next lineOptions) ⟨lineStore, []⟩

theorem answered_once :
    answeredLedger.store.attempts.length = 1 ∧ answeredLedger.store.touches.length = 1 ∧
      ∀ touch ∈ answeredLedger.store.touches, touch.Earned := by
  have initial : (ledgerSystem lineOptions).init ⟨lineStore, []⟩ := by
    refine ⟨⟨by decide, ?_⟩, rfl, rfl, rfl⟩
    intro row mem
    rw [mem_singleton.mp mem]
    exact ⟨rfl, rfl, rfl, rfl, rfl, rfl, rfl⟩
  have reachable : (ledgerSystem lineOptions).Reachable answeredLedger :=
    System.Reachable.foldl (fun _ _ => rfl) answeredSteps (.of_init initial)
  refine ⟨by decide +kernel, by decide +kernel, ?_⟩
  intro touch known
  exact ((settlements_accounted reachable).2.2.1 touch known).1

end DContact.Governance

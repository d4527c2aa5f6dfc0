import DContact.Governance.ReservationSafety

/-!
# Settlements are final

A reservation that has a terminal outcome keeps it, with the reference it was settled under. A
command that settles a reservation and is answered leaves it with a terminal outcome: its own, or
the one that was there before. The receipts of the runtime do not lie about that.
-/

namespace DContact.Governance

open Lib

def settledOutcome : RuntimeOperation → Option DeliveryOutcome
  | .settle input => some input.outcome
  | _ => none

def SettledWith (store : RuntimeStore) (tenantId reservationId : String) (outcome : TerminalOutcome)
    (outcomeRef : String) : Prop :=
  ∃ row ∈ store.reservations, row.id = reservationId ∧ row.tenantId = tenantId ∧
    row.terminalOutcome = some outcome ∧ row.terminalOutcomeRef = some outcomeRef

def Decided (row : ReservationRow) : Prop :=
  row.status = .settled → row.terminalOutcome = none → row.submissionStartedAt = none

def Truthful (options : RuntimeOptions) (store : RuntimeStore) (receipt : Receipt) : Prop :=
  ∃ command, receipt.inputHash = options.inputHash command ∧
    ∀ outcome, settledOutcome command.operation = some (.terminal outcome) →
      ∃ row ∈ store.reservations, row.id = receipt.reservationId ∧
        row.tenantId = receipt.tenantId ∧ row.terminalOutcome.isSome = true

structure Accountable (options : RuntimeOptions) (store : RuntimeStore) : Prop where
  safe : StoreSafe store
  decided : ∀ row ∈ store.reservations, Decided row
  receipts : ∀ receipt ∈ store.receipts, Truthful options store receipt

variable {options : RuntimeOptions} {store after : RuntimeStore} {row : ReservationRow}

theorem Permitted.decided {update : RowUpdate} (decided : Decided row)
    (permitted : Permitted store row update) : Decided (update.apply row) := by
  cases permitted with
  | planned planned =>
      cases planned with
      | renew reserved claimed =>
          intro settled
          rw [show ((RowUpdate.renew _ _).apply row).status = row.status from rfl, claimed] at settled
          cases settled
      | release _ _ unsubmitted =>
          intro _ _
          exact submissionStartedAt_of_unsubmitted unsubmitted
      | settle => simp [Decided, RowUpdate.apply]
      | _ => simp [Decided, RowUpdate.apply, ReservationRow.status]
  | transition => exact decided

theorem Later.keeps_outcome {before later : ReservationRow} (safe : RowSafe before)
    (ordered : Later before later) (terminal : before.terminalOutcome.isSome = true) :
    later = before :=
  ordered.settled (safe.terminal terminal)

variable {tenantId reservationId : String} {outcome : TerminalOutcome}

theorem SettledWith.later (safe : StoreSafe store) (later : StoreLater store after)
    {outcomeRef : String}
    (settled : SettledWith store tenantId reservationId outcome outcomeRef) :
    SettledWith after tenantId reservationId outcome outcomeRef := by
  obtain ⟨row, mem, named, tenant, terminal, reference⟩ := settled
  obtain ⟨version, present, ordered⟩ := later row mem
  rw [ordered.keeps_outcome (safe.rows row mem) (by simp [terminal])] at present
  exact ⟨row, present, named, tenant, terminal, reference⟩

theorem Truthful.later (safe : StoreSafe store) (later : StoreLater store after) {receipt : Receipt}
    (truthful : Truthful options store receipt) : Truthful options after receipt := by
  obtain ⟨command, hash, left⟩ := truthful
  refine ⟨command, hash, fun outcome settles => ?_⟩
  obtain ⟨row, mem, named, tenant, terminal⟩ := left outcome settles
  obtain ⟨version, present, ordered⟩ := later row mem
  rw [ordered.keeps_outcome (safe.rows row mem) terminal] at present
  exact ⟨row, present, named, tenant, terminal⟩

theorem findReservation_key (found : findReservation store tenantId reservationId = some row) :
    row.id = reservationId ∧ row.tenantId = tenantId := by
  simpa using List.find?_some found

theorem findReservation_of_mem (safe : StoreSafe store) (mem : row ∈ store.reservations) :
    findReservation store row.tenantId row.id = some row := by
  cases found : findReservation store row.tenantId row.id with
  | none =>
      have absent := List.find?_eq_none.mp found row mem
      simp at absent
  | some other =>
      rw [Table.eq_of_key_eq safe.distinct (findReservation_mem found) mem
        (findReservation_key found).1]

theorem SettledWith.found (safe : StoreSafe store) {outcomeRef : String}
    (settled : SettledWith store tenantId reservationId outcome outcomeRef) :
    ∃ row, findReservation store tenantId reservationId = some row ∧
      row.terminalOutcome = some outcome ∧ row.terminalOutcomeRef = some outcomeRef := by
  obtain ⟨row, mem, rfl, rfl, terminal, reference⟩ := settled
  exact ⟨row, findReservation_of_mem safe mem, terminal, reference⟩

/-- How a command is answered: again from its receipt, or by a plan that is written. -/
inductive Executed (options : RuntimeOptions) (store : RuntimeStore) (command : RuntimeCommand)
    (now : Instant) (after : RuntimeStore) (response : SettlementView) : Prop where
  | replayed {receipt : Receipt} (mem : receipt ∈ store.receipts)
      (tenant : receipt.tenantId = command.tenantId)
      (target : receipt.reservationId = command.reservationId)
      (hash : receipt.inputHash = options.inputHash command) (same : after = store)
      (answer : response = receipt.response)
  | written {row : ReservationRow} {planned : Plan}
      (found : findReservation store command.tenantId command.reservationId = some row)
      (plans : plan options store row command.operation now = .ok planned)
      (rows : after.reservations =
        Table.update ReservationRow.id row.id planned.rewrite store.reservations)
      (receipts : after.receipts = store.receipts ++ [receiptOf options command response])
      (answer : response = (planned.rewrite row).view)

variable {command : RuntimeCommand} {now : Instant} {response : SettlementView}
  {attemptId touchId : String}

theorem writePlan_receipts {planned : Plan}
    (ok : writePlan options store command row planned attemptId touchId = .ok (after, response)) :
    after.receipts = store.receipts ++ [receiptOf options command response] := by
  obtain ⟨recorded, records, ok⟩ := bind_ok ok
  cases ok
  rw [(record_keeps records).2]

theorem execute_executed
    (ok : execute options store command now attemptId touchId = .ok (after, response)) :
    Executed options store command now after response := by
  rcases execute_ok ok with ⟨receipt, replay, target, hash, same, answer⟩ |
    ⟨row, planned, -, found, plans, ok⟩
  · have matched := List.find?_some replay
    simp only [Bool.and_eq_true, beq_iff_eq] at matched
    exact .replayed (List.mem_of_find?_eq_some replay) matched.1.1 target hash same answer
  · have receipts := writePlan_receipts ok
    obtain ⟨recorded, records, ok⟩ := bind_ok ok
    have rows := (record_keeps records).1
    cases ok
    exact .written found plans rows receipts rfl

variable {planned : Plan}

/-- A settlement that is planned with a terminal outcome leaves the row with one: its own, or the
one that the row had. -/
theorem planSettle_terminal {input : SettleInput} (decided : Decided row)
    (settles : input.outcome = .terminal outcome)
    (ok : planSettle options row input now = .ok planned) :
    (row.terminalOutcome.isSome = true ∧ planned.rewrite row = row) ∨
      (row.terminalOutcome = none ∧ (planned.rewrite row).terminalOutcome = some outcome ∧
        (planned.rewrite row).terminalOutcomeRef = some input.outcomeRef) := by
  obtain ⟨_, bound, ok⟩ := bind_ok ok
  have barrier := assertProviderBinding_ok bound
  by_cases done : row.terminalOutcome.isSome = true ∨ row.status = .settled
  · rw [if_pos done] at ok
    cases ok
    refine .inl ⟨?_, rfl⟩
    rcases done with terminal | settled
    · exact terminal
    · by_contra undecided
      have absent := decided settled (by simpa using undecided)
      simp [absent] at barrier
  · rw [if_neg done] at ok
    simp only [not_or] at done
    refine .inr ⟨by simpa using done.1, ?_⟩
    simp only [settles] at ok
    split at ok
    next => cases ok
    rw [guard_ok_iff] at ok
    obtain ⟨nextState, -, ok⟩ := bind_ok ok.2
    cases ok
    exact ⟨rfl, rfl⟩

theorem Plan.rewrite_key (planned : Plan) (row : ReservationRow) :
    (planned.rewrite row).id = row.id ∧ (planned.rewrite row).tenantId = row.tenantId := by
  unfold Plan.rewrite
  split
  · exact ⟨rfl, rfl⟩
  · exact ⟨RowUpdate.apply_id .., RowUpdate.apply_tenantId ..⟩

theorem rewritten_mem (mem : row ∈ store.reservations) (rows : after.reservations =
      Table.update ReservationRow.id row.id planned.rewrite store.reservations) :
    planned.rewrite row ∈ after.reservations := by
  rw [rows]
  exact Table.mem_update.mpr ⟨row, mem, (if_pos rfl).symm⟩

section
variable (accountable : Accountable options store)
include accountable

/-- A settlement with a terminal outcome that is answered finds or leaves one. -/
theorem Accountable.settles
    (covered : ∀ left right, options.inputHash left = options.inputHash right →
      settledOutcome left.operation = settledOutcome right.operation) {input : SettleInput}
    (operation : command.operation = .settle input) (settles : input.outcome = .terminal outcome)
    (ok : execute options store command now attemptId touchId = .ok (after, response)) :
    (∃ row ∈ store.reservations, row.id = command.reservationId ∧
      row.tenantId = command.tenantId ∧ row.terminalOutcome.isSome = true) ∨
      SettledWith after command.tenantId command.reservationId outcome input.outcomeRef := by
  cases execute_executed ok with
  | replayed mem tenant target hash same =>
      obtain ⟨stored, storedHash, left⟩ := accountable.receipts _ mem
      have same := covered _ _ (storedHash.symm.trans hash)
      obtain ⟨row, present, named, owned, terminal⟩ := left outcome (by
        rw [same, operation, settledOutcome, settles])
      exact .inl ⟨row, present, named.trans target, owned.trans tenant, terminal⟩
  | @written row planned found plans rows =>
      obtain ⟨named, owned⟩ := findReservation_key found
      have mem := findReservation_mem found
      rw [operation] at plans
      rcases planSettle_terminal (accountable.decided row mem) settles plans with
        ⟨terminal, -⟩ | ⟨-, terminal, reference⟩
      · exact .inl ⟨row, mem, named, owned, terminal⟩
      · right
        obtain ⟨sameId, sameTenant⟩ := planned.rewrite_key row
        exact ⟨_, rewritten_mem mem rows, sameId.trans named, sameTenant.trans owned, terminal,
          reference⟩

theorem Accountable.of_rows (step : RuntimeStep)
    (receipts : ∀ receipt ∈ (store.next options step).receipts,
      receipt ∈ store.receipts ∨ Truthful options (store.next options step) receipt) :
    Accountable options (store.next options step) where
  safe := accountable.safe.next step
  decided := by
    rcases next_reservations options store step with same | ⟨row, mem, update, permitted, rows⟩
    · rw [same]
      exact accountable.decided
    · rw [rows]
      refine Table.forall_update accountable.decided fun other present same => ?_
      rw [Table.eq_of_key_eq accountable.safe.distinct present mem same]
      exact permitted.decided (accountable.decided row mem)
  receipts := by
    intro receipt mem
    rcases receipts receipt mem with old | truthful
    · exact (accountable.receipts receipt old).later accountable.safe
        (StoreLater.next accountable.safe step)
    · exact truthful

theorem Accountable.next (step : RuntimeStep) : Accountable options (store.next options step) := by
  refine accountable.of_rows step fun receipt mem => ?_
  cases step with
  | command command now attemptId touchId =>
      simp only [RuntimeStore.next] at mem ⊢
      split at mem
      next executed response ok =>
        cases execute_executed ok with
        | replayed _ _ _ _ same =>
            subst same
            exact .inl mem
        | @written row planned found plans rows receipts =>
            rw [receipts] at mem
            rcases List.mem_append.mp mem with old | new
            · exact .inl old
            · rw [List.mem_singleton.mp new]
              refine .inr ⟨command, rfl, fun outcome settles => ?_⟩
              obtain ⟨named, owned⟩ := findReservation_key found
              have present := findReservation_mem found
              obtain ⟨sameId, sameTenant⟩ := planned.rewrite_key row
              refine ⟨_, rewritten_mem present rows, sameId.trans named, sameTenant.trans owned, ?_⟩
              cases operation : command.operation with
              | settle input =>
                  rw [operation, settledOutcome, Option.some.injEq] at settles
                  rw [operation] at plans
                  rcases planSettle_terminal (accountable.decided row present) settles plans with
                    ⟨terminal, same⟩ | ⟨-, terminal, -⟩
                  · rw [same]
                    exact terminal
                  · simp [terminal]
              | _ =>
                  rw [operation] at settles
                  cases settles
      next => exact .inl mem
  | change tenantId reservationId command now =>
      simp only [RuntimeStore.next] at mem ⊢
      split at mem
      next changed ok =>
        left
        unfold changeReservationState at ok
        repeat' split at ok
        all_goals first
          | contradiction
          | (cases ok; exact mem)
      next => exact .inl mem
  | governance heads => exact .inl mem

theorem Accountable.execute
    (ok : execute options store command now attemptId touchId = .ok (after, response)) :
    Accountable options after ∧ StoreLater store after := by
  have same : store.next options (.command command now attemptId touchId) = after := by
    simp [RuntimeStore.next, ok]
  rw [← same]
  exact ⟨accountable.next _, StoreLater.next accountable.safe _⟩

end

theorem accountable_of_init (initial : (runtimeSystem options).init store)
    (fresh : store.receipts = []) : Accountable options store where
  safe := storeSafe_of_init initial
  decided := by
    intro row mem settled
    have status := (initial.2 row mem).2.2.2.2.2.2
    rw [status] at settled
    cases settled
  receipts := by simp [fresh]

end DContact.Governance

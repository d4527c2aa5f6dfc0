import DContact.Governance.Reservation

/-!
# Safety of the reservation runtime

`Permitted` says once which updates the commands may make and under which guards.
The row invariant and the order of rows in time follow from it by one case for
each update, and whole runs follow by induction over the steps.
-/

namespace DContact.Governance

open Lib Table

/-! ## What a command may write -/

/-- The updates of a row which some command plans, with the guards it has checked. -/
inductive Planned (store : RuntimeStore) (row : ReservationRow) : RowUpdate → Prop where
  | claim {deliveryId senderIdentityId : String} {leaseExpiresAt : Instant}
      (reserved : row.state = .reserved) (unclaimed : row.status = .unclaimed)
      (within : leaseExpiresAt ≤ row.expiresAt)
      (free : competing store row ReservationRow.deliveryId deliveryId = false) :
      Planned store row (.claim deliveryId senderIdentityId leaseExpiresAt)
  | renew {version : Nat} {leaseExpiresAt : Instant}
      (reserved : row.state = .reserved) (claimed : row.status = .claimed)
      (fenced : row.leaseVersion = some version) (within : leaseExpiresAt ≤ row.expiresAt) :
      Planned store row (.renew (version + 1) leaseExpiresAt)
  | beginSubmission {providerRequestKey : String} {now : Instant}
      (bound : present row.deliveryId = true)
      (reserved : row.state = .reserved) (claimed : row.status = .claimed)
      (unsubmitted : row.submitted = false)
      (free : competing store row ReservationRow.providerRequestKey providerRequestKey = false) :
      Planned store row (.beginSubmission providerRequestKey now)
  | confirm {now : Instant} (barrier : row.submissionStartedAt.isSome = true)
      (reserved : row.state = .reserved) (unsettled : row.status ≠ .settled) :
      Planned store row (.confirm now)
  | release {now : Instant} (reserved : row.state = .reserved) (unsettled : row.status ≠ .settled)
      (unsubmitted : row.submitted = false) : Planned store row (.release now)
  | reconcile (barrier : row.submissionStartedAt.isSome = true)
      (unsettled : row.status ≠ .settled) : Planned store row .reconcile
  | settle {state : ReservationState} {outcome : TerminalOutcome} {outcomeRef : String}
      {confirms : Bool} {now : Instant} (barrier : row.submissionStartedAt.isSome = true)
      (unsettled : row.status ≠ .settled) :
      Planned store row (.settle state outcome outcomeRef confirms now)

/-- Planned updates, and direct changes of a row which no delivery has claimed. -/
inductive Permitted (store : RuntimeStore) (row : ReservationRow) : RowUpdate → Prop where
  | planned {update : RowUpdate} (planned : Planned store row update) :
      Permitted store row update
  | transition {next : ReservationState} {now : Instant}
      (unbound : present row.deliveryId = false)
      (changes : row.state = .reserved ∨ row.state = .confirmed) :
      Permitted store row (.transition next now)

variable {deliveryId providerRequestKey : String}

section Plans

variable {options : RuntimeOptions} {store : RuntimeStore} {row : ReservationRow}
  {planned : Plan} {update : RowUpdate} {now : Instant} {leaseExpiresAt : Instant}

theorem planClaim_planned {binding : DeliveryBinding}
    (ok : planClaim store row binding leaseExpiresAt now = .ok planned)
    (writes : planned.update = some update) : Planned store row update := by
  simp only [planClaim, guard_ok_iff, not_or, not_not, Bool.not_eq_true, Except.ok.injEq] at ok
  obtain ⟨⟨reserved, unclaimed⟩, -, -, ⟨-, within⟩, free, rfl⟩ := ok
  cases writes
  exact .claim reserved unclaimed (Int.not_lt.mp within) free

variable {expectedLeaseVersion : Nat}

theorem planRenew_planned
    (ok : planRenew row deliveryId expectedLeaseVersion leaseExpiresAt now = .ok planned)
    (writes : planned.update = some update) : Planned store row update := by
  simp only [planRenew, guard_ok_iff, not_or, not_not, Bool.not_eq_true] at ok
  obtain ⟨-, ⟨reserved, -⟩, -, claimed, fenced, ok⟩ := ok
  cases lease : row.leaseExpiresAt with
  | none => simp [lease] at ok
  | some current =>
      simp only [lease, guard_ok_iff, not_or, Except.ok.injEq] at ok
      obtain ⟨-, ⟨-, within⟩, rfl⟩ := ok
      cases writes
      exact .renew reserved claimed fenced (Int.not_lt.mp within)

theorem planBeginSubmission_planned
    (ok : planBeginSubmission store row deliveryId expectedLeaseVersion providerRequestKey now =
      .ok planned) (writes : planned.update = some update) : Planned store row update := by
  simp only [planBeginSubmission, guard_ok_iff, not_or, not_not, Bool.not_eq_true] at ok
  obtain ⟨bound, ⟨reserved, claimed⟩, -, ok⟩ := ok
  cases lease : row.leaseExpiresAt with
  | none => simp [lease] at ok
  | some current =>
      simp only [lease, guard_ok_iff, Bool.not_eq_true, Except.ok.injEq] at ok
      obtain ⟨-, unsubmitted, -, free, rfl⟩ := ok
      cases writes
      simp only [deliveryBound, Bool.not_eq_false', Bool.and_eq_true] at bound
      exact .beginSubmission bound.1 reserved claimed unsubmitted free

theorem assertProviderBinding_ok {result : Unit}
    (ok : assertProviderBinding row deliveryId providerRequestKey = .ok result) :
    row.submissionStartedAt.isSome = true := by
  simp only [assertProviderBinding, guard_ok_iff, not_or] at ok
  simpa [Option.isSome_iff_ne_none] using ok.2.1.1

theorem planConfirm_planned (ok : planConfirm row deliveryId providerRequestKey now = .ok planned)
    (writes : planned.update = some update) : Planned store row update := by
  obtain ⟨_, bound, ok⟩ := bind_ok ok
  simp only [guard_ok_iff, not_or, not_not, Except.ok.injEq] at ok
  obtain ⟨⟨-, unsettled⟩, reserved, rfl⟩ := ok
  cases writes
  exact .confirm (assertProviderBinding_ok bound) reserved unsettled

theorem planRelease_planned {deliveryId : Option String} {reason : ReleaseReason}
    (ok : planRelease row deliveryId reason now = .ok planned)
    (writes : planned.update = some update) : Planned store row update := by
  simp only [planRelease, guard_ok_iff, not_or, not_not, Bool.not_eq_true, Except.ok.injEq] at ok
  obtain ⟨-, ⟨reserved, unsettled⟩, unsubmitted, -, rfl⟩ := ok
  cases writes
  exact .release reserved unsettled unsubmitted

theorem planSettle_planned {input : SettleInput}
    (ok : planSettle options row input now = .ok planned)
    (writes : planned.update = some update) : Planned store row update := by
  obtain ⟨_, bound, ok⟩ := bind_ok ok
  have barrier := assertProviderBinding_ok bound
  by_cases done : row.terminalOutcome.isSome = true ∨ row.status = .settled
  · rw [if_pos done] at ok
    cases ok
    cases writes
  · rw [if_neg done] at ok
    have unsettled : row.status ≠ .settled := fun settled => done (.inr settled)
    cases outcome : input.outcome with
    | unknownReconciling =>
        simp only [outcome] at ok
        split at ok
        · cases ok
          cases writes
        · cases ok
          cases writes
          exact .reconcile barrier unsettled
    | terminal terminal =>
        simp only [outcome] at ok
        split at ok
        next => cases ok
        rw [guard_ok_iff] at ok
        obtain ⟨nextState, -, ok⟩ := bind_ok ok.2
        cases ok
        cases writes
        exact .settle barrier unsettled

/-- Every plan of a command is one of these. -/
theorem plan_planned {operation : RuntimeOperation}
    (ok : plan options store row operation now = .ok planned)
    (writes : planned.update = some update) : Planned store row update := by
  cases operation with
  | claim binding leaseExpiresAt =>
      cases leaseExpiresAt with
      | none => cases ok
      | some leaseExpiresAt => exact planClaim_planned ok writes
  | renew deliveryId expectedLeaseVersion leaseExpiresAt =>
      cases leaseExpiresAt with
      | none => cases ok
      | some leaseExpiresAt => exact planRenew_planned ok writes
  | beginSubmission deliveryId expectedLeaseVersion providerRequestKey =>
      exact planBeginSubmission_planned ok writes
  | confirm deliveryId providerRequestKey => exact planConfirm_planned ok writes
  | release deliveryId reason => exact planRelease_planned ok writes
  | settle input => exact planSettle_planned ok writes

/-- A direct change that moves the state starts from a reserved or confirmed row. -/
theorem transitionReservation_changes {state next : ReservationState}
    {command : ReservationCommand} (ok : transitionReservation state command = .ok next)
    (changes : next ≠ state) : state = .reserved ∨ state = .confirmed := by
  cases command with
  | confirm | release => cases state <;> simp_all [transitionReservation]
  | refund delivered => cases delivered <;> cases state <;> simp_all [transitionReservation]

end Plans

/-! ## The row invariant -/

/-- How lease, submission, outcome and state of one row depend on each other. -/
structure RowSafe (row : ReservationRow) : Prop where
  unclaimed : row.status = .unclaimed → row.leaseVersion = none ∧ row.submissionStartedAt = none
  claimed : row.status = .claimed → row.submissionStartedAt = none
  lease : ∀ expiry, row.leaseExpiresAt = some expiry → expiry ≤ row.expiresAt
  bound : row.submissionStartedAt.isSome = true → present row.deliveryId = true
  released : row.state = .released → row.terminalOutcome = none → row.submissionStartedAt = none
  terminal : row.terminalOutcome.isSome = true → row.status = .settled
  unbound : row.status = .settled → present row.deliveryId = false → row.state = .released

/-- How a row may look after any number of commands. -/
structure Later (before after : ReservationRow) : Prop where
  identity : after.id = before.id ∧ after.tenantId = before.tenantId
  lease : ∀ version, before.leaseVersion = some version →
    ∃ version', after.leaseVersion = some version' ∧ version ≤ version'
  settled : before.status = .settled → after = before

theorem Later.refl (row : ReservationRow) : Later row row :=
  ⟨⟨rfl, rfl⟩, fun version fenced => ⟨version, fenced, Nat.le_refl version⟩, fun _ => rfl⟩

theorem Later.trans {first second third : ReservationRow} (left : Later first second)
    (right : Later second third) : Later first third where
  identity := ⟨right.identity.1.trans left.identity.1, right.identity.2.trans left.identity.2⟩
  lease := by
    intro version fenced
    obtain ⟨version', fenced', le⟩ := left.lease version fenced
    obtain ⟨version'', fenced'', le'⟩ := right.lease version' fenced'
    exact ⟨version'', fenced'', Nat.le_trans le le'⟩
  settled := by
    intro settled
    have same := left.settled settled
    rw [right.settled (same ▸ settled), same]

theorem RowUpdate.apply_id (update : RowUpdate) (row : ReservationRow) :
    (update.apply row).id = row.id := by
  cases update <;> rfl

theorem RowUpdate.apply_tenantId (update : RowUpdate) (row : ReservationRow) :
    (update.apply row).tenantId = row.tenantId := by
  cases update <;> rfl

variable {row : ReservationRow}

theorem submissionStartedAt_of_unsubmitted
    (unsubmitted : row.submitted = false) : row.submissionStartedAt = none := by
  simp only [ReservationRow.submitted, Bool.or_eq_false_iff] at unsubmitted
  simpa using unsubmitted.1

variable {store : RuntimeStore} {update : RowUpdate}

theorem Permitted.unsettled
    (safe : RowSafe row) (permitted : Permitted store row update) : row.status ≠ .settled := by
  intro settled
  cases permitted with
  | planned planned =>
      cases planned with
      | claim _ unclaimed => simp [settled] at unclaimed
      | renew _ claimed | beginSubmission _ _ claimed => simp [settled] at claimed
      | confirm _ _ unsettled => exact unsettled settled
      | release _ unsettled => exact unsettled settled
      | reconcile _ unsettled => exact unsettled settled
      | settle _ unsettled => exact unsettled settled
  | transition unbound changes => simp [safe.unbound settled unbound] at changes

theorem Permitted.terminalOutcome_none
    (safe : RowSafe row) (permitted : Permitted store row update) :
    row.terminalOutcome = none := by
  by_contra terminal
  exact permitted.unsettled safe (safe.terminal (Option.isSome_iff_ne_none.mpr terminal))

/-- The invariant survives every planned update. -/
theorem Planned.rowSafe
    (safe : RowSafe row) (planned : Planned store row update) : RowSafe (update.apply row) := by
  have undecided := (Permitted.planned planned).terminalOutcome_none safe
  cases planned with
  | claim reserved unclaimed within free =>
      have started := (safe.unclaimed unclaimed).2
      exact {
        unclaimed := nofun
        claimed := fun _ => started
        lease := by
          intro expiry leased
          cases leased
          exact within
        bound := by simp [RowUpdate.apply, started]
        released := by simp [RowUpdate.apply, reserved]
        terminal := by simp [RowUpdate.apply, undecided]
        unbound := nofun }
  | renew reserved claimed fenced within =>
      exact { safe with
        unclaimed := by
          intro unclaimed
          rw [show row.status = .unclaimed from unclaimed] at claimed
          cases claimed
        claimed := fun _ => safe.claimed claimed
        lease := by
          intro expiry leased
          cases leased
          exact within }
  | beginSubmission bound reserved claimed unsubmitted free =>
      exact { safe with
        unclaimed := nofun
        claimed := nofun
        bound := fun _ => bound
        released := by simp [RowUpdate.apply, reserved]
        terminal := by simp [RowUpdate.apply, undecided]
        unbound := nofun }
  | confirm barrier reserved unsettled =>
      exact { safe with
        unclaimed := nofun
        claimed := nofun
        released := nofun
        terminal := by simp [RowUpdate.apply, undecided]
        unbound := nofun }
  | release reserved unsettled unsubmitted =>
      have started := submissionStartedAt_of_unsubmitted unsubmitted
      exact { safe with
        unclaimed := nofun
        claimed := nofun
        released := fun _ _ => started
        terminal := by simp [RowUpdate.apply, undecided]
        unbound := by simp [RowUpdate.apply] }
  | reconcile barrier unsettled =>
      exact { safe with
        unclaimed := nofun
        claimed := nofun
        terminal := by simp [RowUpdate.apply, undecided]
        unbound := nofun }
  | settle barrier unsettled =>
      exact { safe with
        unclaimed := nofun
        claimed := nofun
        released := nofun
        terminal _ := rfl
        unbound := by
          intro _ unbound
          exact Bool.noConfusion ((safe.bound barrier).symm.trans unbound) }

/-- The invariant survives every permitted update. -/
theorem Permitted.rowSafe (safe : RowSafe row) (permitted : Permitted store row update) :
    RowSafe (update.apply row) := by
  have notSettled := permitted.unsettled safe
  cases permitted with
  | planned planned => exact planned.rowSafe safe
  | transition unbound changes =>
      have started : row.submissionStartedAt = none := by
        by_contra submitted
        have bound := safe.bound (Option.isSome_iff_ne_none.mpr submitted)
        simp [unbound] at bound
      exact { safe with
        released := fun _ _ => started
        unbound := fun settled => absurd settled notSettled }

theorem Permitted.later (safe : RowSafe row) (permitted : Permitted store row update) :
    Later row (update.apply row) where
  identity := ⟨update.apply_id row, update.apply_tenantId row⟩
  lease := by
    intro version fenced
    cases permitted with
    | planned planned =>
        cases planned with
        | claim _ unclaimed => simp [(safe.unclaimed unclaimed).1] at fenced
        | renew _ _ current =>
            rw [current] at fenced
            cases fenced
            exact ⟨_, rfl, Nat.le_succ _⟩
        | _ => exact ⟨version, fenced, Nat.le_refl version⟩
    | transition => exact ⟨version, fenced, Nat.le_refl version⟩
  settled := fun settled => absurd settled (permitted.unsettled safe)

/-! ## The store invariant -/

/-- A delivery identifier or request key, together with the tenant it belongs to. -/
def tenantColumn (column : ReservationRow → Option String) (row : ReservationRow) :
    Option (String × String) :=
  (column row).map fun value => (row.tenantId, value)

structure StoreSafe (store : RuntimeStore) : Prop where
  distinct : (store.reservations.map ReservationRow.id).Nodup
  rows : ∀ row ∈ store.reservations, RowSafe row
  deliveries : Table.UniqueBy ReservationRow.id (tenantColumn ReservationRow.deliveryId) store.reservations
  requests :
    Table.UniqueBy ReservationRow.id (tenantColumn ReservationRow.providerRequestKey) store.reservations

theorem not_competing {other : ReservationRow}
    {column : ReservationRow → Option String} {value : String}
    (free : competing store row column value = false) (mem : other ∈ store.reservations)
    (different : other.id ≠ row.id) (x : String × String)
    (carried : tenantColumn column other = some x) : (row.tenantId, value) ≠ x := by
  rintro rfl
  obtain ⟨carries, holds, pair⟩ := Option.map_eq_some_iff.mp carried
  simp only [Prod.mk.injEq] at pair
  have absent := List.any_eq_false.mp free other mem
  simp [pair.1, holds, pair.2, different] at absent

theorem StoreSafe.write (safe : StoreSafe store) (mem : row ∈ store.reservations)
    (permitted : Permitted store row update) :
    StoreSafe { store with
      reservations := Table.update ReservationRow.id row.id update.apply store.reservations } := by
  have only : ∀ other ∈ store.reservations, ReservationRow.id other = row.id → other = row :=
    fun other present same => eq_of_key_eq safe.distinct present mem same
  refine ⟨?_, ?_, ?_, ?_⟩
  · rw [map_key_update update.apply_id]
    exact safe.distinct
  · refine forall_update safe.rows fun other present same => ?_
    rw [only other present same]
    exact permitted.rowSafe (safe.rows row mem)
  · refine safe.deliveries.update update.apply_id fun other present same => ?_
    rw [only other present same]
    cases permitted with
    | planned planned =>
        cases planned with
        | claim _ _ _ free =>
            right
            intro rival rivalPresent different x carried taken
            exact not_competing free rivalPresent different x carried (Option.some.inj taken)
        | _ => exact .inl rfl
    | transition => exact .inl rfl
  · refine safe.requests.update update.apply_id fun other present same => ?_
    rw [only other present same]
    cases permitted with
    | planned planned =>
        cases planned with
        | beginSubmission _ _ _ _ free =>
            right
            intro rival rivalPresent different x carried taken
            exact not_competing free rivalPresent different x carried (Option.some.inj taken)
        | _ => exact .inl rfl
    | transition => exact .inl rfl

/-- Every row of one store is found in another as a later version of itself. -/
def StoreLater (before after : RuntimeStore) : Prop :=
  ∀ row ∈ before.reservations, ∃ row' ∈ after.reservations, Later row row'

theorem StoreLater.write (safe : StoreSafe store) (mem : row ∈ store.reservations)
    (permitted : Permitted store row update) :
    StoreLater store { store with
      reservations := Table.update ReservationRow.id row.id update.apply store.reservations } := by
  refine exists_update (fun other _ => Later.refl other) fun other present same => ?_
  rw [eq_of_key_eq safe.distinct present mem same]
  exact permitted.later (safe.rows row mem)

/-- What the invariant and the order of stores can see are the reservations. -/
theorem StoreSafe.congr {other : RuntimeStore} (safe : StoreSafe store)
    (same : other.reservations = store.reservations) : StoreSafe other :=
  ⟨same ▸ safe.distinct, same ▸ safe.rows, same ▸ safe.deliveries, same ▸ safe.requests⟩

/-! ## Steps and runs -/

inductive RuntimeStep where
  | command (command : RuntimeCommand) (now : Instant) (attemptId touchId : String)
  | change (tenantId reservationId : String) (command : ReservationCommand) (now : Instant)
  | governance (heads : List ContactHead)

/-- A failed command rolls its transaction back. -/
def RuntimeStore.next (options : RuntimeOptions) (store : RuntimeStore) :
    RuntimeStep → RuntimeStore
  | .command command now attemptId touchId =>
      match execute options store command now attemptId touchId with
      | .ok (after, _) => after
      | .error _ => store
  | .change tenantId reservationId command now =>
      match changeReservationState store tenantId reservationId command now with
      | .ok after => after
      | .error _ => store
  | .governance heads => { store with heads := heads }

/-- A reservation which no runtime command has touched. -/
def Untouched (row : ReservationRow) : Prop :=
  row.deliveryId = none ∧ row.providerRequestKey = none ∧ row.leaseVersion = none ∧
    row.leaseExpiresAt = none ∧ row.submissionStartedAt = none ∧ row.terminalOutcome = none ∧
    row.status = .unclaimed

/-- Commands, direct changes and governance changes, in any order, on any set of
reservations with distinct identifiers. -/
def runtimeSystem (options : RuntimeOptions) : System RuntimeStore RuntimeStep where
  init store := (store.reservations.map ReservationRow.id).Nodup ∧ ∀ row ∈ store.reservations, Untouched row
  step store step after := after = store.next options step

theorem Untouched.rowSafe (untouched : Untouched row) : RowSafe row := by
  obtain ⟨delivery, request, version, lease, started, outcome, status⟩ := untouched
  exact {
    unclaimed := fun _ => ⟨version, started⟩
    claimed := fun _ => started
    lease := by simp [lease]
    bound := by simp [started]
    released := fun _ _ => started
    terminal := by simp [outcome]
    unbound := by simp [status] }

variable {options : RuntimeOptions}

theorem storeSafe_of_init (initial : (runtimeSystem options).init store) : StoreSafe store := by
  obtain ⟨distinct, untouched⟩ := initial
  refine ⟨distinct, fun row mem => (untouched row mem).rowSafe, ?_, ?_⟩
  · intro left mem _ _ x carried
    simp [tenantColumn, (untouched left mem).1] at carried
  · intro left mem _ _ x carried
    simp [tenantColumn, (untouched left mem).2.1] at carried

variable {tenantId reservationId : String}

theorem findReservation_mem (found : findReservation store tenantId reservationId = some row) :
    row ∈ store.reservations :=
  List.mem_of_find?_eq_some found

variable {command : RuntimeCommand} {attemptId touchId : String}

theorem record_keeps {planned : Plan} {recorded : RuntimeStore}
    (ok : planned.record store command row attemptId touchId = .ok recorded) :
    recorded.reservations = store.reservations ∧ recorded.receipts = store.receipts := by
  unfold Plan.record at ok
  split at ok
  · exact recordAttempt_keeps ok
  · cases ok
    exact ⟨rfl, rfl⟩

variable {after : RuntimeStore} {response : SettlementView} {now : Instant}

/-- A command is answered from its receipt, or by a plan that is written. -/
theorem execute_ok
    (ok : execute options store command now attemptId touchId = .ok (after, response)) :
    (∃ receipt, findReceipt store command = some receipt ∧
      receipt.reservationId = command.reservationId ∧
      receipt.inputHash = options.inputHash command ∧ after = store ∧ response = receipt.response) ∨
    ∃ row planned, findReceipt store command = none ∧
      findReservation store command.tenantId command.reservationId = some row ∧
      plan options store row command.operation now = .ok planned ∧
      writePlan options store command row planned attemptId touchId = .ok (after, response) := by
  replace ok := rest_ok ok
  rw [guard_ok_iff] at ok
  obtain ⟨-, ok⟩ := ok
  cases replay : findReceipt store command with
  | some receipt =>
      simp only [replay, guard_ok_iff, not_or, not_not, Except.ok.injEq, Prod.mk.injEq] at ok
      obtain ⟨⟨target, hash⟩, same, answer⟩ := ok
      exact .inl ⟨receipt, rfl, target, hash, same.symm, answer.symm⟩
  | none =>
      cases found : findReservation store command.tenantId command.reservationId with
      | none => simp [replay, found] at ok
      | some row =>
          simp only [replay, found, guard_ok_iff] at ok
          obtain ⟨planned, plans, ok⟩ := bind_ok ok.2
          exact .inr ⟨row, planned, rfl, rfl, plans, ok⟩

theorem execute_reservations
    (ok : execute options store command now attemptId touchId = .ok (after, response)) :
    after.reservations = store.reservations ∨
      ∃ row ∈ store.reservations, ∃ update, Permitted store row update ∧
        after.reservations = Table.update ReservationRow.id row.id update.apply store.reservations := by
  rcases execute_ok ok with ⟨_, -, -, -, rfl, -⟩ | ⟨row, planned, -, found, plans, ok⟩
  · exact .inl rfl
  · obtain ⟨recorded, records, ok⟩ := bind_ok ok
    have written : after.reservations =
        update ReservationRow.id row.id planned.rewrite store.reservations := by
      cases ok
      exact (record_keeps records).1
    cases writes : planned.update with
    | none =>
        left
        have same : planned.rewrite = id := by
          funext row
          simp [Plan.rewrite, writes]
        simp [written, same, update]
    | some update =>
        right
        have same : planned.rewrite = update.apply := by
          funext row
          simp [Plan.rewrite, writes]
        exact ⟨row, findReservation_mem found, update, .planned (plan_planned plans writes),
          same ▸ written⟩

theorem changeReservationState_reservations {command : ReservationCommand}
    (ok : changeReservationState store tenantId reservationId command now = .ok after) :
    after.reservations = store.reservations ∨
      ∃ row ∈ store.reservations, ∃ update, Permitted store row update ∧
        after.reservations = Table.update ReservationRow.id row.id update.apply store.reservations := by
  unfold changeReservationState at ok
  cases found : findReservation store tenantId reservationId with
  | none => simp [found] at ok
  | some row =>
      simp only [found, guard_ok_iff, Bool.not_eq_true] at ok
      obtain ⟨unbound, ok⟩ := ok
      cases next : transitionReservation row.state command with
      | error failure => simp [next] at ok
      | ok state =>
          simp only [next] at ok
          split at ok
          · cases ok
            exact .inl rfl
          next changes =>
            cases ok
            exact .inr ⟨row, findReservation_mem found, .transition state now,
              .transition unbound (transitionReservation_changes next changes), rfl⟩

theorem next_reservations (options : RuntimeOptions) (store : RuntimeStore) (step : RuntimeStep) :
    (store.next options step).reservations = store.reservations ∨
      ∃ row ∈ store.reservations, ∃ update, Permitted store row update ∧
        (store.next options step).reservations =
          Table.update ReservationRow.id row.id update.apply store.reservations := by
  cases step with
  | command command now attemptId touchId =>
      simp only [RuntimeStore.next]
      split
      next ok => exact execute_reservations ok
      next => exact .inl rfl
  | change tenantId reservationId command now =>
      simp only [RuntimeStore.next]
      split
      next ok => exact changeReservationState_reservations ok
      next => exact .inl rfl
  | governance heads => exact .inl rfl

theorem StoreSafe.next (safe : StoreSafe store)
    (step : RuntimeStep) : StoreSafe (store.next options step) := by
  rcases next_reservations options store step with same | ⟨row, mem, update, permitted, written⟩
  · exact safe.congr same
  · exact (safe.write mem permitted).congr written

theorem StoreLater.next (safe : StoreSafe store)
    (step : RuntimeStep) : StoreLater store (store.next options step) := by
  intro row present
  rcases next_reservations options store step with same | ⟨target, mem, update, permitted, written⟩
  · exact ⟨row, same ▸ present, Later.refl row⟩
  · rw [written]
    exact StoreLater.write safe mem permitted row present

theorem storeSafe_of_reachable
    (reachable : (runtimeSystem options).Reachable store) : StoreSafe store := by
  refine reachable.invariant (fun _ => storeSafe_of_init) ?_
  rintro source step _ safe rfl
  exact safe.next step

theorem storeLater_of_reaches {later : RuntimeStore}
    (safe : StoreSafe store) (run : (runtimeSystem options).Reaches store later) :
    StoreLater store later := by
  refine System.Reaches.related (fun _ row mem => ⟨row, mem, Later.refl row⟩)
    (fun _ _ _ => kept_trans .trans) ?_ ?_ safe run
  · rintro source step _ holds rfl
    exact holds.next step
  · rintro source step _ holds rfl
    exact StoreLater.next holds step

/-! ## The guarantees of the runtime -/

/-- What the runtime promises about a reachable store and any store later in the
same run. -/
structure RuntimeSafety (store later : RuntimeStore) : Prop where
  kept : ∀ row ∈ store.reservations, ∃ after ∈ later.reservations, after.id = row.id
  terminalOutcome : ∀ row ∈ store.reservations, ∀ after ∈ later.reservations, after.id = row.id →
    ∀ outcome, row.terminalOutcome = some outcome → after.terminalOutcome = some outcome
  neverSubmitted : ∀ row ∈ store.reservations, row.state = .released →
    row.terminalOutcome = none → row.submissionStartedAt = none
  leaseVersion : ∀ row ∈ store.reservations, ∀ after ∈ later.reservations, after.id = row.id →
    ∀ version, row.leaseVersion = some version →
      ∃ version', after.leaseVersion = some version' ∧ version ≤ version'
  leaseExpiresAt : ∀ row ∈ store.reservations, ∀ expiry, row.leaseExpiresAt = some expiry →
    expiry ≤ row.expiresAt
  deliveryId : ∀ left ∈ store.reservations, ∀ right ∈ store.reservations,
    left.tenantId = right.tenantId → ∀ delivery, left.deliveryId = some delivery →
      right.deliveryId = some delivery → left = right
  providerRequestKey : ∀ left ∈ store.reservations, ∀ right ∈ store.reservations,
    left.tenantId = right.tenantId → ∀ request, left.providerRequestKey = some request →
      right.providerRequestKey = some request → left = right
  settled : ∀ row ∈ store.reservations, ∀ after ∈ later.reservations, after.id = row.id →
    row.status = .settled → after = row

theorem StoreSafe.unique (safe : StoreSafe store) {column : ReservationRow → Option String}
    (uniqueBy : Table.UniqueBy ReservationRow.id (tenantColumn column) store.reservations)
    {left right : ReservationRow} (hleft : left ∈ store.reservations)
    (hright : right ∈ store.reservations) (tenant : left.tenantId = right.tenantId)
    {value : String} (leftCarries : column left = some value)
    (rightCarries : column right = some value) : left = right := by
  apply eq_of_key_eq safe.distinct hleft hright
  apply uniqueBy left hleft right hright (left.tenantId, value)
  · simp [tenantColumn, leftCarries]
  · simp [tenantColumn, rightCarries, tenant]

/-- Over every run of runtime commands, direct changes and governance changes: an
outcome is final, a release without outcome was never submitted, leases only grow
within the reservation's life, delivery and request keys are bound once in their
tenant, and a settled reservation no longer changes. -/
theorem runtime_safety (options : RuntimeOptions) (store later : RuntimeStore)
    (reachable : (runtimeSystem options).Reachable store)
    (run : (runtimeSystem options).Reaches store later) : RuntimeSafety store later := by
  have safe := storeSafe_of_reachable reachable
  have laterSafe := storeSafe_of_reachable (reachable.reaches run)
  have order : ∀ row ∈ store.reservations, ∀ after ∈ later.reservations, after.id = row.id →
      Later row after := by
    intro row mem after afterMember same
    obtain ⟨version, versionMember, ordered⟩ := storeLater_of_reaches safe run row mem
    rwa [eq_of_key_eq laterSafe.distinct afterMember versionMember
      (same.trans ordered.identity.1.symm)]
  exact {
    kept := by
      intro row mem
      obtain ⟨after, afterMember, ordered⟩ := storeLater_of_reaches safe run row mem
      exact ⟨after, afterMember, ordered.identity.1⟩
    terminalOutcome := by
      intro row mem after afterMember same outcome terminal
      have settled := (safe.rows row mem).terminal (by simp [terminal])
      rw [(order row mem after afterMember same).settled settled, terminal]
    neverSubmitted := fun row mem => (safe.rows row mem).released
    leaseVersion := fun row mem after afterMember same =>
      (order row mem after afterMember same).lease
    leaseExpiresAt := fun row mem => (safe.rows row mem).lease
    deliveryId := fun left hleft right hright tenant _ =>
      safe.unique safe.deliveries hleft hright tenant
    providerRequestKey := fun left hleft right hright tenant _ =>
      safe.unique safe.requests hleft hright tenant
    settled := fun row mem after afterMember same =>
      (order row mem after afterMember same).settled }

/-! ## A delivery that is reported as rejected after it was delivered -/

def lineReservation : ReservationRow where
  id := "reservation"
  tenantId := "tenant"
  contactId := "contact"
  identityId := none
  channel := .line
  purpose := "MARKETING"
  source := "JOURNEY"
  actionKey := "action"
  state := .reserved
  expiresAt := 100
  confirmedAt := none
  releasedAt := none
  refundedAt := none
  deliveryId := none
  senderIdentityId := none
  providerRequestKey := none
  leaseVersion := none
  leaseExpiresAt := none
  submissionStartedAt := none
  settlementStatus := none
  terminalOutcome := none
  terminalOutcomeRef := none
  settledAt := none
  authorizationAggregateVersion := none

def lineOptions : RuntimeOptions where
  inputHash := RuntimeCommand.idempotencyKey
  settlementPolicy input outcome _ := some (defaultSettlementPolicy outcome input.rejectionScope)

def lineCommand (operation : RuntimeOperation) : RuntimeCommand where
  tenantId := "tenant"
  correlationId := "correlation"
  reservationId := "reservation"
  actionKey := "action"
  operation := operation

def lineStep (operation : RuntimeOperation) : RuntimeStep :=
  .command (lineCommand operation) 10 "attempt" "touch"

def lineClaim : RuntimeOperation :=
  .claim ⟨"delivery", "contact", none, .line, "MARKETING", "line-oa"⟩ (some 50)

def lineSettlement (outcomeRef : String) (outcome : TerminalOutcome) : RuntimeOperation :=
  .settle ⟨"delivery", "request", outcomeRef, .terminal outcome, none, some 20⟩

def lineStore : RuntimeStore := ⟨[lineReservation], [], [], [], []⟩

def deliveredStore : RuntimeStore :=
  ((lineStore.next lineOptions (lineStep lineClaim)).next lineOptions
    (lineStep (.beginSubmission "delivery" 1 "request"))).next lineOptions
    (lineStep (lineSettlement "delivered" .delivered))

theorem deliveredStore_reachable : (runtimeSystem lineOptions).Reachable deliveredStore := by
  have initial : (runtimeSystem lineOptions).init lineStore := by
    refine ⟨by decide, ?_⟩
    intro row mem
    rw [List.mem_singleton.mp mem]
    exact ⟨rfl, rfl, rfl, rfl, rfl, rfl, rfl⟩
  have claimed := (System.Reachable.of_init initial).step
    (show (runtimeSystem lineOptions).step _ (lineStep lineClaim) _ from rfl)
  have submitted := claimed.step
    (show (runtimeSystem lineOptions).step _
      (lineStep (.beginSubmission "delivery" 1 "request")) _ from rfl)
  exact submitted.step
    (show (runtimeSystem lineOptions).step _
      (lineStep (lineSettlement "delivered" .delivered)) _ from rfl)

/-- The late rejection is accepted as a command and changes nothing. -/
theorem late_rejection_safe :
    (deliveredStore.reservations.map ReservationRow.terminalOutcome = [some .delivered]) ∧
      RuntimeSafety deliveredStore
        (deliveredStore.next lineOptions (lineStep (lineSettlement "rejected" .providerRejected))) :=
  ⟨by decide, runtime_safety lineOptions _ _ deliveredStore_reachable
    (.single ⟨lineStep (lineSettlement "rejected" .providerRejected), rfl⟩)⟩

end DContact.Governance

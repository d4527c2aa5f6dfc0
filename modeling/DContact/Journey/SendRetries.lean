import DContact.Governance.AuthorizationSafety
import DContact.Journey.ExecutionLedger
import DContact.Journey.SendExecutor

/-!
# Sending again after a crash

A worker may stop between any two statements, and another one calls again for the same step. The
second call is let through by a delivery that nobody has claimed, or by one that was claimed with the
very same command. The command holds the lease, which every call takes from its own clock.
-/

namespace DContact.Journey.Send

open Lib List SendSession
open Governance (Instant Receipt ReservationRow RuntimeCommand RuntimeError)
open Execution

variable {environment : SendEnvironment}

/-- The send step waits at the cursor of the enrollment, and nothing ran after it. -/
structure Parked (environment : SendEnvironment) (tables : JourneyTables) (input : HandleSendInput)
    (row : EnrollmentRow) (send : OpenSend) : Prop where
  given : input.stepId ≠ ""
  found : tables.findEnrollment input.enrollmentId = some row
  alive : row.runState ≠ .terminal
  pending : pendingSend tables row = some (input.stepId, input.stepSequence)
  last : ∀ run ∈ stepRunsOf tables row.id, run.stepSequence ≠ input.stepSequence + 1
  published : publishedGraph environment.definitions (row.journeyId.getD "") row.journeyVersion =
    .ok send.definition
  step : sendStepOf send.definition input.stepId = .ok send

/-- The cursor has left the step. -/
def StepDone (tables : JourneyTables) (input : HandleSendInput) : Prop :=
  ∃ row, tables.findEnrollment input.enrollmentId = some row ∧
    row.stepSequence = input.stepSequence + 1

def Completes (environment : SendEnvironment) (call : SendCall) (store : SendStore) : Prop :=
  ∃ after result, handleSend environment call store = .ok (after, result) ∧
    StepDone after.tables call.input

structure Unclaimed (environment : SendEnvironment) (store : SendStore)
    (command : EnqueueDeliveryCommand) (now : Instant) (row : ReservationRow) : Prop where
  found : Governance.findReservation store.runtime command.tenantId command.reservationId = some row
  action : row.actionKey = command.actionKey
  reserved : row.state = .reserved
  unclaimed : row.status = .unclaimed
  contact : row.contactId = command.contactId
  identity : row.identityId = command.identityId
  channel : row.channel = command.channel
  purpose : row.purpose = command.purpose
  sender : Governance.present row.senderIdentityId = false
  delivery : Governance.present row.deliveryId = false
  begins : now < command.leaseExpiresAt
  ends : command.leaseExpiresAt ≤ row.expiresAt
  free : Governance.competing store.runtime row ReservationRow.deliveryId
    (mintedDeliveryId environment command) = false

inductive Claimable (environment : SendEnvironment) (store : SendStore)
    (command : EnqueueDeliveryCommand) (now : Instant) : Prop where
  | again (receipt : Receipt)
      (found : Governance.findReceipt store.runtime (claimCommand environment command) = some receipt)
      (reservation : receipt.reservationId = command.reservationId)
      (same : receipt.inputHash = environment.runtime.inputHash (claimCommand environment command))
  | first (row : ReservationRow)
      (absent : Governance.findReceipt store.runtime (claimCommand environment command) = none)
      (unclaimed : Unclaimed environment store command now row)

/-- The outbox holds the delivery of the same command, or none that the new one would meet. -/
inductive Deliverable (environment : SendEnvironment) (store : SendStore)
    (command : EnqueueDeliveryCommand) (now : Instant) (entryId : String) : Prop where
  | queued (entry : DlOutboxEntry)
      (reference : opaqueContentRef command.contentRef = true)
      (found : findByActionKey store.outbox command.actionKey = some entry)
      (adapter : entry.adapter = .testAdapter)
      (same : entry.inputHash = canonicalInputHash environment command)
  | fresh (reference : opaqueContentRef command.contentRef = true)
      (absent : findByActionKey store.outbox command.actionKey = none)
      (claimable : Claimable environment store command now)
      (free : entryTaken store.outbox (outboxEntry environment command 1 entryId) = false)

/-- The scope is denied, or Contact Governance suppresses the contact, or it has reserved the contact
and the delivery can be queued. -/
inductive Resumable (environment : SendEnvironment) (call : SendCall) (store : SendStore)
    (send : OpenSend) : Prop where
  | denied (reasonCode : String) (scope : call.scope = .deny reasonCode)
  | suppressed (reasonCode : String) (after : SendStore) (scope : call.scope = .allow)
      (authorized : authorizeSend environment store call.input send call.ids call.authorizedAt =
        .ok (after, .error reasonCode))
  | reserved (reservationId : String) (after : SendStore) (scope : call.scope = .allow)
      (authorized : authorizeSend environment store call.input send call.ids call.authorizedAt =
        .ok (after, .ok reservationId))
      (deliverable : Deliverable environment after
        (deliveryCommand environment call.input send reservationId call.leasedAt) call.claimedAt
        call.entryId)

variable {command : EnqueueDeliveryCommand} {now : Instant} {store : SendStore}

theorem planClaim_ok
    {row : ReservationRow} {binding : Governance.DeliveryBinding} {planned : Governance.Plan} :
    Governance.planClaim store.runtime row binding command.leaseExpiresAt now = .ok planned ↔
      row.state = .reserved ∧ row.status = .unclaimed ∧ now < row.expiresAt ∧
        row.contactId = binding.contactId ∧ row.identityId = binding.identityId ∧
        row.channel = binding.channel ∧ row.purpose = binding.purpose ∧
        Governance.present row.senderIdentityId = false ∧
        Governance.present row.deliveryId = false ∧
        now < command.leaseExpiresAt ∧ command.leaseExpiresAt ≤ row.expiresAt ∧
        Governance.competing store.runtime row ReservationRow.deliveryId binding.deliveryId = false ∧
        planned = .row (.claim binding.deliveryId binding.senderIdentityId command.leaseExpiresAt) := by
  simp only [Governance.planClaim, guard_ok_iff, not_or, not_not, Bool.not_eq_true, Except.ok.injEq,
    not_le, not_lt, gt_iff_lt, and_assoc, eq_comm (a := planned)]

theorem executeClaim_succeeds (tenant : command.tenantId = environment.tenantId) :
    (∃ result, Governance.execute environment.runtime store.runtime (claimCommand environment command)
      now "" "" = .ok result) ↔ Claimable environment store command now := by
  have given : (claimCommand environment command).tenantId ≠ "" := by
    rw [show (claimCommand environment command).tenantId = environment.tenantId from tenant]
    exact environment.tenantGiven
  have parses : Governance.parseTimestamps (claimCommand environment command).operation = .ok () := rfl
  unfold Governance.execute
  rw [parses]
  simp only [bind, Except.bind, if_neg given]
  constructor
  · rintro ⟨result, claimed⟩
    split at claimed
    next receipt found =>
      rw [guard_ok_iff, not_or, not_not, not_not] at claimed
      exact .again receipt found claimed.1.1 claimed.1.2
    next absent =>
      split at claimed
      next => cases claimed
      next row found =>
        rw [guard_ok_iff, not_not] at claimed
        obtain ⟨action, claimed⟩ := claimed
        obtain ⟨planned, plans, -⟩ := bind_ok claimed
        obtain ⟨reserved, unclaimed, -, contact, identity, channel, purpose, sender, delivery, begins,
          ends, free, -⟩ := planClaim_ok.mp plans
        exact .first row absent
          ⟨found, action, reserved, unclaimed, contact, identity, channel, purpose, sender, delivery,
            begins, ends, free⟩
  · rintro (⟨receipt, found, reservation, same⟩ | ⟨row, absent, unclaimed⟩)
    · have fits : ¬ (receipt.reservationId ≠ (claimCommand environment command).reservationId ∨
          receipt.inputHash ≠ environment.runtime.inputHash (claimCommand environment command)) := by
        rw [not_or, not_not, not_not]
        exact ⟨reservation, same⟩
      simp only [found, if_neg fits]
      exact ⟨_, rfl⟩
    · have stored : Governance.findReservation store.runtime
          (claimCommand environment command).tenantId
          (claimCommand environment command).reservationId = some row := unclaimed.found
      have action : ¬ row.actionKey ≠ (claimCommand environment command).actionKey :=
        not_not.mpr unclaimed.action
      have plans : Governance.plan environment.runtime store.runtime row
          (claimCommand environment command).operation now = .ok _ :=
        planClaim_ok.mpr ⟨unclaimed.reserved, unclaimed.unclaimed,
          lt_of_lt_of_le unclaimed.begins unclaimed.ends, unclaimed.contact, unclaimed.identity,
          unclaimed.channel, unclaimed.purpose, unclaimed.sender, unclaimed.delivery,
          unclaimed.begins, unclaimed.ends, unclaimed.free, rfl⟩
      simp only [absent, stored, if_neg action, plans]
      -- A claim writes its row and its receipt, and nothing of it can fail.
      exact ⟨_, rfl⟩

theorem claimForDelivery_succeeds (tenant : command.tenantId = environment.tenantId) :
    (∃ result, claimForDelivery environment store command now = .ok result) ↔
      Claimable environment store command now := by
  rw [← executeClaim_succeeds tenant]
  unfold claimForDelivery
  constructor
  · rintro ⟨result, ok⟩
    obtain ⟨claimed, claims, -⟩ := bind_ok ok
    exact ⟨claimed, mapError_ok.mp claims⟩
  · rintro ⟨claimed, claims⟩
    exact ⟨_, bind_ok_iff.mpr ⟨claimed, mapError_ok.mpr claims, rfl⟩⟩

/-- A claim works on the reservations and their receipts. -/
theorem claimForDelivery_ok
    {result : SendStore × Nat} (ok : claimForDelivery environment store command now = .ok result) :
    result.1.tables = store.tables ∧ result.1.outbox = store.outbox := by
  unfold claimForDelivery at ok
  obtain ⟨claimed, -, written⟩ := bind_ok ok
  cases written
  exact ⟨rfl, rfl⟩

variable {outbox : List DlOutboxEntry}

theorem replay_ok {queued : Option QueuedDelivery} :
    replay environment outbox command = .ok queued ↔ opaqueContentRef command.contentRef = true ∧
      ((findByActionKey outbox command.actionKey = none ∧ queued = none) ∨
        ∃ entry, findByActionKey outbox command.actionKey = some entry ∧
          entry.adapter = .testAdapter ∧ entry.inputHash = canonicalInputHash environment command ∧
          queued = some ⟨entry.deliveryId, entry.providerRequestKey⟩) := by
  unfold replay
  simp only [bind_ok_iff, ensure_ok, exists_const]
  refine and_congr_right fun _ => ?_
  cases found : findByActionKey outbox command.actionKey with
  | none =>
      simp only [Except.ok.injEq, true_and, reduceCtorEq, false_and, exists_false, or_false]
      exact eq_comm
  | some entry =>
      simp only [guard_ok_iff, not_or, not_not, Except.ok.injEq, reduceCtorEq, false_and, false_or,
        Option.some.injEq, exists_eq_left', and_assoc]
      exact and_congr_right fun _ => and_congr_right fun _ => eq_comm

variable {entryId : String}

theorem enqueue_succeeds (tenant : command.tenantId = environment.tenantId) :
    (∃ result, enqueue environment store command now entryId = .ok result) ↔
      Deliverable environment store command now entryId := by
  unfold enqueue
  constructor
  · rintro ⟨result, ok⟩
    obtain ⟨queued, replays, ok⟩ := bind_ok ok
    obtain ⟨reference, ⟨absent, rfl⟩ | ⟨entry, found, adapter, same, rfl⟩⟩ := replay_ok.mp replays
    · obtain ⟨claimed, claims, ok⟩ := bind_ok ok
      obtain ⟨_, free, -⟩ := bind_ok ok
      rw [ensure_ok, (claimForDelivery_ok claims).2] at free
      exact .fresh reference absent ((claimForDelivery_succeeds tenant).mp ⟨claimed, claims⟩) free
    · exact .queued entry reference found adapter same
  · rintro (⟨entry, reference, found, adapter, same⟩ | ⟨reference, absent, claimable, free⟩)
    · have replays : replay environment store.outbox command = .ok (some _) :=
        replay_ok.mpr ⟨reference, .inr ⟨entry, found, adapter, same, rfl⟩⟩
      exact ⟨_, bind_ok_iff.mpr ⟨_, replays, rfl⟩⟩
    · have replays : replay environment store.outbox command = .ok none :=
        replay_ok.mpr ⟨reference, .inl ⟨absent, rfl⟩⟩
      obtain ⟨claimed, claims⟩ := (claimForDelivery_succeeds tenant).mpr claimable
      have creates : ∃ result, createEntry environment claimed.1 command claimed.2 entryId =
          .ok result := by
        refine ⟨_, bind_ok_iff.mpr ⟨⟨⟩, ?_, rfl⟩⟩
        rw [ensure_ok, (claimForDelivery_ok claims).2]
        exact free
      obtain ⟨result, created⟩ := creates
      exact ⟨result, bind_ok_iff.mpr ⟨none, replays, bind_ok_iff.mpr ⟨claimed, claims, created⟩⟩⟩

theorem pendingSend_some {tables : JourneyTables} {row : EnrollmentRow} {stepId : String}
    {stepSequence : Nat} (pending : pendingSend tables row = some (stepId, stepSequence)) :
    row.currentStepId = some stepId ∧ row.stepSequence = stepSequence := by
  unfold pendingSend at pending
  split at pending
  next => cases pending
  split at pending
  next last found =>
    split at pending
    next stands =>
      cases pending
      have atCursor : last.stepSequence = row.stepSequence := by simpa using find?_some found
      exact ⟨stands.2, atCursor.symm⟩
    next => cases pending
  next => cases pending

section
variable {tables : JourneyTables} {input : HandleSendInput} {row : EnrollmentRow} {send : OpenSend}

section
variable (parked : Parked environment tables input row send)
include parked

theorem Parked.cursor :
    row.currentStepId = some input.stepId ∧ row.stepSequence = input.stepSequence :=
  pendingSend_some parked.pending

theorem Parked.described : describe tables input.enrollmentId = .ok (view row) := by
  unfold describe
  rw [parked.found]
  rfl

theorem Parked.viewed :
    (view row).currentStepId = some input.stepId ∧ (view row).stepSequence = input.stepSequence := by
  refine ⟨?_, parked.cursor.2⟩
  show givenText row.currentStepId = some input.stepId
  rw [parked.cursor.1]
  simp [givenText, parked.given]

theorem Parked.defined :
    environment.definitions (row.journeyId.getD "") row.journeyVersion = some send.definition := by
  have published := parked.published
  unfold publishedGraph at published
  obtain ⟨snapshot, found, published⟩ := bind_ok published
  have written := rest_ok published
  cases written
  exact orFail_ok.mp found

/-- The call sees the step, and what it goes on with is up to the scope. -/
theorem Parked.opens (scope : ScopeAnswer) :
    openSend environment tables input scope = .ok (match scope with
      | .deny reasonCode => .ending (.scopeDenied reasonCode)
      | .defer => .answered (.scopeDeferred (view row))
      | .allow => .authorizing send) := by
  have stands : ¬ ((view row).currentStepId ≠ some input.stepId ∨
      (view row).stepSequence ≠ input.stepSequence) := by
    rw [not_or, not_not, not_not]
    exact parked.viewed
  have defined : environment.definitions (view row).journeyId (view row).journeyVersion =
      some send.definition := parked.defined
  unfold openSend
  rw [parked.described]
  simp only [bind, Except.bind, if_neg stands, defined, orFail, parked.step]
  cases scope <;> rfl

theorem Parked.sends :
    ∃ id channel contentRef next,
      send.definition.graph.stepOf input.stepId = some (.send id channel contentRef next) := by
  have step := parked.step
  unfold sendStepOf at step
  split at step
  next id channel contentRef next found => exact ⟨id, channel, contentRef, next, found⟩
  next => cases step

end

theorem runStep_succeeds {seen : EnrollmentRow} {step : Definition.JourneyGraphStep}
    {startedAt : Instant} {input : AdvanceInput} {outcome : StepRunOutcome} {move : CursorMove}
    (found : tables.findEnrollment seen.id = some seen) (alive : seen.runState ≠ .terminal)
    (last : ∀ run ∈ stepRunsOf tables seen.id, run.stepSequence ≠ seen.stepSequence + 1) :
    ∃ after, runStep tables seen step startedAt input outcome move =
        .ok (after, move.apply (seen.stepSequence + 1) seen) ∧
      after.findEnrollment seen.id = some (move.apply (seen.stepSequence + 1) seen) := by
  have records : ∃ run : StepRunRow, Execution.recordStepRun tables seen (seen.stepSequence + 1) step
      startedAt input outcome = .ok { tables with stepRuns := tables.stepRuns ++ [run] } :=
    ⟨_, bind_ok_iff.mpr ⟨⟨⟩, ensure_ok.mpr last, rfl⟩⟩
  obtain ⟨run, records⟩ := records
  have moves : Execution.moveCursor { tables with stepRuns := tables.stepRuns ++ [run] } seen
      (seen.stepSequence + 1) move = .ok (_, move.apply (seen.stepSequence + 1) seen) :=
    bind_ok_iff.mpr ⟨seen, orFail_ok.mpr found,
      bind_ok_iff.mpr ⟨⟨⟩, ensure_ok.mpr ⟨rfl, alive⟩, rfl⟩⟩
  refine ⟨_, bind_ok_iff.mpr ⟨_, records, moves⟩, ?_⟩
  have keeps : ∀ row : EnrollmentRow, (move.apply (seen.stepSequence + 1) row).id = row.id :=
    fun _ => rfl
  rw [findEnrollment_updateEnrollment _ _ _ keeps]
  have same : JourneyTables.findEnrollment { tables with stepRuns := tables.stepRuns ++ [run] } seen.id =
      some seen := found
  rw [same]
  exact congrArg some (if_pos rfl)

end

section
variable {input : HandleSendInput} {row : EnrollmentRow} {send : OpenSend}

section
variable (parked : Parked environment store.tables input row send)
include parked

theorem Parked.completes (now : Instant) :
    ∃ after enrollment, completeStep environment store input now = .ok (after, enrollment) ∧
      StepDone after.tables input ∧ after.outbox = store.outbox := by
  obtain ⟨id, channel, contentRef, next, step⟩ := parked.sends
  have isRow : row.id = input.enrollmentId := findEnrollment_id parked.found
  have atCursor := parked.cursor.2
  have runs : ∃ after, runStep store.tables row (.send id channel contentRef next) now
        ⟨input.correlationId, givenText input.causationId, fun _ => none⟩
        ⟨.completed, some next, none⟩ ⟨.running, next, none, false⟩ =
          .ok (after, CursorMove.apply ⟨.running, next, none, false⟩ (row.stepSequence + 1) row) ∧
      after.findEnrollment row.id =
        some (CursorMove.apply ⟨.running, next, none, false⟩ (row.stepSequence + 1) row) := by
    refine runStep_succeeds (by rw [isRow]; exact parked.found) parked.alive ?_
    rw [atCursor]
    exact parked.last
  obtain ⟨after, ran, found⟩ := runs
  have completed : ∃ outcome, completeSend send.definition now
      ⟨input.correlationId, givenText input.causationId, fun _ => none⟩ store.tables row
      (pendingSend store.tables row) = .ok (after, outcome) := by
    unfold completeSend
    rw [if_neg parked.alive, parked.pending]
    refine ⟨.advanced id next (view (CursorMove.apply ⟨.running, next, none, false⟩
      (row.stepSequence + 1) row)),
      bind_ok_iff.mpr ⟨(input.stepId, input.stepSequence), rfl, ?_⟩⟩
    refine bind_ok_iff.mpr ⟨_, orFail_ok.mpr step, ?_⟩
    exact bind_ok_iff.mpr ⟨_, ran, rfl⟩
  obtain ⟨outcome, completed⟩ := completed
  refine ⟨_, _, bind_ok_iff.mpr ⟨row, orFail_ok.mpr parked.found,
    bind_ok_iff.mpr ⟨_, parked.published, bind_ok_iff.mpr ⟨_, completed, rfl⟩⟩⟩, ?_, rfl⟩
  exact ⟨_, isRow ▸ found, congrArg (fun sequence => sequence + 1) atCursor⟩

theorem Parked.finishes (ending : SendEnding) (now : Instant) :
    ∃ after enrollment, finish environment store input ending now = .ok (after, ending.result enrollment) ∧
      StepDone after.tables input ∧ after.outbox = store.outbox := by
  obtain ⟨after, enrollment, completed, done, outbox⟩ := parked.completes now
  refine ⟨after, enrollment, ?_, done, outbox⟩
  unfold finish
  rw [completed]

theorem Parked.open : ¬ StepDone store.tables input := by
  rintro ⟨other, found, left⟩
  rw [parked.found] at found
  cases found
  rw [parked.cursor.2] at left
  exact Nat.ne_of_lt (Nat.lt_succ_self _) left

end

end

variable {send : OpenSend}

theorem authorizeSend_ok {input : HandleSendInput}
    {ids : Governance.AuthorizationIds} {result : SendStore × Except String String}
    (ok : authorizeSend environment store input send ids now = .ok result) :
    result.1.tables = store.tables ∧ result.1.outbox = store.outbox := by
  unfold authorizeSend at ok
  obtain ⟨authorized, -, written⟩ := bind_ok ok
  cases written
  exact ⟨rfl, rfl⟩

/-- Queueing adds at most the entry of its own command. -/
theorem enqueue_ok {result : SendStore × QueuedDelivery}
    (ok : enqueue environment store command now entryId = .ok result) :
    result.1.tables = store.tables ∧
      ((result.1.outbox = store.outbox ∧
          ∃ entry, findByActionKey store.outbox command.actionKey = some entry) ∨
        ∃ entry : DlOutboxEntry, entry.command.actionKey = command.actionKey ∧
          entryTaken store.outbox entry = false ∧ result.1.outbox = store.outbox ++ [entry]) := by
  unfold enqueue at ok
  obtain ⟨queued, replays, ok⟩ := bind_ok ok
  obtain ⟨-, ⟨-, rfl⟩ | ⟨entry, found, -, -, rfl⟩⟩ := replay_ok.mp replays
  · obtain ⟨claimed, claims, ok⟩ := bind_ok ok
    obtain ⟨tables, outbox⟩ := claimForDelivery_ok claims
    unfold createEntry at ok
    obtain ⟨_, free, written⟩ := bind_ok ok
    rw [ensure_ok] at free
    cases written
    rw [outbox] at free
    exact ⟨tables, .inr ⟨_, rfl, free, congrArg (fun entries => entries ++ [_]) outbox⟩⟩
  · cases ok
    exact ⟨rfl, .inl ⟨rfl, entry, found⟩⟩

section
variable {call : SendCall} {row : EnrollmentRow}

theorem Parked.delivers (parked : Parked environment store.tables call.input row send)
    (reservationId : String) :
    (∃ after result, deliver environment call store send reservationId = .ok (after, result) ∧
        StepDone after.tables call.input) ↔
      Deliverable environment store
        (deliveryCommand environment call.input send reservationId call.leasedAt) call.claimedAt
        call.entryId := by
  have alive : ¬ (view row).runState = .terminal := parked.alive
  have tenant : (deliveryCommand environment call.input send reservationId call.leasedAt).tenantId =
      environment.tenantId := rfl
  rw [← enqueue_succeeds tenant]
  unfold deliver
  rw [parked.described]
  simp only [bind, Except.bind, if_neg alive]
  constructor
  · rintro ⟨after, result, ok, -⟩
    obtain ⟨queued, queues, -⟩ := bind_ok ok
    exact ⟨queued, queues⟩
  · rintro ⟨queued, queues⟩
    have still : Parked environment queued.1.tables call.input row send := by
      rw [(enqueue_ok queues).1]
      exact parked
    obtain ⟨after, enrollment, finishes, done, -⟩ := still.finishes .sent call.startedAt
    exact ⟨after, _, bind_ok_iff.mpr ⟨queued, queues, finishes⟩, done⟩

/-- The call completes the step exactly if nothing is in the way of its delivery. -/
theorem Parked.completes_iff (parked : Parked environment store.tables call.input row send) :
    Completes environment call store ↔ Resumable environment call store send := by
  unfold Completes handleSend
  rw [parked.opens call.scope]
  cases scope : call.scope with
  | deny reasonCode =>
      obtain ⟨after, enrollment, finishes, done, -⟩ :=
        parked.finishes (.scopeDenied reasonCode) call.startedAt
      exact ⟨fun _ => .denied reasonCode scope, fun _ => ⟨after, _, finishes, done⟩⟩
  | defer =>
      constructor
      · rintro ⟨after, result, ok, done⟩
        cases ok
        exact absurd done parked.open
      · rintro (⟨reasonCode, denied⟩ | ⟨reasonCode, after, allowed⟩ | ⟨reservationId, after, allowed⟩)
        · cases scope.symm.trans denied
        · cases scope.symm.trans allowed
        · cases scope.symm.trans allowed
  | allow =>
      constructor
      · rintro ⟨after, result, ok, done⟩
        obtain ⟨_, opens, ok⟩ := bind_ok ok
        cases opens
        obtain ⟨⟨middle, answer⟩, authorized, ok⟩ := bind_ok ok
        cases answer with
        | error reasonCode => exact .suppressed reasonCode middle scope authorized
        | ok reservationId =>
            have still : Parked environment middle.tables call.input row send := by
              rw [(authorizeSend_ok authorized).1]
              exact parked
            exact .reserved reservationId middle scope authorized
              ((still.delivers reservationId).mp ⟨after, result, ok, done⟩)
      · rintro (⟨reasonCode, denied⟩ | ⟨reasonCode, middle, -, authorized⟩ |
          ⟨reservationId, middle, -, authorized, deliverable⟩)
        · cases scope.symm.trans denied
        · have still : Parked environment middle.tables call.input row send := by
            rw [(authorizeSend_ok authorized).1]
            exact parked
          obtain ⟨after, enrollment, finishes, done, -⟩ :=
            still.finishes (.suppressed reasonCode) call.startedAt
          exact ⟨after, _, bind_ok_iff.mpr ⟨_, rfl, bind_ok_iff.mpr ⟨_, authorized, finishes⟩⟩,
            done⟩
        · have still : Parked environment middle.tables call.input row send := by
            rw [(authorizeSend_ok authorized).1]
            exact parked
          obtain ⟨after, result, delivers, done⟩ := (still.delivers reservationId).mpr deliverable
          exact ⟨after, result, bind_ok_iff.mpr ⟨_, rfl, bind_ok_iff.mpr ⟨_, authorized, delivers⟩⟩,
            done⟩

end

variable {result : SendCompositionResult}

section
variable {session : SendSession} {pid : Nat} {after : SendStore} {work rest : SendWork}

theorem resume_goesOn (turn : SendTurn)
    (performs : work.perform environment store turn = .ok (after, some rest)) :
    (sends environment).Reaches (session.resume pid store work) (session.resume pid after rest) := by
  refine .single ⟨.perform pid turn, ?_⟩
  show next environment _ _ = _
  simp only [SendSession.next, resume, Session.find_replace, performs, Session.replace_replace]

theorem resume_leaves (turn : SendTurn)
    (performs : work.perform environment store turn = .ok (after, none)) :
    (sends environment).Reaches (session.resume pid store work) (session.leave pid after) := by
  refine .single ⟨.perform pid turn, ?_⟩
  show next environment _ _ = _
  simp only [SendSession.next, resume, Session.find_replace, performs, leave, Session.drop_replace]

theorem finish_reaches {input : HandleSendInput} {ending : SendEnding} (turn : SendTurn)
    (finishes : finish environment store input ending turn.now = .ok (after, result)) :
    (sends environment).Reaches (session.resume pid store (.finishing input ending))
      (session.leave pid after) :=
  resume_leaves turn (bind_ok_iff.mpr ⟨_, finishes, rfl⟩)

end

/-- The host of a call that is not interrupted, at one of its clocks. -/
def SendCall.turn (call : SendCall) (now : Instant) : SendTurn := ⟨now, call.ids, call.entryId⟩

variable {session : SendSession} {after : SendStore} {call : SendCall}

theorem deliver_reaches {pid : Nat} {reservationId : String}
    (delivers : deliver environment call store send reservationId = .ok (after, result)) :
    (sends environment).Reaches
      (session.resume pid store (.reserved call.input send reservationId))
      (session.leave pid after) := by
  unfold deliver at delivers
  obtain ⟨fresh, describes, delivers⟩ := bind_ok delivers
  have reads : SendWork.perform environment store (call.turn call.leasedAt)
      (.reserved call.input send reservationId) = .ok (store, some _) :=
    bind_ok_iff.mpr ⟨fresh, describes, rfl⟩
  refine (resume_goesOn (call.turn call.leasedAt) reads).trans ?_
  split at delivers
  next isOver =>
    rw [if_pos isOver]
    obtain ⟨released, releases, written⟩ := bind_ok delivers
    cases written
    exact resume_leaves (call.turn call.claimedAt) (bind_ok_iff.mpr ⟨_, releases, rfl⟩)
  next alive =>
    rw [if_neg alive]
    obtain ⟨enqueued, enqueues, finishes⟩ := bind_ok delivers
    unfold enqueue at enqueues
    obtain ⟨queued, replays, enqueues⟩ := bind_ok enqueues
    have looks : SendWork.perform environment store (call.turn call.leasedAt)
        (.enqueuing call.input
          (deliveryCommand environment call.input send reservationId call.leasedAt)) =
          .ok (store, some _) :=
      bind_ok_iff.mpr ⟨queued, replays, rfl⟩
    refine (resume_goesOn (call.turn call.leasedAt) looks).trans ?_
    cases queued with
    | some queued =>
        cases enqueues
        exact finish_reaches (call.turn call.startedAt) finishes
    | none =>
        obtain ⟨claimed, claims, creates⟩ := bind_ok enqueues
        have takes : SendWork.perform environment store (call.turn call.claimedAt)
            (.claiming call.input
              (deliveryCommand environment call.input send reservationId call.leasedAt)) =
              .ok (claimed.1, some _) :=
          bind_ok_iff.mpr ⟨claimed, claims, rfl⟩
        have inserts : SendWork.perform environment claimed.1 (call.turn call.claimedAt)
            (.claimed call.input
              (deliveryCommand environment call.input send reservationId call.leasedAt) claimed.2) =
              .ok (enqueued.1, some _) :=
          bind_ok_iff.mpr ⟨enqueued, creates, rfl⟩
        refine (resume_goesOn (call.turn call.claimedAt) takes).trans ?_
        refine (resume_goesOn (call.turn call.claimedAt) inserts).trans ?_
        exact finish_reaches (call.turn call.startedAt) finishes

/-- A call that is not interrupted is a run of one worker. -/
theorem handleSend_reaches (pid : Nat)
    (handles : handleSend environment call session.store = .ok (after, result)) :
    (sends environment).Reaches session (session.leave pid after) := by
  unfold handleSend at handles
  obtain ⟨opened, opens, handles⟩ := bind_ok handles
  have first : (sends environment).Next session (match opened with
      | .answered _ => session.leave pid session.store
      | .ending ending => session.resume pid session.store (.finishing call.input ending)
      | .authorizing send => session.resume pid session.store (.authorizing call.input send)) := by
    refine ⟨.open pid call.input call.scope, ?_⟩
    show next environment _ _ = _
    simp only [SendSession.next, opens]
    cases opened <;> rfl
  cases opened with
  | answered result =>
      cases handles
      exact .single first
  | ending ending => exact .head first (finish_reaches (call.turn call.startedAt) handles)
  | authorizing send =>
      refine .head first ?_
      obtain ⟨⟨middle, answer⟩, authorized, handles⟩ := bind_ok handles
      have authorizes : SendWork.perform environment session.store (call.turn call.authorizedAt)
          (.authorizing call.input send) = .ok (middle, some _) :=
        bind_ok_iff.mpr ⟨(middle, answer), authorized, rfl⟩
      refine (resume_goesOn (call.turn call.authorizedAt) authorizes).trans ?_
      cases answer with
      | error reasonCode => exact finish_reaches (call.turn call.startedAt) handles
      | ok reservationId => exact deliver_reaches handles

def OneEntryPerAction (outbox : List DlOutboxEntry) : Prop :=
  (outbox.map fun entry => entry.command.actionKey).Nodup

theorem OneEntryPerAction.created {entry : DlOutboxEntry}
    (one : OneEntryPerAction outbox) (free : entryTaken outbox entry = false) :
    OneEntryPerAction (outbox ++ [entry]) := by
  have keys : (outbox.map fun entry => entry.command.actionKey).Nodup := one
  refine Table.nodup_append keys fun taken => ?_
  obtain ⟨other, mem, same⟩ := mem_map.mp taken
  have apart := any_eq_false.mp free other mem
  simp [same] at apart

/-- What a statement of a worker does to the outbox. -/
theorem SendWork.perform_outbox {work : SendWork} {turn : SendTurn} {rest : Option SendWork}
    (ok : work.perform environment store turn = .ok (after, rest)) (one : OneEntryPerAction store.outbox) :
    OneEntryPerAction after.outbox := by
  cases work with
  | finishing input ending =>
      obtain ⟨finished, finishes, written⟩ := bind_ok ok
      cases written
      unfold finish at finishes
      split at finishes
      next middle enrollment completed =>
        cases finishes
        unfold completeStep at completed
        obtain ⟨_, -, completed⟩ := bind_ok completed
        obtain ⟨_, -, completed⟩ := bind_ok completed
        obtain ⟨_, -, written⟩ := bind_ok completed
        cases written
        exact one
      next =>
        obtain ⟨_, -, written⟩ := bind_ok finishes
        cases written
        exact one
      next => cases finishes
  | authorizing input send =>
      obtain ⟨authorized, authorizes, written⟩ := bind_ok ok
      cases written
      rw [(authorizeSend_ok authorizes).2]
      exact one
  | reserved input send reservationId =>
      obtain ⟨fresh, -, written⟩ := bind_ok ok
      cases written
      exact one
  | releasing input reservationId =>
      obtain ⟨released, releases, written⟩ := bind_ok ok
      cases written
      obtain ⟨_, -, written⟩ := bind_ok releases
      cases written
      exact one
  | enqueuing input command =>
      obtain ⟨queued, -, written⟩ := bind_ok ok
      cases written
      exact one
  | claiming input command =>
      obtain ⟨claimed, claims, written⟩ := bind_ok ok
      cases written
      rw [(claimForDelivery_ok claims).2]
      exact one
  | claimed input command leaseVersion =>
      obtain ⟨created, creates, written⟩ := bind_ok ok
      cases written
      obtain ⟨_, free, written⟩ := bind_ok creates
      rw [ensure_ok] at free
      cases written
      exact one.created free

theorem SendSession.next_outbox {after : SendSession} {step : SendStep}
    (taken : session.next environment step = some after)
    (one : OneEntryPerAction session.store.outbox) : OneEntryPerAction after.store.outbox := by
  cases step with
  | «open» pid input scope =>
      simp only [next] at taken
      split at taken
      all_goals
        cases taken
        exact one
  | perform pid turn =>
      simp only [next] at taken
      split at taken
      next => cases taken
      split at taken
      next =>
        cases taken
        exact one
      next performed =>
        cases taken
        exact SendWork.perform_outbox performed one
      next performed =>
        cases taken
        exact SendWork.perform_outbox performed one
  | stop pid =>
      cases taken
      exact one
  | elsewhere tables governance receipts advance =>
      cases taken
      unfold OneEntryPerAction
      rw [map_map]
      exact one

def SendSession.Single (session : SendSession) : Prop := OneEntryPerAction session.store.outbox

theorem sends_single (reachable : (sends environment).Reachable session) : session.Single := by
  refine reachable.invariant ?_ ?_
  · intro start fresh
    unfold SendSession.Single
    rw [fresh.outbox]
    exact nodup_nil
  · exact fun _ _ _ one taken => next_outbox taken one

theorem OneEntryPerAction.count {actionKey : String} (one : OneEntryPerAction outbox)
    (known : ∃ entry ∈ outbox, entry.command.actionKey = actionKey) :
    outbox.countP (fun entry => entry.command.actionKey = actionKey) = 1 := by
  obtain ⟨entry, mem, isKey⟩ := known
  have counted : (outbox.map fun entry => entry.command.actionKey).count actionKey = 1 :=
    count_eq_one_of_mem one (mem_map.mpr ⟨entry, mem, isKey⟩)
  rw [List.count, countP_map] at counted
  exact counted

theorem enqueue_count {result : SendStore × QueuedDelivery} (one : OneEntryPerAction store.outbox)
    (ok : enqueue environment store command now entryId = .ok result) :
    result.1.outbox.countP (fun entry => entry.command.actionKey = command.actionKey) = 1 := by
  rcases (enqueue_ok ok).2 with ⟨same, entry, found⟩ | ⟨entry, isKey, free, created⟩
  · rw [same]
    refine one.count ⟨entry, mem_of_find?_eq_some found, ?_⟩
    simpa using find?_some found
  · rw [created]
    exact (one.created free).count ⟨entry, mem_append_right _ mem_cons_self, isKey⟩

theorem handleSend_sent {row : EnrollmentRow} {enrollment : EnrollmentView}
    (parked : Parked environment store.tables call.input row send)
    (one : OneEntryPerAction store.outbox)
    (ok : handleSend environment call store = .ok (after, .sent enrollment)) :
    after.outbox.countP (fun entry => entry.command.actionKey = actionKeyOf call.input) = 1 := by
  unfold handleSend at ok
  rw [parked.opens call.scope] at ok
  obtain ⟨_, opens, ok⟩ := bind_ok ok
  cases opens
  cases scope : call.scope with
  | deny reasonCode =>
      rw [scope] at ok
      obtain ⟨other, view, finishes, -⟩ := parked.finishes (.scopeDenied reasonCode) call.startedAt
      cases finishes.symm.trans ok
  | defer =>
      rw [scope] at ok
      cases ok
  | allow =>
      rw [scope] at ok
      obtain ⟨⟨middle, answer⟩, authorized, ok⟩ := bind_ok ok
      have kept := authorizeSend_ok authorized
      have still : Parked environment middle.tables call.input row send := by
        rw [kept.1]
        exact parked
      cases answer with
      | error reasonCode =>
          obtain ⟨other, view, finishes, -⟩ := still.finishes (.suppressed reasonCode) call.startedAt
          cases finishes.symm.trans ok
      | ok reservationId =>
          have alive : ¬ (view row).runState = .terminal := parked.alive
          unfold deliver at ok
          dsimp only at ok
          rw [still.described] at ok
          simp only [bind, Except.bind, if_neg alive] at ok
          obtain ⟨queued, queues, finished⟩ := bind_ok ok
          have oneMiddle : OneEntryPerAction middle.outbox := by
            rw [kept.2]
            exact one
          have queuedParked : Parked environment queued.1.tables call.input row send := by
            rw [(enqueue_ok queues).1]
            exact still
          obtain ⟨other, view, finishes, -, outbox⟩ := queuedParked.finishes .sent call.startedAt
          cases finishes.symm.trans finished
          rw [outbox]
          exact enqueue_count oneMiddle queues

/-- In every state that any interleaving of calls, crashes and other work reaches, an action has at
most one entry in the outbox. A call for a step that is parked completes it exactly if nothing is in
the way of its delivery, and the delivery that it has sent then is the only one. -/
theorem send_retries_complete {session : SendSession}
    (reachable : (sends environment).Reachable session) :
    OneEntryPerAction session.store.outbox ∧
      ∀ call row send, Parked environment session.store.tables call.input row send →
        (Completes environment call session.store ↔ Resumable environment call session.store send) ∧
        ∀ after enrollment,
          handleSend environment call session.store = .ok (after, .sent enrollment) →
            after.outbox.countP (fun entry => entry.command.actionKey = actionKeyOf call.input) = 1 := by
  refine ⟨sends_single reachable, ?_⟩
  intro call row send parked
  exact ⟨parked.completes_iff, fun _ _ => handleSend_sent parked (sends_single reachable)⟩

def sendJourney : Definition.JourneyVersionSnapshot where
  name := "greeting"
  ownerTeamId := "service"
  purpose := "MARKETING"
  senderIdentityId := "sender"
  trigger := .event "arrived"
  graph := { entryStepId := "greet"
             steps := [.send "greet" .line "content:greeting" "done", .exit "done" "finished"] }
  goal := ⟨"goal"⟩
  exitRules := [.goal]
  maxDurationDays := 7
  journeyId := "journey"
  version := 1
  status := .published

/-- Digests that tell leases apart. -/
def sampleEnvironment : SendEnvironment where
  tenantId := "tenant"
  tenantGiven := by decide
  definitions _ _ := some sendJourney
  engine := Governance.sampleEngine
  runtime :=
    { inputHash := fun command =>
        match command.operation with
        | .claim binding (some leaseExpiresAt) => binding.deliveryId ++ toString leaseExpiresAt
        | _ => ""
      settlementPolicy := fun _ _ _ => none }
  digest command := toString command.leaseExpiresAt
  sha256 text := String.ofList text.toList.reverse

def noon : Instant := Governance.dateUtc 2026 12 25 5 0

def parkedRow : EnrollmentRow :=
  { runningEnrollment 0 "enrollment" (.eventInbox "enrollment") sendJourney "journey" 1 "correlation" with
    stepSequence := 1 }

/-- The greeting waits to be sent to a contact that has consented. -/
def parkedSession : SendSession where
  store :=
    { tables := { JourneyTables.empty with
        enrollments := [parkedRow]
        stepRuns := [{ enrollmentId := "enrollment", stepSequence := 1, stepId := "greet",
                       stepType := "SEND", state := .awaitingSend, nextStepId := some "done",
                       branchResult := none, correlationId := "correlation", causationId := none,
                       startedAt := 0 }] }
      governance := { Governance.christmasStore with
        tables := { Governance.christmasTables with activeTeams := ["service"] } }
      receipts := []
      outbox := [] }
  workers := []

theorem parkedSession_fresh : parkedSession.Fresh := ⟨rfl, rfl⟩

def sampleSend : HandleSendInput := ⟨"enrollment", "greet", 1, ⟨"contact", none⟩, "correlation", none⟩

def openGreeting : OpenSend := ⟨sendJourney, .line, "content:greeting"⟩

def callAt (now : Instant) : SendCall :=
  ⟨sampleSend, .allow, Governance.sampleIds "call", "entry", now, now, now, now⟩

def turnAt (now : Instant) : SendTurn := ⟨now, Governance.sampleIds "call", "entry"⟩

/-- At noon a call that nobody interrupts sends the greeting. -/
theorem uninterrupted_call_is_run :
    ∃ after, (sends sampleEnvironment).Reachable (parkedSession.leave 1 after) ∧
      after.outbox.length = 1 := by
  have sent : succeedsWith (handleSend sampleEnvironment (callAt noon) parkedSession.store)
      (fun result => decide (result.1.outbox.length = 1)) = true := by decide +kernel
  obtain ⟨⟨after, _⟩, handles, queued⟩ := of_succeedsWith sent
  have fresh : (sends sampleEnvironment).Reachable parkedSession := .of_init parkedSession_fresh
  exact ⟨after, fresh.reaches (handleSend_reaches 1 handles), of_decide_eq_true queued⟩

/-- A worker authorizes the contact, finds no delivery and is about to claim the reservation. -/
def beforeClaim : List SendStep :=
  [.open 1 sampleSend .allow, .perform 1 (turnAt noon), .perform 1 (turnAt noon),
    .perform 1 (turnAt noon)]

/-- What the tests below see of the parked step. -/
def stillParked (store : SendStore) : Bool :=
  decide (store.tables.findEnrollment "enrollment" = some parkedRow) &&
    decide (pendingSend store.tables parkedRow = some ("greet", 1)) &&
    decide (∀ run ∈ stepRunsOf store.tables "enrollment", run.stepSequence ≠ 2)

theorem parked_of_stillParked (still : stillParked store = true) (now : Instant) :
    Parked sampleEnvironment store.tables (callAt now).input parkedRow openGreeting := by
  simp only [stillParked, Bool.and_eq_true, decide_eq_true_eq] at still
  obtain ⟨⟨found, pending⟩, last⟩ := still
  have given : sampleSend.stepId ≠ "" := by decide
  exact ⟨given, found, by decide, pending, last, rfl, rfl⟩

/-- The call of another worker in the same millisecond completes the step. -/
theorem send_retries_complete_at_once :
    ∃ session call row send, (sends sampleEnvironment).Reachable session ∧
      Parked sampleEnvironment session.store.tables call.input row send ∧
      (Completes sampleEnvironment call session.store ↔
        Resumable sampleEnvironment call session.store send) ∧
      Completes sampleEnvironment call session.store := by
  have ends : System.endsWith (next sampleEnvironment) parkedSession beforeClaim
      (.perform 1 (turnAt noon)) (fun _ after => stillParked after.store &&
        succeedsWith (handleSend sampleEnvironment (callAt noon) after.store) fun result =>
          decide ((result.1.tables.findEnrollment "enrollment").map (fun row => row.stepSequence) =
            some 2)) = true := by decide +kernel
  obtain ⟨before, after, reachable, last, test⟩ := System.Reachable.endsWith parkedSession_fresh ends
  rw [Bool.and_eq_true] at test
  obtain ⟨⟨final, result⟩, handles, done⟩ := of_succeedsWith test.2
  obtain ⟨row, found, left⟩ := Option.map_eq_some_iff.mp (of_decide_eq_true done)
  have parked := parked_of_stillParked test.1 noon
  have arrives := System.Reachable.step reachable last
  exact ⟨after, callAt noon, parkedRow, openGreeting, arrives, parked,
    ((send_retries_complete arrives).2 _ _ _ parked).1, final, result, handles, row, found, left⟩

/-- A worker stops after the claim, and the call of another one a millisecond later is refused. -/
theorem send_retries_are_refused :
    ¬ ∀ session, (sends sampleEnvironment).Reachable session → ∀ call row send,
      Parked sampleEnvironment session.store.tables call.input row send → call.scope = .allow →
        call.input = sampleSend → Completes sampleEnvironment call session.store := by
  intro completes
  have ends : System.endsWith (next sampleEnvironment) parkedSession beforeClaim
      (.perform 1 (turnAt noon)) (fun _ after => stillParked after.store &&
        !succeedsWith (handleSend sampleEnvironment (callAt (noon + 1)) after.store) fun _ => true) =
      true := by decide +kernel
  obtain ⟨before, after, reachable, last, test⟩ := System.Reachable.endsWith parkedSession_fresh ends
  rw [Bool.and_eq_true, Bool.not_eq_true'] at test
  obtain ⟨final, result, handles, -⟩ := completes after (System.Reachable.step reachable last)
    (callAt (noon + 1)) parkedRow openGreeting (parked_of_stillParked test.1 (noon + 1)) rfl rfl
  rw [handles] at test
  cases test.2

end DContact.Journey.Send

import DContact.Governance.ReservationSafety
import DContact.Lib.Sessions

/-!
# Runtime commands against the expiry sweep

Transactions run at READ COMMITTED: a statement sees what was committed when it
started. A runtime command takes the advisory lock of its reservation, reads the
row without locking it, plans, and updates the row by its identifier alone. The
sweep takes no advisory lock; it locks expired rows that nobody else has locked,
releases them and commits. The update of a command waits for a row lock and then
applies to the row as it is by then, so a sweep may commit between the read and
the update.
-/

namespace DContact.Governance

open Lib List Session

/-- How far a transaction has come. -/
inductive RuntimeWork where
  | reading (command : RuntimeCommand) (now : Instant)
  | planning (command : RuntimeCommand) (now : Instant) (row : ReservationRow)
  | planned (command : RuntimeCommand) (row : ReservationRow) (plan : Plan)
  | written (command : RuntimeCommand) (row : ReservationRow) (plan : Plan)
  | sweeping (tenantId : String) (now : Instant) (limit : Nat) (locked : List String)

def RuntimeWork.advisoryLock : RuntimeWork → Option (String × String)
  | .reading command _ | .planning command _ _ | .planned command _ _ | .written command _ _ =>
      some (command.tenantId, command.reservationId)
  | .sweeping .. => none

/-- Whether the transaction holds the lock of the row with an identifier. -/
def RuntimeWork.rowLock (reservationId : String) : RuntimeWork → Bool
  | .written _ row plan => plan.update.isSome && row.id == reservationId
  | .sweeping _ _ _ locked => locked.contains reservationId
  | _ => false

/-- Committed rows, transactions in flight and, for the statements below only, the
reservations that some sweep has released. -/
structure SweepState where
  store : RuntimeStore
  sessions : List (Session RuntimeWork)
  swept : List String

/-- The rows which the sweep selects. -/
def ReservationRow.expired (row : ReservationRow) (tenantId : String) (now : Instant) : Bool :=
  row.tenantId == tenantId && decide (row.state = .reserved) &&
    row.submissionStartedAt.isNone && row.providerRequestKey.isNone &&
    (decide (row.status = .unclaimed) || decide (row.status = .claimed)) &&
    decide (row.leaseExpiresAt.getD row.expiresAt ≤ now)

inductive SweepStep where
  | start (pid : Nat) (command : RuntimeCommand) (now : Instant)
  | read (pid : Nat)
  | plan (pid : Nat)
  | write (pid : Nat)
  | commit (pid : Nat) (attemptId touchId : String)
  | startSweep (pid : Nat) (tenantId : String) (limit : Nat) (now : Instant)
  | lockExpired (pid : Nat) (reservationId : String)
  | commitSweep (pid : Nat)
  | abort (pid : Nat)

def SweepState.moveTo (state : SweepState) (pid : Nat) (work : RuntimeWork) : SweepState :=
  { state with sessions := Session.replace state.sessions pid work }

/-- The transaction ends and gives up its locks. -/
def SweepState.finish (state : SweepState) (pid : Nat) (store : RuntimeStore) : SweepState :=
  { state with store := store, sessions := Session.drop state.sessions pid }

/-- The advisory locks come first and last until the transaction ends. -/
def startCommand (state : SweepState) (pid : Nat) (command : RuntimeCommand) (now : Instant) :
    Option SweepState :=
  if (Session.find state.sessions pid).isSome || decide (command.tenantId = "") ||
      (parseTimestamps command.operation).toOption.isNone ||
      Session.others state.sessions pid (fun work =>
        work.advisoryLock == some (command.tenantId, command.reservationId)) then
    none
  else
    some (state.moveTo pid (.reading command now))

/-- A stored receipt answers the command; otherwise the row is read, not locked. -/
def readReservation (state : SweepState) (pid : Nat) (command : RuntimeCommand) (now : Instant) :
    Option SweepState :=
  match findReceipt state.store command with
  | some _ => some (state.finish pid state.store)
  | none =>
      match findReservation state.store command.tenantId command.reservationId with
      | none => none
      | some row =>
          if row.actionKey ≠ command.actionKey then none
          else some (state.moveTo pid (.planning command now row))

def planCommand (options : RuntimeOptions) (state : SweepState) (pid : Nat)
    (command : RuntimeCommand) (now : Instant) (row : ReservationRow) : Option SweepState :=
  match Governance.plan options state.store row command.operation now with
  | .error _ => none
  | .ok plan => some (state.moveTo pid (.planned command row plan))

/-- `UPDATE ... WHERE id = ...` waits for the row lock and checks nothing else. -/
def writeRow (state : SweepState) (pid : Nat) (command : RuntimeCommand) (row : ReservationRow)
    (plan : Plan) : Option SweepState :=
  if plan.update.isSome && Session.others state.sessions pid (RuntimeWork.rowLock row.id) then none
  else some (state.moveTo pid (.written command row plan))

/-- The update is applied to the row as committed, which the row lock protects. -/
def commitCommand (options : RuntimeOptions) (state : SweepState) (pid : Nat)
    (command : RuntimeCommand) (row : ReservationRow) (plan : Plan)
    (attemptId touchId : String) : Option SweepState :=
  match findReservation state.store row.tenantId row.id with
  | none => none
  | some current =>
      match writePlan options state.store command current plan attemptId touchId with
      | .error _ => none
      | .ok (after, _) => some (state.finish pid after)

def startSweep (state : SweepState) (pid : Nat) (tenantId : String) (limit : Nat)
    (now : Instant) : Option SweepState :=
  if (Session.find state.sessions pid).isSome || decide (limit < 1) || decide (500 < limit) then none
  else some (state.moveTo pid (.sweeping tenantId now limit []))

/-- `FOR UPDATE SKIP LOCKED` takes rows that are expired as committed and unlocked. -/
def lockExpired (state : SweepState) (pid : Nat) (tenantId : String) (now : Instant)
    (limit : Nat) (locked : List String) (reservationId : String) : Option SweepState :=
  match findReservation state.store tenantId reservationId with
  | none => none
  | some row =>
      if row.expired tenantId now && decide (locked.length < limit) &&
          !Session.others state.sessions pid (RuntimeWork.rowLock reservationId) then
        some (state.moveTo pid (.sweeping tenantId now limit (reservationId :: locked)))
      else
        none

def releaseRows (now : Instant) (locked : List String) (rows : List ReservationRow) :
    List ReservationRow :=
  rows.map fun row => if locked.contains row.id then (RowUpdate.release now).apply row else row

def commitSweep (state : SweepState) (pid : Nat) (now : Instant) (locked : List String) :
    SweepState :=
  { state.finish pid { state.store with
      reservations := releaseRows now locked state.store.reservations } with
    swept := locked ++ state.swept }

/-- One statement of one transaction. A statement that fails or has to wait is no
step; a transaction may end without effect at any time. -/
def SweepState.next (options : RuntimeOptions) (state : SweepState) : SweepStep → Option SweepState
  | .start pid command now => startCommand state pid command now
  | .read pid =>
      match Session.find state.sessions pid with
      | some (.reading command now) => readReservation state pid command now
      | _ => none
  | .plan pid =>
      match Session.find state.sessions pid with
      | some (.planning command now row) => planCommand options state pid command now row
      | _ => none
  | .write pid =>
      match Session.find state.sessions pid with
      | some (.planned command row plan) => writeRow state pid command row plan
      | _ => none
  | .commit pid attemptId touchId =>
      match Session.find state.sessions pid with
      | some (.written command row plan) =>
          commitCommand options state pid command row plan attemptId touchId
      | _ => none
  | .startSweep pid tenantId limit now => startSweep state pid tenantId limit now
  | .lockExpired pid reservationId =>
      match Session.find state.sessions pid with
      | some (.sweeping tenantId now limit locked) =>
          lockExpired state pid tenantId now limit locked reservationId
      | _ => none
  | .commitSweep pid =>
      match Session.find state.sessions pid with
      | some (.sweeping _ now _ locked) => some (commitSweep state pid now locked)
      | _ => none
  | .abort pid => some (state.finish pid state.store)

/-- Any interleaving, from any set of reservations that no command has touched. -/
def sweepSystem (options : RuntimeOptions) : System SweepState SweepStep :=
  System.ofNext
    (fun state => (runtimeSystem options).init state.store ∧ state.sessions = [] ∧ state.swept = [])
    (SweepState.next options)

/-- Updates that are planned only for a row behind the submission barrier. -/
def RowUpdate.needsBarrier : RowUpdate → Bool
  | .confirm _ | .reconcile | .settle .. => true
  | _ => false

def RowUpdate.begins : RowUpdate → Bool
  | .beginSubmission .. => true
  | _ => false

/-- Updates which commands make; a direct change of state is none of them. -/
def RowUpdate.byCommand : RowUpdate → Bool
  | .transition .. => false
  | _ => true

variable {store : RuntimeStore} {row : ReservationRow} {update : RowUpdate}

theorem Planned.byCommand (planned : Planned store row update) : update.byCommand = true := by
  cases planned <;> rfl

theorem Planned.barrier (planned : Planned store row update) (needs : update.needsBarrier = true) :
    row.submissionStartedAt.isSome = true := by
  cases planned with
  | confirm barrier => exact barrier
  | reconcile barrier => exact barrier
  | settle barrier => exact barrier
  | _ => cases needs

def BarrierStands (rows : List ReservationRow) (row : ReservationRow) : Prop :=
  ∀ current ∈ rows, current.id = row.id → current.submissionStartedAt.isSome = true

def PlanSound (rows : List ReservationRow) (row : ReservationRow) (plan : Plan) : Prop :=
  ∀ update, plan.update = some update → update.byCommand = true ∧
    (update.needsBarrier = true → BarrierStands rows row)

/-- What holds of the committed rows because of one transaction in flight. -/
def RuntimeWork.Sound (rows : List ReservationRow) : RuntimeWork → Prop
  | .reading .. => True
  | .planning _ _ row => row.submissionStartedAt.isSome = true → BarrierStands rows row
  | .planned _ row plan => PlanSound rows row plan
  | .written _ row plan => PlanSound rows row plan ∧
      ∀ update, plan.update = some update → update.begins = true →
        ∀ current ∈ rows, current.id = row.id → current.state = .reserved
  | .sweeping _ _ _ locked => ∀ current ∈ rows, current.id ∈ locked →
      current.state = .reserved ∧ current.submissionStartedAt = none

def NeverHandedOver (row : ReservationRow) : Prop :=
  row.state = .released ∧ row.submissionStartedAt = none ∧ row.status ≠ .unknownReconciling

structure SweepSafe (state : SweepState) : Prop where
  distinct : (state.store.reservations.map ReservationRow.id).Nodup
  swept : ∀ row ∈ state.store.reservations, row.id ∈ state.swept → NeverHandedOver row
  sessions : ∀ session ∈ state.sessions, session.work.Sound state.store.reservations
  exclusive : ∀ left ∈ state.sessions, ∀ right ∈ state.sessions, left.pid ≠ right.pid →
    ∀ reservationId, left.work.rowLock reservationId = true →
      right.work.rowLock reservationId = false

variable {state : SweepState} {pid : Nat} {work : RuntimeWork}

/-- A transaction that moves on without touching rows keeps the state safe when its
new work is sound and takes only free locks. -/
theorem SweepSafe.moveTo (safe : SweepSafe state) (sound : work.Sound state.store.reservations)
    (free : ∀ reservationId, work.rowLock reservationId = true →
      Session.others state.sessions pid (RuntimeWork.rowLock reservationId) = false) :
    SweepSafe (state.moveTo pid work) := by
  refine ⟨safe.distinct, safe.swept, forall_replace safe.sessions sound, ?_⟩
  refine pairs_replace safe.exclusive (fun different => absurd rfl different)
    fun session mem other => ⟨?_, ?_⟩
  · exact fun _ reservationId locked =>
      others_eq_false.mp (free reservationId locked) session mem other
  · intro _ reservationId locked
    by_contra taken
    have clear := others_eq_false.mp (free reservationId (by simpa using taken)) session mem
      other
    rw [clear] at locked
    exact Bool.noConfusion locked

/-- The rows after a commit, as seen by a transaction that stays in flight: barriers
are kept, and rows it has locked are untouched. -/
theorem RuntimeWork.Sound.advance {rows after : List ReservationRow} (sound : work.Sound rows)
    (origin : ∀ row ∈ after, ∃ before ∈ rows, row.id = before.id ∧
      (before.submissionStartedAt.isSome = true → row.submissionStartedAt.isSome = true) ∧
      (work.rowLock row.id = true → row = before)) : work.Sound after := by
  have stands {row : ReservationRow} (before : BarrierStands rows row) :
      BarrierStands after row := by
    intro current mem same
    obtain ⟨previous, present, identity, barrier, -⟩ := origin current mem
    exact barrier (before previous present (identity.symm.trans same))
  have planSound {row : ReservationRow} {plan : Plan} (before : PlanSound rows row plan) :
      PlanSound after row plan :=
    fun update writes => ⟨(before update writes).1, fun needs => stands ((before update writes).2 needs)⟩
  cases work with
  | reading command now => trivial
  | planning command now row => exact fun barrier => stands (sound barrier)
  | planned command row plan => exact planSound sound
  | written command row plan =>
      refine ⟨planSound sound.1, fun update writes begins current mem same => ?_⟩
      obtain ⟨previous, present, identity, -, untouched⟩ := origin current mem
      have locked : (RuntimeWork.written command row plan).rowLock current.id = true := by
        simp [RuntimeWork.rowLock, writes, same]
      rw [untouched locked]
      exact sound.2 update writes begins previous present (identity.symm.trans same)
  | sweeping tenantId now limit locked =>
      intro current mem listed
      obtain ⟨previous, present, identity, -, untouched⟩ := origin current mem
      rw [untouched (by simpa [RuntimeWork.rowLock] using listed)]
      exact sound previous present (identity ▸ listed)

/-- A transaction that ends after rewriting only rows which no other one has locked. -/
theorem SweepSafe.finish {swept : List String} (safe : SweepSafe state)
    (distinct : (store.reservations.map ReservationRow.id).Nodup)
    (released : ∀ row ∈ store.reservations, row.id ∈ swept → NeverHandedOver row)
    (origin : ∀ row ∈ store.reservations, ∃ before ∈ state.store.reservations,
      row.id = before.id ∧
      (before.submissionStartedAt.isSome = true → row.submissionStartedAt.isSome = true) ∧
      (row = before ∨
        Session.others state.sessions pid (RuntimeWork.rowLock row.id) = false)) :
    SweepSafe { state.finish pid store with swept := swept } := by
  refine ⟨distinct, released, ?_, ?_⟩
  · intro session mem
    obtain ⟨present, other⟩ := mem_drop.mp mem
    refine (safe.sessions session present).advance fun row rowMember => ?_
    obtain ⟨before, beforeMember, identity, barrier, untouched⟩ := origin row rowMember
    refine ⟨before, beforeMember, identity, barrier, fun locked => ?_⟩
    rcases untouched with same | free
    · exact same
    · have clear := others_eq_false.mp free session present other
      rw [clear] at locked
      exact Bool.noConfusion locked
  · intro left hleft right hright
    exact safe.exclusive left (mem_drop.mp hleft).1 right (mem_drop.mp hright).1

/-- When the submission barrier is written, the reservation is still reserved as
committed: no sweep has released it since the command read it. -/
def SweepState.stillReserved (state : SweepState) : SweepStep → Bool
  | .write pid =>
      match Session.find state.sessions pid with
      | some (.planned _ row plan) =>
          !plan.update.any RowUpdate.begins ||
            state.store.reservations.all fun current =>
              current.id != row.id || decide (current.state = .reserved)
      | _ => true
  | _ => true

variable {tenantId reservationId : String}

theorem findReservation_id (found : findReservation store tenantId reservationId = some row) :
    row.id = reservationId := by
  have matched := find?_some found
  simp only [Bool.and_eq_true, beq_iff_eq] at matched
  exact matched.1

theorem SweepSafe.alone (safe : SweepSafe state)
    (found : Session.find state.sessions pid = some work)
    (locked : work.rowLock reservationId = true) :
    Session.others state.sessions pid (RuntimeWork.rowLock reservationId) = false := by
  refine others_eq_false.mpr fun session mem other => ?_
  exact safe.exclusive _ (find_mem found) session mem (Ne.symm other) reservationId locked

theorem SweepSafe.sound
    (safe : SweepSafe state) (found : Session.find state.sessions pid = some work) :
    work.Sound state.store.reservations :=
  safe.sessions _ (find_mem found)

/-- Ending without effect. -/
theorem SweepSafe.abort (safe : SweepSafe state) (pid : Nat) :
    SweepSafe (state.finish pid state.store) :=
  safe.finish safe.distinct safe.swept fun row mem => ⟨row, mem, rfl, id, .inl rfl⟩

variable {after : SweepState} {command : RuntimeCommand} {now : Instant}

theorem SweepSafe.startCommand (safe : SweepSafe state)
    (step : Governance.startCommand state pid command now = some after) : SweepSafe after := by
  unfold Governance.startCommand at step
  split at step
  · cases step
  · cases step
    exact safe.moveTo trivial (by simp [RuntimeWork.rowLock])

theorem SweepSafe.readReservation (safe : SweepSafe state)
    (step : Governance.readReservation state pid command now = some after) : SweepSafe after := by
  unfold Governance.readReservation at step
  split at step
  · cases step
    exact safe.abort pid
  · split at step
    · cases step
    next row found =>
      split at step
      · cases step
      · cases step
        refine safe.moveTo ?_ (by simp [RuntimeWork.rowLock])
        -- the row just read is the only one with its identifier
        intro barrier current mem same
        rwa [Table.eq_of_key_eq safe.distinct mem (findReservation_mem found) same]

variable {options : RuntimeOptions}

theorem SweepSafe.planCommand (safe : SweepSafe state)
    (found : Session.find state.sessions pid = some (.planning command now row))
    (step : Governance.planCommand options state pid command now row = some after) :
    SweepSafe after := by
  unfold Governance.planCommand at step
  split at step
  · cases step
  next plan plans =>
    cases step
    refine safe.moveTo ?_ (by simp [RuntimeWork.rowLock])
    intro update writes
    have planned := plan_planned plans writes
    exact ⟨planned.byCommand, fun needs => safe.sound found (planned.barrier needs)⟩

variable {plan : Plan}

theorem SweepSafe.writeRow (safe : SweepSafe state)
    (found : Session.find state.sessions pid = some (.planned command row plan))
    (reserved : state.stillReserved (.write pid) = true)
    (step : Governance.writeRow state pid command row plan = some after) : SweepSafe after := by
  unfold Governance.writeRow at step
  split at step
  · cases step
  next unlocked =>
    cases step
    refine safe.moveTo ⟨safe.sound found, ?_⟩ ?_
    · intro update writes begins current mem same
      simp only [SweepState.stillReserved, found, writes, Option.any_some, begins, Bool.not_true,
        Bool.false_or, all_eq_true] at reserved
      simpa [same] using reserved current mem
    · intro reservationId locked
      simp only [RuntimeWork.rowLock, Bool.and_eq_true, beq_iff_eq] at locked
      rw [← locked.2]
      simpa [locked.1] using unlocked

theorem RowUpdate.apply_barrier (update : RowUpdate) (row : ReservationRow)
    (barrier : row.submissionStartedAt.isSome = true) :
    (update.apply row).submissionStartedAt.isSome = true := by
  cases update with
  | beginSubmission => rfl
  | _ => exact barrier

/-- Claims, renewals and releases of a swept row still hand nothing over. -/
theorem NeverHandedOver.apply (never : NeverHandedOver row) (byCommand : update.byCommand = true)
    (unbarred : update.needsBarrier = false) (unbegun : update.begins = false) :
    NeverHandedOver (update.apply row) := by
  obtain ⟨released, started, status⟩ := never
  cases update with
  | claim => exact ⟨released, started, by simp [RowUpdate.apply, ReservationRow.status]⟩
  | renew => exact ⟨released, started, status⟩
  | release => exact ⟨rfl, started, by simp [RowUpdate.apply, ReservationRow.status]⟩
  | beginSubmission => cases unbegun
  | transition => cases byCommand
  | _ => cases unbarred

theorem Plan.rewrite_id (plan : Plan) (row : ReservationRow) : (plan.rewrite row).id = row.id := by
  unfold Plan.rewrite
  split
  · rfl
  · exact RowUpdate.apply_id _ row

variable {attemptId touchId : String}

theorem SweepSafe.commitCommand (safe : SweepSafe state)
    (found : Session.find state.sessions pid = some (.written command row plan))
    (step : Governance.commitCommand options state pid command row plan attemptId touchId =
      some after) : SweepSafe after := by
  unfold Governance.commitCommand at step
  split at step
  · cases step
  next current read =>
    split at step
    · cases step
    next store response writes =>
      cases step
      unfold writePlan at writes
      obtain ⟨recorded, records, writes⟩ := bind_ok writes
      cases writes
      have rows := (record_keeps records).1
      rw [findReservation_id read] at rows
      obtain ⟨planSound, begun⟩ := safe.sound found
      refine safe.finish ?_ ?_ ?_
      · rw [rows, Table.map_key_update plan.rewrite_id]
        exact safe.distinct
      · rw [rows]
        refine Table.forall_update safe.swept fun before mem same => ?_
        rw [plan.rewrite_id]
        intro listed
        have never := safe.swept before mem listed
        cases writesRow : plan.update with
        | none => simpa [Plan.rewrite, writesRow] using never
        | some update =>
            obtain ⟨byCommand, barrier⟩ := planSound update writesRow
            have unbarred : update.needsBarrier = false := by
              by_contra needs
              have stands := barrier (by simpa using needs) before mem same
              simp [never.2.1] at stands
            have unbegun : update.begins = false := by
              by_contra begins
              have reserved := begun update writesRow (by simpa using begins) before mem same
              simp [never.1] at reserved
            simpa [Plan.rewrite, writesRow] using never.apply byCommand unbarred unbegun
      · rw [rows]
        refine Table.forall_update (fun before mem => ⟨before, mem, rfl, id, .inl rfl⟩)
          fun before mem same => ⟨before, mem, plan.rewrite_id before, ?_⟩
        cases writesRow : plan.update with
        | none => simp [Plan.rewrite, writesRow]
        | some update =>
            rw [plan.rewrite_id]
            refine ⟨fun stands => ?_, .inr (safe.alone found ?_)⟩
            · simpa [Plan.rewrite, writesRow] using update.apply_barrier before stands
            · simp [RuntimeWork.rowLock, writesRow, same]

variable {limit : Nat}

theorem SweepSafe.startSweep (safe : SweepSafe state)
    (step : Governance.startSweep state pid tenantId limit now = some after) : SweepSafe after := by
  unfold Governance.startSweep at step
  split at step
  · cases step
  · cases step
    exact safe.moveTo (by simp [RuntimeWork.Sound]) (by simp [RuntimeWork.rowLock])

variable {locked : List String}

section
variable (safe : SweepSafe state)
  (found : Session.find state.sessions pid = some (.sweeping tenantId now limit locked))
include safe found

theorem SweepSafe.lockExpired
    (step : Governance.lockExpired state pid tenantId now limit locked reservationId = some after) :
    SweepSafe after := by
  unfold Governance.lockExpired at step
  split at step
  · cases step
  next row read =>
    split at step
    next selected =>
      cases step
      simp only [ReservationRow.expired, Bool.and_eq_true, decide_eq_true_eq, Bool.not_eq_true',
        Option.isNone_iff_eq_none] at selected
      obtain ⟨⟨⟨⟨⟨⟨⟨-, reserved⟩, started⟩, -⟩, -⟩, -⟩, -⟩, free⟩ := selected
      refine safe.moveTo ?_ ?_
      · intro current mem listed
        rcases mem_cons.mp listed with same | earlier
        · have identity := same.trans (findReservation_id read).symm
          rw [Table.eq_of_key_eq safe.distinct mem (findReservation_mem read) identity]
          exact ⟨reserved, started⟩
        · exact safe.sound found current mem earlier
      · intro other listed
        simp only [RuntimeWork.rowLock, contains_iff_mem, mem_cons] at listed
        rcases listed with rfl | earlier
        · exact free
        · exact safe.alone found (by simpa [RuntimeWork.rowLock] using earlier)
    · cases step

theorem SweepSafe.commitSweep : SweepSafe (Governance.commitSweep state pid now locked) := by
  have origin : ∀ row ∈ releaseRows now locked state.store.reservations,
      ∃ before ∈ state.store.reservations, row.id = before.id ∧
        ((before.id ∉ locked ∧ row = before) ∨
          (before.id ∈ locked ∧ row = (RowUpdate.release now).apply before)) := by
    intro row mem
    obtain ⟨before, present, rfl⟩ := mem_map.mp mem
    by_cases listed : before.id ∈ locked
    · exact ⟨before, present, by simp [listed, RowUpdate.apply_id], .inr ⟨listed, by simp [listed]⟩⟩
    · exact ⟨before, present, by simp [listed], .inl ⟨listed, by simp [listed]⟩⟩
  refine safe.finish ?_ ?_ ?_
  · have identity : (releaseRows now locked state.store.reservations).map ReservationRow.id =
        state.store.reservations.map ReservationRow.id := by
      rw [releaseRows, map_map]
      apply map_congr_left
      intro row _
      by_cases listed : row.id ∈ locked <;> simp [listed, RowUpdate.apply_id]
    exact identity ▸ safe.distinct
  · intro row mem listed
    obtain ⟨before, present, identity, ⟨unlisted, rfl⟩ | ⟨locked, rfl⟩⟩ := origin row mem
    · rcases mem_append.mp listed with now | earlier
      · exact absurd now unlisted
      · exact safe.swept _ present earlier
    · have unsubmitted := (safe.sound found before present locked).2
      exact ⟨rfl, unsubmitted, by simp [RowUpdate.apply, ReservationRow.status]⟩
  · intro row mem
    obtain ⟨before, present, identity, ⟨-, rfl⟩ | ⟨locked, rfl⟩⟩ := origin row mem
    · exact ⟨_, present, rfl, id, .inl rfl⟩
    · refine ⟨before, present, identity, RowUpdate.apply_barrier _ before, .inr ?_⟩
      exact safe.alone found (by simpa [RuntimeWork.rowLock, identity] using locked)

end

theorem sweepSafe_of_init (initial : (sweepSystem options).init state) : SweepSafe state := by
  obtain ⟨⟨distinct, -⟩, noSessions, noneSwept⟩ := initial
  refine ⟨distinct, ?_, ?_, ?_⟩
  · simp [noneSwept]
  · simp [noSessions]
  · simp [noSessions]

theorem SweepSafe.next {step : SweepStep}
    (safe : SweepSafe state) (reserved : state.stillReserved step = true)
    (taken : state.next options step = some after) : SweepSafe after := by
  cases step with
  | start pid command now => exact safe.startCommand taken
  | read pid =>
      simp only [SweepState.next] at taken
      split at taken
      · exact safe.readReservation taken
      · cases taken
  | plan pid =>
      simp only [SweepState.next] at taken
      split at taken
      next found => exact safe.planCommand found taken
      next => cases taken
  | write pid =>
      simp only [SweepState.next] at taken
      split at taken
      next found => exact safe.writeRow found reserved taken
      next => cases taken
  | commit pid attemptId touchId =>
      simp only [SweepState.next] at taken
      split at taken
      next found => exact safe.commitCommand found taken
      next => cases taken
  | startSweep pid tenantId limit now => exact safe.startSweep taken
  | lockExpired pid reservationId =>
      simp only [SweepState.next] at taken
      split at taken
      next found => exact safe.lockExpired found taken
      next => cases taken
  | commitSweep pid =>
      simp only [SweepState.next] at taken
      split at taken
      next found =>
        cases taken
        exact safe.commitSweep found
      next => cases taken
  | abort pid =>
      cases taken
      exact safe.abort pid

/-- Over every interleaving in which each submission barrier is written to a row that
is still reserved, what a sweep has released was never handed to the provider. -/
theorem swept_never_handed_over (options : RuntimeOptions) (state : SweepState)
    (reachable : ((sweepSystem options).restrict fun state step =>
      state.stillReserved step = true).Reachable state) :
    ∀ row ∈ state.store.reservations, row.id ∈ state.swept →
      row.submissionStartedAt = none ∧ row.status ≠ .unknownReconciling := by
  have safe : SweepSafe state := by
    refine System.Reachable.invariant ?_ ?_ reachable
    · intro start initial
      exact sweepSafe_of_init initial
    · intro source step target safe taken
      exact safe.next taken.1 taken.2
  intro row mem listed
  exact (safe.swept row mem listed).2

def lineSweep : SweepState := ⟨lineStore, [], []⟩

theorem lineSweep_init : (sweepSystem lineOptions).init lineSweep := by
  refine ⟨⟨by decide, ?_⟩, rfl, rfl⟩
  intro row mem
  rw [mem_singleton.mp mem]
  exact ⟨rfl, rfl, rfl, rfl, rfl, rfl, rfl⟩

/-- The delivery claims the reservation at time 10, with a lease until 50. -/
def claimLine : List SweepStep :=
  [.start 1 (lineCommand lineClaim) 10, .read 1, .plan 1, .write 1, .commit 1 "attempt" "touch"]

def sweepLine : List SweepStep :=
  [.startSweep 2 "tenant" 100 60, .lockExpired 2 "reservation", .commitSweep 2]

/-- The delivery passes the lease check at time 49. -/
def readLine : List SweepStep :=
  [.start 3 (lineCommand (.beginSubmission "delivery" 1 "request")) 49, .read 3, .plan 3]

def submitLine : List SweepStep := [.write 3, .commit 3 "attempt" "touch"]

def lineSweepAfter (steps : List SweepStep) : SweepState :=
  (System.run (SweepState.next lineOptions) lineSweep steps).getD lineSweep

/-- A sweep of an expired claim, which no barrier follows. -/
theorem sweptClaim_never_handed_over :
    "reservation" ∈ (lineSweepAfter (claimLine ++ sweepLine)).swept ∧
      ∀ row ∈ (lineSweepAfter (claimLine ++ sweepLine)).store.reservations,
        row.id ∈ (lineSweepAfter (claimLine ++ sweepLine)).swept →
          row.submissionStartedAt = none ∧ row.status ≠ .unknownReconciling :=
  ⟨by decide, swept_never_handed_over lineOptions _
    (System.Reachable.runGuarded lineSweep_init
      (show System.run (System.guardNext SweepState.stillReserved (SweepState.next lineOptions))
        lineSweep (claimLine ++ sweepLine) = some _ from rfl))⟩

/-- The sweep commits after the delivery has read the reservation and before it writes
the barrier: the same reservation is released by the sweep and handed over. -/
theorem swept_and_handed_over :
    ∃ state, (sweepSystem lineOptions).Reachable state ∧
      ∃ row ∈ state.store.reservations, row.id ∈ state.swept ∧ row.state = .released ∧
        row.submissionStartedAt = some 49 ∧ row.status = .unknownReconciling := by
  refine ⟨lineSweepAfter (claimLine ++ readLine ++ sweepLine ++ submitLine), ?_, ?_⟩
  · exact System.Reachable.run (.of_init lineSweep_init)
      (show System.run (SweepState.next lineOptions) lineSweep
        (claimLine ++ readLine ++ sweepLine ++ submitLine) = some _ from rfl)
  · decide

end DContact.Governance

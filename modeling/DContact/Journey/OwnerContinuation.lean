import DContact.Journey.OwnerStore

/-!
# Going on from an owner's result

The result of an owner moves the cursor of the enrollment that the action was created
from, in the transaction that persists the result. The ledger holds one row for each
action: the result that comes first writes it, and a later one only finds it. An action
that is not bound to a step is left alone.
-/

namespace DContact.Journey

open Lib
open Governance (Instant sha256)

structure ContinueOwnerResultInput where
  commandId : String
  resultKind : JrOwnerResultKind
  resultHash : String
  correlationId : String
  action : JrOwnerAction
  /-- The state after the precedence of terminal states is applied. -/
  effectiveState : JrOwnerActionState

def recordContinuation (store : JourneyStore) (row : JrOwnerContinuation) :
    Except OwnerError JourneyStore := do
  ensure (∀ other ∈ store.continuations, other.actionId ≠ row.actionId)
    (OwnerError.constraintViolation "jr_owner_continuations_tenant_action_key")
  ensure (∀ other ∈ store.continuations, other.commandId ≠ row.commandId)
    (OwnerError.constraintViolation "jr_owner_continuations_tenant_command_key")
  ensure (sha256 row.resultHash = true)
    (OwnerError.constraintViolation "jr_owner_continuations_hash_check")
  .ok { store with continuations := store.continuations ++ [row] }

def recordStepRun (store : JourneyStore) (row : JrStepRun) : Except OwnerError JourneyStore := do
  ensure (∀ other ∈ store.stepRuns,
      ¬ (other.enrollmentId = row.enrollmentId ∧ other.stepSequence = row.stepSequence))
    (OwnerError.constraintViolation "jr_step_runs_tenant_enrollment_sequence_key")
  .ok { store with stepRuns := store.stepRuns ++ [row] }

/-- The enrollment still stands where the action was created. -/
def atBoundStep (bound : StepBinding) (enrollment : JrEnrollment) : Prop :=
  enrollment.currentStepId = some bound.stepId ∧ enrollment.stepSequence = bound.stepSequence

instance (bound : StepBinding) (enrollment : JrEnrollment) : Decidable (atBoundStep bound enrollment) :=
  inferInstanceAs (Decidable (_ ∧ _))

/-- The enrollment runs on from the next step, and whoever held it lets go of it. -/
def withCursor (store : JourneyStore) (enrollmentId : String) (bound : StepBinding)
    (nextStepId : String) : JourneyStore :=
  { store with
    enrollments := Table.update JrEnrollment.id enrollmentId
      (fun row => { row with
        runState := .running
        currentStepId := some nextStepId
        stepSequence := bound.stepSequence + 1
        waitUntil := none
        claimedBy := none
        claimExpiresAt := none }) store.enrollments }

/-- Identifiers are unique, so the count of the update is one when some row matches. -/
def moveCursor (store : JourneyStore) (action : JrOwnerAction) (bound : StepBinding)
    (nextStepId : String) : Except OwnerError JourneyStore := do
  ensure (∃ row ∈ store.enrollments,
      row.id = action.enrollmentId ∧ row.runState ≠ .terminal ∧ atBoundStep bound row)
    (OwnerError.continuationBinding action.actionKey "cursor CAS ไม่สำเร็จ")
  .ok (withCursor store action.enrollmentId bound nextStepId)

def restrictedStep (steps : List JourneyGraphStep) (stepId : String) :
    Option JourneyActionIntentStep :=
  match steps.find? fun step => step.id = stepId with
  | some (.actionIntent step) => some step
  | _ => none

/-- The step that the cursor leaves, once the binding of the action is found to be in order. -/
def boundStep (store : JourneyStore) (action : JrOwnerAction) (bound : StepBinding)
    (enrollment : JrEnrollment) : Except OwnerError JourneyActionIntentStep := do
  let journeyId ← orFail enrollment.journeyId
    (OwnerError.continuationBinding action.actionKey "enrollment ไม่มี journeyId")
  ensure (atBoundStep bound enrollment)
    (OwnerError.continuationBinding action.actionKey ("cursor อยู่ที่ "
      ++ enrollment.currentStepId.getD "null" ++ ":" ++ toString enrollment.stepSequence))
  let definition ← orFail
    ((store.findDefinition journeyId enrollment.journeyVersion).filter fun row =>
      row.status = .published)
    (OwnerError.continuationBinding action.actionKey
      "ไม่พบ published definition ที่ enrollment pin ไว้")
  orFail ((restrictedStep definition.steps bound.stepId).filter fun step => step.type = action.kind)
    (OwnerError.continuationBinding action.actionKey "step type ไม่ตรงกับ owner action kind")

/-- Only these two states lead to a port of the graph. -/
def advances : JrOwnerActionState → Bool
  | .acknowledged | .rejected => true
  | _ => false

def nextStepOf (effectiveState : JrOwnerActionState) (step : JourneyActionIntentStep) : String :=
  if effectiveState = .acknowledged then step.next else step.onReject

def continuationRow (input : ContinueOwnerResultInput) (bound : StepBinding)
    (enrollment : JrEnrollment) (outcome : JrOwnerContinuationOutcome) : JrOwnerContinuation where
  actionId := input.action.id
  actionKey := input.action.actionKey
  commandId := input.commandId
  enrollmentId := enrollment.id
  fromStep := bound
  resultKind := input.resultKind
  outcome := outcome
  resultHash := input.resultHash
  correlationId := input.correlationId

def advanceCursor (now : Instant) (store : JourneyStore) (input : ContinueOwnerResultInput)
    (bound : StepBinding) (enrollment : JrEnrollment) :
    Except OwnerError (JourneyStore × JrOwnerContinuation) := do
  let step ← boundStep store input.action bound enrollment
  let nextStepId := nextStepOf input.effectiveState step
  let row := continuationRow input bound enrollment (.advanced nextStepId)
  let ledgered ← recordContinuation store row
  let stepped ← recordStepRun ledgered
    { enrollmentId := enrollment.id
      stepSequence := bound.stepSequence + 1
      stepId := step.id
      stepType := step.type.stepType
      state := .completed
      nextStepId := some nextStepId
      correlationId := input.correlationId
      causationId := some input.commandId
      startedAt := now }
  let moved ← moveCursor stepped input.action bound nextStepId
  .ok (moved, row)

def ignoreResult (store : JourneyStore) (input : ContinueOwnerResultInput) (bound : StepBinding)
    (enrollment : JrEnrollment) : Except OwnerError (JourneyStore × JrOwnerContinuation) := do
  let row := continuationRow input bound enrollment .terminalIgnored
  let ledgered ← recordContinuation store row
  .ok (ledgered, row)

/-- The first result of a bound action: its row is not yet in the ledger. -/
def beginContinuation (now : Instant) (store : JourneyStore) (input : ContinueOwnerResultInput)
    (bound : StepBinding) : Except OwnerError (JourneyStore × JrOwnerContinuation) := do
  let enrollment ← orFail (store.findEnrollment input.action.enrollmentId)
    (OwnerError.continuationBinding input.action.actionKey "ไม่พบ enrollment ใน tenant เดียวกัน")
  if enrollment.runState = .terminal ∨ advances input.effectiveState = false then
    ignoreResult store input bound enrollment
  else
    advanceCursor now store input bound enrollment

def continueOwnerResultInTransaction (now : Instant) (store : JourneyStore)
    (input : ContinueOwnerResultInput) :
    Except OwnerError (JourneyStore × Option JrOwnerContinuation) :=
  match input.action.bound with
  | none => .ok (store, none)
  | some bound =>
      match store.findContinuation input.action.id with
      | some existing => do
          ensure (existing.resultHash = input.resultHash)
            (OwnerError.continuationBinding input.action.actionKey
              "continuation เดิมมี resultHash ต่างกัน")
          .ok (store, some existing)
      | none => do
          let (after, row) ← beginContinuation now store input bound
          .ok (after, some row)

variable {store after : JourneyStore}

theorem recordContinuation_ok {row : JrOwnerContinuation} :
    recordContinuation store row = .ok after ↔
      (∀ other ∈ store.continuations, other.actionId ≠ row.actionId) ∧
      (∀ other ∈ store.continuations, other.commandId ≠ row.commandId) ∧
      sha256 row.resultHash = true ∧
      { store with continuations := store.continuations ++ [row] } = after := by
  unfold recordContinuation
  simp only [bind_ok_iff, ensure_ok, exists_const, Except.ok.injEq]

theorem recordStepRun_ok {row : JrStepRun} : recordStepRun store row = .ok after ↔
      (∀ other ∈ store.stepRuns,
        ¬ (other.enrollmentId = row.enrollmentId ∧ other.stepSequence = row.stepSequence)) ∧
      { store with stepRuns := store.stepRuns ++ [row] } = after := by
  unfold recordStepRun
  simp only [bind_ok_iff, ensure_ok, exists_const, Except.ok.injEq]

structure StepFound (store : JourneyStore) (action : JrOwnerAction) (bound : StepBinding)
    (enrollment : JrEnrollment) (step : JourneyActionIntentStep) : Prop where
  cursor : atBoundStep bound enrollment
  published : ∃ journeyId definition, enrollment.journeyId = some journeyId ∧
    store.findDefinition journeyId enrollment.journeyVersion = some definition ∧
    definition.status = .published ∧ restrictedStep definition.steps bound.stepId = some step
  kind : step.type = action.kind

variable {bound : StepBinding} {enrollment : JrEnrollment} {action : JrOwnerAction}

theorem boundStep_ok {step : JourneyActionIntentStep} :
    boundStep store action bound enrollment = .ok step ↔
      StepFound store action bound enrollment step := by
  unfold boundStep
  simp only [bind_ok_iff, ensure_ok, orFail_ok, exists_const, Option.filter_eq_some_iff,
    decide_eq_true_eq]
  constructor
  · rintro ⟨journeyId, journey, cursor, definition, ⟨pinned, status⟩, restricted, kind⟩
    exact ⟨cursor, ⟨journeyId, definition, journey, pinned, status, restricted⟩, kind⟩
  · rintro ⟨cursor, ⟨journeyId, definition, journey, pinned, status, restricted⟩, kind⟩
    exact ⟨journeyId, journey, cursor, definition, ⟨pinned, status⟩, restricted, kind⟩

structure LedgerOpen (store : JourneyStore) (input : ContinueOwnerResultInput) : Prop where
  action : ∀ row ∈ store.continuations, row.actionId ≠ input.action.id
  command : ∀ row ∈ store.continuations, row.commandId ≠ input.commandId
  hash : sha256 input.resultHash = true

structure Advanceable (store : JourneyStore) (action : JrOwnerAction) (bound : StepBinding)
    (enrollment : JrEnrollment) : Prop where
  step : ∃ step, StepFound store action bound enrollment step
  run : ∀ run ∈ store.stepRuns,
    ¬ (run.enrollmentId = enrollment.id ∧ run.stepSequence = bound.stepSequence + 1)

variable {input : ContinueOwnerResultInput}

theorem ignoreResult_succeeds : (∃ result, ignoreResult store input bound enrollment = .ok result) ↔
      LedgerOpen store input := by
  unfold ignoreResult
  simp only [bind_ok_iff, recordContinuation_ok, Except.ok.injEq]
  constructor
  · rintro ⟨_, _, ⟨action, command, hash, _⟩, _⟩
    exact ⟨action, command, hash⟩
  · rintro ⟨action, command, hash⟩
    exact ⟨_, _, ⟨action, command, hash, rfl⟩, rfl⟩

theorem moveCursor_ok {nextStepId : String} :
    moveCursor store action bound nextStepId = .ok after ↔
      (∃ row ∈ store.enrollments,
        row.id = action.enrollmentId ∧ row.runState ≠ .terminal ∧ atBoundStep bound row) ∧
      withCursor store action.enrollmentId bound nextStepId = after := by
  unfold moveCursor
  simp only [bind_ok_iff, ensure_ok, exists_const, Except.ok.injEq]

variable {now : Instant}

theorem advanceCursor_succeeds
    (found : store.findEnrollment input.action.enrollmentId = some enrollment)
    (live : enrollment.runState ≠ .terminal) :
    (∃ result, advanceCursor now store input bound enrollment = .ok result) ↔
      LedgerOpen store input ∧ Advanceable store input.action bound enrollment := by
  unfold advanceCursor
  simp only [bind_ok_iff, boundStep_ok, recordContinuation_ok, recordStepRun_ok, moveCursor_ok]
  constructor
  · rintro ⟨_, step, leaves, ledgered, ⟨action, command, hash, rfl⟩, _, ⟨run, _⟩, _⟩
    exact ⟨⟨action, command, hash⟩, ⟨step, leaves⟩, run⟩
  · rintro ⟨⟨action, command, hash⟩, ⟨step, leaves⟩, run⟩
    have standing : ∃ row ∈ store.enrollments, row.id = input.action.enrollmentId ∧
        row.runState ≠ .terminal ∧ atBoundStep bound row :=
      ⟨enrollment, Table.lookup_mem found, Table.lookup_key found, live, leaves.cursor⟩
    exact ⟨_, step, leaves, _, ⟨action, command, hash, rfl⟩, _, ⟨run, rfl⟩, _, ⟨standing, rfl⟩, rfl⟩

/-- The first result of an action can be followed up. -/
structure Continuable (store : JourneyStore) (input : ContinueOwnerResultInput)
    (bound : StepBinding) : Prop where
  ledger : LedgerOpen store input
  enrollment : ∃ enrollment, store.findEnrollment input.action.enrollmentId = some enrollment ∧
    (enrollment.runState ≠ .terminal → advances input.effectiveState = true →
      Advanceable store input.action bound enrollment)

theorem beginContinuation_succeeds :
    (∃ result, beginContinuation now store input bound = .ok result) ↔
      Continuable store input bound := by
  unfold beginContinuation
  simp only [bind_ok_iff, orFail_ok]
  constructor
  · rintro ⟨result, enrollment, found, begun⟩
    split at begun
    next stays =>
      refine ⟨ignoreResult_succeeds.mp ⟨result, begun⟩, enrollment, found, ?_⟩
      intro live moves
      rcases stays with ended | still
      · exact absurd ended live
      · rw [moves] at still
        cases still
    next goes =>
      have live : enrollment.runState ≠ .terminal := fun ended => goes (.inl ended)
      obtain ⟨ledger, advanceable⟩ := (advanceCursor_succeeds found live).mp ⟨result, begun⟩
      exact ⟨ledger, enrollment, found, fun _ _ => advanceable⟩
  · rintro ⟨ledger, enrollment, found, moving⟩
    by_cases stays : enrollment.runState = .terminal ∨ advances input.effectiveState = false
    · have ignoring : ∃ result, ignoreResult store input bound enrollment = .ok result :=
        ignoreResult_succeeds.mpr ledger
      obtain ⟨result, ignored⟩ := ignoring
      exact ⟨result, enrollment, found, by rw [if_pos stays, ignored]⟩
    · have live : enrollment.runState ≠ .terminal := fun ended => stays (.inl ended)
      have moves : advances input.effectiveState = true := by
        simpa using fun still => stays (.inr still)
      have advancing : ∃ result, advanceCursor now store input bound enrollment = .ok result :=
        (advanceCursor_succeeds found live).mpr ⟨ledger, moving live moves⟩
      obtain ⟨result, advanced⟩ := advancing
      exact ⟨result, enrollment, found, by rw [if_neg stays, advanced]⟩

/-- A continuation of the action is one of this result, or none is there and the result can be
followed up. -/
structure InBinding (store : JourneyStore) (input : ContinueOwnerResultInput)
    (bound : StepBinding) : Prop where
  oneHash : ∀ existing, store.findContinuation input.action.id = some existing →
    existing.resultHash = input.resultHash
  first : store.findContinuation input.action.id = none → Continuable store input bound

theorem continueOwnerResult_succeeds :
    (∃ result, continueOwnerResultInTransaction now store input = .ok result) ↔
      ∀ bound, input.action.bound = some bound → InBinding store input bound := by
  unfold continueOwnerResultInTransaction
  cases binding : input.action.bound with
  | none => simp
  | some bound =>
      simp only [Option.some.injEq, forall_eq']
      cases ledger : store.findContinuation input.action.id with
      | some existing =>
          simp only [bind_ok_iff, ensure_ok, exists_const, exists_and_left]
          constructor
          · rintro ⟨same, _⟩
            refine ⟨?_, fun absent => ?_⟩
            · intro other found
              rw [← Option.some.inj (ledger.symm.trans found)]
              exact same
            · cases ledger.symm.trans absent
          · intro order
            exact ⟨order.oneHash existing ledger, _, rfl⟩
      | none =>
          simp only [bind_ok_iff]
          constructor
          · rintro ⟨_, result, begun, _⟩
            refine ⟨fun other found => ?_, fun _ => beginContinuation_succeeds.mp ⟨result, begun⟩⟩
            cases ledger.symm.trans found
          · intro order
            have beginning : ∃ result, beginContinuation now store input bound = .ok result :=
              beginContinuation_succeeds.mpr (order.first ledger)
            obtain ⟨result, begun⟩ := beginning
            exact ⟨_, result, begun, rfl⟩

/-- A continued result leaves the actions, commands and results as they are. It adds rows of its
own action to the ledger, and the enrollments change only with the first of them. -/
structure Continued (store : JourneyStore) (input : ContinueOwnerResultInput)
    (after : JourneyStore) : Prop where
  actions : after.actions = store.actions
  commands : after.commands = store.commands
  results : after.results = store.results
  ledger : ∃ rows, after.continuations = store.continuations ++ rows ∧
    ∀ row ∈ rows, row.actionId = input.action.id ∧ row.commandId = input.commandId
  cursor : after.enrollments = store.enrollments ∨
    (∀ row ∈ store.continuations, row.actionId ≠ input.action.id) ∧
      ∃ row ∈ after.continuations, row.actionId = input.action.id

theorem Continued.refl (store : JourneyStore) (input : ContinueOwnerResultInput) :
    Continued store input store where
  actions := rfl
  commands := rfl
  results := rfl
  ledger := ⟨[], (List.append_nil _).symm, by simp⟩
  cursor := .inl rfl

theorem beginContinuation_continued {result : JourneyStore × JrOwnerContinuation}
    (begun : beginContinuation now store input bound = .ok result) :
    Continued store input result.1 := by
  obtain ⟨enrollment, _, begun⟩ := bind_ok begun
  split at begun
  next =>
    simp only [ignoreResult, bind_ok_iff, recordContinuation_ok, Except.ok.injEq] at begun
    obtain ⟨_, ⟨_, _, _, rfl⟩, rfl⟩ := begun
    exact ⟨rfl, rfl, rfl, ⟨_, rfl, by simp [continuationRow]⟩, .inl rfl⟩
  next =>
    simp only [advanceCursor, bind_ok_iff, recordContinuation_ok, recordStepRun_ok,
      moveCursor_ok, Except.ok.injEq] at begun
    obtain ⟨step, _, _, ⟨fresh, _, _, rfl⟩, _, ⟨_, rfl⟩, _, ⟨_, rfl⟩, rfl⟩ := begun
    refine ⟨rfl, rfl, rfl, ⟨_, rfl, by simp [continuationRow]⟩, .inr ⟨fresh, ?_⟩⟩
    exact ⟨_, List.mem_append_right _ List.mem_cons_self, rfl⟩

theorem continueOwnerResult_continued {result : JourneyStore × Option JrOwnerContinuation}
    (continued : continueOwnerResultInTransaction now store input = .ok result) :
    Continued store input result.1 := by
  unfold continueOwnerResultInTransaction at continued
  split at continued
  next =>
    cases continued
    exact .refl store input
  next bound _ =>
    split at continued
    next existing _ =>
      obtain ⟨_, _, continued⟩ := bind_ok continued
      cases continued
      exact .refl store input
    next =>
      obtain ⟨⟨after, row⟩, begun, continued⟩ := bind_ok continued
      cases continued
      exact beginContinuation_continued begun

end DContact.Journey

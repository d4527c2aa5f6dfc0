import DContact.Journey.ExecutionLedger
import DContact.Journey.OutcomeOrder
import DContact.Journey.SegmentEntries

/-!
# Enrollments of all sources

Enrollments come from events, from schedules, from outcomes of interactions and from entries
into segments. A worker finds an enrollment when it runs or when its wait is over, and the sweep
finds it by its maximum age. Those of events and schedules are always found; those of outcomes
and segments never have an age.
-/

namespace DContact.Journey

open Lib List OutcomeSession SegmentSession
open Governance (Instant)
open Definition (JourneyVersionSnapshot)
open Execution

/-! ## What is asked of an enrollment -/

/-- The enrollment was opened by `enrollFromEvent` or by `enrollFromSchedule`. The processor of
events opens enrollments too, but of no journey. -/
def openedByExecution (row : EnrollmentRow) : Bool :=
  match row.source with
  | some (.eventInbox _) | some (.occurrence _) => row.journeyId.isSome
  | _ => false

def awaitsOwner (tables : JourneyTables) (row : EnrollmentRow) : Bool :=
  tables.actions.any fun action => action.enrollmentId = row.id &&
    action.state ∈ [JrOwnerActionState.pending, .dispatched, .ackUnknown, .reconciling]

/-- Somebody will go on with the enrollment, and it does not stay for ever. -/
structure Drivable (definitions : JourneyDefinitionSource) (tables : JourneyTables)
    (row : EnrollmentRow) : Prop where
  selectable : (∃ now, dueForClaim now row = true) ∨ awaitsOwner tables row = true
  aged : ∃ definition, definitions (row.journeyId.getD "") row.journeyVersion = some definition ∧
    row.maxAgeAt = some (maxAgeFrom row.createdAt definition.maxDurationDays)
  swept : ∃ now, pastMaxAge now row = true

structure RowDriven (definitions : JourneyDefinitionSource) (row : EnrollmentRow) : Prop where
  aged : openedByExecution row = true → ∃ definition,
    definitions (row.journeyId.getD "") row.journeyVersion = some definition ∧
      row.maxAgeAt = some (maxAgeFrom row.createdAt definition.maxDurationDays)
  timed : openedByExecution row = true → row.runState = .waiting → row.waitUntil ≠ none
  ageless : openedByExecution row = false → row.maxAgeAt = none

variable {row : EnrollmentRow}

theorem dueForClaim_of_running (running : row.runState = .running) :
    ∃ now, dueForClaim now row = true := by
  refine ⟨row.claimExpiresAt.getD 0, ?_⟩
  unfold dueForClaim
  cases claim : row.claimExpiresAt with
  | none => simp [running]
  | some claimExpiresAt => simp [running]

theorem dueForClaim_of_waiting {waitUntil : Instant}
    (waiting : row.runState = .waiting) (timed : row.waitUntil = some waitUntil) :
    ∃ now, dueForClaim now row = true := by
  refine ⟨max waitUntil (row.claimExpiresAt.getD waitUntil), ?_⟩
  unfold dueForClaim
  cases claim : row.claimExpiresAt with
  | none => simp [waiting, timed]
  | some claimExpiresAt => simp [waiting, timed]

variable {tables : JourneyTables}

/-- An enrollment that is not over can be driven exactly if an event or a schedule opened it. -/
theorem RowDriven.drivable_iff {definitions : JourneyDefinitionSource}
    (driven : RowDriven definitions row) (alive : row.runState ≠ .terminal) :
    Drivable definitions tables row ↔ openedByExecution row = true := by
  constructor
  · intro drivable
    obtain ⟨definition, -, aged⟩ := drivable.aged
    cases opened : openedByExecution row with
    | true => rfl
    | false =>
        rw [driven.ageless opened] at aged
        cases aged
  · intro opened
    obtain ⟨definition, found, aged⟩ := driven.aged opened
    refine ⟨.inl ?_, ⟨definition, found, aged⟩,
      maxAgeFrom row.createdAt definition.maxDurationDays, ?_⟩
    · cases state : row.runState with
      | running => exact dueForClaim_of_running state
      | waiting =>
          obtain ⟨waitUntil, timed⟩ := Option.ne_none_iff_exists'.mp (driven.timed opened state)
          exact dueForClaim_of_waiting state timed
      | terminal => exact absurd state alive
    · unfold pastMaxAge
      rw [aged]
      simp [alive]

/-! ## How enrollments are rewritten -/

/-- The later row has the same origin, and it still has a time to wait for if it had one. -/
structure RowKept (row later : EnrollmentRow) : Prop where
  id : later.id = row.id
  source : later.source = row.source
  journeyId : later.journeyId = row.journeyId
  journeyVersion : later.journeyVersion = row.journeyVersion
  createdAt : later.createdAt = row.createdAt
  maxAgeAt : later.maxAgeAt = row.maxAgeAt
  timed : openedByExecution row = true → (row.runState = .waiting → row.waitUntil ≠ none) →
    later.runState = .waiting → later.waitUntil ≠ none

variable {later : EnrollmentRow}

theorem RowKept.opened (kept : RowKept row later) :
    openedByExecution later = openedByExecution row := by
  unfold openedByExecution
  rw [kept.source, kept.journeyId]

theorem RowKept.refl (row : EnrollmentRow) : RowKept row row :=
  ⟨rfl, rfl, rfl, rfl, rfl, rfl, fun _ timed => timed⟩

theorem RowKept.trans {first second third : EnrollmentRow} (left : RowKept first second)
    (right : RowKept second third) : RowKept first third :=
  ⟨right.id.trans left.id, right.source.trans left.source, right.journeyId.trans left.journeyId,
    right.journeyVersion.trans left.journeyVersion, right.createdAt.trans left.createdAt,
    right.maxAgeAt.trans left.maxAgeAt,
    fun opened timed => right.timed (left.opened.trans opened) (left.timed opened timed)⟩

theorem RowDriven.kept {definitions : JourneyDefinitionSource} (driven : RowDriven definitions row)
    (kept : RowKept row later) : RowDriven definitions later := by
  refine ⟨?_, ?_, ?_⟩
  · intro opened
    rw [kept.journeyId, kept.journeyVersion, kept.maxAgeAt, kept.createdAt]
    exact driven.aged (kept.opened.symm.trans opened)
  · intro opened
    have before := kept.opened.symm.trans opened
    exact kept.timed before (driven.timed before)
  · intro opened
    rw [kept.maxAgeAt]
    exact driven.ageless (kept.opened.symm.trans opened)

structure EnrollmentsMove (definitions : JourneyDefinitionSource) (before after : JourneyTables) :
    Prop where
  later : ∀ row ∈ before.enrollments, ∃ other ∈ after.enrollments, RowKept row other
  former : ∀ other ∈ after.enrollments,
    (∃ row ∈ before.enrollments, RowKept row other) ∨ RowDriven definitions other
  ids : (before.enrollments.map fun row => row.id).Nodup →
    (after.enrollments.map fun row => row.id).Nodup

variable {id : String}

namespace EnrollmentsMove

variable {definitions : JourneyDefinitionSource} {before after : JourneyTables}

theorem of_eq (same : after.enrollments = before.enrollments) :
    EnrollmentsMove definitions before after := by
  constructor
  · intro row mem
    exact ⟨row, same ▸ mem, .refl row⟩
  · intro other mem
    exact .inl ⟨other, same ▸ mem, .refl other⟩
  · intro distinct
    rw [same]
    exact distinct

theorem trans {middle : JourneyTables} (left : EnrollmentsMove definitions before middle)
    (right : EnrollmentsMove definitions middle after) : EnrollmentsMove definitions before after := by
  constructor
  · exact Table.kept_trans .trans left.later right.later
  · intro last mem
    rcases right.former last mem with ⟨other, present, kept⟩ | driven
    · rcases left.former other present with ⟨row, presentRow, keptRow⟩ | driven
      · exact .inl ⟨row, presentRow, keptRow.trans kept⟩
      · exact .inr (driven.kept kept)
    · exact .inr driven
  · intro distinct
    exact right.ids (left.ids distinct)

variable {rewrite : EnrollmentRow → EnrollmentRow}

theorem mapped (kept : ∀ row ∈ before.enrollments, RowKept row (rewrite row))
    (rewritten : after.enrollments = before.enrollments.map rewrite) :
    EnrollmentsMove definitions before after := by
  constructor
  · intro row mem
    exact ⟨rewrite row, rewritten ▸ mem_map_of_mem mem, kept row mem⟩
  · intro other mem
    rw [rewritten] at mem
    obtain ⟨row, present, rfl⟩ := mem_map.mp mem
    exact .inl ⟨row, present, kept row present⟩
  · intro distinct
    have same : (before.enrollments.map rewrite).map (fun row => row.id) =
        before.enrollments.map fun row => row.id := by
      rw [map_map]
      exact map_congr_left fun row mem => (kept row mem).id
    rw [rewritten, same]
    exact distinct

theorem updated (kept : ∀ row ∈ before.enrollments, row.id = id → RowKept row (rewrite row))
    (rewritten : after.enrollments = (before.updateEnrollment id rewrite).enrollments) :
    EnrollmentsMove definitions before after := by
  have keeps : ∀ row ∈ before.enrollments,
      RowKept row (if row.id = id then rewrite row else row) := by
    intro row mem
    split
    next same => exact kept row mem same
    next => exact .refl row
  exact mapped keeps rewritten

theorem appended (fresh : ∀ other ∈ before.enrollments, other.id ≠ row.id)
    (driven : RowDriven definitions row) (added : after.enrollments = before.enrollments ++ [row]) :
    EnrollmentsMove definitions before after := by
  constructor
  · intro other mem
    exact ⟨other, added ▸ mem_append_left _ mem, .refl other⟩
  · intro other mem
    rw [added] at mem
    rcases mem_snoc.mp mem with present | rfl
    · exact .inl ⟨other, present, .refl other⟩
    · exact .inr driven
  · intro distinct
    rw [added]
    refine Table.nodup_append distinct fun taken => ?_
    obtain ⟨other, present, same⟩ := mem_map.mp taken
    exact fresh other present same

end EnrollmentsMove

/-! ## Execution -/

variable {seen : EnrollmentRow} {now startedAt : Instant} {input : AdvanceInput}
  {definition : JourneyVersionSnapshot} {enrollmentId correlationId contactId receiptId : String}
  {receipt : JrOutcomeReceipt} {decision : TriggerDecision} {result : JrSegmentReceipt}
  {ids : SegmentIds} {after : JourneyTables} {contract : TriggerContract}

section
variable {definitions : JourneyDefinitionSource}

theorem RowKept.ended (seen : EnrollmentRow) (reason : JrTerminalReason) (now : Instant)
    (exitStep : Option (Nat × String)) (row : EnrollmentRow) :
    RowKept row (endUnlessOver seen reason now exitStep row) := by
  unfold endUnlessOver
  split
  · exact .refl row
  · refine ⟨rfl, rfl, rfl, rfl, rfl, rfl, ?_⟩
    intro _ _ waiting
    cases waiting

variable {move : CursorMove}

theorem RowKept.moved (timed : move.runState = .waiting → move.waitUntil ≠ none)
    (stepSequence : Nat) (row : EnrollmentRow) : RowKept row (move.apply stepSequence row) :=
  ⟨rfl, rfl, rfl, rfl, rfl, rfl, fun _ _ => timed⟩

theorem writeTerminal_moves {reason : JrTerminalReason} {exitStep : Option (Nat × String)}
    (ok : writeTerminal tables seen reason now exitStep = .ok (after, row)) :
    EnrollmentsMove definitions tables after := by
  by_cases isOver : seen.runState = .terminal
  · unfold writeTerminal at ok
    rw [if_pos isOver] at ok
    cases ok
    exact .of_eq rfl
  · obtain ⟨_, -, rfl⟩ := writeTerminal_ok isOver ok
    exact .updated (fun row _ _ => .ended seen reason now exitStep row) rfl

variable {step : Definition.JourneyGraphStep}

theorem runStep_moves {outcome : StepRunOutcome}
    (timed : move.runState = .waiting → move.waitUntil ≠ none)
    (ok : runStep tables seen step startedAt input outcome move = .ok (after, row)) :
    EnrollmentsMove definitions tables after := by
  unfold runStep at ok
  obtain ⟨recorded, records, moves⟩ := bind_ok ok
  obtain ⟨run, -, -, rfl⟩ := Execution.recordStepRun_ok records
  obtain ⟨current, -, -, -, rfl⟩ := Execution.moveCursor_ok moves
  exact .updated (fun row _ _ => .moved timed (seen.stepSequence + 1) row) rfl

variable {outcome : JourneyStepOutcome}

theorem runCurrentStep_moves
    (ok : runCurrentStep now startedAt input tables seen step = .ok (after, outcome)) :
    EnrollmentsMove definitions tables after := by
  unfold runCurrentStep at ok
  split at ok
  next =>
    obtain ⟨recorded, records, ok⟩ := bind_ok ok
    obtain ⟨exited, ends, written⟩ := bind_ok ok
    cases written
    obtain ⟨run, -, -, rfl⟩ := Execution.recordStepRun_ok records
    have recording : EnrollmentsMove definitions tables
        { tables with stepRuns := tables.stepRuns ++ [run] } := .of_eq rfl
    exact recording.trans (writeTerminal_moves ends)
  next =>
    obtain ⟨moved, moves, written⟩ := bind_ok ok
    cases written
    exact runStep_moves (fun _ => Option.some_ne_none _) moves
  all_goals
    obtain ⟨moved, moves, written⟩ := bind_ok ok
    cases written
    exact runStep_moves (by simp) moves

variable {parked : Option (String × Nat)}

theorem advance_moves
    (ok : advance definition now startedAt input tables seen parked = .ok (after, outcome)) :
    EnrollmentsMove definitions tables after := by
  unfold advance at ok
  split at ok
  next =>
    cases ok
    exact .of_eq rfl
  next =>
    split at ok
    next =>
      obtain ⟨aged, ends, written⟩ := bind_ok ok
      cases written
      exact writeTerminal_moves ends
    next =>
      split at ok
      next =>
        cases ok
        exact .of_eq rfl
      next =>
        split at ok
        next =>
          obtain ⟨done, ends, written⟩ := bind_ok ok
          cases written
          exact writeTerminal_moves ends
        next =>
          split at ok
          next =>
            cases ok
            exact .of_eq rfl
          next =>
            obtain ⟨step, -, ok⟩ := bind_ok ok
            exact runCurrentStep_moves ok

theorem completeSend_moves
    (ok : completeSend definition startedAt input tables seen parked = .ok (after, outcome)) :
    EnrollmentsMove definitions tables after := by
  unfold completeSend at ok
  split at ok
  next =>
    cases ok
    exact .of_eq rfl
  next =>
    obtain ⟨pending, -, ok⟩ := bind_ok ok
    obtain ⟨step, -, ok⟩ := bind_ok ok
    split at ok
    next =>
      obtain ⟨moved, moves, written⟩ := bind_ok ok
      cases written
      exact runStep_moves (by simp) moves
    next => cases ok

theorem sweepMaxAge_moves {rows : List EnrollmentRow}
    {views : List EnrollmentView} (ok : sweepMaxAge now tables rows = .ok (after, views)) :
    EnrollmentsMove definitions tables after := by
  induction rows generalizing tables views with
  | nil =>
      cases ok
      exact .of_eq rfl
  | cons seen rest ih =>
      unfold sweepMaxAge at ok
      obtain ⟨closed, closes, ok⟩ := bind_ok ok
      obtain ⟨others, swept, written⟩ := bind_ok ok
      cases written
      exact (writeTerminal_moves closes).trans (ih swept)

theorem ExecutionWork.write_moves {work : ExecutionWork}
    {answer : Option (String × JrTerminalReason)}
    (ok : work.write now startedAt tables = .ok (after, answer)) :
    EnrollmentsMove definitions tables after := by
  cases work with
  | advancing definition input seen parked =>
      obtain ⟨moved, moves, written⟩ := bind_ok ok
      cases written
      exact advance_moves moves
  | completing definition input seen parked =>
      obtain ⟨moved, moves, written⟩ := bind_ok ok
      cases written
      exact completeSend_moves moves
  | terminating reason seen =>
      obtain ⟨ended, ends, written⟩ := bind_ok ok
      cases written
      exact writeTerminal_moves ends
  | sweeping now seen =>
      obtain ⟨swept, sweeps, written⟩ := bind_ok ok
      cases written
      exact sweepMaxAge_moves sweeps

theorem underLock_tables {session after : ExecutionSession} {pid : Nat}
    {begins : EnrollmentRow → Except ExecutionError ExecutionWork}
    (taken : session.underLock pid enrollmentId begins = some after) :
    after.tables = session.tables := by
  unfold ExecutionSession.underLock at taken
  split at taken
  next => cases taken
  split at taken
  next =>
    cases taken
    rfl
  next =>
    split at taken
    · cases taken
      rfl
    · cases taken
      rfl

theorem ExecutionSession.next_moves {session after : ExecutionSession} {step : ExecutionStep}
    (taken : session.next definitions step = some after) :
    EnrollmentsMove definitions session.tables after.tables := by
  cases step with
  | beginAdvance | beginCompleteSend => exact .of_eq (congrArg _ (underLock_tables taken))
  | beginTerminate pid enrollmentId ends =>
      simp only [Execution.ExecutionSession.next] at taken
      exact .of_eq (congrArg _ (underLock_tables taken))
  | beginSweep =>
      cases taken
      exact .of_eq rfl
  | finish pid now startedAt =>
      simp only [Execution.ExecutionSession.next] at taken
      split at taken
      next => cases taken
      split at taken
      next =>
        cases taken
        exact .of_eq rfl
      next committed =>
        cases taken
        exact ExecutionWork.write_moves committed
  | abort =>
      cases taken
      exact .of_eq rfl

theorem claimDueWork_moves (now claimSeconds : Instant) (workerId : String) (ids : List String)
    (tables : JourneyTables) :
    EnrollmentsMove definitions tables (claimDueWork now claimSeconds workerId ids tables) := by
  have keeps : ∀ row ∈ tables.enrollments, RowKept row
      (if row.id ∈ ids ∧ dueForClaim now row = true then
        { row with claimedBy := some workerId, claimExpiresAt := some (now + claimSeconds * 1000) }
      else row) := by
    intro row _
    split
    · exact ⟨rfl, rfl, rfl, rfl, rfl, rfl, fun _ timed => timed⟩
    · exact .refl row
  exact .mapped keeps rfl

/-! ## Events and schedules -/

variable {journeyId : String}

theorem publishedGraph_ok {version : Nat}
    (published : publishedGraph definitions journeyId version = .ok definition) :
    definitions journeyId version = some definition := by
  unfold publishedGraph at published
  obtain ⟨snapshot, found, published⟩ := bind_ok published
  have written := rest_ok published
  cases written
  exact orFail_ok.mp found

theorem runningEnrollment_driven {source : EnrollmentSource} {journeyVersion : Nat}
    (opened : openedByExecution
      (runningEnrollment now id source definition journeyId journeyVersion correlationId) = true)
    (found : definitions journeyId journeyVersion = some definition) :
    RowDriven definitions
      (runningEnrollment now id source definition journeyId journeyVersion correlationId) := by
  refine ⟨fun _ => ⟨definition, found, rfl⟩, ?_, ?_⟩
  · intro _ waiting
    cases waiting
  · intro closed
    rw [opened] at closed
    cases closed

theorem insertEnrollment_moves
    (driven : RowDriven definitions row) (ok : insertEnrollment tables row = .ok after) :
    EnrollmentsMove definitions tables after := by
  unfold insertEnrollment at ok
  obtain ⟨_, fresh, written⟩ := bind_ok ok
  rw [ensure_ok] at fresh
  cases written
  exact .appended fresh driven rfl

variable {answer : EnrollmentView}

theorem enrollFromEvent_moves {input : EnrollFromEventInput}
    (ok : enrollFromEvent definitions now tables input = .ok (after, answer)) :
    EnrollmentsMove definitions tables after := by
  unfold enrollFromEvent at ok
  obtain ⟨definition, published, ok⟩ := bind_ok ok
  split at ok
  next =>
    cases ok
    exact .of_eq rfl
  next =>
    replace ok := rest_ok ok
    obtain ⟨inserted, inserts, written⟩ := bind_ok ok
    cases written
    exact insertEnrollment_moves (runningEnrollment_driven rfl (publishedGraph_ok published)) inserts

variable {occurrenceId : String}

theorem claimOccurrence_moves {claimed : JourneyTables} {occurrenceAt : Instant}
    {input : EnrollFromScheduleInput} {existing : Option JrScheduleOccurrence}
    (ok : claimOccurrence tables occurrenceId occurrenceAt input existing = .ok claimed) :
    EnrollmentsMove definitions tables claimed := by
  unfold claimOccurrence at ok
  split at ok
  next =>
    cases ok
    exact .of_eq rfl
  next =>
    have written := rest_ok ok
    cases written
    exact .of_eq rfl

theorem enrollFromSchedule_moves {input : EnrollFromScheduleInput}
    (ok : enrollFromSchedule definitions now occurrenceId enrollmentId tables input =
      .ok (after, answer)) : EnrollmentsMove definitions tables after := by
  unfold enrollFromSchedule at ok
  obtain ⟨definition, published, ok⟩ := bind_ok ok
  obtain ⟨occurrenceAt, -, ok⟩ := bind_ok ok
  dsimp only at ok
  split at ok
  next =>
    cases ok
    exact .of_eq rfl
  next =>
    replace ok := rest_ok ok
    obtain ⟨claimed, claims, ok⟩ := bind_ok ok
    obtain ⟨inserted, inserts, written⟩ := bind_ok ok
    cases written
    have inserting := insertEnrollment_moves
      (runningEnrollment_driven rfl (publishedGraph_ok published)) inserts
    exact ((claimOccurrence_moves claims).trans inserting).trans (.of_eq rfl)

/-! ## Outcomes -/

def OpenedElsewhere (tables : JourneyTables) (id : String) : Prop :=
  ∃ row ∈ tables.enrollments, row.id = id ∧ openedByExecution row = false

theorem OpenedElsewhere.moved {before : JourneyTables}
    (elsewhere : OpenedElsewhere before id) (moves : EnrollmentsMove definitions before after) :
    OpenedElsewhere after id := by
  obtain ⟨row, mem, isId, opened⟩ := elsewhere
  obtain ⟨other, present, kept⟩ := moves.later row mem
  exact ⟨other, present, kept.id.trans isId, kept.opened.trans opened⟩

theorem OpenedElsewhere.only (elsewhere : OpenedElsewhere tables id)
    (distinct : (tables.enrollments.map fun row => row.id).Nodup)
    (mem : row ∈ tables.enrollments) (isId : row.id = id) : openedByExecution row = false := by
  obtain ⟨other, present, isOther, opened⟩ := elsewhere
  obtain rfl := Table.eq_of_key_eq distinct mem present (isId.trans isOther.symm)
  exact opened

theorem RowKept.decided (elsewhere : openedByExecution row = false)
    (scope : ScopeDecision) : RowKept row (decideEnrollment scope row) := by
  have timed : openedByExecution row = true → (row.runState = .waiting → row.waitUntil ≠ none) →
      (decideEnrollment scope row).runState = .waiting →
        (decideEnrollment scope row).waitUntil ≠ none := by
    intro opened
    rw [elsewhere] at opened
    cases opened
  unfold decideEnrollment at timed ⊢
  split
  next allows =>
    rw [if_pos allows] at timed
    exact ⟨rfl, rfl, rfl, rfl, rfl, rfl, timed⟩
  next denies =>
    rw [if_neg denies] at timed
    exact ⟨rfl, rfl, rfl, rfl, rfl, rfl, timed⟩

theorem RowKept.stopped (row : EnrollmentRow) : RowKept row (stopEnrollment row) := by
  unfold stopEnrollment
  split
  · refine ⟨rfl, rfl, rfl, rfl, rfl, rfl, ?_⟩
    intro _ _ waiting
    cases waiting
  · exact .refl row

theorem RowDriven.opened_elsewhere (elsewhere : openedByExecution row = false)
    (ageless : row.maxAgeAt = none) : RowDriven definitions row := by
  refine ⟨?_, ?_, fun _ => ageless⟩
  · intro opened
    rw [elsewhere] at opened
    cases opened
  · intro opened
    rw [elsewhere] at opened
    cases opened

theorem outcomeEnrollment_driven (scope : ScopeDecision) (now : Instant) (id : String)
    (snapshot : JourneyVersionSnapshot) (entryStepId : String) (receipt : JrOutcomeReceipt)
    (contactId : String) : RowDriven definitions
      (decideEnrollment scope (outcomeEnrollment now id snapshot entryStepId receipt contactId)) := by
  have elsewhere : openedByExecution
      (outcomeEnrollment now id snapshot entryStepId receipt contactId) = false := rfl
  exact (RowDriven.opened_elsewhere elsewhere rfl).kept (.decided elsewhere scope)

theorem markApplied_enrollments
    {result : JrOutcomeReceipt} (marked : markApplied now tables id = .ok (after, result)) :
    after.enrollments = tables.enrollments := by
  obtain ⟨row, -, -, rfl⟩ := markApplied_ok marked
  split
  · rfl
  · rfl

section
variable {takesOver : String → Prop}

theorem EnrollStep.moves (distinct : (tables.enrollments.map fun row => row.id).Nodup)
    (elsewhere : ∀ id, takesOver id → OpenedElsewhere tables id)
    (step : EnrollStep receipt takesOver tables after) : EnrollmentsMove definitions tables after := by
  cases step with
  | actions store => exact .of_eq rfl
  | decided taken scope =>
      exact .updated (fun row mem isId => .decided ((elsewhere _ taken).only distinct mem isId) scope)
        rfl
  | stopped id => exact .updated (fun row _ _ => .stopped row) rfl
  | opened scope now id snapshot entryStepId contactId fresh =>
      refine .appended ?_ (outcomeEnrollment_driven scope now id snapshot entryStepId receipt contactId)
        rfl
      intro other mem
      rw [(RowKept.decided rfl scope).id]
      exact fresh other mem

theorem Enrolls.moves (distinct : (tables.enrollments.map fun row => row.id).Nodup)
    (elsewhere : ∀ id, takesOver id → OpenedElsewhere tables id)
    (enrolls : Enrolls receipt takesOver tables after) : EnrollmentsMove definitions tables after := by
  induction enrolls with
  | refl => exact .of_eq rfl
  | tail _ step ih =>
      exact ih.trans (step.moves (ih.ids distinct) fun id taken => (elsewhere id taken).moved ih)

end

theorem planTrigger_elsewhere {readings : TriggerReadings}
    (mem : decision ∈ (planTrigger readings receipt contactId
      (streamEnrollments tables receipt.stream)).decisions)
    (taken : decision.enrollmentId = some id) : OpenedElsewhere tables id := by
  rcases mem_append.mp mem with undecided | fresh
  · obtain ⟨row, present, decides⟩ := mem_filterMap.mp undecided
    split at decides
    next =>
      obtain ⟨pinned, -, rfl⟩ := Option.map_eq_some_iff.mp decides
      obtain rfl := Option.some.inj taken
      have filtered := (Text.sortBy_perm _ _).mem_iff.mp present
      obtain ⟨stored, ofOutcome⟩ := mem_filter.mp filtered
      refine ⟨row, stored, rfl, ?_⟩
      unfold ofStream EnrollmentRow.outcomeReceiptId at ofOutcome
      unfold openedByExecution
      split at ofOutcome
      next receiptId isReceipt =>
        split at isReceipt
        next source => rw [source]
        next => cases isReceipt
      next => cases ofOutcome
    next => cases decides
  · obtain ⟨snapshot, -, rfl⟩ := mem_map.mp fresh
    cases taken

/-! ## Segments -/

theorem openIntents_moves (now : Instant) (ids : SegmentIds) (receipt : JrSegmentReceipt)
    (input : ApplySegmentEnrollmentInput) (intents : List (SegmentEnrollmentIntentInput × Nat))
    (tables : JourneyTables) :
    EnrollmentsMove definitions tables (openIntents now ids receipt input tables intents) := by
  induction intents generalizing tables with
  | nil => exact .of_eq rfl
  | cons intent rest ih =>
      unfold openIntents
      refine EnrollmentsMove.trans ?_ (ih _)
      unfold openIntent
      dsimp only
      split
      next => exact .of_eq rfl
      next free =>
        refine .appended ?_ (.opened_elsewhere rfl rfl) rfl
        intro other mem same
        refine free (Bool.or_eq_true_iff.mpr (.inr (any_eq_true.mpr ⟨other, mem, ?_⟩)))
        exact decide_eq_true same

theorem updateSegmentReceipt_enrollments {rewrite : JrSegmentReceipt → JrSegmentReceipt}
    (updated : updateSegmentReceipt tables id rewrite = .ok (after, result)) :
    after.enrollments = tables.enrollments := by
  obtain ⟨row, -, -, rfl, -⟩ := updateSegmentReceipt_ok.mp updated
  rfl

theorem advanceHead_enrollments (tables : JourneyTables) (receipt : JrSegmentReceipt) :
    (advanceHead tables receipt).1.enrollments = tables.enrollments := by
  unfold advanceHead
  split
  · rfl
  · dsimp only
    split
    · rfl
    · rfl

theorem enqueue_enrollments (ids : SegmentIds) (receipt : JrSegmentReceipt)
    (event : SegmentOutboxEventInput) (correlationId : String) (causationId : Option String)
    (tables : JourneyTables) :
    (enqueue ids receipt event correlationId causationId tables).enrollments =
      tables.enrollments := by
  unfold enqueue
  split
  · rfl
  · rfl

variable {event : SegmentOutboxEventInput}

theorem applyEnrollment_enrolls {input : ApplySegmentEnrollmentInput}
    (applied : applyEnrollment now ids tables input event = .ok (after, result)) :
    EnrollmentsMove definitions tables after := by
  unfold applyEnrollment at applied
  obtain ⟨receipt, -, applied⟩ := bind_ok applied
  have marked := rest_ok applied
  have advancing : EnrollmentsMove definitions tables (advanceHead tables receipt).1 :=
    .of_eq (advanceHead_enrollments tables receipt)
  have opening : EnrollmentsMove definitions (advanceHead tables receipt).1 _ :=
    openIntents_moves now ids receipt input input.intents.zipIdx (advanceHead tables receipt).1
  refine (advancing.trans opening).trans (.of_eq ?_)
  exact (updateSegmentReceipt_enrollments marked).trans (enqueue_enrollments ..)

theorem applyRefilter_enrollments {input : ApplySegmentRefilterInput}
    (applied : applyRefilter now ids tables input event = .ok (after, result)) :
    after.enrollments = tables.enrollments := by
  unfold applyRefilter at applied
  obtain ⟨receipt, -, marked⟩ := bind_ok applied
  have closing : (closeEntry (advanceHead tables receipt).1 receipt (advanceHead tables receipt).2
      input).enrollments = tables.enrollments := by
    unfold closeEntry
    split
    · exact advanceHead_enrollments tables receipt
    · exact advanceHead_enrollments tables receipt
  have cursor : (addRefilterCursor ids receipt input (closeEntry (advanceHead tables receipt).1 receipt
      (advanceHead tables receipt).2 input)).enrollments = tables.enrollments := by
    unfold addRefilterCursor
    split
    · exact closing
    · exact closing
  exact ((updateSegmentReceipt_enrollments marked).trans (enqueue_enrollments ..)).trans cursor

theorem applyNoOp_enrollments (applied : applyNoOp now tables receiptId = .ok (after, result)) :
    after.enrollments = tables.enrollments := by
  unfold applyNoOp at applied
  obtain ⟨receipt, -, marked⟩ := bind_ok applied
  exact (updateSegmentReceipt_enrollments marked).trans (advanceHead_enrollments tables receipt)

theorem executeVerdict_moves {retryDelay : Instant}
    {receipt : JrSegmentReceipt} {verdict : SegmentVerdict}
    (executed : executeVerdict now retryDelay ids tables receipt verdict = .ok (after, result)) :
    EnrollmentsMove definitions tables after := by
  cases verdict with
  | review reasonCode | retry => exact .of_eq (updateSegmentReceipt_enrollments executed)
  | noOp => exact .of_eq (applyNoOp_enrollments executed)
  | refilter input event => exact .of_eq (applyRefilter_enrollments executed)
  | enroll input event => exact applyEnrollment_enrolls executed

theorem segmentIngestUnderLock_enrollments {input : IngestSegmentReceiptInput}
    {outcome : IngestReceiptOutcome × JrSegmentReceipt}
    (ingests : segmentIngestUnderLock now id tables input = .ok (after, outcome)) :
    after.enrollments = tables.enrollments := by
  unfold segmentIngestUnderLock at ingests
  replace ingests := rest_ok ingests
  split at ingests
  next =>
    obtain ⟨raced, _, ingests⟩ := bind_ok ingests
    split at ingests
    next =>
      obtain ⟨quarantined, updated, written⟩ := bind_ok ingests
      cases written
      exact updateSegmentReceipt_enrollments updated
    next =>
      cases ingests
      rfl
  next =>
    cases ingests
    rfl

theorem claimNextSegment_enrollments {leaseSeconds : Instant} {workerId : String}
    (claims : claimNextSegment now leaseSeconds workerId tables receiptId = .ok (after, result)) :
    after.enrollments = tables.enrollments := by
  unfold claimNextSegment at claims
  obtain ⟨row, -, claims⟩ := bind_ok claims
  have updated := rest_ok claims
  exact updateSegmentReceipt_enrollments updated

theorem SegmentSession.next_moves {session after : SegmentSession} {step : SegmentStep}
    (taken : session.next step = some after) :
    EnrollmentsMove definitions session.tables after.tables := by
  cases step with
  | lookup pid input =>
      simp only [next] at taken
      split at taken
      · cases taken
        exact .of_eq rfl
      · cases taken
        exact .of_eq rfl
  | insert pid now id =>
      simp only [next] at taken
      split at taken
      next =>
        cases taken
        exact committed_cases (.of_eq rfl) fun _ _ ingests =>
          .of_eq (segmentIngestUnderLock_enrollments ingests)
      next => cases taken
  | claim pid workerId now leaseSeconds receiptId =>
      simp only [next] at taken
      split at taken
      next claims =>
        cases taken
        exact .of_eq (claimNextSegment_enrollments claims)
      next => cases taken
  | judge pid readings =>
      simp only [next] at taken
      split at taken
      next =>
        cases taken
        exact .of_eq rfl
      next => cases taken
  | finish pid now retryDelay ids =>
      simp only [next] at taken
      split at taken
      next =>
        cases taken
        exact committed_cases (.of_eq rfl) fun _ _ executed => executeVerdict_moves executed
      next => cases taken
  | quarantine pid reasonCode =>
      simp only [next] at taken
      split at taken
      next =>
        cases taken
        exact committed_cases (.of_eq rfl) fun _ _ marked =>
          .of_eq (updateSegmentReceipt_enrollments marked)
      next => cases taken

end

/-! ## The processor of events -/

/-- The enrollment that `JourneyProcessor` opens for a receipt. -/
def foundationEnrollment (now : Instant) (receiptId : String) (journeyVersion : Nat) :
    EnrollmentRow where
  id := receiptId
  journeyId := none
  journeyVersion := journeyVersion
  runState := .running
  currentStepId := none
  stepSequence := 0
  waitUntil := none
  claimedBy := none
  claimExpiresAt := none
  source := some (.eventInbox receiptId)
  contactId := none
  state := .pending
  maxAgeAt := none
  terminalReason := none
  terminalStepId := none
  terminalAt := none
  correlationId := none
  createdAt := now

def ensureEnrollment (now : Instant) (receiptId : String) (journeyVersion : Nat)
    (tables : JourneyTables) : Option JourneyTables :=
  match findBySource tables (.eventInbox receiptId) with
  | some existing => if existing.journeyVersion = journeyVersion then some tables else none
  | none =>
      (insertEnrollment tables (foundationEnrollment now receiptId journeyVersion)).toOption

/-- The write of `persistOutcome` and of `persistScopeDenied`. -/
def persistDecision (receiptId : String) (state : JrEnrollmentState) (contactId : Option String)
    (tables : JourneyTables) : JourneyTables :=
  tables.updateEnrollment receiptId fun row =>
    { row with state := state, contactId := contactId.or row.contactId }

/-! ## Runs of all sources -/

structure JourneySession where
  tables : JourneyTables
  executions : List (Session ExecutionWork)
  answers : List (String × JrTerminalReason)
  outcomes : List (Session OutcomeWork)
  applied : List (OutcomeStream × Nat)
  segments : List (Session SegmentWork)

/-- The results of the owners and the new evaluations of segments go on with enrollments that
outcomes and segments have opened. -/
inductive JourneyStep where
  | execution (step : ExecutionStep)
  | enrollFromEvent (now : Instant) (input : EnrollFromEventInput)
  | enrollFromSchedule (now : Instant) (occurrenceId enrollmentId : String)
      (input : EnrollFromScheduleInput)
  | claimDueWork (now claimSeconds : Instant) (workerId : String) (ids : List String)
  | ensureEnrollment (now : Instant) (receiptId : String) (journeyVersion : Nat)
  | persistDecision (receiptId : String) (state : JrEnrollmentState) (contactId : Option String)
  | outcome (step : OutcomeStep)
  | segment (step : SegmentStep)
  | elsewhere (move : EnrollmentRow → EnrollmentRow) (actions : List JrOwnerAction)
      (commands : List JrOwnerCommandOutbox) (stepRuns : List StepRunRow)

/-- What a result of an owner or a new evaluation makes of an enrollment. -/
def movedElsewhere (move : EnrollmentRow → EnrollmentRow) (row : EnrollmentRow) : EnrollmentRow :=
  if openedByExecution row then row
  else
    { move row with
      id := row.id
      source := row.source
      journeyId := row.journeyId
      journeyVersion := row.journeyVersion
      createdAt := row.createdAt
      maxAgeAt := row.maxAgeAt }

namespace JourneySession

def execution (session : JourneySession) : ExecutionSession :=
  ⟨session.tables, session.executions, session.answers⟩

def outcome (session : JourneySession) : OutcomeSession :=
  ⟨session.tables, session.outcomes, session.applied⟩

def segment (session : JourneySession) : SegmentSession :=
  ⟨session.tables, session.segments⟩

def next (definitions : JourneyDefinitionSource) (contract : TriggerContract)
    (session : JourneySession) : JourneyStep → Option JourneySession
  | .execution step =>
      (session.execution.next definitions step).map fun after =>
        { session with
          tables := after.tables, executions := after.workers, answers := after.answers }
  | .enrollFromEvent now input =>
      some { session with
        tables := committed session.tables (enrollFromEvent definitions now session.tables input) }
  | .enrollFromSchedule now occurrenceId enrollmentId input =>
      some { session with
        tables := committed session.tables
          (enrollFromSchedule definitions now occurrenceId enrollmentId session.tables input) }
  | .claimDueWork now claimSeconds workerId ids =>
      some { session with tables := claimDueWork now claimSeconds workerId ids session.tables }
  | .ensureEnrollment now receiptId journeyVersion =>
      (ensureEnrollment now receiptId journeyVersion session.tables).map fun after =>
        { session with tables := after }
  | .persistDecision receiptId state contactId =>
      some { session with tables := persistDecision receiptId state contactId session.tables }
  | .outcome (.elsewhere _ _ _) => none
  | .outcome step =>
      (session.outcome.next contract step).map fun after =>
        { session with
          tables := after.tables, outcomes := after.workers, applied := after.applied }
  | .segment step =>
      (session.segment.next step).map fun after =>
        { session with tables := after.tables, segments := after.workers }
  | .elsewhere move actions commands stepRuns =>
      some { session with
        tables := { session.tables with
          enrollments := session.tables.enrollments.map (movedElsewhere move)
          actions := actions
          commands := commands
          stepRuns := stepRuns } }

/-- No enrollment has been opened yet. -/
structure Fresh (session : JourneySession) : Prop where
  enrollments : session.tables.enrollments = []
  executions : session.executions = []
  outcomes : session.outcomes = []
  segments : session.segments = []

end JourneySession

def journeys (definitions : JourneyDefinitionSource) (contract : TriggerContract) :
    System JourneySession JourneyStep :=
  .ofNext JourneySession.Fresh (JourneySession.next definitions contract)

/-! ## One step -/

variable {session : JourneySession}

section
variable {definitions : JourneyDefinitionSource}

def OutcomeWork.Elsewhere (tables : JourneyTables) (work : OutcomeWork) : Prop :=
  ∀ receipt plan, work = .judged receipt (.apply plan) →
    ∀ decision ∈ plan.decisions, ∀ id, decision.enrollmentId = some id → OpenedElsewhere tables id

variable {work : OutcomeWork}

theorem OutcomeWork.Elsewhere.moved {before : JourneyTables} (elsewhere : work.Elsewhere before)
    (moves : EnrollmentsMove definitions before after) : work.Elsewhere after :=
  fun receipt plan judged decision mem id taken =>
    (elsewhere receipt plan judged decision mem id taken).moved moves

/-- Where every enrollment is as its source has it, and the workers decide on what outcomes opened. -/
structure JourneySession.Driven (definitions : JourneyDefinitionSource) (session : JourneySession) :
    Prop where
  ids : (session.tables.enrollments.map fun row => row.id).Nodup
  rows : ∀ row ∈ session.tables.enrollments, RowDriven definitions row
  workers : ∀ worker ∈ session.outcomes, OutcomeWork.Elsewhere session.tables worker.work

theorem JourneySession.Driven.moved {after : JourneySession} (driven : session.Driven definitions)
    (moves : EnrollmentsMove definitions session.tables after.tables)
    (workers : ∀ worker ∈ after.outcomes, OutcomeWork.Elsewhere after.tables worker.work) :
    after.Driven definitions := by
  refine ⟨moves.ids driven.ids, ?_, workers⟩
  intro row mem
  rcases moves.former row mem with ⟨former, present, kept⟩ | new
  · exact (driven.rows former present).kept kept
  · exact new

/-- Nothing changes for the workers that hold receipts of outcomes. -/
theorem JourneySession.Driven.stays {after : JourneySession} (driven : session.Driven definitions)
    (moves : EnrollmentsMove definitions session.tables after.tables)
    (same : after.outcomes = session.outcomes) : after.Driven definitions := by
  refine driven.moved moves ?_
  intro worker mem
  exact (driven.workers worker (same ▸ mem)).moved moves

theorem OutcomeWork.Elsewhere.of_unplanned
    (unplanned : ∀ receipt plan, work ≠ .judged receipt (.apply plan)) : work.Elsewhere tables :=
  fun receipt plan judged => absurd judged (unplanned receipt plan)

theorem judgeReceipt_elsewhere (readings : TriggerReadings) (tables : JourneyTables)
    (receipt : JrOutcomeReceipt) :
    OutcomeWork.Elsewhere tables (.judged receipt (judgeReceipt readings tables receipt)) := by
  rintro stored plan judged decision mem id taken
  injection judged with same verdict
  subst same
  unfold judgeReceipt at verdict
  split at verdict
  next => cases verdict
  next contactId _ =>
    dsimp only at verdict
    split at verdict
    next => cases verdict
    injection verdict with isPlan
    subst isPlan
    exact planTrigger_elsewhere mem taken

theorem OutcomeSession.finish_moves (contract : TriggerContract) {session : OutcomeSession}
    (pid : Nat) (now retryDelay : Instant) (ids : Nat → FreshIds) {verdict : TriggerVerdict}
    (distinct : (session.tables.enrollments.map fun row => row.id).Nodup)
    (elsewhere : OutcomeWork.Elsewhere session.tables (.judged receipt verdict)) :
    EnrollmentsMove definitions session.tables
        (session.finish contract pid now retryDelay ids receipt verdict).tables ∧
      (session.finish contract pid now retryDelay ids receipt verdict).workers =
        Session.drop session.workers pid := by
  cases verdict with
  | review reasonCode =>
      refine ⟨?_, rfl⟩
      exact committed_cases (.of_eq rfl) fun _ _ marked =>
        .of_eq (markReceipt_kept (markReview_keeps reasonCode) marked).2
  | retry =>
      refine ⟨?_, rfl⟩
      exact committed_cases (.of_eq rfl) fun _ _ marked =>
        .of_eq (markReceipt_kept (markRetryable_keeps now retryDelay) marked).2
  | apply plan =>
      unfold finish
      dsimp only
      split
      next => exact ⟨.of_eq rfl, rfl⟩
      next after outcome applied =>
        obtain ⟨enrolled, row, enrolls, marked⟩ :=
          applyPlan_enrolls (elsewhere receipt plan rfl) applied
        exact ⟨(enrolls.moves distinct fun _ => id).trans
          (.of_eq (markApplied_enrollments marked)), rfl⟩

/-- What the workers of outcomes still hold, after an answer. -/
theorem OutcomeSession.answered {session : OutcomeSession} {pid : Nat}
    (workers : ∀ worker ∈ session.workers, OutcomeWork.Elsewhere session.tables worker.work)
    (moves : EnrollmentsMove definitions session.tables tables) :
    ∀ worker ∈ Session.drop session.workers pid, OutcomeWork.Elsewhere tables worker.work :=
  fun worker mem => (workers worker (Session.mem_drop.mp mem).1).moved moves

theorem OutcomeSession.next_moves {session after : OutcomeSession} {step : OutcomeStep}
    (inside : ∀ move actions commands, step ≠ .elsewhere move actions commands)
    (distinct : (session.tables.enrollments.map fun row => row.id).Nodup)
    (workers : ∀ worker ∈ session.workers, OutcomeWork.Elsewhere session.tables worker.work)
    (taken : session.next contract step = some after) :
    EnrollmentsMove definitions session.tables after.tables ∧
      ∀ worker ∈ after.workers, OutcomeWork.Elsewhere after.tables worker.work := by
  cases step with
  | lookup pid input =>
      simp only [next] at taken
      split at taken
      next =>
        cases taken
        refine ⟨.of_eq rfl, Session.forall_replace workers ?_⟩
        exact .of_unplanned fun _ _ judged => by cases judged
      next =>
        cases taken
        exact ⟨.of_eq rfl, workers⟩
  | insert pid now id =>
      simp only [next] at taken
      split at taken
      next input _ =>
        cases taken
        have moves : EnrollmentsMove definitions session.tables
            (committed session.tables (ingestUnderLock now id session.tables input)) :=
          committed_cases (.of_eq rfl) fun _ _ ingested => .of_eq (ingestUnderLock_kept ingested).2
        exact ⟨moves, answered workers moves⟩
      next => cases taken
  | claim pid workerId now leaseSeconds receiptId =>
      simp only [next] at taken
      split at taken
      next tables receipt claimed =>
        cases taken
        obtain ⟨_, -, -, rewrite, -, -, -, rfl, -⟩ := claimNextReady_some claimed
        have moves : EnrollmentsMove definitions session.tables
            (session.tables.updateOutcomeReceipt receiptId rewrite) := .of_eq rfl
        refine ⟨moves, Session.forall_replace ?_ ?_⟩
        · exact fun worker mem => (workers worker mem).moved moves
        · exact .of_unplanned fun _ _ judged => by cases judged
      next => cases taken
  | judge pid readings =>
      simp only [next] at taken
      split at taken
      next receipt _ =>
        cases taken
        exact ⟨.of_eq rfl, Session.forall_replace workers
          (judgeReceipt_elsewhere readings session.tables receipt)⟩
      next => cases taken
  | finish pid now retryDelay ids =>
      simp only [next] at taken
      split at taken
      next receipt verdict found =>
        cases taken
        have elsewhere := workers _ (Session.find_mem found)
        have finishes : EnrollmentsMove definitions session.tables
            (session.finish contract pid now retryDelay ids receipt verdict).tables ∧ _ :=
          finish_moves contract pid now retryDelay ids distinct elsewhere
        refine ⟨finishes.1, ?_⟩
        rw [finishes.2]
        exact answered workers finishes.1
      next => cases taken
  | quarantine pid reasonCode =>
      simp only [next] at taken
      split at taken
      next receipt _ =>
        cases taken
        have moves : EnrollmentsMove definitions session.tables
            (committed session.tables (markQuarantined session.tables receipt.id reasonCode)) :=
          committed_cases (.of_eq rfl) fun _ _ marked =>
            .of_eq (markReceipt_kept (markQuarantined_keeps reasonCode) marked).2
        exact ⟨moves, answered workers moves⟩
      next => cases taken
  | elsewhere move actions commands => exact absurd rfl (inside move actions commands)

theorem ensureEnrollment_moves {journeyVersion : Nat}
    (ensures : ensureEnrollment now receiptId journeyVersion tables = some after) :
    EnrollmentsMove definitions tables after := by
  unfold ensureEnrollment at ensures
  split at ensures
  next =>
    split at ensures
    next =>
      cases ensures
      exact .of_eq rfl
    next => cases ensures
  next =>
    match inserts : insertEnrollment tables (foundationEnrollment now receiptId journeyVersion),
      ensures with
    | .ok inserted, ensures =>
        cases ensures
        exact insertEnrollment_moves (.opened_elsewhere rfl rfl) inserts

theorem RowKept.movedElsewhere (move : EnrollmentRow → EnrollmentRow) (row : EnrollmentRow) :
    RowKept row (movedElsewhere move row) := by
  unfold Journey.movedElsewhere
  split
  next => exact .refl row
  next elsewhere =>
    refine ⟨rfl, rfl, rfl, rfl, rfl, rfl, ?_⟩
    intro opened
    exact absurd opened elsewhere

/-- One step of any of them keeps what is known of the enrollments. -/
theorem JourneySession.Driven.stepped {after : JourneySession} {step : JourneyStep}
    (driven : session.Driven definitions)
    (taken : session.next definitions contract step = some after) : after.Driven definitions := by
  cases step with
  | execution step =>
      obtain ⟨moved, moves, rfl⟩ := Option.map_eq_some_iff.mp taken
      exact driven.stays (ExecutionSession.next_moves moves) rfl
  | enrollFromEvent now input =>
      cases taken
      refine driven.stays ?_ rfl
      exact committed_cases (.of_eq rfl) fun _ _ enrolls => enrollFromEvent_moves enrolls
  | enrollFromSchedule now occurrenceId enrollmentId input =>
      cases taken
      refine driven.stays ?_ rfl
      exact committed_cases (.of_eq rfl) fun _ _ enrolls => enrollFromSchedule_moves enrolls
  | claimDueWork now claimSeconds workerId ids =>
      cases taken
      exact driven.stays (claimDueWork_moves now claimSeconds workerId ids session.tables) rfl
  | ensureEnrollment now receiptId journeyVersion =>
      obtain ⟨ensured, ensures, rfl⟩ := Option.map_eq_some_iff.mp taken
      exact driven.stays (ensureEnrollment_moves ensures) rfl
  | persistDecision receiptId state contactId =>
      cases taken
      refine driven.stays (.updated (fun row _ _ => ?_) rfl) rfl
      exact ⟨rfl, rfl, rfl, rfl, rfl, rfl, fun _ timed => timed⟩
  | outcome step =>
      cases step with
      | elsewhere => cases taken
      | _ =>
          obtain ⟨moved, moves, rfl⟩ := Option.map_eq_some_iff.mp taken
          have stepped : EnrollmentsMove definitions session.tables moved.tables ∧ _ :=
            next_moves (by simp) driven.ids driven.workers moves
          exact driven.moved stepped.1 stepped.2
  | segment step =>
      obtain ⟨moved, moves, rfl⟩ := Option.map_eq_some_iff.mp taken
      exact driven.stays (next_moves moves) rfl
  | elsewhere move actions commands stepRuns =>
      cases taken
      exact driven.stays (.mapped (fun row _ => .movedElsewhere move row) rfl) rfl

theorem JourneySession.Fresh.driven (fresh : session.Fresh) : session.Driven definitions := by
  refine ⟨?_, ?_, ?_⟩
  · rw [fresh.enrollments]
    exact nodup_nil
  · rw [fresh.enrollments]
    exact forall_mem_nil _
  · rw [fresh.outcomes]
    exact forall_mem_nil _

theorem JourneySession.Driven.reachable
    (reachable : (journeys definitions contract).Reachable session) : session.Driven definitions := by
  refine reachable.invariant ?_ ?_
  · exact fun _ fresh => JourneySession.Fresh.driven fresh
  · exact fun _ _ _ driven taken => JourneySession.Driven.stepped driven taken

/-- In every run, an enrollment that is not over is driven on exactly if an event or a schedule
opened it. -/
theorem enrollments_are_drivable_by_source {session : JourneySession}
    (reachable : (journeys definitions contract).Reachable session) {row : EnrollmentRow}
    (mem : row ∈ session.tables.enrollments) (alive : row.runState ≠ .terminal) :
    Drivable definitions session.tables row ↔ openedByExecution row = true :=
  ((JourneySession.Driven.reachable reachable).rows row mem).drivable_iff alive

end

/-! ## An event and a segment -/

def idleJourneys : JourneySession := ⟨JourneyTables.empty, [], [], [], [], []⟩

theorem idleJourneys_fresh : idleJourneys.Fresh := ⟨rfl, rfl, rfl, rfl⟩

def segmentDefinitions : JourneyDefinitionSource := fun _ _ => some segmentJourney

/-- The enrollment of an event is driven on. -/
theorem enrollments_are_drivable_by_source_for_event :
    ∃ session row, (journeys exitDefinitions sampleTriggerContract).Reachable session ∧
      row ∈ session.tables.enrollments ∧
      (Drivable exitDefinitions session.tables row ↔ openedByExecution row = true) ∧
        openedByExecution row = true := by
  have ends : System.endsWith (JourneySession.next exitDefinitions sampleTriggerContract) idleJourneys
      [] (.enrollFromEvent 0 ⟨"receipt", "journey", 1, "correlation"⟩)
      (fun _ after => after.tables.enrollments.any fun row =>
        openedByExecution row && decide (row.runState ≠ .terminal)) = true := by decide +kernel
  obtain ⟨before, after, reachable, last, opened⟩ := System.Reachable.endsWith idleJourneys_fresh ends
  simp only [any_eq_true, Bool.and_eq_true, decide_eq_true_eq] at opened
  obtain ⟨row, mem, opened, alive⟩ := opened
  have reached := reachable.step last
  exact ⟨after, row, reached, mem, enrollments_are_drivable_by_source reached mem alive, opened⟩

/-- The enrollment of an entry into a segment waits for nothing and has no age. -/
theorem enrollments_of_segments_are_stranded :
    ¬ ∀ session, (journeys segmentDefinitions sampleTriggerContract).Reachable session →
      ∀ row ∈ session.tables.enrollments, row.runState ≠ .terminal →
        Drivable segmentDefinitions session.tables row := by
  intro driven
  have ends : System.endsWith (JourneySession.next segmentDefinitions sampleTriggerContract) idleJourneys
      ((receiveChange 0 0 "first" (sampleChange 1 "ENTERED" "one" "hash") ++
        workOn 0 0 "first" sampleEligible).map JourneyStep.segment)
      (.segment (.finish 0 0 0 (sampleSegmentIds "first")))
      (fun _ after => after.tables.enrollments.any fun row =>
        decide (row.runState = .waiting ∧ row.waitUntil = none) && !awaitsOwner after.tables row) =
      true := by decide +kernel
  obtain ⟨before, after, reachable, last, waits⟩ := System.Reachable.endsWith idleJourneys_fresh ends
  simp only [any_eq_true, Bool.and_eq_true, decide_eq_true_eq, Bool.not_eq_true'] at waits
  obtain ⟨row, mem, ⟨waiting, untimed⟩, unowned⟩ := waits
  have alive : row.runState ≠ .terminal := by simp [waiting]
  rcases (driven after (reachable.step last) row mem alive).selectable with ⟨now, due⟩ | owned
  · simp [dueForClaim, waiting, untimed] at due
  · rw [unowned] at owned
    cases owned

end DContact.Journey

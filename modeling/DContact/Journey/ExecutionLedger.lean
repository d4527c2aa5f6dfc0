import DContact.Journey.JourneyExecution
import DContact.Lib.Sessions

/-!
# The ledger of an enrollment

The transactions that move or end enrollments run side by side. Those that hold the lock of an
enrollment have it to themselves, but a sweep for the maximum age may end it between their read
and their write. As long as no call that leaves the graph is overtaken in that way, the step runs
are numbered without gaps, the first end stays, and the answers of calls are the stored reasons.
-/

namespace DContact.Journey.Execution

open Lib List
open Governance (Instant)
open Definition (JourneyVersionSnapshot planJourneyStep)

/-! ## Transactions side by side -/

/-- The ways to end an enrollment from outside. -/
inductive ExternalEnd where
  | cancel
  | reachGoal
  | applyExitRule

def ExternalEnd.reason : ExternalEnd → JrTerminalReason
  | .cancel => .cancelled
  | .reachGoal => .goalReached
  | .applyExitRule => .exitRule

/-- A transaction that has read and has not written yet. -/
inductive ExecutionWork where
  | advancing (definition : JourneyVersionSnapshot) (input : AdvanceInput) (seen : EnrollmentRow)
      (parked : Option (String × Nat))
  | completing (definition : JourneyVersionSnapshot) (input : AdvanceInput) (seen : EnrollmentRow)
      (parked : Option (String × Nat))
  | terminating (reason : JrTerminalReason) (seen : EnrollmentRow)
  | sweeping (now : Instant) (seen : List EnrollmentRow)

def ExecutionWork.locked : ExecutionWork → Option EnrollmentRow
  | .advancing _ _ seen _ | .completing _ _ seen _ | .terminating _ seen => some seen
  | .sweeping _ _ => none

def ExecutionWork.lock (work : ExecutionWork) : Option String :=
  work.locked.map fun seen => seen.id

def answered (seen : EnrollmentRow) : JourneyStepOutcome → Option (String × JrTerminalReason)
  | .terminal reason _ => some (seen.id, reason)
  | _ => none

/-- The writes of a transaction, which commit together. -/
def ExecutionWork.write (now startedAt : Instant) (tables : JourneyTables) :
    ExecutionWork → Except ExecutionError (JourneyTables × Option (String × JrTerminalReason))
  | .advancing definition input seen parked => do
      let moved ← advance definition now startedAt input tables seen parked
      .ok (moved.1, answered seen moved.2)
  | .completing definition input seen parked => do
      let moved ← completeSend definition startedAt input tables seen parked
      .ok (moved.1, answered seen moved.2)
  | .terminating reason seen => do
      let ended ← writeTerminal tables seen reason now none
      .ok (ended.1, none)
  | .sweeping now seen => do
      let swept ← sweepMaxAge now tables seen
      .ok (swept.1, none)

/-- The answers are the reasons that calls have returned, with the enrollment they are about. -/
structure ExecutionSession where
  tables : JourneyTables
  workers : List (Session ExecutionWork)
  answers : List (String × JrTerminalReason)

inductive ExecutionStep where
  | beginAdvance (pid : Nat) (enrollmentId : String) (input : AdvanceInput)
  | beginCompleteSend (pid : Nat) (enrollmentId : String) (input : AdvanceInput)
  | beginTerminate (pid : Nat) (enrollmentId : String) (ends : ExternalEnd)
  | beginSweep (pid : Nat) (now : Instant) (limit : Nat)
  | finish (pid : Nat) (now startedAt : Instant)
  | abort (pid : Nat)

namespace ExecutionSession

def resume (session : ExecutionSession) (pid : Nat) (work : ExecutionWork) : ExecutionSession :=
  { session with workers := Session.replace session.workers pid work }

def leave (session : ExecutionSession) (pid : Nat) : ExecutionSession :=
  { session with workers := Session.drop session.workers pid }

/-- The read of an enrollment waits for its lock; without the row the transaction is over. -/
def underLock (session : ExecutionSession) (pid : Nat) (enrollmentId : String)
    (begins : EnrollmentRow → Except ExecutionError ExecutionWork) : Option ExecutionSession :=
  if Session.others session.workers pid (fun work => work.lock = some enrollmentId) then none
  else
    match session.tables.findEnrollment enrollmentId with
    | none => some (session.leave pid)
    | some seen =>
        match begins seen with
        | .error _ => some (session.leave pid)
        | .ok work => some (session.resume pid work)

def next (definitions : JourneyDefinitionSource) (session : ExecutionSession) :
    ExecutionStep → Option ExecutionSession
  | .beginAdvance pid enrollmentId input =>
      session.underLock pid enrollmentId fun seen => do
        let definition ← publishedGraph definitions (seen.journeyId.getD "") seen.journeyVersion
        .ok (.advancing definition input seen (pendingSend session.tables seen))
  | .beginCompleteSend pid enrollmentId input =>
      session.underLock pid enrollmentId fun seen => do
        let definition ← publishedGraph definitions (seen.journeyId.getD "") seen.journeyVersion
        .ok (.completing definition input seen (pendingSend session.tables seen))
  | .beginTerminate pid enrollmentId ends =>
      session.underLock pid enrollmentId fun seen => .ok (.terminating ends.reason seen)
  | .beginSweep pid now limit =>
      some (session.resume pid (.sweeping now (expiredEnrollments now limit session.tables)))
  | .finish pid now startedAt =>
      match Session.find session.workers pid with
      | none => none
      | some work =>
          match work.write now startedAt session.tables with
          | .error _ => some (session.leave pid)
          | .ok (after, answer) =>
              some { session.leave pid with
                tables := after
                answers := session.answers ++ answer.toList }
  | .abort pid => some (session.leave pid)

end ExecutionSession

structure ExecutionSession.Fresh (session : ExecutionSession) : Prop where
  workers : session.workers = []
  answers : session.answers = []
  stepRuns : session.tables.stepRuns = []
  ids : (session.tables.enrollments.map fun row => row.id).Nodup
  atStart : ∀ row ∈ session.tables.enrollments, row.stepSequence = 0
  reason : ∀ row ∈ session.tables.enrollments, row.runState = .terminal → row.terminalReason ≠ none

def journeyExecution (definitions : JourneyDefinitionSource) :
    System ExecutionSession ExecutionStep :=
  .ofNext ExecutionSession.Fresh (ExecutionSession.next definitions)

/-! ## What is asked of the ledger -/

def NumberedStepRuns (tables : JourneyTables) : Prop :=
  ∀ row ∈ tables.enrollments,
    (stepRunsOf tables row.id).map (fun run => run.stepSequence) = List.range' 1 row.stepSequence

def EndsOnce (before after : JourneyTables) : Prop :=
  ∀ row ∈ before.enrollments, row.runState = .terminal →
    after.findEnrollment row.id = some row ∧ stepRunsOf after row.id = stepRunsOf before row.id

def AnswersStored (session : ExecutionSession) : Prop :=
  ∀ answer ∈ session.answers, ∃ row, session.tables.findEnrollment answer.1 = some row ∧
    row.runState = .terminal ∧ row.terminalReason = some answer.2

/-- The call will leave the graph, from what it has read. -/
def leavesGraph (definition : JourneyVersionSnapshot) (now : Instant) (input : AdvanceInput)
    (seen : EnrollmentRow) (parked : Option (String × Nat)) : Bool :=
  seen.runState ≠ .terminal && !(seen.maxAgeAt.any fun maxAgeAt => maxAgeAt ≤ now) &&
    !(seen.runState = .waiting && seen.waitUntil.any fun waitUntil => now < waitUntil) &&
    match givenText seen.currentStepId with
    | none => true
    | some stepId =>
        parked.isNone && (definition.graph.stepOf stepId).any fun step =>
          planJourneyStep now input.evaluator step = .exit

/-- A call that leaves the graph writes to an enrollment that is not over. -/
def ExecutionSession.notOvertaken (session : ExecutionSession) : ExecutionStep → Bool
  | .finish pid now _ =>
      match Session.find session.workers pid with
      | some (.advancing definition input seen parked) =>
          !leavesGraph definition now input seen parked ||
            (session.tables.findEnrollment seen.id).all fun row => row.runState ≠ .terminal
      | _ => true
  | _ => true

/-! ## What a transaction does to the ledger -/

structure GoesOn (row later : EnrollmentRow) (runs : List StepRunRow) : Prop where
  isOver : row.runState = .terminal → later = row ∧ runs = []
  numbered : runs.map (fun run => run.stepSequence) = List.range' (row.stepSequence + 1) runs.length
  sequence : later.stepSequence = row.stepSequence + runs.length
  reason : later.runState = .terminal → row.runState = .terminal ∨ later.terminalReason ≠ none

/-- Every enrollment goes on, and none is added or removed. -/
structure LedgerMoves (before after : JourneyTables) : Prop where
  ids : after.enrollments.map (fun row => row.id) = before.enrollments.map fun row => row.id
  rows : ∀ id row, before.findEnrollment id = some row →
    ∃ later runs, after.findEnrollment id = some later ∧ GoesOn row later runs ∧
      stepRunsOf after id = stepRunsOf before id ++ runs

/-- What happens to an enrollment behind the back of the transaction that has its lock. -/
def StaysOrSwept (row later : EnrollmentRow) : Prop :=
  later = row ∨ (row.runState ≠ .terminal ∧ later.runState = .terminal ∧
    later.terminalReason = some .maxAge ∧ later.stepSequence = row.stepSequence)

/-- The writes of a transaction that holds a lock, or of a sweep, which holds none. -/
structure Writes (holder : Option String) (before after : JourneyTables)
    (answer : Option (String × JrTerminalReason)) : Prop where
  moves : LedgerMoves before after
  others : ∀ id, holder ≠ some id → ∀ row, before.findEnrollment id = some row →
    ∃ later, after.findEnrollment id = some later ∧ StaysOrSwept row later
  answers : ∀ given ∈ answer, ∃ row, after.findEnrollment given.1 = some row ∧
    row.runState = .terminal ∧ row.terminalReason = some given.2

theorem GoesOn.refl (row : EnrollmentRow) : GoesOn row row [] :=
  ⟨fun _ => ⟨rfl, rfl⟩, rfl, rfl, fun isOver => .inl isOver⟩

variable {row later : EnrollmentRow}

/-- An enrollment that is not over runs one more step. -/
theorem GoesOn.one {run : StepRunRow} (alive : row.runState ≠ .terminal)
    (numbered : run.stepSequence = row.stepSequence + 1)
    (sequence : later.stepSequence = row.stepSequence + 1)
    (reason : later.runState = .terminal → later.terminalReason ≠ none) : GoesOn row later [run] := by
  refine ⟨fun isOver => absurd isOver alive, ?_, sequence, fun isOver => .inr (reason isOver)⟩
  simp [numbered]

variable {first second third : EnrollmentRow} {runs : List StepRunRow}

theorem GoesOn.trans {others : List StepRunRow} (left : GoesOn first second runs)
    (right : GoesOn second third others) : GoesOn first third (runs ++ others) := by
  refine ⟨?_, ?_, ?_, ?_⟩
  · intro isOver
    obtain ⟨rfl, rfl⟩ := left.isOver isOver
    exact right.isOver isOver
  · rw [map_append, left.numbered, right.numbered, left.sequence, length_append,
      Nat.add_right_comm first.stepSequence]
    exact List.range'_append_1
  · rw [right.sequence, left.sequence, length_append, Nat.add_assoc]
  · intro isOver
    rcases right.reason isOver with before | given
    · obtain ⟨rfl, -⟩ := right.isOver before
      exact left.reason isOver
    · exact .inr given

theorem LedgerMoves.trans {first second third : JourneyTables} (left : LedgerMoves first second)
    (right : LedgerMoves second third) : LedgerMoves first third := by
  refine ⟨right.ids.trans left.ids, ?_⟩
  intro id row found
  obtain ⟨middle, runs, foundMiddle, goesOn, ledger⟩ := left.rows id row found
  obtain ⟨last, others, foundLast, goesOnLast, ledgerLast⟩ := right.rows id middle foundMiddle
  refine ⟨last, runs ++ others, foundLast, goesOn.trans goesOnLast, ?_⟩
  rw [ledgerLast, ledger, append_assoc]

variable {tables : JourneyTables} {id : String}

theorem findEnrollment_id (found : tables.findEnrollment id = some row) : row.id = id := by
  simpa using find?_some found

theorem findEnrollment_mem
    (found : tables.findEnrollment id = some row) : row ∈ tables.enrollments :=
  Table.lookup_mem found

theorem findEnrollment_updateEnrollment (tables : JourneyTables) (id other : String)
    {rewrite : EnrollmentRow → EnrollmentRow} (keeps : ∀ row, (rewrite row).id = row.id) :
    (tables.updateEnrollment id rewrite).findEnrollment other =
      (tables.findEnrollment other).map fun row => if row.id = id then rewrite row else row :=
  Table.lookup_update keeps

theorem Writes.nothing (holder : Option String) (tables : JourneyTables) :
    Writes holder tables tables none := by
  refine ⟨⟨rfl, ?_⟩, ?_, ?_⟩
  · intro id row found
    exact ⟨row, [], found, .refl row, (append_nil _).symm⟩
  · intro id _ row found
    exact ⟨row, found, .inl rfl⟩
  · exact nofun

variable {before after : JourneyTables}

theorem Writes.ofUpdate {rewrite : EnrollmentRow → EnrollmentRow}
    (keeps : ∀ row, (rewrite row).id = row.id)
    (enrollments : after.enrollments = (before.updateEnrollment id rewrite).enrollments)
    (stepRuns : after.stepRuns = before.stepRuns ++ runs)
    (own : ∀ run ∈ runs, run.enrollmentId = id) (found : before.findEnrollment id = some row)
    (goesOn : GoesOn row (rewrite row) runs) :
    Writes (some id) before after none ∧ after.findEnrollment id = some (rewrite row) := by
  have lookup : ∀ other, after.findEnrollment other =
      (before.findEnrollment other).map fun row => if row.id = id then rewrite row else row := by
    intro other
    rw [← findEnrollment_updateEnrollment before id other keeps]
    unfold JourneyTables.findEnrollment
    rw [enrollments]
  have ofRuns : ∀ other, stepRunsOf after other =
      stepRunsOf before other ++ runs.filter fun run => run.enrollmentId = other := by
    intro other
    unfold stepRunsOf
    rw [stepRuns, filter_append]
  have atId : after.findEnrollment id = some (rewrite row) := by
    rw [lookup, found]
    exact congrArg some (if_pos (findEnrollment_id found))
  have elsewhere : ∀ other, id ≠ other → ∀ row, before.findEnrollment other = some row →
      after.findEnrollment other = some row ∧ stepRunsOf after other = stepRunsOf before other := by
    intro other apart row foundOther
    constructor
    · rw [lookup, foundOther]
      exact congrArg some (if_neg fun same => apart (same.symm.trans (findEnrollment_id foundOther)))
    · rw [ofRuns, filter_eq_nil_iff.mpr, append_nil]
      intro run mem
      rw [own run mem]
      simpa using apart
  refine ⟨⟨⟨?_, ?_⟩, ?_, ?_⟩, atId⟩
  · rw [enrollments]
    exact Table.map_key_update keeps
  · intro other row' foundOther
    by_cases same : id = other
    · subst same
      obtain rfl : row = row' := Option.some.inj (found.symm.trans foundOther)
      refine ⟨rewrite row, runs, atId, goesOn, ?_⟩
      rw [ofRuns, filter_eq_self.mpr fun run mem => by simpa using own run mem]
    · obtain ⟨stays, sameRuns⟩ := elsewhere other same row' foundOther
      exact ⟨row', [], stays, .refl row', by rw [sameRuns, append_nil]⟩
  · intro other apart row' foundOther
    have same : id ≠ other := fun same => apart (congrArg some same)
    exact ⟨row', (elsewhere other same row' foundOther).1, .inl rfl⟩
  · exact nofun

/-! ## The statements -/

theorem endUnlessOver_id (seen : EnrollmentRow) (reason : JrTerminalReason) (now : Instant)
    (exitStep : Option (Nat × String)) (current : EnrollmentRow) :
    (endUnlessOver seen reason now exitStep current).id = current.id := by
  unfold endUnlessOver
  split
  · rfl
  · rfl

variable {seen : EnrollmentRow} {now : Instant} {reason : JrTerminalReason}

theorem writeTerminal_ok {exitStep : Option (Nat × String)} (alive : seen.runState ≠ .terminal)
    (ok : writeTerminal tables seen reason now exitStep = .ok (after, row)) :
    ∃ current, tables.findEnrollment seen.id = some current ∧
      after = tables.updateEnrollment seen.id (endUnlessOver seen reason now exitStep) := by
  unfold writeTerminal at ok
  rw [if_neg alive] at ok
  obtain ⟨stored, found, written⟩ := bind_ok ok
  cases written
  rw [orFail_ok, findEnrollment_updateEnrollment _ _ _ (endUnlessOver_id seen reason now exitStep)]
    at found
  obtain ⟨current, foundCurrent, -⟩ := Option.map_eq_some_iff.mp found
  exact ⟨current, foundCurrent, rfl⟩

theorem endUnlessOver_goesOn (seen current : EnrollmentRow) (reason : JrTerminalReason)
    (now : Instant) : GoesOn current (endUnlessOver seen reason now none current) [] := by
  unfold endUnlessOver
  split
  next => exact .refl current
  next alive => exact ⟨fun isOver => absurd isOver alive, rfl, rfl, fun _ => .inr (by simp [terminated])⟩

variable {current : EnrollmentRow}

theorem writeTerminal_writes (alive : seen.runState ≠ .terminal)
    (found : tables.findEnrollment seen.id = some current)
    (ok : writeTerminal tables seen reason now none = .ok (after, row)) :
    Writes (some seen.id) tables after none ∧
      after.findEnrollment seen.id = some (endUnlessOver seen reason now none current) := by
  obtain ⟨_, -, rfl⟩ := writeTerminal_ok alive ok
  refine Writes.ofUpdate (endUnlessOver_id seen reason now none) rfl (append_nil _).symm ?_ found
    (endUnlessOver_goesOn seen current reason now)
  exact forall_mem_nil _

variable {step : Definition.JourneyGraphStep} {startedAt : Instant} {input : AdvanceInput}
  {stepSequence : Nat}

theorem recordStepRun_ok {outcome : StepRunOutcome}
    (ok : recordStepRun tables seen stepSequence step startedAt input outcome = .ok after) :
    ∃ run : StepRunRow, run.enrollmentId = seen.id ∧ run.stepSequence = stepSequence ∧
      after = { tables with stepRuns := tables.stepRuns ++ [run] } := by
  unfold recordStepRun at ok
  have written := rest_ok ok
  cases written
  exact ⟨_, rfl, rfl, rfl⟩

variable {move : CursorMove}

theorem moveCursor_ok (ok : moveCursor tables seen stepSequence move = .ok (after, row)) :
    ∃ current, tables.findEnrollment seen.id = some current ∧
      current.stepSequence = seen.stepSequence ∧ current.runState ≠ .terminal ∧
      after = tables.updateEnrollment seen.id (move.apply stepSequence) := by
  unfold moveCursor at ok
  obtain ⟨current, found, ok⟩ := bind_ok ok
  obtain ⟨_, stands, written⟩ := bind_ok ok
  rw [ensure_ok] at stands
  cases written
  exact ⟨current, orFail_ok.mp found, stands.1, stands.2, rfl⟩

theorem runStep_writes {outcome : StepRunOutcome} (leaves : move.runState ≠ .terminal)
    (ok : runStep tables seen step startedAt input outcome move = .ok (after, row)) :
    Writes (some seen.id) tables after none := by
  unfold runStep at ok
  obtain ⟨recorded, records, moves⟩ := bind_ok ok
  obtain ⟨run, ofSeen, sequence, rfl⟩ := recordStepRun_ok records
  obtain ⟨current, found, stands, alive, rfl⟩ := moveCursor_ok moves
  have own : ∀ other ∈ [run], other.enrollmentId = seen.id := by
    intro other mem
    obtain rfl := mem_singleton.mp mem
    exact ofSeen
  have goesOn : GoesOn current (move.apply (seen.stepSequence + 1) current) [run] := by
    refine .one alive ?_ ?_ fun isOver => absurd isOver leaves
    · rw [sequence, stands]
    · rw [stands]
      rfl
  have keeps : ∀ row, (move.apply (seen.stepSequence + 1) row).id = row.id := fun _ => rfl
  have stored : tables.findEnrollment seen.id = some current := found
  have written : Writes (some seen.id) tables
      (JourneyTables.updateEnrollment { tables with stepRuns := tables.stepRuns ++ [run] } seen.id
        (move.apply (seen.stepSequence + 1))) none ∧ _ :=
    Writes.ofUpdate keeps rfl rfl own stored goesOn
  exact written.1

structure Held (tables : JourneyTables) (seen current : EnrollmentRow) : Prop where
  found : tables.findEnrollment seen.id = some current
  since : StaysOrSwept seen current
  reason : current.runState = .terminal → current.terminalReason ≠ none

theorem StaysOrSwept.same_of_alive (since : StaysOrSwept row later)
    (alive : later.runState ≠ .terminal) : later = row := by
  rcases since with same | ⟨-, isOver, -⟩
  · exact same
  · exact absurd isOver alive

theorem StaysOrSwept.same_of_over (since : StaysOrSwept row later)
    (isOver : row.runState = .terminal) : later = row := by
  rcases since with same | ⟨alive, -⟩
  · exact same
  · exact absurd isOver alive

theorem Writes.answering {holder : Option String} (writes : Writes holder before after none)
    (found : after.findEnrollment id = some row) (isOver : row.runState = .terminal)
    (stored : row.terminalReason = some reason) :
    Writes holder before after (some (id, reason)) := by
  refine ⟨writes.moves, writes.others, ?_⟩
  intro given isGiven
  obtain rfl := Option.some.inj isGiven
  exact ⟨row, found, isOver, stored⟩

section
variable (held : Held tables seen current)
include held

theorem Held.answersOver (isOver : seen.runState = .terminal) :
    Writes (some seen.id) tables tables (some (seen.id, seen.terminalReason.getD .cancelled)) := by
  obtain rfl := held.since.same_of_over isOver
  refine (Writes.nothing _ tables).answering held.found isOver ?_
  cases stored : current.terminalReason with
  | none => exact absurd stored (held.reason isOver)
  | some reason => rfl

/-- The call leaves the graph from an enrollment that nobody else has ended. -/
theorem Held.leaves (alive : current.runState ≠ .terminal)
    (ok : writeTerminal tables seen .graphExit now none = .ok (after, row)) :
    Writes (some seen.id) tables after (some (seen.id, .graphExit)) := by
  obtain rfl := held.since.same_of_alive alive
  obtain ⟨writes, found⟩ := writeTerminal_writes alive held.found ok
  refine writes.answering found ?_ ?_
  · simp [endUnlessOver, alive, terminated]
  · simp [endUnlessOver, alive, terminated]

/-- An enrollment that is too old ends for its age, if the sweep has not ended it for that. -/
theorem Held.ages (alive : seen.runState ≠ .terminal)
    (ok : writeTerminal tables seen .maxAge now none = .ok (after, row)) :
    Writes (some seen.id) tables after (some (seen.id, .maxAge)) := by
  obtain ⟨writes, found⟩ := writeTerminal_writes alive held.found ok
  rcases held.since with rfl | ⟨-, isOver, reason, -⟩
  · refine writes.answering found ?_ ?_
    · simp [endUnlessOver, alive, terminated]
    · simp [endUnlessOver, alive, terminated]
  · refine writes.answering found ?_ ?_
    · simp [endUnlessOver, isOver]
    · simp [endUnlessOver, isOver, reason]

/-- The exit of the graph is put on the ledger together with the end of the enrollment. -/
theorem Held.exits {recorded : JourneyTables} (alive : current.runState ≠ .terminal)
    (records : recordStepRun tables seen (seen.stepSequence + 1) step startedAt input
      ⟨.completed, none, none⟩ = .ok recorded)
    (ok : writeTerminal recorded seen .graphExit now (some (seen.stepSequence + 1, step.id)) =
      .ok (after, row)) : Writes (some seen.id) tables after (some (seen.id, .graphExit)) := by
  obtain rfl := held.since.same_of_alive alive
  obtain ⟨run, ofSeen, sequence, rfl⟩ := recordStepRun_ok records
  obtain ⟨_, -, rfl⟩ := writeTerminal_ok alive ok
  have own : ∀ other ∈ [run], other.enrollmentId = current.id := by
    intro other mem
    obtain rfl := mem_singleton.mp mem
    exact ofSeen
  let ends := endUnlessOver current .graphExit now (some (current.stepSequence + 1, step.id))
  have ended : ends current =
      terminated current .graphExit now (some (current.stepSequence + 1, step.id)) current :=
    if_neg alive
  have goesOn : GoesOn current (ends current) [run] := by
    rw [ended]
    exact .one alive sequence rfl fun _ => by simp [terminated]
  have keeps : ∀ row, (ends row).id = row.id := endUnlessOver_id current .graphExit now _
  have written : Writes (some current.id) tables
      (JourneyTables.updateEnrollment { tables with stepRuns := tables.stepRuns ++ [run] } current.id
        ends) none ∧ _ :=
    Writes.ofUpdate keeps rfl rfl own held.found goesOn
  obtain ⟨writes, found⟩ := written
  refine writes.answering found ?_ ?_
  · rw [ended]
    rfl
  · rw [ended]
    rfl

end

variable {outcome : JourneyStepOutcome}

theorem runCurrentStep_writes (held : Held tables seen current)
    (alone : planJourneyStep now input.evaluator step = .exit → current.runState ≠ .terminal)
    (ok : runCurrentStep now startedAt input tables seen step = .ok (after, outcome)) :
    Writes (some seen.id) tables after (answered seen outcome) := by
  unfold runCurrentStep at ok
  cases plan : planJourneyStep now input.evaluator step with
  | exit =>
      rw [plan] at ok
      obtain ⟨recorded, records, ok⟩ := bind_ok ok
      obtain ⟨exited, ends, written⟩ := bind_ok ok
      cases written
      exact held.exits (alone plan) records ends
  | _ =>
      rw [plan] at ok
      obtain ⟨moved, moves, written⟩ := bind_ok ok
      cases written
      exact runStep_writes (by simp) moves

variable {definition : JourneyVersionSnapshot} {parked : Option (String × Nat)}

theorem advance_writes (held : Held tables seen current)
    (alone : leavesGraph definition now input seen parked = true → current.runState ≠ .terminal)
    (ok : advance definition now startedAt input tables seen parked = .ok (after, outcome)) :
    Writes (some seen.id) tables after (answered seen outcome) := by
  unfold advance at ok
  by_cases isOver : seen.runState = .terminal
  · rw [if_pos isOver] at ok
    cases ok
    exact held.answersOver isOver
  rw [if_neg isOver] at ok
  by_cases aged : seen.maxAgeAt.any (fun maxAgeAt => decide (maxAgeAt ≤ now)) = true
  · rw [if_pos aged] at ok
    obtain ⟨closed, ends, written⟩ := bind_ok ok
    cases written
    exact held.ages isOver ends
  rw [if_neg aged] at ok
  by_cases early : (decide (seen.runState = .waiting) &&
      seen.waitUntil.any fun waitUntil => decide (now < waitUntil)) = true
  · rw [if_pos early] at ok
    cases ok
    exact Writes.nothing _ tables
  rw [if_neg early] at ok
  cases atStep : givenText seen.currentStepId with
  | none =>
      rw [atStep] at ok
      obtain ⟨closed, ends, written⟩ := bind_ok ok
      cases written
      refine held.leaves (alone ?_) ends
      rw [leavesGraph, atStep, Bool.eq_false_iff.mpr aged, Bool.eq_false_iff.mpr early]
      simpa using isOver
  | some stepId =>
      rw [atStep] at ok
      cases parked with
      | some pending =>
          cases ok
          exact Writes.nothing _ tables
      | none =>
          obtain ⟨step, found, ok⟩ := bind_ok ok
          refine runCurrentStep_writes held (fun plan => alone ?_) ok
          rw [orFail_ok] at found
          rw [leavesGraph, atStep, Bool.eq_false_iff.mpr aged, Bool.eq_false_iff.mpr early]
          simp [found, plan, isOver]

theorem completeSend_writes (held : Held tables seen current)
    (ok : completeSend definition startedAt input tables seen parked = .ok (after, outcome)) :
    Writes (some seen.id) tables after (answered seen outcome) := by
  unfold completeSend at ok
  by_cases isOver : seen.runState = .terminal
  · rw [if_pos isOver] at ok
    cases ok
    exact held.answersOver isOver
  rw [if_neg isOver] at ok
  obtain ⟨pending, -, ok⟩ := bind_ok ok
  obtain ⟨step, -, ok⟩ := bind_ok ok
  cases step with
  | send id channel contentRef next =>
      obtain ⟨moved, moves, written⟩ := bind_ok ok
      cases written
      exact runStep_writes (by simp) moves
  | _ => cases ok

theorem StaysOrSwept.trans (left : StaysOrSwept first second) (right : StaysOrSwept second third) :
    StaysOrSwept first third := by
  rcases left with rfl | ⟨alive, isOver, reason, sequence⟩
  · exact right
  · obtain rfl := right.same_of_over isOver
    exact .inr ⟨alive, isOver, reason, sequence⟩

theorem Writes.trans {first second third : JourneyTables} (left : Writes none first second none)
    (right : Writes none second third none) : Writes none first third none where
  moves := left.moves.trans right.moves
  others id free := Table.found_trans .trans (fun id => left.others id nofun)
    (fun id => right.others id nofun) id
  answers := right.answers

/-- Ending an enrollment for its age does to it what others have to expect. -/
theorem writeTerminal_sweeps (ok : writeTerminal tables seen .maxAge now none = .ok (after, row)) :
    Writes none tables after none := by
  by_cases isOver : seen.runState = .terminal
  · unfold writeTerminal at ok
    rw [if_pos isOver] at ok
    cases ok
    exact Writes.nothing none tables
  obtain ⟨current, found, -⟩ := writeTerminal_ok isOver ok
  obtain ⟨writes, foundAfter⟩ := writeTerminal_writes isOver found ok
  refine ⟨writes.moves, ?_, writes.answers⟩
  intro id _ other foundOther
  by_cases same : id = seen.id
  · subst same
    obtain rfl : current = other := Option.some.inj (found.symm.trans foundOther)
    refine ⟨_, foundAfter, ?_⟩
    unfold endUnlessOver
    split
    next => exact .inl rfl
    next alive => exact .inr ⟨alive, rfl, rfl, rfl⟩
  · exact writes.others id (fun isSeen => same (Option.some.inj isSeen).symm) other foundOther

theorem sweepMaxAge_writes {rows : List EnrollmentRow}
    {views : List EnrollmentView} (ok : sweepMaxAge now tables rows = .ok (after, views)) :
    Writes none tables after none := by
  induction rows generalizing tables views with
  | nil =>
      cases ok
      exact Writes.nothing none after
  | cons seen rest ih =>
      unfold sweepMaxAge at ok
      obtain ⟨closed, closes, ok⟩ := bind_ok ok
      obtain ⟨others, swept, written⟩ := bind_ok ok
      cases written
      exact (writeTerminal_sweeps closes).trans (ih swept)

variable {work : ExecutionWork} {answer : Option (String × JrTerminalReason)}

/-- Every transaction writes as its lock allows, if a call that leaves the graph is not overtaken. -/
theorem ExecutionWork.write_writes
    (held : ∀ seen, work.locked = some seen → ∃ current, Held tables seen current)
    (alone : ∀ definition input seen parked, work = .advancing definition input seen parked →
      leavesGraph definition now input seen parked = true →
        (tables.findEnrollment seen.id).all (fun row => row.runState ≠ .terminal) = true)
    (ok : work.write now startedAt tables = .ok (after, answer)) :
    Writes work.lock tables after answer := by
  cases work with
  | advancing definition input seen parked =>
      obtain ⟨moved, moves, written⟩ := bind_ok ok
      cases written
      obtain ⟨current, holds⟩ := held seen rfl
      refine advance_writes holds (fun leaves => ?_) moves
      have alive := alone definition input seen parked rfl leaves
      rw [holds.found] at alive
      simpa using alive
  | completing definition input seen parked =>
      obtain ⟨moved, moves, written⟩ := bind_ok ok
      cases written
      obtain ⟨current, holds⟩ := held seen rfl
      exact completeSend_writes holds moves
  | terminating reason seen =>
      obtain ⟨ended, ends, written⟩ := bind_ok ok
      cases written
      obtain ⟨current, holds⟩ := held seen rfl
      by_cases isOver : seen.runState = .terminal
      · unfold writeTerminal at ends
        rw [if_pos isOver] at ends
        cases ends
        exact Writes.nothing _ tables
      · exact (writeTerminal_writes isOver holds.found ends).1
  | sweeping now seen =>
      obtain ⟨swept, sweeps, written⟩ := bind_ok ok
      cases written
      exact sweepMaxAge_writes sweeps

/-! ## Runs -/

structure LedgerOk (tables : JourneyTables) : Prop where
  ids : (tables.enrollments.map fun row => row.id).Nodup
  numbered : NumberedStepRuns tables
  reason : ∀ row ∈ tables.enrollments, row.runState = .terminal → row.terminalReason ≠ none

theorem LedgerOk.found (ok : LedgerOk tables)
    (mem : row ∈ tables.enrollments) : tables.findEnrollment row.id = some row :=
  Table.lookup_of_member ok.ids mem rfl

theorem LedgerMoves.former (moves : LedgerMoves before after)
    (ok : LedgerOk before) (mem : later ∈ after.enrollments) :
    ∃ row ∈ before.enrollments, ∃ runs, row.id = later.id ∧ GoesOn row later runs ∧
      stepRunsOf after row.id = stepRunsOf before row.id ++ runs := by
  have known : later.id ∈ before.enrollments.map fun row => row.id := by
    rw [← moves.ids]
    exact mem_map_of_mem mem
  obtain ⟨row, present, same⟩ := mem_map.mp known
  obtain ⟨other, runs, found, goesOn, ledger⟩ := moves.rows row.id row (ok.found present)
  have distinct : (after.enrollments.map fun row => row.id).Nodup := by
    rw [moves.ids]
    exact ok.ids
  have foundLater : after.findEnrollment later.id = some later :=
    Table.lookup_of_member distinct mem rfl
  rw [← same] at foundLater
  obtain rfl : other = later := Option.some.inj (found.symm.trans foundLater)
  exact ⟨row, present, runs, same, goesOn, ledger⟩

theorem LedgerOk.moved (ok : LedgerOk before)
    (moves : LedgerMoves before after) : LedgerOk after := by
  refine ⟨?_, ?_, ?_⟩
  · rw [moves.ids]
    exact ok.ids
  · intro later mem
    obtain ⟨row, present, runs, same, goesOn, ledger⟩ := moves.former ok mem
    rw [← same, ledger, map_append, ok.numbered row present, goesOn.numbered, goesOn.sequence,
      Nat.add_comm row.stepSequence 1]
    exact List.range'_append_1
  · intro later mem isOver
    obtain ⟨row, present, runs, -, goesOn, -⟩ := moves.former ok mem
    rcases goesOn.reason isOver with before | given
    · obtain ⟨rfl, -⟩ := goesOn.isOver before
      exact ok.reason later present isOver
    · exact given

theorem LedgerMoves.endsOnce (moves : LedgerMoves before after)
    (ok : LedgerOk before) : EndsOnce before after := by
  intro row mem isOver
  obtain ⟨later, runs, found, goesOn, ledger⟩ := moves.rows row.id row (ok.found mem)
  obtain ⟨rfl, rfl⟩ := goesOn.isOver isOver
  exact ⟨found, ledger.trans (append_nil _)⟩

structure ExecutionSession.Ok (session : ExecutionSession) : Prop where
  tables : LedgerOk session.tables
  exclusive : Session.Exclusive ExecutionWork.lock session.workers
  seen : ∀ worker ∈ session.workers, ∀ seen, worker.work.locked = some seen →
    ∃ current, session.tables.findEnrollment seen.id = some current ∧ StaysOrSwept seen current
  answers : AnswersStored session

variable {session after : ExecutionSession}

theorem ExecutionSession.Ok.held (ok : session.Ok)
    {worker : Session ExecutionWork} (mem : worker ∈ session.workers)
    (locked : worker.work.locked = some seen) : ∃ current, Held session.tables seen current := by
  obtain ⟨current, found, since⟩ := ok.seen worker mem seen locked
  exact ⟨current, found, since, ok.tables.reason current (findEnrollment_mem found)⟩

theorem ExecutionSession.Ok.left (ok : session.Ok) (pid : Nat) : (session.leave pid).Ok := by
  refine ⟨ok.tables, ok.exclusive.drop pid, ?_, ok.answers⟩
  intro worker mem
  exact ok.seen worker (Session.mem_drop.mp mem).1

theorem ExecutionSession.Ok.underLock {pid : Nat} {enrollmentId : String}
    {begins : EnrollmentRow → Except ExecutionError ExecutionWork}
    (ok : session.Ok) (sees : ∀ seen work, begins seen = .ok work → work.locked = some seen)
    (taken : session.underLock pid enrollmentId begins = some after) :
    after.Ok ∧ after.tables = session.tables := by
  unfold ExecutionSession.underLock at taken
  split at taken
  next => cases taken
  next free =>
    have alone := Session.others_eq_false.mp (Bool.eq_false_iff.mpr free)
    split at taken
    next =>
      cases taken
      exact ⟨ok.left pid, rfl⟩
    next seen found =>
      split at taken
      next =>
        cases taken
        exact ⟨ok.left pid, rfl⟩
      next work began =>
        cases taken
        have locked := sees seen work began
        have isId := findEnrollment_id found
        refine ⟨⟨ok.tables, ok.exclusive.replace ?_, ?_, ok.answers⟩, rfl⟩
        · intro key holds worker mem apart
          have isKey : seen.id = key := by simpa [ExecutionWork.lock, locked] using holds
          have clear := alone worker mem apart
          rw [← isKey, isId]
          simpa using clear
        · refine Session.forall_replace (P := fun worker : Session ExecutionWork =>
            ∀ seen, worker.work.locked = some seen → ∃ current,
              session.tables.findEnrollment seen.id = some current ∧ StaysOrSwept seen current)
            ok.seen ?_
          intro other isOther
          obtain rfl := Option.some.inj (locked.symm.trans isOther)
          exact ⟨seen, isId ▸ found, .inl rfl⟩

/-- The steps in which no call that leaves the graph is overtaken. -/
def undisturbedExecution (definitions : JourneyDefinitionSource) :
    System ExecutionSession ExecutionStep :=
  (journeyExecution definitions).restrict fun session step => session.notOvertaken step = true

/-- A transaction commits. The other ones keep what they have seen, up to a sweep. -/
theorem ExecutionSession.Ok.committed {pid : Nat} (ok : session.Ok)
    (found : Session.find session.workers pid = some work)
    (writes : Writes work.lock session.tables tables answer) :
    ExecutionSession.Ok { session.leave pid with
      tables := tables, answers := session.answers ++ answer.toList } := by
  refine ⟨ok.tables.moved writes.moves, ok.exclusive.drop pid, ?_, ?_⟩
  · intro worker mem seen locked
    obtain ⟨present, apart⟩ := Session.mem_drop.mp mem
    obtain ⟨current, foundCurrent, since⟩ := ok.seen worker present seen locked
    have held : worker.work.lock = some seen.id := by rw [ExecutionWork.lock, locked]; rfl
    have free := ok.exclusive worker present ⟨pid, work⟩ (Session.find_mem found) apart seen.id held
    obtain ⟨later, foundLater, stays⟩ := writes.others seen.id free current foundCurrent
    exact ⟨later, foundLater, since.trans stays⟩
  · intro given mem
    rcases mem_append.mp mem with former | new
    · obtain ⟨row, foundRow, isOver, reason⟩ := ok.answers given former
      have stays := writes.moves.endsOnce ok.tables row (findEnrollment_mem foundRow) isOver
      rw [findEnrollment_id foundRow] at stays
      exact ⟨row, stays.1, isOver, reason⟩
    · exact writes.answers given (by simpa using new)

theorem published_locked (definitions : JourneyDefinitionSource)
    (begins : JourneyVersionSnapshot → EnrollmentRow → ExecutionWork)
    (locks : ∀ definition seen, (begins definition seen).locked = some seen) :
    ∀ (seen : EnrollmentRow) (work : ExecutionWork), (do
      let definition ← publishedGraph definitions (seen.journeyId.getD "") seen.journeyVersion
      Except.ok (begins definition seen)) = .ok work → work.locked = some seen := by
  intro seen work began
  obtain ⟨definition, -, written⟩ := bind_ok began
  cases written
  exact locks definition seen

variable {definitions : JourneyDefinitionSource}

theorem ExecutionSession.Ok.stepped {before : ExecutionSession} {step : ExecutionStep}
    (ok : before.Ok) (taken : (undisturbedExecution definitions).step before step after) :
    after.Ok ∧ LedgerMoves before.tables after.tables := by
  obtain ⟨alone, taken⟩ := taken
  have taken : before.next definitions step = some after := taken
  have still : LedgerMoves before.tables before.tables := (Writes.nothing none before.tables).moves
  cases step with
  | beginAdvance pid enrollmentId input =>
      have sees := published_locked definitions fun definition seen =>
        ExecutionWork.advancing definition input seen (pendingSend before.tables seen)
      obtain ⟨okAfter, same⟩ := ok.underLock (sees fun _ _ => rfl) taken
      exact ⟨okAfter, same ▸ still⟩
  | beginCompleteSend pid enrollmentId input =>
      have sees := published_locked definitions fun definition seen =>
        ExecutionWork.completing definition input seen (pendingSend before.tables seen)
      obtain ⟨okAfter, same⟩ := ok.underLock (sees fun _ _ => rfl) taken
      exact ⟨okAfter, same ▸ still⟩
  | beginTerminate pid enrollmentId ends =>
      have sees : ∀ seen work,
          (.ok (.terminating ends.reason seen) : Except ExecutionError ExecutionWork) = .ok work →
            work.locked = some seen := by
        intro seen work began
        cases began
        rfl
      obtain ⟨okAfter, same⟩ := ok.underLock sees taken
      exact ⟨okAfter, same ▸ still⟩
  | beginSweep pid now limit =>
      cases taken
      refine ⟨⟨ok.tables, ok.exclusive.replace ?_, ?_, ok.answers⟩, still⟩
      · intro key holds
        cases holds
      · refine Session.forall_replace (P := fun worker : Session ExecutionWork =>
          ∀ seen, worker.work.locked = some seen → ∃ current,
            before.tables.findEnrollment seen.id = some current ∧ StaysOrSwept seen current) ok.seen ?_
        intro seen locked
        cases locked
  | finish pid now startedAt =>
      simp only [ExecutionSession.next] at taken
      split at taken
      next => cases taken
      next work found =>
        split at taken
        next =>
          cases taken
          exact ⟨ok.left pid, still⟩
        next tables answer committed =>
          cases taken
          have writes : Writes work.lock before.tables tables answer := by
            refine work.write_writes (fun seen locked => ok.held (Session.find_mem found) locked) ?_
              committed
            rintro definition input seen parked rfl leaves
            simpa [ExecutionSession.notOvertaken, found, leaves] using alone
          exact ⟨ok.committed found writes, writes.moves⟩
  | abort pid =>
      cases taken
      exact ⟨ok.left pid, still⟩

theorem ExecutionSession.Fresh.ok (fresh : session.Fresh) : session.Ok := by
  refine ⟨⟨fresh.ids, ?_, fresh.reason⟩, ?_, ?_, ?_⟩
  · intro row mem
    rw [fresh.atStart row mem, stepRunsOf, fresh.stepRuns]
    rfl
  · rw [fresh.workers]
    exact forall_mem_nil _
  · rw [fresh.workers]
    exact forall_mem_nil _
  · unfold AnswersStored
    rw [fresh.answers]
    exact forall_mem_nil _

theorem ExecutionSession.Ok.reached {before : ExecutionSession} (ok : before.Ok)
    (run : (undisturbedExecution definitions).Reaches before after) :
    after.Ok ∧ LedgerMoves before.tables after.tables := by
  induction run with
  | refl => exact ⟨ok, (Writes.nothing none before.tables).moves⟩
  | tail _ last ih =>
      obtain ⟨okMiddle, moves⟩ := ih
      obtain ⟨step, taken⟩ := last
      obtain ⟨okLast, movesLast⟩ := okMiddle.stepped taken
      exact ⟨okLast, moves.trans movesLast⟩

/-- As long as no call that leaves the graph is overtaken by a sweep, the step runs are numbered, an
enrollment ends once, and every answered reason is the stored one. -/
theorem enrollment_ledger_is_kept {definitions : JourneyDefinitionSource}
    {before after : ExecutionSession} (reachable : (undisturbedExecution definitions).Reachable before)
    (run : (undisturbedExecution definitions).Reaches before after) :
    NumberedStepRuns after.tables ∧ EndsOnce before.tables after.tables ∧ AnswersStored after := by
  obtain ⟨start, fresh, toBefore⟩ := reachable
  have okBefore : before.Ok := ((ExecutionSession.Fresh.ok fresh).reached toBefore).1
  obtain ⟨okAfter, moves⟩ := okBefore.reached run
  exact ⟨okAfter.tables.numbered, moves.endsOnce okBefore.tables, okAfter.answers⟩

/-! ## A sweep in between -/

def exitJourney : JourneyVersionSnapshot where
  name := "exit"
  ownerTeamId := "service"
  purpose := "SERVICE"
  senderIdentityId := "sender"
  trigger := .event "arrived"
  graph := { entryStepId := "done", steps := [.exit "done" "finished"] }
  goal := ⟨"goal"⟩
  exitRules := [.goal]
  maxDurationDays := 1
  journeyId := "journey"
  version := 1
  status := .published

def exitDefinitions : JourneyDefinitionSource := fun _ _ => some exitJourney

def sampleInput : AdvanceInput := ⟨"correlation", none, fun _ => none⟩

/-- The enrollment stands on the exit of its graph, and is one day old at 86400000. -/
def atExit : ExecutionSession where
  tables := { JourneyTables.empty with
    enrollments := [runningEnrollment 0 "enrollment" (.eventInbox "enrollment") exitJourney "journey" 1
      "correlation"] }
  workers := []
  answers := []

theorem atExit_fresh : atExit.Fresh := by
  refine ⟨rfl, rfl, rfl, nodup_singleton _, ?_, ?_⟩
  · intro row mem
    obtain rfl := mem_singleton.mp mem
    rfl
  · intro row mem isOver
    obtain rfl := mem_singleton.mp mem
    cases isOver

/-- A call reads the enrollment just before it is too old, and a sweep ends it just after. -/
def sweptInBetween : List ExecutionStep :=
  [.beginAdvance 1 "enrollment" sampleInput, .beginSweep 2 86400000 50, .finish 2 86400000 86400000]

/-- A call that is not overtaken leaves the graph. -/
theorem enrollment_ledger_is_kept_at_exit :
    ∃ before after, (undisturbedExecution exitDefinitions).Reachable before ∧
      (undisturbedExecution exitDefinitions).Reaches before after ∧
      (NumberedStepRuns after.tables ∧ EndsOnce before.tables after.tables ∧ AnswersStored after) ∧
        after.answers = [("enrollment", .graphExit)] := by
  have ends : System.endsWith
      (System.guardNext ExecutionSession.notOvertaken (ExecutionSession.next exitDefinitions)) atExit
      [.beginAdvance 1 "enrollment" sampleInput] (.finish 1 86399999 86399999)
      (fun _ after => after.answers = [("enrollment", .graphExit)]) = true := by decide +kernel
  obtain ⟨before, after, reachable, last, answers⟩ := System.Reachable.endsWithGuarded atExit_fresh ends
  have run : (undisturbedExecution exitDefinitions).Reaches before after := .single ⟨_, last⟩
  exact ⟨before, after, reachable, run, enrollment_ledger_is_kept reachable run,
    of_decide_eq_true answers⟩

/-- The call puts the exit on the ledger of an enrollment that is over, and answers that the graph
was left, where the stored reason is the age. -/
theorem enrollment_ledger_is_broken :
    (¬ ∀ session, (journeyExecution exitDefinitions).Reachable session →
        NumberedStepRuns session.tables) ∧
      (¬ ∀ before after, (journeyExecution exitDefinitions).Reachable before →
        (journeyExecution exitDefinitions).Reaches before after → EndsOnce before.tables after.tables) ∧
      ¬ ∀ session, (journeyExecution exitDefinitions).Reachable session → AnswersStored session := by
  have ends : System.endsWith (ExecutionSession.next exitDefinitions) atExit sweptInBetween
      (.finish 1 86399999 86399999)
      (fun before after =>
        before.tables.enrollments.map (fun row => (row.id, row.runState)) = [("enrollment", .terminal)] &&
        before.tables.stepRuns.length = 0 &&
        after.tables.enrollments.map (fun row => (row.id, row.stepSequence, row.terminalReason)) =
          [("enrollment", 0, some .maxAge)] &&
        (stepRunsOf after.tables "enrollment").map (fun run => run.stepSequence) = [1] &&
        after.answers = [("enrollment", .graphExit)]) = true := by decide +kernel
  obtain ⟨before, after, reachable, last, test⟩ := System.Reachable.endsWith atExit_fresh ends
  simp only [Bool.and_eq_true, decide_eq_true_eq] at test
  obtain ⟨⟨⟨⟨isOver, none_⟩, row⟩, runs⟩, answers⟩ := test
  have run : (journeyExecution exitDefinitions).Reaches before after := .single ⟨_, last⟩
  refine ⟨?_, ?_, ?_⟩
  · intro numbered
    obtain ⟨stored, mem, isStored⟩ := mem_map.mp
      (row ▸ mem_cons_self : ("enrollment", 0, some JrTerminalReason.maxAge) ∈
        after.tables.enrollments.map fun row => (row.id, row.stepSequence, row.terminalReason))
    simp only [Prod.mk.injEq] at isStored
    have counted := numbered after (reachable.step last) stored mem
    rw [isStored.1, isStored.2.1, runs] at counted
    cases counted
  · intro once
    obtain ⟨stored, mem, isStored⟩ := mem_map.mp
      (isOver ▸ mem_cons_self : ("enrollment", JrRunState.terminal) ∈
        before.tables.enrollments.map fun row => (row.id, row.runState))
    simp only [Prod.mk.injEq] at isStored
    have same := (once before after reachable run stored mem isStored.2).2
    rw [isStored.1] at same
    rw [same, stepRunsOf, length_eq_zero_iff.mp none_] at runs
    cases runs
  · intro stores
    obtain ⟨stored, found, -, reason⟩ := stores after (reachable.step last) ("enrollment", .graphExit)
      (answers ▸ mem_cons_self)
    have mem := mem_map_of_mem
      (f := fun row : EnrollmentRow => (row.id, row.stepSequence, row.terminalReason))
      (findEnrollment_mem found)
    rw [row, mem_singleton] at mem
    simp only [Prod.mk.injEq] at mem
    rw [reason] at mem
    cases mem.2.2

end DContact.Journey.Execution

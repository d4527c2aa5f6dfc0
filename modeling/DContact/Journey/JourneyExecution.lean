import DContact.Journey.JourneyTables

/-!
# Running a journey

Events and schedules open enrollments, and one call moves an enrollment by one step. A call
reads the enrollment under its lock, and what it writes depends on what it has read: a step run
goes to the ledger, and the cursor moves only from where it was seen. The sweep for the maximum
age takes no lock. A write that ends an enrollment does nothing if it is over already.
-/

namespace DContact.Journey.Execution

open Lib
open Governance (Instant)
open Definition (JourneyVersionSnapshot ExpressionEvaluator planJourneyStep)

structure EnrollmentView where
  enrollmentId : String
  journeyId : String
  journeyVersion : Nat
  runState : JrRunState
  stepSequence : Nat
  currentStepId : Option String
  waitUntil : Option Instant
  maxAgeAt : Option Instant
  terminalReason : Option JrTerminalReason
  terminalStepId : Option String
  terminalAt : Option Instant

def view (row : EnrollmentRow) : EnrollmentView where
  enrollmentId := row.id
  journeyId := row.journeyId.getD ""
  journeyVersion := row.journeyVersion
  runState := row.runState
  stepSequence := row.stepSequence
  currentStepId := givenText row.currentStepId
  waitUntil := row.waitUntil
  maxAgeAt := row.maxAgeAt
  terminalReason := row.terminalReason
  terminalStepId := givenText row.terminalStepId
  terminalAt := row.terminalAt

inductive JourneyStepOutcome where
  | advanced (stepId nextStepId : String) (enrollment : EnrollmentView)
  | waiting (stepId : String) (wakeAt : Instant) (enrollment : EnrollmentView)
  | awaitingSend (stepId : String) (stepSequence : Nat) (enrollment : EnrollmentView)
  | terminal (reason : JrTerminalReason) (enrollment : EnrollmentView)
  | notDue (enrollment : EnrollmentView)

def JourneyStepOutcome.enrollment : JourneyStepOutcome → EnrollmentView
  | .advanced _ _ enrollment | .waiting _ _ enrollment | .awaitingSend _ _ enrollment
  | .terminal _ enrollment | .notDue enrollment => enrollment

structure EnrollFromEventInput where
  receiptId : String
  journeyId : String
  journeyVersion : Nat
  correlationId : String

/-- An occurrence is `none` when its text is no timestamp. -/
structure EnrollFromScheduleInput where
  journeyId : String
  journeyVersion : Nat
  occurrenceAt : Option Instant
  correlationId : String

/-- The evaluator stands for the expressions under the context of the call. -/
structure AdvanceInput where
  correlationId : String
  causationId : Option String
  evaluator : ExpressionEvaluator

inductive ExecutionError where
  | enrollmentNotFound (enrollmentId : String)
  | definitionNotPublished (journeyId : String) (version : Nat)
  | notAcceptingEnrollments (journeyId : String) (lifecycle : JourneyLifecycle)
  | stepRace (enrollmentId : String) (stepSequence : Nat)
  | stepMissing (stepId : String)
  | stepNotSend (stepId : String)
  | occurrenceInvalid
  | constraintViolation (name : String)

abbrev JourneyDefinitionSource := String → Nat → Option JourneyVersionSnapshot

def publishedGraph (definitions : JourneyDefinitionSource) (journeyId : String) (version : Nat) :
    Except ExecutionError JourneyVersionSnapshot := do
  let snapshot ← orFail (definitions journeyId version)
    (ExecutionError.definitionNotPublished journeyId version)
  ensure (snapshot.status = .published) (ExecutionError.definitionNotPublished journeyId version)
  .ok snapshot

def lifecycleAcceptsNewEnrollments (lifecycle : JourneyLifecycle) : Bool :=
  lifecycle ≠ .paused && lifecycle ≠ .deprecated

/-- A journey without an authoring head accepts them. -/
def assertAcceptsNewEnrollments (tables : JourneyTables) (journeyId : String) :
    Except ExecutionError Unit :=
  match tables.lifecycles.lookup journeyId with
  | none => .ok ()
  | some lifecycle =>
      ensure (lifecycleAcceptsNewEnrollments lifecycle = true)
        (ExecutionError.notAcceptingEnrollments journeyId lifecycle)

/-- `maxAgeFrom`. -/
def maxAgeFrom (now : Instant) (maxDurationDays : Nat) : Instant :=
  now + maxDurationDays * 24 * 60 * 60 * 1000

def runningEnrollment (now : Instant) (id : String) (source : EnrollmentSource)
    (definition : JourneyVersionSnapshot) (journeyId : String) (journeyVersion : Nat)
    (correlationId : String) : EnrollmentRow where
  id := id
  journeyId := some journeyId
  journeyVersion := journeyVersion
  runState := .running
  currentStepId := some definition.graph.entryStepId
  stepSequence := 0
  waitUntil := none
  claimedBy := none
  claimExpiresAt := none
  source := some source
  contactId := none
  state := .pending
  maxAgeAt := some (maxAgeFrom now definition.maxDurationDays)
  terminalReason := none
  terminalStepId := none
  terminalAt := none
  correlationId := some correlationId
  createdAt := now

def insertEnrollment (tables : JourneyTables) (row : EnrollmentRow) :
    Except ExecutionError JourneyTables := do
  ensure (∀ other ∈ tables.enrollments, other.id ≠ row.id)
    (ExecutionError.constraintViolation "jr_enrollments_pkey")
  .ok { tables with enrollments := tables.enrollments ++ [row] }

def findBySource (tables : JourneyTables) (source : EnrollmentSource) : Option EnrollmentRow :=
  tables.enrollments.find? fun row => row.source = some source

def enrollFromEvent (definitions : JourneyDefinitionSource) (now : Instant) (tables : JourneyTables)
    (input : EnrollFromEventInput) : Except ExecutionError (JourneyTables × EnrollmentView) := do
  let definition ← publishedGraph definitions input.journeyId input.journeyVersion
  match findBySource tables (.eventInbox input.receiptId) with
  | some existing => .ok (tables, view existing)
  | none => do
      assertAcceptsNewEnrollments tables input.journeyId
      let created := runningEnrollment now input.receiptId (.eventInbox input.receiptId) definition
        input.journeyId input.journeyVersion input.correlationId
      let after ← insertEnrollment tables created
      .ok (after, view created)

def findOccurrence (tables : JourneyTables) (input : EnrollFromScheduleInput)
    (occurrenceAt : Instant) : Option JrScheduleOccurrence :=
  tables.occurrences.find? fun row => row.journeyId = input.journeyId &&
    row.journeyVersion = input.journeyVersion && row.occurrenceAt = occurrenceAt

/-- The occurrence is inserted unless it is there, and marked as enrolled at the end. -/
def claimOccurrence (tables : JourneyTables) (occurrenceId : String) (occurrenceAt : Instant)
    (input : EnrollFromScheduleInput) (existing : Option JrScheduleOccurrence) :
    Except ExecutionError JourneyTables :=
  match existing with
  | some _ => .ok tables
  | none => do
      ensure (∀ other ∈ tables.occurrences, other.id ≠ occurrenceId)
        (ExecutionError.constraintViolation "jr_schedule_occurrences_pkey")
      .ok { tables with
        occurrences := tables.occurrences ++
          [⟨occurrenceId, input.journeyId, input.journeyVersion, occurrenceAt, false,
            input.correlationId⟩] }

def enrollFromSchedule (definitions : JourneyDefinitionSource) (now : Instant)
    (freshOccurrenceId enrollmentId : String) (tables : JourneyTables)
    (input : EnrollFromScheduleInput) : Except ExecutionError (JourneyTables × EnrollmentView) := do
  let definition ← publishedGraph definitions input.journeyId input.journeyVersion
  let occurrenceAt ← orFail input.occurrenceAt ExecutionError.occurrenceInvalid
  let existing := findOccurrence tables input occurrenceAt
  match existing.bind fun row => findBySource tables (.occurrence row.id) with
  | some enrollment => .ok (tables, view enrollment)
  | none => do
      assertAcceptsNewEnrollments tables input.journeyId
      let occurrenceId := (existing.map JrScheduleOccurrence.id).getD freshOccurrenceId
      let claimed ← claimOccurrence tables occurrenceId occurrenceAt input existing
      let created := runningEnrollment now enrollmentId (.occurrence occurrenceId) definition
        input.journeyId input.journeyVersion input.correlationId
      let after ← insertEnrollment claimed created
      .ok ({ after with
        occurrences := Table.update JrScheduleOccurrence.id occurrenceId
          (fun row => { row with enrolled := true }) after.occurrences }, view created)

def stepRunsOf (tables : JourneyTables) (enrollmentId : String) : List StepRunRow :=
  tables.stepRuns.filter fun run => run.enrollmentId = enrollmentId

/-- The step that was handed over at the cursor and has not been completed. -/
def pendingSend (tables : JourneyTables) (row : EnrollmentRow) : Option (String × Nat) :=
  if row.stepSequence = 0 then none
  else
    match (stepRunsOf tables row.id).find? fun run => run.stepSequence = row.stepSequence with
    | some last =>
        if last.state = .awaitingSend ∧ row.currentStepId = some last.stepId then
          some (last.stepId, last.stepSequence)
        else none
    | none => none

def terminated (seen : EnrollmentRow) (reason : JrTerminalReason) (now : Instant)
    (exitStep : Option (Nat × String)) (current : EnrollmentRow) : EnrollmentRow :=
  { current with
    runState := .terminal
    terminalReason := some reason
    terminalAt := some now
    terminalStepId := (exitStep.map Prod.snd).or seen.currentStepId
    waitUntil := none
    claimedBy := none
    claimExpiresAt := none
    stepSequence := (exitStep.map Prod.fst).getD current.stepSequence }

def endUnlessOver (seen : EnrollmentRow) (reason : JrTerminalReason) (now : Instant)
    (exitStep : Option (Nat × String)) (current : EnrollmentRow) : EnrollmentRow :=
  if current.runState = .terminal then current else terminated seen reason now exitStep current

/-- The row that is returned is the one that is stored, whoever has ended it. -/
def writeTerminal (tables : JourneyTables) (seen : EnrollmentRow) (reason : JrTerminalReason)
    (now : Instant) (exitStep : Option (Nat × String)) :
    Except ExecutionError (JourneyTables × EnrollmentRow) :=
  if seen.runState = .terminal then .ok (tables, seen)
  else do
    let after := tables.updateEnrollment seen.id (endUnlessOver seen reason now exitStep)
    let row ← orFail (after.findEnrollment seen.id) (ExecutionError.enrollmentNotFound seen.id)
    .ok (after, row)

structure StepRunOutcome where
  state : JrStepRunState
  nextStepId : Option String
  branchResult : Option Bool

def recordStepRun (tables : JourneyTables) (seen : EnrollmentRow) (stepSequence : Nat)
    (step : Definition.JourneyGraphStep) (startedAt : Instant) (input : AdvanceInput)
    (outcome : StepRunOutcome) : Except ExecutionError JourneyTables := do
  ensure (∀ run ∈ stepRunsOf tables seen.id, run.stepSequence ≠ stepSequence)
    (ExecutionError.stepRace seen.id stepSequence)
  .ok { tables with
    stepRuns := tables.stepRuns ++ [{
      enrollmentId := seen.id
      stepSequence := stepSequence
      stepId := step.id
      stepType := step.type
      state := outcome.state
      nextStepId := givenText outcome.nextStepId
      branchResult := outcome.branchResult
      correlationId := input.correlationId
      causationId := givenText input.causationId
      startedAt := startedAt }] }

structure CursorMove where
  runState : JrRunState
  currentStepId : String
  waitUntil : Option Instant
  /-- Whether the claim of the worker is given back. -/
  releases : Bool

def CursorMove.apply (move : CursorMove) (stepSequence : Nat) (row : EnrollmentRow) :
    EnrollmentRow :=
  { row with
    runState := move.runState
    currentStepId := some move.currentStepId
    waitUntil := move.waitUntil
    claimedBy := if move.releases then none else row.claimedBy
    claimExpiresAt := if move.releases then none else row.claimExpiresAt
    stepSequence := stepSequence }

/-- The cursor moves if it still is where it was seen. -/
def moveCursor (tables : JourneyTables) (seen : EnrollmentRow) (stepSequence : Nat)
    (move : CursorMove) : Except ExecutionError (JourneyTables × EnrollmentRow) := do
  let current ← orFail (tables.findEnrollment seen.id) (ExecutionError.stepRace seen.id stepSequence)
  ensure (current.stepSequence = seen.stepSequence ∧ current.runState ≠ .terminal)
    (ExecutionError.stepRace seen.id stepSequence)
  .ok (tables.updateEnrollment seen.id (move.apply stepSequence), move.apply stepSequence current)

def runStep (tables : JourneyTables) (seen : EnrollmentRow) (step : Definition.JourneyGraphStep)
    (startedAt : Instant) (input : AdvanceInput) (outcome : StepRunOutcome) (move : CursorMove) :
    Except ExecutionError (JourneyTables × EnrollmentRow) := do
  let recorded ← recordStepRun tables seen (seen.stepSequence + 1) step startedAt input outcome
  moveCursor recorded seen (seen.stepSequence + 1) move

def runCurrentStep (now startedAt : Instant) (input : AdvanceInput) (tables : JourneyTables)
    (seen : EnrollmentRow) (step : Definition.JourneyGraphStep) :
    Except ExecutionError (JourneyTables × JourneyStepOutcome) :=
  let sequence := seen.stepSequence + 1
  match planJourneyStep now input.evaluator step with
  | .exit => do
      let recorded ← recordStepRun tables seen sequence step startedAt input ⟨.completed, none, none⟩
      let exited ← writeTerminal recorded seen .graphExit now (some (sequence, step.id))
      .ok (exited.1, .terminal .graphExit (view exited.2))
  | .wait nextStepId wakeAt => do
      let moved ← runStep tables seen step startedAt input ⟨.completed, some nextStepId, none⟩
        ⟨.waiting, nextStepId, some wakeAt, true⟩
      .ok (moved.1, .waiting step.id wakeAt (view moved.2))
  | .branch nextStepId branchResult => do
      let moved ← runStep tables seen step startedAt input
        ⟨.completed, some nextStepId, some branchResult⟩ ⟨.running, nextStepId, none, false⟩
      .ok (moved.1, .advanced step.id nextStepId (view moved.2))
  | .awaitSend nextStepId | .awaitOwner nextStepId _ => do
      let moved ← runStep tables seen step startedAt input ⟨.awaitingSend, some nextStepId, none⟩
        ⟨.running, step.id, none, false⟩
      .ok (moved.1, .awaitingSend step.id sequence (view moved.2))

/-- `advance`, from what it has read under the lock. -/
def advance (definition : JourneyVersionSnapshot) (now startedAt : Instant) (input : AdvanceInput)
    (tables : JourneyTables) (seen : EnrollmentRow) (parked : Option (String × Nat)) :
    Except ExecutionError (JourneyTables × JourneyStepOutcome) :=
  if seen.runState = .terminal then
    .ok (tables, .terminal (seen.terminalReason.getD .cancelled) (view seen))
  else if seen.maxAgeAt.any (fun maxAgeAt => maxAgeAt ≤ now) then do
    let aged ← writeTerminal tables seen .maxAge now none
    .ok (aged.1, .terminal .maxAge (view aged.2))
  else if seen.runState = .waiting && seen.waitUntil.any (fun waitUntil => now < waitUntil) then
    .ok (tables, .notDue (view seen))
  else
    match givenText seen.currentStepId with
    | none => do
        let done ← writeTerminal tables seen .graphExit now none
        .ok (done.1, .terminal .graphExit (view done.2))
    | some stepId =>
        match parked with
        | some (stepId, stepSequence) => .ok (tables, .awaitingSend stepId stepSequence (view seen))
        | none => do
            let step ← orFail (definition.graph.stepOf stepId) (ExecutionError.stepMissing stepId)
            runCurrentStep now startedAt input tables seen step

/-- `completeSend`, from what it has read under the lock. -/
def completeSend (definition : JourneyVersionSnapshot) (startedAt : Instant) (input : AdvanceInput)
    (tables : JourneyTables) (seen : EnrollmentRow) (parked : Option (String × Nat)) :
    Except ExecutionError (JourneyTables × JourneyStepOutcome) :=
  if seen.runState = .terminal then
    .ok (tables, .terminal (seen.terminalReason.getD .cancelled) (view seen))
  else do
    let pending ← orFail parked (ExecutionError.stepRace seen.id seen.stepSequence)
    let step ← orFail (definition.graph.stepOf pending.1) (ExecutionError.stepMissing pending.1)
    match step with
    | .send _ _ _ next => do
        let moved ← runStep tables seen step startedAt input ⟨.completed, some next, none⟩
          ⟨.running, next, none, false⟩
        .ok (moved.1, .advanced step.id next (view moved.2))
    | _ => .error (.stepNotSend step.id)

/-- What `claimDueWork` selects. -/
def dueForClaim (now : Instant) (row : EnrollmentRow) : Bool :=
  row.runState ≠ .terminal &&
    (row.runState = .running || row.waitUntil.any fun waitUntil => waitUntil ≤ now) &&
    row.claimExpiresAt.all fun claimExpiresAt => claimExpiresAt ≤ now

def claimDueWork (now claimSeconds : Instant) (workerId : String) (ids : List String)
    (tables : JourneyTables) : JourneyTables :=
  { tables with
    enrollments := tables.enrollments.map fun row =>
      if row.id ∈ ids ∧ dueForClaim now row = true then
        { row with claimedBy := some workerId, claimExpiresAt := some (now + claimSeconds * 1000) }
      else row }

/-- What `sweepMaxAge` selects. -/
def pastMaxAge (now : Instant) (row : EnrollmentRow) : Bool :=
  row.runState ≠ .terminal && row.maxAgeAt.any fun maxAgeAt => maxAgeAt ≤ now

def expiredEnrollments (now : Instant) (limit : Nat) (tables : JourneyTables) : List EnrollmentRow :=
  ((tables.enrollments.filter (pastMaxAge now)).insertionSort fun left right =>
    left.maxAgeAt.getD 0 ≤ right.maxAgeAt.getD 0).take limit

def sweepMaxAge (now : Instant) : JourneyTables → List EnrollmentRow →
    Except ExecutionError (JourneyTables × List EnrollmentView)
  | tables, [] => .ok (tables, [])
  | tables, seen :: rest => do
      let closed ← writeTerminal tables seen .maxAge now none
      let others ← sweepMaxAge now closed.1 rest
      .ok (others.1, view closed.2 :: others.2)

end DContact.Journey.Execution

import DContact.Journey.OwnerEvolution

/-!
# The results of owner actions

An action that is cancelled on its way has two commands, and the owner reports a result for
each. Results may arrive in any order and more than once. The inbox takes each of them
once, the state follows the precedence of the cancellation, and the ledger keeps the one
continuation of the action. The ledger compares every later result with that continuation
by its hash. So results are taken in any order as long as all results of an action carry
one hash, and the result of the second command is lost as soon as they do not.
-/

namespace DContact.Journey

open Lib List JourneyStore
open Governance (Instant sha256)

/-! ## Runs -/

/-- A result that was handed to the repository, the tables that it found and what came of it. -/
structure Delivery where
  input : ApplyOwnerResultInput
  before : JourneyStore
  answer : Except OwnerError (JourneyStore × ApplyOwnerResultResult)

structure OwnerSession where
  store : JourneyStore
  deliveries : List Delivery

/-- The operations of the repository. The other transactions of the journey may rewrite what the
actions refer to in any way. -/
inductive OwnerStep where
  | ensure (now : Instant) (id : String) (input : EnsureOwnerActionInput)
  | claim (now : Instant) (commandId : String)
  | dispatched (now : Instant) (commandId : String)
  | failed (now backoff : Instant) (commandId : String)
  | cancel (now : Instant) (input : RequestOwnerCancellationInput)
  | replay (now : Instant) (actionKey : String) (expectedVersion : Int)
  | ackUnknown (actionKey : String) (expectedVersion : Int)
  | cancelUnconfirmed (actionKey : String) (expectedVersion : Int)
  | deliver (now : Instant) (input : ApplyOwnerResultInput)
  | elsewhere (enrollments : List JrEnrollment) (definitions : List JrJourneyDefinition)
      (stepRuns : List JrStepRun)

/-- A transaction that raises is rolled back. -/
def settled {α : Type} (store : JourneyStore) :
    Except OwnerError (JourneyStore × α) → JourneyStore
  | .ok (after, _) => after
  | .error _ => store

def settledIfAny {α : Type} (store : JourneyStore) :
    Except OwnerError (Option (JourneyStore × α)) → JourneyStore
  | .ok (some (after, _)) => after
  | _ => store

def OwnerStep.perform (contract : OwnerContract) (store : JourneyStore) : OwnerStep → JourneyStore
  | .ensure now id input => settled store (ensureAction now id store input)
  | .claim now commandId => settled store (claimCommand now store commandId)
  | .dispatched now commandId => settled store (markCommandDispatched now store commandId)
  | .failed now backoff commandId => settled store (markCommandFailed now backoff store commandId)
  | .cancel now input => settled store (requestCancellation contract now store input)
  | .replay now actionKey expectedVersion =>
      settled store (replayCommands now store actionKey expectedVersion)
  | .ackUnknown actionKey expectedVersion =>
      settledIfAny store (.ok (markAckUnknown store actionKey expectedVersion))
  | .cancelUnconfirmed actionKey expectedVersion =>
      settledIfAny store (markCancelUnconfirmed store actionKey expectedVersion)
  | .deliver now input => settled store (applyResultInTransaction now store input)
  | .elsewhere enrollments definitions stepRuns =>
      { store with enrollments := enrollments, definitions := definitions, stepRuns := stepRuns }

def OwnerStep.delivered (store : JourneyStore) : OwnerStep → List Delivery
  | .deliver now input => [⟨input, store, applyResultInTransaction now store input⟩]
  | _ => []

def OwnerSession.next (contract : OwnerContract) (session : OwnerSession) (step : OwnerStep) :
    OwnerSession where
  store := step.perform contract session.store
  deliveries := session.deliveries ++ step.delivered session.store

/-- No action has been created yet. -/
structure OwnerSession.Fresh (session : OwnerSession) : Prop where
  actions : session.store.actions = []
  commands : session.store.commands = []
  results : session.store.results = []
  continuations : session.store.continuations = []
  deliveries : session.deliveries = []

def ownerActions (contract : OwnerContract) : System OwnerSession OwnerStep :=
  .ofNext OwnerSession.Fresh fun session step => some (session.next contract step)

/-! ## What is asked of the results -/

def Delivery.Succeeds (delivery : Delivery) : Prop :=
  ∃ after result, delivery.answer = .ok (after, result) ∧
    result.outcome ∈ [ApplyOwnerResultOutcome.applied, .duplicate, .terminalIgnored]

def Delivery.Moves (delivery : Delivery) : Prop :=
  ∃ after result, delivery.answer = .ok (after, result) ∧
    after.enrollments ≠ delivery.before.enrollments

/-- The result of a command that cancels or supersedes met an action that waits for it. -/
def Delivery.Decides (delivery : Delivery) : Prop :=
  cancelsAction delivery.before delivery.input.commandId = true ∧
    ∃ action, delivery.before.findAction delivery.input.actionKey = some action ∧
      action.state = .cancelRequested

def decidedState (resultKind : JrOwnerResultKind) : JrOwnerActionState :=
  nextStateForResult .cancelRequested resultKind true

/-- Whatever the order of the deliveries so far, each of them succeeded, its result is kept, no
action moved a cursor twice, and cancellations were decided by their own results. -/
structure OwnerSession.Commutes (session : OwnerSession) : Prop where
  succeeds : ∀ delivery ∈ session.deliveries, delivery.Succeeds
  persisted : ∀ delivery ∈ session.deliveries, ∃ row ∈ session.store.results,
    row.commandId = delivery.input.commandId ∧ row.resultHash = delivery.input.resultHash
  movesOnce : session.deliveries.Pairwise fun earlier later =>
    earlier.Moves → later.Moves → earlier.input.actionKey ≠ later.input.actionKey
  decided : ∀ delivery ∈ session.deliveries, delivery.Decides →
    ∃ action, session.store.findAction delivery.input.actionKey = some action ∧
      action.state = decidedState delivery.input.resultKind

/-! ## Deliveries in order -/

def effectiveState (store : JourneyStore) (action : JrOwnerAction) (input : ApplyOwnerResultInput) :
    JrOwnerActionState :=
  if action.state ∈ openActionStates ∧ store.findResult input.commandId = none then
    nextStateForResult action.state input.resultKind (cancelsAction store input.commandId)
  else action.state

/-- The enrollment is there, and if the result is to move it, its cursor stands at the step of the
action and the step is found in the published definition. -/
structure Followable (store : JourneyStore) (action : JrOwnerAction) (bound : StepBinding)
    (input : ApplyOwnerResultInput) : Prop where
  hash : sha256 input.resultHash = true
  enrollment : ∃ enrollment, store.findEnrollment action.enrollmentId = some enrollment ∧
    (enrollment.runState ≠ .terminal → advances (effectiveState store action input) = true →
      Advanceable store action bound enrollment)

/-- The result belongs to a command of the action, is the one reported before if any was, and says
how a cancellation ended. The first result of a bound action finds its binding in order. -/
structure WellDelivered (store : JourneyStore) (input : ApplyOwnerResultInput) : Prop where
  known : ∃ command, store.findCommand input.commandId = some command ∧
    command.actionKey = input.actionKey
  same : ∀ existing, store.findResult input.commandId = some existing →
    existing.resultHash = input.resultHash
  told : cancelsAction store input.commandId = true → input.resultKind ≠ .ackUnknown
  first : ∀ action bound, store.findAction input.actionKey = some action →
    action.bound = some bound → store.findContinuation action.id = none →
    Followable store action bound input

def OneHash (store : JourneyStore) (input : ApplyOwnerResultInput) : Prop :=
  ∀ action bound existing, store.findAction input.actionKey = some action →
    action.bound = some bound → store.findContinuation action.id = some existing →
    existing.resultHash = input.resultHash

def Deliveries (guard : JourneyStore → ApplyOwnerResultInput → Prop) (session : OwnerSession) :
    OwnerStep → Prop
  | .deliver _ input => guard session.store input
  | _ => True

def InOrder (store : JourneyStore) (input : ApplyOwnerResultInput) : Prop :=
  WellDelivered store input ∧ OneHash store input

section Decidability

variable (store : JourneyStore) (action : JrOwnerAction) (bound : StepBinding)
  (enrollment : JrEnrollment) (input : ApplyOwnerResultInput)

instance : Decidable (∃ step, StepFound store action bound enrollment step) :=
  decidable_of_iff ((boundStep store action bound enrollment).toOption.isSome = true) <| by
    rw [Option.isSome_iff_exists]
    apply exists_congr
    intro step
    rw [← boundStep_ok]
    cases boundStep store action bound enrollment <;> simp [Except.toOption]

instance : Decidable (Advanceable store action bound enrollment) :=
  decidable_of_iff ((∃ step, StepFound store action bound enrollment step) ∧
      ∀ run ∈ store.stepRuns,
        ¬ (run.enrollmentId = enrollment.id ∧ run.stepSequence = bound.stepSequence + 1))
    ⟨fun holds => ⟨holds.1, holds.2⟩, fun holds => ⟨holds.step, holds.run⟩⟩

instance : Decidable (Followable store action bound input) :=
  decidable_of_iff (sha256 input.resultHash = true ∧
      ∃ enrollment ∈ store.findEnrollment action.enrollmentId, enrollment.runState ≠ .terminal →
        advances (effectiveState store action input) = true →
        Advanceable store action bound enrollment)
    ⟨fun holds => ⟨holds.1, holds.2⟩, fun holds => ⟨holds.hash, holds.enrollment⟩⟩

instance : Decidable (WellDelivered store input) :=
  decidable_of_iff
    ((∃ command ∈ store.findCommand input.commandId, command.actionKey = input.actionKey) ∧
      (∀ existing ∈ store.findResult input.commandId, existing.resultHash = input.resultHash) ∧
      (cancelsAction store input.commandId = true → input.resultKind ≠ .ackUnknown) ∧
      ∀ action ∈ store.findAction input.actionKey, ∀ bound ∈ action.bound,
        store.findContinuation action.id = none → Followable store action bound input)
    ⟨fun ⟨known, same, told, first⟩ => ⟨known, same, told,
        fun action bound found binding => first action found bound binding⟩,
      fun ⟨known, same, told, first⟩ => ⟨known, same, told,
        fun action found bound binding => first action bound found binding⟩⟩

instance : Decidable (OneHash store input) :=
  decidable_of_iff (∀ action ∈ store.findAction input.actionKey, ∀ _bound ∈ action.bound,
      ∀ existing ∈ store.findContinuation action.id, existing.resultHash = input.resultHash)
    ⟨fun holds action bound existing found binding => holds action found bound binding existing,
      fun holds action found bound binding existing =>
        holds action bound existing found binding⟩

instance : Decidable (InOrder store input) := inferInstanceAs (Decidable (_ ∧ _))

instance (guard : JourneyStore → ApplyOwnerResultInput → Prop)
    [∀ store input, Decidable (guard store input)] (session : OwnerSession) (step : OwnerStep) :
    Decidable (Deliveries guard session step) :=
  match step with
  | .deliver _ input => inferInstanceAs (Decidable (guard session.store input))
  | .ensure .. | .claim .. | .dispatched .. | .failed .. | .cancel .. | .replay ..
  | .ackUnknown .. | .cancelUnconfirmed .. | .elsewhere .. => inferInstanceAs (Decidable True)

end Decidability

/-! ## The tables under a result -/

variable {existing : JrOwnerResultInbox}

section Results

variable {now : Instant} {store : JourneyStore} {action : JrOwnerAction}
  {input : ApplyOwnerResultInput}

theorem closes_of_told {current : JrOwnerActionState} {resultKind : JrOwnerResultKind}
    (told : resultKind ≠ .ackUnknown) :
    nextStateForResult current resultKind true ∉ openActionStates := by
  cases resultKind <;>
    simp_all [nextStateForResult, openActionStates, JrOwnerResultKind.actionState]

/-- What the inbox takes, and what stays as it was. -/
structure Persisted (store : JourneyStore) (action : JrOwnerAction) (input : ApplyOwnerResultInput)
    (persisted : JourneyStore × JrOwnerAction) : Prop where
  results : ∃ outcome, persisted.1.results = store.results ++ [resultRow input outcome]
  continuations : persisted.1.continuations = store.continuations
  enrollments : persisted.1.enrollments = store.enrollments
  definitions : persisted.1.definitions = store.definitions
  stepRuns : persisted.1.stepRuns = store.stepRuns
  found : persisted.1.findAction input.actionKey = some persisted.2
  id : persisted.2.id = action.id
  bound : persisted.2.bound = action.bound
  enrollmentId : persisted.2.enrollmentId = action.enrollmentId
  kind : persisted.2.kind = action.kind
  state : persisted.2.state =
    if action.state ∈ openActionStates then
      nextStateForResult action.state input.resultKind (cancelsAction store input.commandId)
    else action.state

theorem persistResult_persisted (known : store.findAction input.actionKey = some action) :
    Persisted store action input (persistResult now store action input) := by
  unfold persistResult
  by_cases opened : action.state ∈ openActionStates
  · simp only [if_pos opened]
    refine ⟨⟨.applied, rfl⟩, rfl, rfl, rfl, rfl, ?_, rfl, rfl, rfl, rfl, by rw [if_pos opened]; rfl⟩
    have sameKey : ∀ row, (takeResult now input (cancelsAction store input.commandId) row).actionKey =
        row.actionKey := fun _ => rfl
    have found : (store.updateAction action.id
        (takeResult now input (cancelsAction store input.commandId))).findAction input.actionKey = _ :=
      Quiet.findAction_updateActions sameKey input.actionKey
    rw [known, Option.map_some, if_pos (decide_eq_true rfl)] at found
    exact found
  · simp only [if_neg opened]
    exact ⟨⟨.duplicate, rfl⟩, rfl, rfl, rfl, rfl, known, rfl, rfl, rfl, rfl, by rw [if_neg opened]⟩

/-- A result that succeeds: what it adds to the tables, and where it leaves its action. -/
structure Taken (store : JourneyStore) (action : JrOwnerAction) (input : ApplyOwnerResultInput)
    (after : JourneyStore) : Prop where
  evolves : Evolves store after
  results : ∃ rows, after.results = store.results ++ rows ∧
    ∀ row ∈ rows, row.commandId = input.commandId ∧
      ∃ later, after.findAction input.actionKey = some later ∧
        later.state = if action.state ∈ openActionStates then
            nextStateForResult action.state input.resultKind (cancelsAction store input.commandId)
          else action.state
  ledger : ∃ rows, after.continuations = store.continuations ++ rows ∧
    ∀ row ∈ rows, row.actionId = action.id ∧ row.commandId = input.commandId
  persisted : ∃ row ∈ after.results,
    row.commandId = input.commandId ∧ row.resultHash = input.resultHash
  cursor : after.enrollments = store.enrollments ∨
    (∀ row ∈ store.continuations, row.actionId ≠ action.id) ∧
      ∃ row ∈ after.continuations, row.actionId = action.id

variable {result : JourneyStore × ApplyOwnerResultResult}

theorem replayResult_taken (kept : store.findResult input.commandId = some existing)
    (same : existing.resultHash = input.resultHash)
    (replayed : replayResult now store action existing input = .ok result) :
    Taken store action input result.1 ∧ result.2.outcome = .duplicate := by
  unfold replayResult at replayed
  rw [if_neg (not_not.mpr same)] at replayed
  obtain ⟨⟨after, row⟩, continues, replayed⟩ := bind_ok replayed
  cases replayed
  have continued := continueOwnerResult_continued continues
  obtain ⟨rows, ledger, own⟩ := continued.ledger
  have ofKept := findResult_commandId kept
  refine ⟨⟨continued.evolves, ⟨[], ?_, by simp⟩, ⟨rows, ledger, ?_⟩, ⟨existing, ?_, ofKept, same⟩,
    continued.cursor⟩, rfl⟩
  · rw [append_nil]
    exact continued.results
  · intro row mem
    obtain ⟨ofAction, ofCommand⟩ := own row mem
    exact ⟨ofAction, ofCommand.trans ofKept⟩
  · rw [continued.results]
    exact Table.lookup_mem kept

theorem applyNewResult_taken (distinct : (store.actions.map JrOwnerAction.id).Nodup)
    (known : store.findAction input.actionKey = some action)
    (applied : applyNewResult now store action input = .ok result) :
    Taken store action input result.1 ∧
      result.2.outcome ∈ [ApplyOwnerResultOutcome.applied, .terminalIgnored] := by
  unfold applyNewResult at applied
  obtain ⟨⟨after, row⟩, continues, applied⟩ := bind_ok applied
  cases applied
  have persisted : Persisted store action input (persistResult now store action input) :=
    persistResult_persisted known
  have continued := continueOwnerResult_continued continues
  obtain ⟨outcome, results⟩ := persisted.results
  obtain ⟨rows, ledger, own⟩ := continued.ledger
  rw [persisted.continuations] at ledger
  have inbox : after.results = store.results ++ [resultRow input outcome] :=
    continued.results.trans results
  refine ⟨⟨(persistResult_evolves distinct known).trans continued.evolves,
    ⟨_, inbox, ?_⟩, ⟨rows, ledger, ?_⟩, ?_, ?_⟩, ?_⟩
  · intro row mem
    rw [mem_singleton.mp mem]
    refine ⟨rfl, _, ?_, persisted.state⟩
    rw [findAction, continued.actions]
    exact persisted.found
  · intro row mem
    obtain ⟨ofAction, ofCommand⟩ := own row mem
    exact ⟨ofAction.trans persisted.id, ofCommand⟩
  · exact ⟨resultRow input outcome, inbox ▸ mem_append_right _ mem_cons_self, rfl, rfl⟩
  · rcases continued.cursor with still | ⟨fresh, begun⟩
    · exact .inl (still.trans persisted.enrollments)
    · dsimp only at fresh begun
      have sameId : (newContinuation (persistResult now store action input).2 input).action.id =
          action.id := persisted.id
      rw [persisted.continuations, sameId] at fresh
      rw [sameId] at begun
      exact .inr ⟨fresh, begun⟩
  · by_cases opened : action.state ∈ openActionStates <;> simp [opened]

end Results

/-! ## The invariant of the tables -/

def Answered (store : JourneyStore) (commandId : String) : Prop :=
  ∃ command, store.findCommand commandId = some command ∧
    (fromCancelCommand command.payload = true → ∃ action,
      store.findAction command.actionKey = some action ∧ action.state ∉ openActionStates)

def Ledgered (store : JourneyStore) (row : JrOwnerContinuation) : Prop :=
  ∃ command action, store.findCommand row.commandId = some command ∧
    store.findAction command.actionKey = some action ∧ action.id = row.actionId

structure Sound (store : JourneyStore) : Prop where
  ids : (store.actions.map JrOwnerAction.id).Nodup
  commanded : Commanded store
  answered : ∀ row ∈ store.results, Answered store row.commandId
  ledgered : ∀ row ∈ store.continuations, Ledgered store row

section Invariant

variable {now : Instant} {store after : JourneyStore} {action : JrOwnerAction}
  {input : ApplyOwnerResultInput}

theorem Evolves.closed (evolves : Evolves store after) {actionKey : String}
    (found : store.findAction actionKey = some action) (closed : action.state ∉ openActionStates) :
    ∃ later, after.findAction actionKey = some later ∧ later.state = action.state := by
  obtain ⟨later, foundLater, _, same⟩ := evolves.action actionKey action found
  exact ⟨later, foundLater, same closed⟩

theorem Answered.evolves {commandId : String} (answered : Answered store commandId)
    (evolves : Evolves store after) : Answered after commandId := by
  obtain ⟨command, found, closes⟩ := answered
  obtain ⟨later, foundLater, sameKey, samePayload⟩ := evolves.command commandId command found
  refine ⟨later, foundLater, ?_⟩
  intro cancels
  obtain ⟨action, foundAction, closed⟩ := closes (samePayload ▸ cancels)
  obtain ⟨last, foundLast, same⟩ := evolves.closed foundAction closed
  rw [sameKey]
  exact ⟨last, foundLast, same ▸ closed⟩

theorem Ledgered.evolves {row : JrOwnerContinuation} (ledgered : Ledgered store row)
    (evolves : Evolves store after) : Ledgered after row := by
  obtain ⟨command, action, found, foundAction, same⟩ := ledgered
  obtain ⟨later, foundLater, sameKey, _⟩ := evolves.command row.commandId command found
  obtain ⟨last, foundLast, sameId, _⟩ := evolves.action command.actionKey action foundAction
  rw [← sameKey] at foundLast
  exact ⟨later, last, foundLater, foundLast, sameId.trans same⟩

theorem Sound.quiet (sound : Sound store) (quiet : Quiet store after) : Sound after where
  ids := quiet.ids sound.ids
  commanded := quiet.commanded sound.commanded
  answered row mem :=
    (sound.answered row (quiet.results ▸ mem)).evolves quiet.toEvolves
  ledgered row mem :=
    (sound.ledgered row (quiet.ledger ▸ mem)).evolves quiet.toEvolves

theorem WellDelivered.action_found (well : WellDelivered store input) (sound : Sound store) :
    ∃ action, store.findAction input.actionKey = some action := by
  obtain ⟨command, found, ofAction⟩ := well.known
  rw [← ofAction]
  exact sound.commanded command (Table.lookup_mem found)

theorem Taken.sound (taken : Taken store action input after) (sound : Sound store)
    (well : WellDelivered store input) (found : store.findAction input.actionKey = some action) :
    Sound after := by
  obtain ⟨command, known, ofAction⟩ := well.known
  obtain ⟨later, knownLater, sameKey, samePayload⟩ := taken.evolves.command _ _ known
  refine ⟨taken.evolves.ids sound.ids, taken.evolves.commanded sound.commanded, ?_, ?_⟩
  · obtain ⟨rows, results, own⟩ := taken.results
    intro row mem
    rcases mem_append.mp (results ▸ mem) with old | new
    · exact (sound.answered row old).evolves taken.evolves
    · obtain ⟨ofCommand, last, foundLast, state⟩ := own row new
      refine ⟨later, ofCommand ▸ knownLater, ?_⟩
      intro cancels
      have cancelling : cancelsAction store input.commandId = true := by
        rw [cancelsAction, known, Option.bind_some, ← samePayload]
        exact cancels
      refine ⟨last, by rw [sameKey, ofAction]; exact foundLast, ?_⟩
      rw [state, cancelling]
      split
      · exact closes_of_told (well.told cancelling)
      · assumption
  · obtain ⟨rows, ledger, own⟩ := taken.ledger
    intro row mem
    rcases mem_append.mp (ledger ▸ mem) with old | new
    · exact (sound.ledgered row old).evolves taken.evolves
    · obtain ⟨ofThis, ofCommand⟩ := own row new
      obtain ⟨last, foundLast, sameId, _⟩ := taken.evolves.action _ _ found
      refine ⟨later, last, ofCommand ▸ knownLater, ?_, sameId.trans ofThis.symm⟩
      rw [sameKey, ofAction]
      exact foundLast

/-! ## When a delivery succeeds -/

structure FollowsUp (store : JourneyStore) (action : JrOwnerAction) (bound : StepBinding)
    (input : ApplyOwnerResultInput) : Prop where
  oneHash : ∀ existing, store.findContinuation action.id = some existing →
    existing.resultHash = input.resultHash
  first : store.findContinuation action.id = none → Followable store action bound input

/-- The tables and the result that the continuation works on are those of the delivery. -/
structure SameGround (store : JourneyStore) (action : JrOwnerAction) (input : ApplyOwnerResultInput)
    (ground : JourneyStore) (continued : ContinueOwnerResultInput) : Prop where
  continuations : ground.continuations = store.continuations
  enrollments : ground.enrollments = store.enrollments
  definitions : ground.definitions = store.definitions
  stepRuns : ground.stepRuns = store.stepRuns
  commandId : continued.commandId = input.commandId
  resultHash : continued.resultHash = input.resultHash
  id : continued.action.id = action.id
  bound : continued.action.bound = action.bound
  enrollmentId : continued.action.enrollmentId = action.enrollmentId
  kind : continued.action.kind = action.kind
  state : continued.effectiveState = effectiveState store action input

theorem Advanceable.transfer {other : JourneyStore} {later : JrOwnerAction} {bound : StepBinding}
    {enrollment : JrEnrollment} (definitions : other.definitions = store.definitions)
    (stepRuns : other.stepRuns = store.stepRuns) (kind : later.kind = action.kind)
    (advanceable : Advanceable store action bound enrollment) :
    Advanceable other later bound enrollment := by
  obtain ⟨⟨step, cursor, published, same⟩, run⟩ := advanceable
  refine ⟨⟨step, cursor, ?_, same.trans kind.symm⟩, stepRuns ▸ run⟩
  unfold findDefinition
  rw [definitions]
  exact published

/-- No row of the ledger was written for this command, since it would be one of the action. -/
theorem Sound.command_fresh (sound : Sound store)
    (known : ∃ command, store.findCommand input.commandId = some command ∧
      command.actionKey = input.actionKey)
    (found : store.findAction input.actionKey = some action)
    (absent : store.findContinuation action.id = none) :
    ∀ row ∈ store.continuations, row.commandId ≠ input.commandId := by
  intro row mem ofCommand
  obtain ⟨command, known, ofAction⟩ := known
  obtain ⟨other, owner, knownOther, foundOwner, same⟩ := sound.ledgered row mem
  rw [ofCommand, known] at knownOther
  cases knownOther
  rw [ofAction, found] at foundOwner
  cases foundOwner
  have here := find?_eq_none.mp absent row mem
  simp [same] at here

theorem SameGround.inBinding_iff {ground : JourneyStore} {continued : ContinueOwnerResultInput}
    {bound : StepBinding} (same : SameGround store action input ground continued)
    (fresh : store.findContinuation action.id = none →
      ∀ row ∈ store.continuations, row.commandId ≠ input.commandId) :
    InBinding ground continued bound ↔ FollowsUp store action bound input := by
  have ledger : ground.findContinuation continued.action.id = store.findContinuation action.id := by
    rw [findContinuation, findContinuation, same.continuations, same.id]
  have standing : ground.findEnrollment continued.action.enrollmentId =
      store.findEnrollment action.enrollmentId := by
    rw [findEnrollment, findEnrollment, same.enrollments, same.enrollmentId]
  constructor
  · rintro ⟨oneHash, first⟩
    rw [ledger, same.resultHash] at oneHash
    refine ⟨oneHash, ?_⟩
    intro absent
    obtain ⟨ledgerOpen, enrollment, found, moving⟩ := first (ledger.trans absent)
    refine ⟨same.resultHash ▸ ledgerOpen.hash, enrollment, standing ▸ found, ?_⟩
    intro live advancing
    exact (moving live (same.state ▸ advancing)).transfer same.definitions.symm same.stepRuns.symm
      same.kind.symm
  · rintro ⟨oneHash, first⟩
    refine ⟨?_, ?_⟩
    · rw [ledger, same.resultHash]
      exact oneHash
    · intro absent
      rw [ledger] at absent
      obtain ⟨hash, enrollment, found, moving⟩ := first absent
      refine ⟨⟨?_, ?_, same.resultHash ▸ hash⟩, enrollment, standing ▸ found, ?_⟩
      · rw [same.continuations, same.id]
        intro row mem
        simpa using find?_eq_none.mp absent row mem
      · rw [same.continuations, same.commandId]
        exact fresh absent
      · intro live advancing
        exact (moving live (same.state ▸ advancing)).transfer same.definitions same.stepRuns
          same.kind

variable {persisted : JourneyStore × JrOwnerAction}

theorem Persisted.ground (holds : Persisted store action input persisted)
    (absent : store.findResult input.commandId = none) :
    SameGround store action input persisted.1 (newContinuation persisted.2 input) :=
  { holds with
    commandId := rfl
    resultHash := rfl
    state := by simp [effectiveState, newContinuation, absent, holds.state] }

theorem replayResult_succeeds (sameHash : existing.resultHash = input.resultHash) :
    (∃ result, replayResult now store action existing input = .ok result) ↔
      ∀ bound, action.bound = some bound →
        InBinding store (storedContinuation action existing) bound := by
  rw [replayResult, if_neg (not_not.mpr sameHash)]
  exact (bind_succeeds_iff fun _ => ⟨_, rfl⟩).trans continueOwnerResult_succeeds

theorem applyNewResult_succeeds (persists : persistResult now store action input = persisted) :
    (∃ result, applyNewResult now store action input = .ok result) ↔
      ∀ bound, persisted.2.bound = some bound →
        InBinding persisted.1 (newContinuation persisted.2 input) bound := by
  rw [applyNewResult, persists]
  exact (bind_succeeds_iff fun _ => ⟨_, rfl⟩).trans continueOwnerResult_succeeds

theorem applyResult_replays (found : store.findAction input.actionKey = some action)
    (kept : store.findResult input.commandId = some existing) :
    applyResultInTransaction now store input = replayResult now store action existing input := by
  rw [applyResultInTransaction, found, kept]
  rfl

theorem applyResult_applies (found : store.findAction input.actionKey = some action)
    (kept : store.findResult input.commandId = none) :
    applyResultInTransaction now store input = applyNewResult now store action input := by
  rw [applyResultInTransaction, found, kept]
  rfl

/-- A result of a known command is taken exactly when it is the one reported before, if any was,
and the continuation of the action or its binding admits it. -/
theorem applyResult_succeeds_iff (sound : Sound store)
    (known : ∃ command, store.findCommand input.commandId = some command ∧
      command.actionKey = input.actionKey)
    (found : store.findAction input.actionKey = some action) :
    (∃ after result, applyResultInTransaction now store input = .ok (after, result) ∧
        result.outcome ∈ [ApplyOwnerResultOutcome.applied, .duplicate, .terminalIgnored]) ↔
      (∀ existing, store.findResult input.commandId = some existing →
        existing.resultHash = input.resultHash) ∧
      ∀ bound, action.bound = some bound → FollowsUp store action bound input := by
  have fresh := sound.command_fresh known found
  cases kept : store.findResult input.commandId with
  | some existing =>
      simp only [applyResult_replays found kept, Option.some.injEq, forall_eq']
      by_cases sameHash : existing.resultHash = input.resultHash
      · have ground : SameGround store action input store (storedContinuation action existing) :=
          ⟨rfl, rfl, rfl, rfl, findResult_commandId kept, sameHash, rfl, rfl, rfl, rfl,
            by simp [effectiveState, storedContinuation, kept]⟩
        simp only [sameHash, true_and, ← ground.inBinding_iff fresh]
        rw [← replayResult_succeeds sameHash]
        constructor
        · rintro ⟨after, result, replayed, _⟩
          exact ⟨_, replayed⟩
        · rintro ⟨⟨after, result⟩, replayed⟩
          obtain ⟨_, outcome⟩ := replayResult_taken kept sameHash replayed
          exact ⟨after, result, replayed, by simp [show result.outcome = .duplicate from outcome]⟩
      · simp only [sameHash, false_and, iff_false]
        rintro ⟨after, result, replayed, told⟩
        rw [replayResult, if_pos sameHash] at replayed
        cases replayed
        simp at told
  | none =>
      have persisted : Persisted store action input (persistResult now store action input) :=
        persistResult_persisted found
      simp only [applyResult_applies found kept, reduceCtorEq, false_implies, implies_true, true_and,
        ← (persisted.ground kept).inBinding_iff fresh]
      rw [← persisted.bound, ← applyNewResult_succeeds rfl]
      constructor
      · rintro ⟨after, result, applied, _⟩
        exact ⟨_, applied⟩
      · rintro ⟨⟨after, result⟩, applied⟩
        obtain ⟨_, outcome⟩ := applyNewResult_taken sound.ids found applied
        refine ⟨after, result, applied, ?_⟩
        rcases mem_cons.mp outcome with first | second
        · simp [show result.outcome = .applied from first]
        · simp [show result.outcome = .terminalIgnored from mem_singleton.mp second]

theorem InOrder.taken (order : InOrder store input) (sound : Sound store) (now : Instant) :
    ∃ action after result, store.findAction input.actionKey = some action ∧
      applyResultInTransaction now store input = .ok (after, result) ∧
      result.outcome ∈ [ApplyOwnerResultOutcome.applied, .duplicate, .terminalIgnored] ∧
      Taken store action input after := by
  obtain ⟨well, oneHash⟩ := order
  obtain ⟨action, found⟩ := well.action_found sound
  have follows : ∀ bound, action.bound = some bound → FollowsUp store action bound input :=
    fun bound binding => ⟨fun existing => oneHash action bound existing found binding,
      well.first action bound found binding⟩
  obtain ⟨after, result, applied, outcome⟩ :=
    (applyResult_succeeds_iff sound well.known found).mpr ⟨well.same, follows⟩
  refine ⟨action, after, result, found, applied, outcome, ?_⟩
  cases kept : store.findResult input.commandId with
  | some existing =>
      rw [applyResult_replays found kept] at applied
      exact (replayResult_taken kept (well.same existing kept) applied).1
  | none =>
      rw [applyResult_applies found kept] at applied
      exact (applyNewResult_taken sound.ids found applied).1

theorem Taken.decided (taken : Taken store action input after) (sound : Sound store)
    (well : WellDelivered store input) (found : store.findAction input.actionKey = some action)
    (cancels : cancelsAction store input.commandId = true)
    (requested : action.state = .cancelRequested) :
    ∃ later, after.findAction input.actionKey = some later ∧
      later.state = decidedState input.resultKind := by
  obtain ⟨command, known, ofAction⟩ := well.known
  obtain ⟨rows, results, own⟩ := taken.results
  obtain ⟨row, mem, ofCommand, _⟩ := taken.persisted
  rcases mem_append.mp (results ▸ mem) with old | new
  · obtain ⟨other, knownOther, closes⟩ := sound.answered row old
    rw [ofCommand, known] at knownOther
    cases knownOther
    rw [cancelsAction, known] at cancels
    obtain ⟨owner, foundOwner, closed⟩ := closes cancels
    rw [ofAction, found] at foundOwner
    cases foundOwner
    simp [requested, openActionStates] at closed
  · obtain ⟨_, later, foundLater, state⟩ := own row new
    refine ⟨later, foundLater, ?_⟩
    rw [state, cancels, requested]
    rfl

end Invariant

/-! ## Every run in order -/

/-- What a run in order keeps. -/
structure Held (session : OwnerSession) : Prop where
  sound : Sound session.store
  commutes : session.Commutes
  moved : ∀ delivery ∈ session.deliveries, delivery.Moves →
    ∃ action, session.store.findAction delivery.input.actionKey = some action ∧
      ∃ row ∈ session.store.continuations, row.actionId = action.id
  told : ∀ delivery ∈ session.deliveries, delivery.Decides →
    delivery.input.resultKind ≠ .ackUnknown

variable {store : JourneyStore}

section Runs

variable {contract : OwnerContract} {session : OwnerSession} {after : JourneyStore}

/-- What is known of the deliveries so far outlasts whatever the tables go through. -/
theorem Held.later (held : Held session) (evolves : Evolves session.store after)
    (results : session.store.results ⊆ after.results)
    (ledger : session.store.continuations ⊆ after.continuations) (sound : Sound after) :
    Held ⟨after, session.deliveries⟩ where
  sound := sound
  commutes := {
    succeeds := held.commutes.succeeds
    persisted := by
      intro delivery mem
      obtain ⟨row, present, same⟩ := held.commutes.persisted delivery mem
      exact ⟨row, results present, same⟩
    movesOnce := held.commutes.movesOnce
    decided := by
      intro delivery mem decides
      obtain ⟨action, found, state⟩ := held.commutes.decided delivery mem decides
      have closed : action.state ∉ openActionStates :=
        state ▸ closes_of_told (held.told delivery mem decides)
      obtain ⟨later, foundLater, same⟩ := evolves.closed found closed
      exact ⟨later, foundLater, same.trans state⟩ }
  moved := by
    intro delivery mem moves
    obtain ⟨action, found, row, present, same⟩ := held.moved delivery mem moves
    obtain ⟨later, foundLater, sameId, _⟩ := evolves.action _ action found
    exact ⟨later, foundLater, row, ledger present, same.trans sameId.symm⟩
  told := held.told

theorem Held.deliver (held : Held session) {now : Instant} {input : ApplyOwnerResultInput}
    (order : InOrder session.store input) :
    Held (session.next contract (.deliver now input)) := by
  obtain ⟨action, after, result, found, applied, outcome, taken⟩ := order.taken held.sound now
  have well := order.1
  have sound := taken.sound held.sound well found
  obtain ⟨rows, results, _⟩ := taken.results
  obtain ⟨continuations, ledger, _⟩ := taken.ledger
  have before : Held ⟨after, session.deliveries⟩ := held.later taken.evolves
    (results ▸ subset_append_left _ _) (ledger ▸ subset_append_left _ _) sound
  have answered : session.next contract (.deliver now input) =
      ⟨after, session.deliveries ++ [⟨input, session.store, .ok (after, result)⟩]⟩ := by
    simp only [OwnerSession.next, OwnerStep.perform, OwnerStep.delivered, applied, settled]
  rw [answered]
  have moves : ∀ stored told, (.ok (after, result) : Except OwnerError _) = .ok (stored, told) →
      stored.enrollments ≠ session.store.enrollments →
      (∀ row ∈ session.store.continuations, row.actionId ≠ action.id) ∧
        ∃ row ∈ after.continuations, row.actionId = action.id := by
    intro stored told same changed
    cases same
    exact taken.cursor.resolve_left changed
  refine ⟨sound, ⟨?_, ?_, ?_, ?_⟩, ?_, ?_⟩
  all_goals simp only [forall_mem_append, forall_mem_singleton, pairwise_append,
    pairwise_singleton, true_and]
  · exact ⟨before.commutes.succeeds, after, result, rfl, outcome⟩
  · exact ⟨before.commutes.persisted, taken.persisted⟩
  · refine ⟨before.commutes.movesOnce, ?_⟩
    intro earlier mem
    rintro movedEarlier ⟨stored, told, same, changed⟩ sameAction
    obtain ⟨owner, foundOwner, row, present, ofOwner⟩ := held.moved earlier mem movedEarlier
    rw [sameAction, found] at foundOwner
    cases foundOwner
    exact (moves stored told same changed).1 row present ofOwner
  · refine ⟨before.commutes.decided, ?_⟩
    rintro ⟨cancels, owner, foundOwner, requested⟩
    rw [found] at foundOwner
    cases foundOwner
    exact taken.decided held.sound well found cancels requested
  · refine ⟨before.moved, ?_⟩
    rintro ⟨stored, told, same, changed⟩
    obtain ⟨later, foundLater, sameId, _⟩ := taken.evolves.action _ action found
    obtain ⟨row, present, ofAction⟩ := (moves stored told same changed).2
    exact ⟨later, foundLater, row, present, ofAction.trans sameId.symm⟩
  · exact ⟨before.told, fun decides => well.told decides.1⟩

theorem settled_quiet {α : Type} {answer : Except OwnerError (JourneyStore × α)}
    (quiet : ∀ result, answer = .ok result → Quiet store result.1) :
    Quiet store (settled store answer) := by
  cases answer with
  | error failure => exact .refl store
  | ok result => exact quiet result rfl

theorem settledIfAny_quiet {α : Type} {answer : Except OwnerError (Option (JourneyStore × α))}
    (quiet : ∀ result, answer = .ok (some result) → Quiet store result.1) :
    Quiet store (settledIfAny store answer) := by
  rcases answer with failure | none | result
  · exact .refl store
  · exact .refl store
  · exact quiet result rfl

/-- Every other operation leaves the inbox and the ledger alone. -/
theorem OwnerStep.perform_quiet {step : OwnerStep}
    (distinct : (store.actions.map JrOwnerAction.id).Nodup) (silent : step.delivered store = []) :
    Quiet store (step.perform contract store) := by
  cases step with
  | ensure now id input => exact settled_quiet fun _ => ensureAction_quiet
  | claim now commandId => exact settled_quiet fun _ => claimCommand_quiet
  | dispatched now commandId => exact settled_quiet fun _ => markCommandDispatched_quiet
  | failed now backoff commandId => exact settled_quiet fun _ => markCommandFailed_quiet
  | cancel now input => exact settled_quiet fun _ => requestCancellation_quiet distinct
  | replay now actionKey expectedVersion =>
      exact settled_quiet fun _ => replayCommands_quiet distinct
  | ackUnknown actionKey expectedVersion =>
      refine settledIfAny_quiet fun result marked => ?_
      exact markAckUnknown_quiet distinct (Except.ok.inj marked)
  | cancelUnconfirmed actionKey expectedVersion =>
      exact settledIfAny_quiet fun _ => markCancelUnconfirmed_quiet distinct
  | deliver now input => cases silent
  | elsewhere enrollments definitions stepRuns =>
      exact ⟨⟨id, (Evolves.refl store).action, (Evolves.refl store).command, id⟩, rfl, rfl⟩

theorem Held.next (held : Held session) (step : OwnerStep)
    (order : Deliveries InOrder session step) : Held (session.next contract step) := by
  cases delivered : step.delivered session.store with
  | nil =>
      have quiet : Quiet session.store (step.perform contract session.store) :=
        OwnerStep.perform_quiet held.sound.ids delivered
      rw [OwnerSession.next, delivered, append_nil]
      exact held.later quiet.toEvolves (quiet.results ▸ List.Subset.refl _)
        (quiet.ledger ▸ List.Subset.refl _) (held.sound.quiet quiet)
  | cons delivery rest =>
      cases step with
      | deliver now input => exact held.deliver order
      | _ => cases delivered

theorem OwnerSession.Fresh.held (fresh : session.Fresh) : Held session := by
  obtain ⟨actions, commands, results, continuations, deliveries⟩ := fresh
  refine ⟨⟨?_, ?_, ?_, ?_⟩, ⟨?_, ?_, ?_, ?_⟩, ?_, ?_⟩ <;>
    simp [Commanded, actions, commands, results, continuations, deliveries]

theorem held_of_reachable
    (reachable : ((ownerActions contract).restrict (Deliveries InOrder)).Reachable session) :
    Held session := by
  refine reachable.invariant ?_ ?_
  · intro start initial
    exact OwnerSession.Fresh.held initial
  · rintro source step target held ⟨order, taken⟩
    rw [← Option.some.inj taken]
    exact held.next step order

/-- In every run whose deliveries are in order, all of them succeed, whatever their order. -/
theorem owner_results_commute
    (reachable : ((ownerActions contract).restrict (Deliveries InOrder)).Reachable session) :
    session.Commutes :=
  (held_of_reachable reachable).commutes

end Runs

/-! ## Two commands of one action -/

def sampleContract : OwnerContract where
  tenantId := "tenant"
  digest := String.join
  canonicalOwnerRequestHash payload := payload.commandId ++ payload.actionKey

def sampleAdmission : OwnerCommandPayload where
  commandId := "admit-1"
  actionKey := "enrollment:1:admit"
  requestHash := "hash"
  journeyId := "journey"
  journeyVersion := 1
  enrollmentId := "enrollment"
  stepId := "admit"
  sourceOutcome := ⟨"INTERACTION_DISPOSITION_RECORDED", "outcome", 1⟩
  interactionId := "interaction"
  contactId := "contact"
  sourceOwnerTeamId := "service"
  targetOwnerTeamId := "dialer"
  expectedOwnerVersion := none
  intent := .admitCampaignTarget "campaign"

def sampleEnrollment : JrEnrollment where
  id := "enrollment"
  journeyId := some "journey"
  journeyVersion := 1
  runState := .waiting
  currentStepId := some "admit"
  stepSequence := 0
  waitUntil := none
  claimedBy := none
  claimExpiresAt := none

def sampleDefinition : JrJourneyDefinition where
  journeyId := "journey"
  version := 1
  status := .published
  steps := [.actionIntent ⟨"admit", .admitCampaignTarget, "admitted", "refused"⟩,
    .exit "admitted", .exit "refused"]

/-- The enrollment waits at its first step, and no action has been created. -/
def sampleSession : OwnerSession where
  store := {
    actions := []
    commands := []
    results := []
    continuations := []
    enrollments := [sampleEnrollment]
    definitions := [sampleDefinition]
    stepRuns := [] }
  deliveries := []

theorem sampleSession_fresh : sampleSession.Fresh := ⟨rfl, rfl, rfl, rfl, rfl⟩

/-- The action is created, its command goes out, and a cancellation is requested. -/
def cancelledOnItsWay : List OwnerStep :=
  [.ensure 0 "action"
      { actionKey := "enrollment:1:admit"
        enrollmentId := "enrollment"
        stepId := some "admit"
        stepSequence := some 0
        outcomeReceiptId := none
        kind := .admitCampaignTarget
        requestHash := "hash"
        correlationId := "outcome"
        commandId := "admit-1"
        commandPayload := some sampleAdmission },
    .claim 1 "admit-1", .dispatched 2 "admit-1",
    .cancel 3
      { actionKey := "enrollment:1:admit"
        cancelRequestKey := "corrected"
        correlationId := "correction"
        reasonCode := none
        supersedingOutcome := none
        expectedVersion := none }]

def sampleResult (commandId : String) (resultKind : JrOwnerResultKind) (digit : Char) :
    ApplyOwnerResultInput where
  commandId := commandId
  actionKey := "enrollment:1:admit"
  resultKind := resultKind
  resultHash := String.ofList (List.replicate 64 digit)
  correlationId := commandId
  ownerAggregateRef := some "target"
  ownerAggregateVersion := some 1

def admittedResult : ApplyOwnerResultInput := sampleResult "admit-1" .acknowledged 'a'

def cancelledResult : ApplyOwnerResultInput :=
  sampleResult (cancelCommandIdFor sampleContract "enrollment:1:admit" "corrected") .cancelled 'c'

def refusedResult (commandId : String) : ApplyOwnerResultInput :=
  { sampleResult commandId .rejected 'e' with ownerAggregateRef := none, ownerAggregateVersion := none }

/-- The steps can be taken under the guard, and the session that they lead to is one that a test
accepts. -/
theorem guarded_reaches (guard : JourneyStore → ApplyOwnerResultInput → Prop)
    [∀ store input, Decidable (guard store input)] (steps : List OwnerStep)
    (holds : OwnerSession → Bool)
    (runs : (System.run
      (System.guardNext (fun session step => decide (Deliveries guard session step))
        fun session step => some (session.next sampleContract step)) sampleSession steps).any holds =
          true) :
    ∃ session, ((ownerActions sampleContract).restrict (Deliveries guard)).Reachable session ∧
      holds session = true := by
  obtain ⟨session, ends, accepted⟩ := (Option.any_eq_true _ _).mp runs
  have guarded : ((System.ofNext OwnerSession.Fresh _).restrict _).Reachable session :=
    .runGuarded sampleSession_fresh ends
  simp only [decide_eq_true_eq] at guarded
  exact ⟨session, guarded, accepted⟩

/-- Both commands are refused in the same words, and one of the refusals comes twice. -/
theorem owner_results_commute_when_refused :
    ∃ session, ((ownerActions sampleContract).restrict (Deliveries InOrder)).Reachable session ∧
      session.Commutes ∧ session.deliveries.length = 3 := by
  have refusals := guarded_reaches InOrder
    (cancelledOnItsWay ++ [.deliver 4 (refusedResult cancelledResult.commandId),
      .deliver 5 (refusedResult "admit-1"), .deliver 6 (refusedResult cancelledResult.commandId)])
    (fun session => session.deliveries.length = 3) (by decide +kernel)
  obtain ⟨session, reachable, delivered⟩ := refusals
  exact ⟨session, reachable, owner_results_commute reachable, of_decide_eq_true delivered⟩

/-- The admission is acknowledged while the cancellation is under way. The result of the
cancellation is then refused, although nothing else is amiss. -/
theorem owner_results_do_not_commute :
    ¬ ∀ session, ((ownerActions sampleContract).restrict (Deliveries WellDelivered)).Reachable
        session → session.Commutes := by
  intro commutes
  have refused := guarded_reaches WellDelivered
    (cancelledOnItsWay ++ [.deliver 4 admittedResult, .deliver 5 cancelledResult])
    (fun session => session.deliveries.any fun delivery => delivery.answer.toOption.isNone)
    (by decide +kernel)
  obtain ⟨session, reachable, failed⟩ := refused
  obtain ⟨delivery, mem, raised⟩ := any_eq_true.mp failed
  obtain ⟨after, result, answer, _⟩ := (commutes session reachable).succeeds delivery mem
  simp [answer, Except.toOption] at raised

end DContact.Journey

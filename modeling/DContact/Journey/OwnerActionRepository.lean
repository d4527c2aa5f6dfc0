import DContact.Journey.OwnerContinuation

/-!
# The repository of owner actions

Every operation is one transaction under the lock of its action. An action begins pending,
is dispatched with its command and takes the result of the owner; while it is open it can
be cancelled, by a second command with the same action key. A result is applied once for
each command, and a terminal state is never left.
-/

namespace DContact.Journey

open Lib
open Governance (Instant)

/-- `OPEN_ACTION_STATES`, and also `REPLAYABLE_ACTION_STATES`. -/
def openActionStates : List JrOwnerActionState :=
  [.pending, .dispatched, .ackUnknown, .cancelRequested]

/-- `CANCELLABLE_ACTION_STATES`: an acknowledged action has its effect already. -/
def cancellableActionStates : List JrOwnerActionState := [.pending, .dispatched, .ackUnknown]

/-- `RESULT_KIND_TO_ACTION_STATE`. -/
def JrOwnerResultKind.actionState : JrOwnerResultKind → JrOwnerActionState
  | .acknowledged => .acknowledged
  | .rejected => .rejected
  | .ackUnknown => .ackUnknown
  | .cancelled => .cancelled
  | .superseded => .superseded
  | .tooLate => .tooLate
  | .reconciling => .reconciling

/-- A cancellation that the owner rejects is left to a person. A success of the original command
that arrives while a cancellation is under way does not close the action. -/
def nextStateForResult (current : JrOwnerActionState) (resultKind : JrOwnerResultKind)
    (fromCancel : Bool) : JrOwnerActionState :=
  if fromCancel = true ∧ resultKind = .rejected then .reconciling
  else if fromCancel = false ∧ current = .cancelRequested ∧ resultKind = .acknowledged then
    .cancelRequested
  else resultKind.actionState

structure EnsureOwnerActionInput where
  actionKey : String
  enrollmentId : String
  stepId : Option String
  stepSequence : Option Int
  outcomeReceiptId : Option String
  kind : JrOwnerActionKind
  requestHash : String
  correlationId : String
  commandId : String
  commandPayload : Option OwnerCommandPayload

structure EnsureOwnerActionResult where
  action : JrOwnerAction
  isNew : Bool

/-- Both fields of the cursor, or neither, and a sequence that is not negative. -/
def stepBinding (stepId : Option String) (stepSequence : Option Int) :
    Except OwnerError (Option StepBinding) :=
  match stepId, stepSequence with
  | none, none => .ok none
  | some stepId, some stepSequence =>
      if stepSequence < 0 then .error .stepBindingInvalid
      else .ok (some ⟨stepId, stepSequence.toNat⟩)
  | _, _ => .error .stepBindingInvalid

def newAction (id : String) (input : EnsureOwnerActionInput) (bound : Option StepBinding) :
    JrOwnerAction where
  id := id
  actionKey := input.actionKey
  enrollmentId := input.enrollmentId
  bound := bound
  outcomeReceiptId := input.outcomeReceiptId.filter fun receipt => receipt ≠ ""
  kind := input.kind
  requestHash := input.requestHash
  state := .pending
  ownerAggregateRef := none
  ownerAggregateVersion := none
  version := 1
  attempts := 0
  dispatchedAt := none
  acknowledgedAt := none
  cancelRequestedAt := none
  correlationId := input.correlationId

def newCommand (now : Instant) (action : JrOwnerAction) (commandId requestHash correlationId : String)
    (payload : Option OwnerCommandPayload) : JrOwnerCommandOutbox where
  commandId := commandId
  actionId := action.id
  actionKey := action.actionKey
  kind := action.kind
  requestHash := requestHash
  payload := payload
  correlationId := correlationId
  state := .pending
  attempts := 0
  availableAt := now
  sentAt := none

def ensureAction (now : Instant) (id : String) (store : JourneyStore)
    (input : EnsureOwnerActionInput) : Except OwnerError (JourneyStore × EnsureOwnerActionResult) := do
  let bound ← stepBinding input.stepId input.stepSequence
  match store.findAction input.actionKey with
  | some existing => do
      ensure (existing.requestHash = input.requestHash) (OwnerError.hashConflict input.actionKey)
      ensure (bound = none ∨ existing.bound = bound) (OwnerError.hashConflict input.actionKey)
      .ok (store, ⟨existing, false⟩)
  | none => do
      ensure (∀ row ∈ store.actions, row.id ≠ id)
        (OwnerError.constraintViolation "jr_owner_actions_pkey")
      let action := newAction id input bound
      let added := { store with actions := store.actions ++ [action] }
      .ok (added.upsertCommand (newCommand now action input.commandId input.requestHash
        input.correlationId input.commandPayload), ⟨action, true⟩)

/-- A relay claims a command whose predecessors of the same action are settled. It skips rows that
another relay holds, so any such command may be the one. -/
def claimable (store : JourneyStore) (now : Instant) (command : JrOwnerCommandOutbox) : Prop :=
  command.state = .pending ∧ command.payload.isSome ∧ command.availableAt ≤ now ∧
    ∀ earlier ∈ store.commands.takeWhile fun row => row.commandId ≠ command.commandId,
      earlier.actionId = command.actionId →
        earlier.state ∉ [JrOwnerCommandState.pending, .processing, .failed]

instance (store : JourneyStore) (now : Instant) (command : JrOwnerCommandOutbox) :
    Decidable (claimable store now command) :=
  inferInstanceAs (Decidable (_ ∧ _ ∧ _ ∧ _))

def updateCommand (store : JourneyStore) (commandId : String)
    (rewrite : JrOwnerCommandOutbox → JrOwnerCommandOutbox) : JourneyStore :=
  store.updateCommands (fun row => row.commandId = commandId) rewrite

def claimCommand (now : Instant) (store : JourneyStore) (commandId : String) :
    Except OwnerError (JourneyStore × JrOwnerCommandOutbox) := do
  let command ← orFail (store.findCommand commandId) OwnerError.recordNotFound
  ensure (claimable store now command) OwnerError.recordNotFound
  let claim := fun row : JrOwnerCommandOutbox => { row with state := .processing }
  .ok (updateCommand store commandId claim, claim command)

def markCommandDispatched (now : Instant) (store : JourneyStore) (commandId : String) :
    Except OwnerError (JourneyStore × JrOwnerCommandOutbox) := do
  let command ← orFail (store.findCommand commandId) OwnerError.recordNotFound
  let send := fun row : JrOwnerCommandOutbox => { row with state := .sent, sentAt := some now }
  let dispatched := (updateCommand store commandId send).updateActions
    (fun row => row.actionKey = command.actionKey ∧ row.state = .pending)
    fun row => { row with state := .dispatched, dispatchedAt := some now, version := row.version + 1 }
  .ok (dispatched, send command)

def markCommandFailed (now backoff : Instant) (store : JourneyStore) (commandId : String) :
    Except OwnerError (JourneyStore × JrOwnerCommandOutbox) := do
  let command ← orFail (store.findCommand commandId) OwnerError.recordNotFound
  let fail := fun row : JrOwnerCommandOutbox =>
    { row with state := .pending, attempts := row.attempts + 1, availableAt := now + backoff }
  .ok (updateCommand store commandId fail, fail command)

/-- What the repository takes from the contract package and the host: the digest of a list of
texts, and the semantic hash of a command. -/
structure OwnerContract where
  tenantId : String
  digest : List String → String
  canonicalOwnerRequestHash : OwnerCommandPayload → String

structure RequestOwnerCancellationInput where
  actionKey : String
  cancelRequestKey : String
  correlationId : String
  reasonCode : Option String
  supersedingOutcome : Option OutcomeReference
  expectedVersion : Option Int

/-- `cancelCommandIdFor`: the same request gives the same command. -/
def cancelCommandIdFor (contract : OwnerContract) (actionKey cancelRequestKey : String) : String :=
  "cancel-" ++ String.ofList
    ((contract.digest [contract.tenantId, actionKey, cancelRequestKey]).toList.take 48)

/-- `CANCEL_COMMAND_TYPE_BY_KIND`: a case that is committed stays, so there is none for it. With an
outcome that supersedes the old one the command supersedes, without it cancels. -/
def cancelIntentByKind : JrOwnerActionKind →
    Option (CancelOwnerActionIntent → Option OutcomeReference → OwnerCommandIntent)
  | .ensureCase => none
  | .admitCampaignTarget => some fun cancel superseding =>
      superseding.elim (.cancelCampaignTarget cancel) (.supersedeCampaignTarget cancel)
  | .scheduleCallback => some fun cancel superseding =>
      superseding.elim (.cancelCallback cancel) (.supersedeCallback cancel)

def withOwnerRequestHash (contract : OwnerContract) (draft : OwnerCommandPayload) :
    OwnerCommandPayload :=
  { draft with requestHash := contract.canonicalOwnerRequestHash draft }

def commandsOf (store : JourneyStore) (action : JrOwnerAction) : List JrOwnerCommandOutbox :=
  store.commands.filter fun row => row.actionId = action.id

/-- The payload of the positive command that the cancellation is built from. -/
def originalPayload (commands : List JrOwnerCommandOutbox) : Option OwnerCommandPayload :=
  (commands.find? fun row => row.payload.isSome && !fromCancelCommand row.payload).bind
    JrOwnerCommandOutbox.payload

def expectVersion (action : JrOwnerAction) (expectedVersion : Option Int) : Except OwnerError PUnit :=
  match expectedVersion with
  | none => .ok ⟨⟩
  | some expected =>
      ensure ((action.version : Int) = expected)
        (OwnerError.versionConflict action.actionKey expected action.version)

/-- The command has not left the journey. -/
def neverDispatched (action : JrOwnerAction) (commands : List JrOwnerCommandOutbox) : Bool :=
  action.state = .pending && commands.all fun row => row.state = .pending ∨ row.state = .failed

def cancelAtHome (now : Instant) (store : JourneyStore) (action : JrOwnerAction) :
    JourneyStore × JrOwnerAction :=
  let cancel := fun row : JrOwnerAction =>
    { row with state := .cancelled, cancelRequestedAt := some now, version := row.version + 1 }
  let withdrawn := store.updateCommands
    (fun row => row.actionId = action.id ∧ (row.state = .pending ∨ row.state = .failed))
    fun row => { row with state := .cancelled }
  (withdrawn.updateAction action.id cancel, cancel action)

def stageCancellation (contract : OwnerContract) (now : Instant) (store : JourneyStore)
    (action : JrOwnerAction) (input : RequestOwnerCancellationInput)
    (original : OwnerCommandPayload) (intent : OwnerCommandIntent) : JourneyStore × JrOwnerAction :=
  let commandId := cancelCommandIdFor contract input.actionKey input.cancelRequestKey
  let payload := withOwnerRequestHash contract { original with commandId := commandId, intent := intent }
  let request := fun row : JrOwnerAction =>
    { row with
      state := .cancelRequested
      cancelRequestedAt := some now
      attempts := 0
      version := row.version + 1 }
  let requested := store.updateAction action.id request
  (requested.upsertCommand
    (newCommand now action commandId payload.requestHash input.correlationId (some payload)),
    request action)

def requestCancellation (contract : OwnerContract) (now : Instant) (store : JourneyStore)
    (input : RequestOwnerCancellationInput) : Except OwnerError (JourneyStore × JrOwnerAction) := do
  let action ← orFail (store.findAction input.actionKey) (OwnerError.actionNotFound input.actionKey)
  expectVersion action input.expectedVersion
  if action.state ∉ cancellableActionStates then .ok (store, action)
  else if neverDispatched action (commandsOf store action) = true then
    .ok (cancelAtHome now store action)
  else
    match cancelIntentByKind action.kind with
    | none => .ok (store, action)
    | some intentOf => do
        let original ← orFail (originalPayload (commandsOf store action))
          (OwnerError.cancellationUnavailable input.actionKey)
        let cancel := ⟨original.actionKey, input.reasonCode.getD "JOURNEY_CANCELLED"⟩
        .ok (stageCancellation contract now store action input original
          (intentOf cancel input.supersedingOutcome))

def replayCommands (now : Instant) (store : JourneyStore) (actionKey : String)
    (expectedVersion : Int) : Except OwnerError (JourneyStore × JrOwnerAction × List String) := do
  let action ← orFail (store.findAction actionKey) (OwnerError.actionNotFound actionKey)
  expectVersion action (some expectedVersion)
  let replayed := fun row : JrOwnerCommandOutbox =>
    decide (row.actionKey = actionKey ∧ (row.state = .sent ∨ row.state = .failed))
  let commandIds := (store.commands.filter replayed).map JrOwnerCommandOutbox.commandId
  if action.state ∉ openActionStates ∨ commandIds = [] then .ok (store, action, [])
  else
    let requeued := store.updateCommands replayed fun row =>
      { row with state := .pending, availableAt := now, sentAt := none }
    let bump := fun row : JrOwnerAction => { row with version := row.version + 1 }
    .ok (requeued.updateAction action.id bump, bump action, commandIds)

/-- Nothing moves when the version has moved on or the action is in another state. -/
def countAttempt (store : JourneyStore) (actionKey : String) (expectedVersion : Int)
    (states : List JrOwnerActionState) (rewrite : JrOwnerAction → JrOwnerAction) :
    Option (JourneyStore × JrOwnerAction) :=
  match store.findAction actionKey with
  | some action =>
      if (action.version : Int) = expectedVersion ∧ action.state ∈ states then
        let count := fun row : JrOwnerAction =>
          { rewrite row with attempts := row.attempts + 1, version := row.version + 1 }
        some (store.updateAction action.id count, count action)
      else none
  | none => none

def markAckUnknown (store : JourneyStore) (actionKey : String) (expectedVersion : Int) :
    Option (JourneyStore × JrOwnerAction) :=
  countAttempt store actionKey expectedVersion [.dispatched, .ackUnknown] fun row =>
    { row with state := .ackUnknown }

/-- The attempt is counted for the cancel command that was staged last, whose hash is returned. -/
def markCancelUnconfirmed (store : JourneyStore) (actionKey : String) (expectedVersion : Int) :
    Except OwnerError (Option (JourneyStore × JrOwnerAction × String)) :=
  match countAttempt store actionKey expectedVersion [.cancelRequested] id with
  | none => .ok none
  | some (after, action) => do
      let cancel ← orFail
        ((commandsOf after action).reverse.find? fun row => fromCancelCommand row.payload)
        (OwnerError.cancellationUnavailable actionKey)
      .ok (some (after, action, cancel.requestHash))

structure ApplyOwnerResultInput where
  commandId : String
  actionKey : String
  resultKind : JrOwnerResultKind
  resultHash : String
  correlationId : String
  ownerAggregateRef : Option String
  ownerAggregateVersion : Option Int

inductive ApplyOwnerResultOutcome where
  | applied
  | duplicate
  | conflict
  | terminalIgnored

structure ApplyOwnerResultResult where
  outcome : ApplyOwnerResultOutcome
  action : JrOwnerAction

/-- A reference that is given, the empty text being none. -/
def ApplyOwnerResultInput.givenRef (input : ApplyOwnerResultInput) : Option String :=
  input.ownerAggregateRef.filter fun text => text ≠ ""

/-- The result comes from a command that cancels or supersedes. -/
def cancelsAction (store : JourneyStore) (commandId : String) : Bool :=
  fromCancelCommand ((store.findCommand commandId).bind JrOwnerCommandOutbox.payload)

def resultRow (input : ApplyOwnerResultInput) (outcome : JrOwnerResultOutcome) :
    JrOwnerResultInbox where
  commandId := input.commandId
  actionKey := input.actionKey
  resultKind := input.resultKind
  ownerAggregateRef := input.givenRef
  ownerAggregateVersion := input.ownerAggregateVersion
  resultHash := input.resultHash
  outcome := outcome
  correlationId := input.correlationId

def takeResult (now : Instant) (input : ApplyOwnerResultInput) (fromCancel : Bool)
    (row : JrOwnerAction) : JrOwnerAction :=
  { row with
    state := nextStateForResult row.state input.resultKind fromCancel
    ownerAggregateRef := input.givenRef.or row.ownerAggregateRef
    ownerAggregateVersion := input.ownerAggregateVersion.or row.ownerAggregateVersion
    acknowledgedAt := if input.resultKind = .acknowledged then some now else row.acknowledgedAt
    version := row.version + 1 }

/-- What the journey goes on from when the inbox holds the result already. -/
def storedContinuation (action : JrOwnerAction) (existing : JrOwnerResultInbox) :
    ContinueOwnerResultInput where
  commandId := existing.commandId
  resultKind := existing.resultKind
  resultHash := existing.resultHash
  correlationId := existing.correlationId
  action := action
  effectiveState := action.state

def newContinuation (updated : JrOwnerAction) (input : ApplyOwnerResultInput) :
    ContinueOwnerResultInput where
  commandId := input.commandId
  resultKind := input.resultKind
  resultHash := input.resultHash
  correlationId := input.correlationId
  action := updated
  effectiveState := updated.state

/-- A result that the inbox holds already only goes on from where it stopped. -/
def replayResult (now : Instant) (store : JourneyStore) (action : JrOwnerAction)
    (existing : JrOwnerResultInbox) (input : ApplyOwnerResultInput) :
    Except OwnerError (JourneyStore × ApplyOwnerResultResult) :=
  if existing.resultHash ≠ input.resultHash then .ok (store, ⟨.conflict, action⟩)
  else do
    let (after, _) ← continueOwnerResultInTransaction now store (storedContinuation action existing)
    .ok (after, ⟨.duplicate, action⟩)

def persistResult (now : Instant) (store : JourneyStore) (action : JrOwnerAction)
    (input : ApplyOwnerResultInput) : JourneyStore × JrOwnerAction :=
  if action.state ∈ openActionStates then
    let take := takeResult now input (cancelsAction store input.commandId)
    let taken := store.updateAction action.id take
    ({ taken with results := taken.results ++ [resultRow input .applied] }, take action)
  else ({ store with results := store.results ++ [resultRow input .duplicate] }, action)

/-- The lock of the action is held, so no other row of its command can have come in between. -/
def applyNewResult (now : Instant) (store : JourneyStore) (action : JrOwnerAction)
    (input : ApplyOwnerResultInput) : Except OwnerError (JourneyStore × ApplyOwnerResultResult) := do
  let persisted := persistResult now store action input
  let (after, _) ← continueOwnerResultInTransaction now persisted.1
    (newContinuation persisted.2 input)
  .ok (after, ⟨if action.state ∈ openActionStates then .applied else .terminalIgnored, persisted.2⟩)

def applyResultInTransaction (now : Instant) (store : JourneyStore) (input : ApplyOwnerResultInput) :
    Except OwnerError (JourneyStore × ApplyOwnerResultResult) := do
  let action ← orFail (store.findAction input.actionKey) (OwnerError.actionNotFound input.actionKey)
  match store.findResult input.commandId with
  | some existing => replayResult now store action existing input
  | none => applyNewResult now store action input

end DContact.Journey

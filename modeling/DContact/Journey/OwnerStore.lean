import DContact.Governance.ExceptionLifecycle

/-!
# The tables of owner actions

An owner action is an effect that a journey asks of Cases or of the Dialer. Its commands
wait in an outbox, the results that the owner reports are kept in an inbox, one for each
command, and a ledger with one row for each action tells how the journey went on.
-/

namespace DContact.Journey

open Lib
open Governance (Instant)

inductive JrOwnerActionKind where
  | ensureCase
  | admitCampaignTarget
  | scheduleCallback
  deriving DecidableEq

def JrOwnerActionKind.stepType : JrOwnerActionKind → String
  | .ensureCase => "ENSURE_CASE"
  | .admitCampaignTarget => "ADMIT_CAMPAIGN_TARGET"
  | .scheduleCallback => "SCHEDULE_CALLBACK"

inductive OwnerCommandType where
  | ensureCase
  | admitCampaignTarget
  | scheduleCallback
  | cancelCampaignTarget
  | cancelCallback
  | supersedeCampaignTarget
  | supersedeCallback
  deriving DecidableEq

structure OutcomeReference where
  outcomeType : String
  outcomeId : String
  outcomeVersion : Int
  deriving DecidableEq

structure CancelOwnerActionIntent where
  originalActionKey : String
  reasonCode : String
  deriving DecidableEq

inductive OwnerCommandIntent where
  | ensureCase (caseTypePolicyRef routingPolicyRef : String)
  | admitCampaignTarget (campaignId : String)
  | scheduleCallback (requestedFor queueId : String) (agentId : Option String)
  | cancelCampaignTarget (cancel : CancelOwnerActionIntent)
  | cancelCallback (cancel : CancelOwnerActionIntent)
  | supersedeCampaignTarget (cancel : CancelOwnerActionIntent) (supersedingOutcome : OutcomeReference)
  | supersedeCallback (cancel : CancelOwnerActionIntent) (supersedingOutcome : OutcomeReference)
  deriving DecidableEq

def OwnerCommandIntent.commandType : OwnerCommandIntent → OwnerCommandType
  | .ensureCase .. => .ensureCase
  | .admitCampaignTarget .. => .admitCampaignTarget
  | .scheduleCallback .. => .scheduleCallback
  | .cancelCampaignTarget .. => .cancelCampaignTarget
  | .cancelCallback .. => .cancelCallback
  | .supersedeCampaignTarget .. => .supersedeCampaignTarget
  | .supersedeCallback .. => .supersedeCallback

/-- A command as the contract accepts it. -/
structure OwnerCommandPayload where
  commandId : String
  actionKey : String
  requestHash : String
  journeyId : String
  journeyVersion : Nat
  enrollmentId : String
  stepId : String
  sourceOutcome : OutcomeReference
  interactionId : String
  contactId : String
  sourceOwnerTeamId : String
  targetOwnerTeamId : String
  expectedOwnerVersion : Option Nat
  intent : OwnerCommandIntent
  deriving DecidableEq

/-- `CANCEL_COMMAND_TYPES`. -/
def cancelCommandTypes : List OwnerCommandType :=
  [.cancelCampaignTarget, .cancelCallback, .supersedeCampaignTarget, .supersedeCallback]

/-- The command cancels or supersedes the positive effect of its action. -/
def fromCancelCommand (payload : Option OwnerCommandPayload) : Bool :=
  payload.any fun payload => payload.intent.commandType ∈ cancelCommandTypes

inductive JrOwnerActionState where
  | pending
  | dispatched
  | acknowledged
  | rejected
  | ackUnknown
  | cancelRequested
  | cancelled
  | superseded
  | tooLate
  | reconciling
  deriving DecidableEq

inductive JrOwnerCommandState where
  | pending
  | processing
  | sent
  | failed
  | cancelled
  deriving DecidableEq

inductive JrOwnerResultKind where
  | acknowledged
  | rejected
  | ackUnknown
  | cancelled
  | superseded
  | tooLate
  | reconciling
  deriving DecidableEq

inductive JrOwnerResultOutcome where
  | applied
  | duplicate
  | conflict

/-- The cursor that an action was created at: `stepId` and `stepSequence` are given
together, and the sequence is never negative. -/
structure StepBinding where
  stepId : String
  stepSequence : Nat
  deriving DecidableEq

structure JrOwnerAction where
  id : String
  actionKey : String
  enrollmentId : String
  bound : Option StepBinding
  outcomeReceiptId : Option String
  kind : JrOwnerActionKind
  requestHash : String
  state : JrOwnerActionState
  ownerAggregateRef : Option String
  ownerAggregateVersion : Option Int
  version : Nat
  attempts : Nat
  dispatchedAt : Option Instant
  acknowledgedAt : Option Instant
  cancelRequestedAt : Option Instant
  correlationId : String

structure JrOwnerCommandOutbox where
  commandId : String
  actionId : String
  actionKey : String
  kind : JrOwnerActionKind
  requestHash : String
  payload : Option OwnerCommandPayload
  correlationId : String
  state : JrOwnerCommandState
  attempts : Nat
  availableAt : Instant
  sentAt : Option Instant

structure JrOwnerResultInbox where
  commandId : String
  actionKey : String
  resultKind : JrOwnerResultKind
  ownerAggregateRef : Option String
  ownerAggregateVersion : Option Int
  resultHash : String
  outcome : JrOwnerResultOutcome
  correlationId : String

inductive JrOwnerContinuationOutcome where
  | advanced (nextStepId : String)
  | terminalIgnored

structure JrOwnerContinuation where
  actionId : String
  actionKey : String
  commandId : String
  enrollmentId : String
  fromStep : StepBinding
  resultKind : JrOwnerResultKind
  outcome : JrOwnerContinuationOutcome
  resultHash : String
  correlationId : String

inductive JrRunState where
  | running
  | waiting
  | terminal
  deriving DecidableEq

structure JrEnrollment where
  id : String
  journeyId : Option String
  journeyVersion : Nat
  runState : JrRunState
  currentStepId : Option String
  stepSequence : Nat
  waitUntil : Option Instant
  claimedBy : Option String
  claimExpiresAt : Option Instant
  deriving DecidableEq

inductive JrStepRunState where
  | completed
  | awaitingSend
  deriving DecidableEq

structure JrStepRun where
  enrollmentId : String
  stepSequence : Nat
  stepId : String
  stepType : String
  state : JrStepRunState
  nextStepId : Option String
  correlationId : String
  causationId : Option String
  startedAt : Instant

structure JourneyActionIntentStep where
  id : String
  type : JrOwnerActionKind
  next : String
  onReject : String

inductive JourneyGraphStep where
  | send (id : String)
  | wait (id : String)
  | branch (id : String)
  | exit (id : String)
  | actionIntent (step : JourneyActionIntentStep)

def JourneyGraphStep.id : JourneyGraphStep → String
  | .send id | .wait id | .branch id | .exit id => id
  | .actionIntent step => step.id

inductive JrJourneyDefinitionStatus where
  | draft
  | published
  deriving DecidableEq

structure JrJourneyDefinition where
  journeyId : String
  version : Nat
  status : JrJourneyDefinitionStatus
  steps : List JourneyGraphStep

/-- The rows of one tenant. -/
structure JourneyStore where
  actions : List JrOwnerAction
  commands : List JrOwnerCommandOutbox
  results : List JrOwnerResultInbox
  continuations : List JrOwnerContinuation
  enrollments : List JrEnrollment
  definitions : List JrJourneyDefinition
  stepRuns : List JrStepRun

namespace JourneyStore

def findAction (store : JourneyStore) (actionKey : String) : Option JrOwnerAction :=
  Table.lookup JrOwnerAction.actionKey actionKey store.actions

def findCommand (store : JourneyStore) (commandId : String) : Option JrOwnerCommandOutbox :=
  Table.lookup JrOwnerCommandOutbox.commandId commandId store.commands

def findResult (store : JourneyStore) (commandId : String) : Option JrOwnerResultInbox :=
  Table.lookup JrOwnerResultInbox.commandId commandId store.results

theorem findResult_commandId {store : JourneyStore} {commandId : String} {row : JrOwnerResultInbox}
    (found : store.findResult commandId = some row) : row.commandId = commandId :=
  Table.lookup_key found

def findContinuation (store : JourneyStore) (actionId : String) : Option JrOwnerContinuation :=
  Table.lookup JrOwnerContinuation.actionId actionId store.continuations

def findEnrollment (store : JourneyStore) (enrollmentId : String) : Option JrEnrollment :=
  Table.lookup JrEnrollment.id enrollmentId store.enrollments

def findDefinition (store : JourneyStore) (journeyId : String) (version : Nat) :
    Option JrJourneyDefinition :=
  store.definitions.find? fun row => row.journeyId = journeyId ∧ row.version = version

def updateActions (store : JourneyStore) (selected : JrOwnerAction → Bool)
    (rewrite : JrOwnerAction → JrOwnerAction) : JourneyStore :=
  { store with
    actions := store.actions.map fun row => if selected row = true then rewrite row else row }

def updateAction (store : JourneyStore) (id : String) (rewrite : JrOwnerAction → JrOwnerAction) :
    JourneyStore :=
  store.updateActions (fun row => row.id = id) rewrite

def updateCommands (store : JourneyStore) (selected : JrOwnerCommandOutbox → Bool)
    (rewrite : JrOwnerCommandOutbox → JrOwnerCommandOutbox) : JourneyStore :=
  { store with
    commands := store.commands.map fun row => if selected row = true then rewrite row else row }

def upsertCommand (store : JourneyStore) (row : JrOwnerCommandOutbox) : JourneyStore :=
  if (store.findCommand row.commandId).isSome then store
  else { store with commands := store.commands ++ [row] }

end JourneyStore

inductive OwnerError where
  | stepBindingInvalid
  | hashConflict (actionKey : String)
  | actionNotFound (actionKey : String)
  | versionConflict (actionKey : String) (expectedVersion : Int) (actualVersion : Nat)
  | cancellationUnavailable (actionKey : String)
  | continuationBinding (actionKey detail : String)
  | constraintViolation (name : String)
  | recordNotFound

end DContact.Journey

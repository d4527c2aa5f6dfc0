import DContact.Journey.OwnerStore

/-!
# Journey definitions

A published version is a trigger, a graph of steps, a goal and exit rules. Every step names
the steps that may follow it. The planner says what a step does to a cursor that stands on it,
and is the only place where the transitions of the graph are given a meaning.
-/

namespace DContact.Journey.Definition

open Lib
open Governance (Instant)

inductive InteractionOutcomeType where
  | interactionAbandoned
  | interactionDispositionRecorded
  | feedbackDetractorRecorded
  deriving DecidableEq

def InteractionOutcomeType.name : InteractionOutcomeType → String
  | .interactionAbandoned => "INTERACTION_ABANDONED"
  | .interactionDispositionRecorded => "INTERACTION_DISPOSITION_RECORDED"
  | .feedbackDetractorRecorded => "FEEDBACK_DETRACTOR_RECORDED"

/-- The coalescing policies are fixed: one logical outcome, and one entry of a segment. -/
inductive JourneyTrigger where
  | event (eventType : String)
  | schedule (cron timezone : String)
  | interactionOutcome (outcomeType : InteractionOutcomeType) (outcomeCode : Option String)
  | segmentEntry (segmentId : String)
  deriving DecidableEq

structure JourneyGoal where
  eventType : String

inductive JourneyExitRule where
  | goal
  | event (eventType : String)
  | higherPriorityJourney

inductive ContactChannel where
  | voice
  | webchat
  | line
  | facebook
  | whatsapp
  | email

/-- What an action step asks of its owner. -/
inductive ActionIntent where
  | ensureCase (caseTypeId routingIntentRef : String)
  | admitCampaignTarget (campaignId : String)
  | scheduleCallback (requestedInSeconds : Rat) (queueId : String) (agentId : Option String)

/-- `ACTION_INTENT_KIND_BY_STEP_TYPE`. -/
def ActionIntent.kind : ActionIntent → JrOwnerActionKind
  | .ensureCase .. => .ensureCase
  | .admitCampaignTarget .. => .admitCampaignTarget
  | .scheduleCallback .. => .scheduleCallback

structure JourneyActionIntentStep where
  id : String
  intent : ActionIntent
  targetOwnerTeamId : String
  next : String
  onReject : String

/-- The expression of a branch is the document that the evaluator reads. -/
inductive JourneyGraphStep where
  | send (id : String) (channel : ContactChannel) (contentRef next : String)
  | wait (id : String) (waitSeconds : Rat) (next : String)
  | branch (id : String) (expression : Json) (whenTrue whenFalse : String)
  | exit (id reason : String)
  | actionIntent (step : JourneyActionIntentStep)

def JourneyGraphStep.id : JourneyGraphStep → String
  | .send id .. | .wait id .. | .branch id .. | .exit id _ => id
  | .actionIntent step => step.id

def JourneyGraphStep.type : JourneyGraphStep → String
  | .send .. => "SEND"
  | .wait .. => "WAIT"
  | .branch .. => "BRANCH"
  | .exit .. => "EXIT"
  | .actionIntent step => step.intent.kind.stepType

def JourneyGraphStep.ownerView : JourneyGraphStep → Journey.JourneyGraphStep
  | .send id .. => .send id
  | .wait id .. => .wait id
  | .branch id .. => .branch id
  | .exit id _ => .exit id
  | .actionIntent step =>
      .actionIntent ⟨step.id, step.intent.kind, step.next, step.onReject⟩

structure JourneyGraph where
  entryStepId : String
  steps : List JourneyGraphStep

structure JourneyDefinitionContent where
  name : String
  ownerTeamId : String
  purpose : String
  senderIdentityId : String
  trigger : JourneyTrigger
  graph : JourneyGraph
  goal : JourneyGoal
  exitRules : List JourneyExitRule
  maxDurationDays : Nat

structure JourneyVersionSnapshot extends JourneyDefinitionContent where
  journeyId : String
  version : Nat
  status : JrJourneyDefinitionStatus

/-- `stepOf` and `entryStep` take the first step with the identifier. -/
def JourneyGraph.stepOf (graph : JourneyGraph) (stepId : String) : Option JourneyGraphStep :=
  graph.steps.find? fun step => step.id = stepId

def matchesOutcomeTrigger (snapshot : JourneyVersionSnapshot) (outcomeType : String)
    (outcomeCode : Option String) : Bool :=
  match snapshot.trigger with
  | .interactionOutcome type code => type.name = outcomeType && (code = none || code = outcomeCode)
  | _ => false

inductive JourneyStepPlan where
  | exit
  | wait (nextStepId : String) (wakeAt : Instant)
  | branch (nextStepId : String) (branchResult : Bool)
  | awaitSend (nextStepId : String)
  | awaitOwner (acceptedStepId rejectedStepId : String)
  deriving DecidableEq

/-- The answer of the evaluator to an expression, if it is a truth value. -/
abbrev ExpressionEvaluator := Json → Option Bool

def secondsAfter (now : Instant) (seconds : Rat) : Instant := now + (seconds * 1000).floor

/-- A branch that cannot be evaluated fails closed. -/
def planJourneyStep (now : Instant) (evaluator : ExpressionEvaluator) :
    JourneyGraphStep → JourneyStepPlan
  | .exit .. => .exit
  | .wait _ waitSeconds next => .wait next (secondsAfter now waitSeconds)
  | .branch _ expression whenTrue whenFalse =>
      let branchResult := evaluator expression = some true
      .branch (if branchResult then whenTrue else whenFalse) branchResult
  | .send _ _ _ next => .awaitSend next
  | .actionIntent step => .awaitOwner step.next step.onReject

inductive OwnerResultOutcome where
  | accepted
  | rejected

def ownerResultNextStep (acceptedStepId rejectedStepId : String) : OwnerResultOutcome → String
  | .accepted => acceptedStepId
  | .rejected => rejectedStepId

end DContact.Journey.Definition

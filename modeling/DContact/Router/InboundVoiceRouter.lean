import DContact.Lib.Text
import DContact.Router.RouterRequests

/-!
# The inbound voice router

The operations of `InboundVoiceRouter` on one tenant, each as one transaction. The events that are
published after a commit change no table and are left out.
-/

namespace DContact.Router

open Lib
open Governance (Instant)

inductive TelephonyEventType where
  | created
  | answered
  | hangup
  | input
  | other (type : String)

inductive IvrInputMode where
  | voice
  | dtmf
  | timeout
  deriving DecidableEq

structure TelephonyCallEvent where
  type : TelephonyEventType
  orderingKey : String
  callUuid : String
  destination : String
  inputMode : Option IvrInputMode
  inputValue : Option String

structure CompleteWrapUpCommand where
  interactionId : String
  agentId : String
  code : String

structure DeclineOfferCommand where
  interactionId : String
  agentId : String

structure InboundVoiceRoutingResult where
  interactionId : String
  status : InteractionState
  agentId : Option String

structure DueOfferOutcome where
  interactionId : String
  queueId : Option String
  agentId : Option String
  timedOut : Bool
  requeued : Bool
  abandoned : Bool
  reason : Option String

/-- What is left to do after the transaction of `processDue`: the events of its outcomes, and the
time-outs that it handles as inputs. -/
structure DueWork where
  outcomes : List DueOfferOutcome
  ivrTimeouts : List TelephonyCallEvent

structure QueuePolicy where
  offerTimeoutSec : Int
  offerTimeoutAction : OfferTimeoutAction
  offerCooldownSec : Int
  maxWaitSec : Option Int
  maxWaitAction : MaxWaitAction
  routingStrategy : RoutingStrategy

def resolveQueuePolicy (host : RouterHost) (queue : Queue) : QueuePolicy where
  offerTimeoutSec := queue.offerTimeoutSec.getD host.defaultOfferTimeoutSec
  offerTimeoutAction := queue.offerTimeoutAction.getD host.defaultOfferTimeoutAction
  offerCooldownSec := queue.offerCooldownSec.getD host.defaultOfferCooldownSec
  maxWaitSec := queue.maxWaitSec.orElse fun _ => host.defaultMaxWaitSec
  maxWaitAction := queue.maxWaitAction.getD host.defaultMaxWaitAction
  routingStrategy := queue.routingStrategy

/-- An error that is thrown in a transaction rolls it back. -/
def abandon {α : Type} (error : RouterError) : RouterProgram α := do
  ask .rollback
  .throw error

def orAbandon {α : Type} (error : RouterError) : Option α → RouterProgram α
  | none => abandon error
  | some value => pure value

def readClock : RouterProgram Instant := ask .now

/-- Whether the statement has changed the call. -/
def change (write : InteractionWrite) : RouterProgram Bool := ask (.update write)

def ivrConfiguration (value : Option IvrConfiguration) : RouterProgram IvrConfiguration :=
  match value with
  | none => abandon .missingIvrConfiguration
  | some configuration =>
      if configuration.inputTimeoutSec < 1 then abandon .invalidIvrConfiguration
      else pure configuration

def collapseBlanks : List Char → List Char
  | [] => []
  | [character] => [if Text.isSpace character then ' ' else character]
  | first :: second :: rest =>
      if Text.isSpace first && Text.isSpace second then collapseBlanks (second :: rest)
      else (if Text.isSpace first then ' ' else first) :: collapseBlanks (second :: rest)

def normalizedVoiceInput (host : RouterHost) (value : String) : String :=
  String.ofList (collapseBlanks (host.lowerCase (Text.trim value)).toList)

def routeOf (routes : List (String × String)) (key : String) : Option String :=
  (routes.find? fun route => route.1 == key).map Prod.snd

/-- A date so many seconds from now: `ivrInputExpiresAt`, `offerExpiresAt` and `requeueAt`. -/
def secondsFromNow (seconds : Int) : RouterProgram Instant := do
  let now ← readClock
  pure (now + seconds * 1000)

def committing {α : Type} (value : α) : RouterProgram α := do
  ask .commit
  pure value

/-- `handle` and `declineOffer` refuse the calls of managed queues. -/
def requireLegacy (host : RouterHost) (row : Option Interaction) : RouterProgram Unit :=
  if row.any host.inManagedQueue then abandon .voiceConfigV1Required else pure ()

def resultFromInteraction (interaction : Interaction) : InboundVoiceRoutingResult :=
  ⟨interaction.id, interaction.state, interaction.agentId⟩

/-- The statement whose rows are locked one after another, those locked by others being skipped. -/
def findAvailableAgent (interactionId queueId : String) (strategy : RoutingStrategy) :
    RouterProgram (Option AvailableAgent) := do
  let candidates ← ask (.scanAgents queueId strategy)
  ask (.lockAgent interactionId candidates)

def offerTo (agent : AvailableAgent) (policy : QueuePolicy) : RouterProgram Offer := do
  let assignedAt ← readClock
  let offerExpiresAt ← secondsFromNow policy.offerTimeoutSec
  pure ⟨agent.id, assignedAt, offerExpiresAt⟩

def requireLegacyDestination (host : RouterHost) (event : TelephonyCallEvent) :
    RouterProgram Unit :=
  if (host.voiceDestination? event.destination).any fun destination =>
      (host.queue? destination.queueId).any Queue.managed then
    abandon .voiceConfigV1Required
  else pure ()

def activeDestination? (host : RouterHost) (destination : String) :
    Option (VoiceDestination × Queue) := do
  let row ← host.voiceDestination? destination
  let queue ← host.queue? row.queueId
  if row.isActive && queue.isActive then some (row, queue) else none

def attemptCreate (draft : CallDraft) : RouterProgram (Except RouterError Interaction) :=
  Program.attempt (RouterRequest.createCall draft)

/-- The call that a concurrent transaction has made is read in a transaction of its own. -/
def readConcurrent (callUuid : String) : RouterProgram InboundVoiceRoutingResult := do
  ask .begin_
  let found ← ask (.findCall callUuid)
  let concurrent ← orAbandon .notFound found
  committing (resultFromInteraction concurrent)

def offerCreated (interaction : Interaction) (queueId : String) (policy : QueuePolicy) :
    RouterProgram InboundVoiceRoutingResult := do
  let available ← findAvailableAgent interaction.id queueId policy.routingStrategy
  match available with
  | none => committing ⟨interaction.id, .queued, none⟩
  | some agent =>
      ask (.logState agent.id .reserved (.interaction interaction.id) none)
      let offer ← offerTo agent policy
      let _ ← change (.assignCreated interaction.id offer)
      committing ⟨interaction.id, .assigned, some agent.id⟩

/-- A new call, and what becomes of it. -/
def createCall (draft : CallDraft)
    (proceed : Interaction → RouterProgram InboundVoiceRoutingResult) :
    RouterProgram InboundVoiceRoutingResult := do
  let created ← attemptCreate draft
  match created with
  | .ok interaction => proceed interaction
  | .error .duplicateInteraction => readConcurrent draft.externalId
  | .error failure => .throw failure

def handleCreated (host : RouterHost) (event : TelephonyCallEvent) :
    RouterProgram InboundVoiceRoutingResult := do
  if event.orderingKey ≠ event.callUuid then abandon .orderingKey
  else
    let existing ← ask (.findCall event.callUuid)
    match existing with
    | some existing => committing (resultFromInteraction existing)
    | none =>
        let (destination, queue) ← orAbandon .noDestination
          (activeDestination? host event.destination)
        match destination.entryMode with
        | .ivr =>
            let configuration ← ivrConfiguration destination.ivrConfig
            let expiresAt ← secondsFromNow configuration.inputTimeoutSec
            createCall ⟨event.callUuid, none, some destination.id, some expiresAt⟩
              fun interaction => committing ⟨interaction.id, .queued, none⟩
        | .directQueue =>
            createCall ⟨event.callUuid, some destination.queueId, none, none⟩
              fun interaction =>
                offerCreated interaction destination.queueId (resolveQueuePolicy host queue)

def chosenRoute (host : RouterHost) (configuration : IvrConfiguration) (stage : IvrInputStage)
    (event : TelephonyCallEvent) : Option String :=
  match event.inputValue with
  | none => none
  | some value =>
      if value = "" then none
      else
        match stage, event.inputMode with
        | .voice, some .voice => routeOf configuration.voiceRoutes (normalizedVoiceInput host value)
        | .voice, some .dtmf | .dtmf, some .dtmf => routeOf configuration.dtmfRoutes (Text.trim value)
        | _, _ => none

/-- A time-out that comes before the input expires is ignored. -/
def ignoresTimeout (interaction : Interaction) (event : TelephonyCallEvent) : RouterProgram Bool :=
  if event.inputMode = some .timeout then
    match interaction.ivrInputExpiresAt with
    | none => pure true
    | some expiresAt => do
        let now ← readClock
        pure (decide (expiresAt > now))
  else pure false

/-- Ask the caller once more. -/
def collectAgain (interaction : Interaction) (configuration : IvrConfiguration)
    (stage : IvrInputStage) (attempts : Int) : RouterProgram InboundVoiceRoutingResult := do
  let expiresAt ← secondsFromNow configuration.inputTimeoutSec
  let _ ← change (.collect interaction.id stage attempts expiresAt)
  committing ⟨interaction.id, .queued, none⟩

/-- The call is updated by its identifier alone, and read again. -/
def resolved (id queueId : String) (attempts : Int) (offer : Option Offer) :
    RouterProgram Interaction := do
  let _ ← change (.resolve id queueId attempts offer)
  let found ← ask (.findInteraction id)
  orAbandon .notFound found

def resolveIvr (interaction : Interaction) (policy : QueuePolicy) (queueId : String)
    (attempts : Int) : RouterProgram InboundVoiceRoutingResult := do
  let available ← findAvailableAgent interaction.id queueId policy.routingStrategy
  match available with
  | none =>
      let row ← resolved interaction.id queueId attempts none
      committing ⟨row.id, row.state, none⟩
  | some agent =>
      let offer ← offerTo agent policy
      let row ← resolved interaction.id queueId attempts (some offer)
      ask (.logState agent.id .reserved (.interaction row.id) none)
      committing ⟨row.id, row.state, some agent.id⟩

def handleIvrInput (host : RouterHost) (event : TelephonyCallEvent) :
    RouterProgram InboundVoiceRoutingResult := do
  if event.orderingKey ≠ event.callUuid then abandon .orderingKey
  else
    let found ← ask (.findCall event.callUuid)
    let interaction ← orAbandon .notFound found
    match interaction.state, interaction.ivrDestinationId, interaction.ivrStage with
    | .queued, some destinationId, some stage =>
        let ignored ← ignoresTimeout interaction event
        if ignored then committing (resultFromInteraction interaction)
        else
          let destination ← orAbandon .notFound (host.destinations.find? fun row =>
            row.id == destinationId && row.entryMode == .ivr)
          let queue ← orAbandon .notFound (host.queue? destination.queueId)
          let configuration ← ivrConfiguration destination.ivrConfig
          let route := chosenRoute host configuration stage event
          let routed := route.any (· ≠ "")
          let attempts := if routed then interaction.ivrAttempts else interaction.ivrAttempts + 1
          if !routed && stage == .voice && decide (attempts < 2) then
            collectAgain interaction configuration .dtmf attempts
          else
            match route.orElse fun _ =>
                if attempts ≥ 2 then some destination.queueId else none with
            | none => collectAgain interaction configuration .voice attempts
            | some queueId =>
                if queueId = "" then collectAgain interaction configuration .voice attempts
                else resolveIvr interaction (resolveQueuePolicy host queue) queueId attempts
    | _, _, _ => committing (resultFromInteraction interaction)

def handleAnswered (event : TelephonyCallEvent) : RouterProgram InboundVoiceRoutingResult := do
  let found ← ask (.findCall event.callUuid)
  let existing ← orAbandon .notFound found
  match existing.state, existing.agentId with
  | .assigned, some agentId =>
      let answeredAt ← readClock
      let claimed ← change (.answer existing answeredAt)
      if claimed then
        ask (.logState agentId .busy (.interaction existing.id) none)
        committing ⟨existing.id, .active, some agentId⟩
      else
        let found ← ask (.findInteraction existing.id)
        let current ← orAbandon .notFound found
        committing (resultFromInteraction current)
  | _, _ => committing (resultFromInteraction existing)

def release (agentId : Option String) (interactionId : String) : RouterProgram Unit :=
  match agentId with
  | none => pure ()
  | some agentId => ask (.logState agentId .available (.interaction interactionId) none)

def hangupWaiting (existing : Interaction) : RouterProgram InboundVoiceRoutingResult := do
  let endedAt ← readClock
  let ended ← change (.hangupWaiting existing endedAt)
  if ended then
    release existing.agentId existing.id
    committing ⟨existing.id, .abandoned, existing.agentId⟩
  else committing (resultFromInteraction existing)

def handleHangup (event : TelephonyCallEvent) : RouterProgram InboundVoiceRoutingResult := do
  let found ← ask (.findCall event.callUuid)
  let existing ← orAbandon .notFound found
  match existing.state with
  | .wrapup | .completed | .abandoned => committing (resultFromInteraction existing)
  | .queued | .assigned => hangupWaiting existing
  | .active =>
      match existing.agentId with
      | none => abandon .hangupActive
      | some agentId =>
          let endedAt ← readClock
          let ended ← change (.hangupActive existing endedAt)
          if ended then
            ask (.logState agentId .acw (.interaction existing.id) none)
            committing ⟨existing.id, .wrapup, some agentId⟩
          else committing (resultFromInteraction existing)

def handle (host : RouterHost) (event : TelephonyCallEvent) :
    RouterProgram InboundVoiceRoutingResult := do
  ask .begin_
  let managed ← ask (.findCall event.callUuid)
  requireLegacy host managed
  match event.type with
  | .created =>
      requireLegacyDestination host event
      handleCreated host event
  | .answered => handleAnswered event
  | .hangup => handleHangup event
  | .input => handleIvrInput host event
  | .other type => abandon (.unhandledEventType type)

def coolDown (agentId interactionId : String) (policy : QueuePolicy) : RouterProgram Unit := do
  let endedAt ← secondsFromNow policy.offerCooldownSec
  ask (.logState agentId .break_ (.cooldown interactionId) (some endedAt))

def offerAgain (due : Interaction) (queueId : String) (policy : QueuePolicy) (now : Instant) :
    RouterProgram (Option DueOfferOutcome) := do
  let available ← findAvailableAgent due.id queueId policy.routingStrategy
  match available with
  | none => pure (some ⟨due.id, some queueId, none, true, true, false, none⟩)
  | some agent =>
      let offerExpiresAt ← secondsFromNow policy.offerTimeoutSec
      let reassigned ← change (.reassign due.id ⟨agent.id, now, offerExpiresAt⟩)
      if reassigned then
        ask (.logState agent.id .reserved (.interaction due.id) none)
        pure (some ⟨due.id, some queueId, some agent.id, true, true, false, none⟩)
      else pure none

def requeueOffer (due : Interaction) (agentId queueId : String) (policy : QueuePolicy)
    (now : Instant) : RouterProgram (Option DueOfferOutcome) := do
  match policy.offerTimeoutAction with
  | .cooldownRequeue =>
      let requeueAt ← secondsFromNow policy.offerCooldownSec
      let claimed ← change (.requeueOffer due now (some requeueAt))
      if claimed then
        coolDown agentId due.id policy
        pure (some ⟨due.id, some queueId, none, true, true, false, none⟩)
      else pure none
  | .immediateRequeue | .abandon =>
      let claimed ← change (.requeueOffer due now none)
      if claimed then
        release (some agentId) due.id
        offerAgain due queueId policy now
      else pure none

def abandonOffer (due : Interaction) (agentId queueId : String) (now : Instant) :
    RouterProgram (Option DueOfferOutcome) := do
  let abandoned ← change (.abandonOffer due now)
  if abandoned then
    release (some agentId) due.id
    pure (some ⟨due.id, some queueId, none, true, false, true, none⟩)
  else pure none

def timeOutOffer (host : RouterHost) (now : Instant) (due : Interaction) :
    RouterProgram (Option DueOfferOutcome) :=
  match due.agentId, due.queueId, due.queueId.bind host.queue? with
  | some agentId, some queueId, some queue =>
      let policy := resolveQueuePolicy host queue
      if policy.offerTimeoutAction = .abandon then abandonOffer due agentId queueId now
      else requeueOffer due agentId queueId policy now
  | _, _, _ => pure none

def releaseExpiredCooldowns (now : Instant) : RouterProgram Unit := do
  let expired ← ask (.scanCooldowns now)
  let entries ← ask (.lockEntries expired)
  let _ ← Program.forEach entries fun entry =>
    ask (.logState entry.userId .available .offerCooldownElapsed none)
  pure ()

/-- One call whose time in the queue has come again. -/
def assignRequeue (host : RouterHost) (now : Instant) (due : Interaction) :
    RouterProgram (Option DueOfferOutcome) :=
  match due.queueId, due.queueId.bind host.queue? with
  | some queueId, some queue => do
      let policy := resolveQueuePolicy host queue
      let available ← findAvailableAgent due.id queueId policy.routingStrategy
      match available with
      | none => pure none
      | some agent =>
          let offerExpiresAt ← secondsFromNow policy.offerTimeoutSec
          let assigned ← change (.assignRequeued due.id now ⟨agent.id, now, offerExpiresAt⟩)
          if assigned then
            ask (.logState agent.id .reserved (.interaction due.id) none)
            pure (some ⟨due.id, some queueId, some agent.id, false, false, false, none⟩)
          else pure none
  | _, _ => pure none

/-- One call that may have waited for too long. -/
def checkMaxWait (host : RouterHost) (now : Instant) (waiting : Interaction) :
    RouterProgram (Option DueOfferOutcome) :=
  match waiting.queueId.bind host.queue? with
  | none => pure none
  | some queue =>
      let policy := resolveQueuePolicy host queue
      match policy.maxWaitSec with
      | none => pure none
      | some maxWaitSec =>
          if maxWaitSec = 0 then pure none
          else if waiting.queuedAt + maxWaitSec * 1000 > now then pure none
          else
            match policy.maxWaitAction with
            | .wait => do
                let requeued ← change (.requeueWaiting waiting now)
                if requeued then
                  pure (some ⟨waiting.id, waiting.queueId, none, false, true, false,
                    some "max_wait_wait"⟩)
                else pure none
            | .callback => do
                let abandoned ← change (.abandonWaiting waiting now)
                if abandoned then
                  pure (some ⟨waiting.id, waiting.queueId, none, false, false, true,
                    some "max_wait_callback"⟩)
                else pure none
            | .voicemail => do
                let abandoned ← change (.abandonWaiting waiting now)
                if abandoned then
                  pure (some ⟨waiting.id, waiting.queueId, none, false, false, true,
                    some "max_wait_voicemail"⟩)
                else pure none

def ivrTimeout (row : Interaction) : TelephonyCallEvent :=
  ⟨.input, row.externalId, row.externalId, "", some .timeout, none⟩

def processDue (host : RouterHost) : RouterProgram DueWork := do
  let now ← readClock
  ask .begin_
  let dueIvrInputs ← ask (.dueIvrInputs now)
  let dueOffers ← ask (.dueOffers now)
  let timedOut ← Program.forEach dueOffers (timeOutOffer host now)
  releaseExpiredCooldowns now
  let dueRequeues ← ask (.dueRequeues now)
  let assigned ← Program.forEach dueRequeues (assignRequeue host now)
  let waitingInteractions ← ask .waiting
  let overdue ← Program.forEach waitingInteractions (checkMaxWait host now)
  committing ⟨(timedOut ++ assigned ++ overdue).filterMap id, dueIvrInputs.map ivrTimeout⟩

def decline (existing : Interaction) (command : DeclineOfferCommand) (policy : QueuePolicy) :
    RouterProgram InboundVoiceRoutingResult := do
  match policy.offerTimeoutAction with
  | .abandon =>
      let endedAt ← readClock
      let updated ← change (.declineAbandon existing.id command.agentId endedAt)
      if updated then
        release (some command.agentId) existing.id
        committing ⟨existing.id, .abandoned, existing.agentId⟩
      else committing (resultFromInteraction existing)
  | .cooldownRequeue =>
      let requeueAt ← secondsFromNow policy.offerCooldownSec
      let updated ← change (.declineRequeue existing.id command.agentId requeueAt)
      if updated then
        ask (.logState command.agentId .break_ (.cooldown existing.id) (some requeueAt))
        committing ⟨existing.id, .queued, none⟩
      else committing (resultFromInteraction existing)
  | .immediateRequeue =>
      let requeueAt ← readClock
      let updated ← change (.declineRequeue existing.id command.agentId requeueAt)
      if updated then
        release (some command.agentId) existing.id
        committing ⟨existing.id, .queued, none⟩
      else committing (resultFromInteraction existing)

def declineOffer (host : RouterHost) (command : DeclineOfferCommand) :
    RouterProgram InboundVoiceRoutingResult := do
  ask .begin_
  let managed ← ask (.findInteraction command.interactionId)
  requireLegacy host managed
  let found ← ask (.findInteraction command.interactionId)
  let existing ← orAbandon .notFound found
  match existing.queueId.bind host.queue? with
  | none => committing (resultFromInteraction existing)
  | some queue =>
      if existing.state ≠ .assigned ∨ existing.agentId ≠ some command.agentId then
        committing (resultFromInteraction existing)
      else decline existing command (resolveQueuePolicy host queue)

def completeWrapUp (command : CompleteWrapUpCommand) :
    RouterProgram InboundVoiceRoutingResult := do
  let code := Text.trim command.code
  if code = "" then .throw .wrapUpCodeRequired
  else
    ask .begin_
    let found ← ask (.findInteraction command.interactionId)
    let existing ← orAbandon .notFound found
    if existing.voiceWrapupPolicy = .voiceNoteV1 then abandon .wrapUpV1Required
    else if existing.state = .completed then committing (resultFromInteraction existing)
    else if existing.state ≠ .wrapup ∨ existing.agentId ≠ some command.agentId then
      abandon .wrapUpAgent
    else
      let completed ← change (.completeWrapUp existing.id command.agentId code)
      if completed then
        ask (.logState command.agentId .available (.interaction existing.id) none)
        committing ⟨existing.id, .completed, existing.agentId⟩
      else committing (resultFromInteraction existing)

end DContact.Router

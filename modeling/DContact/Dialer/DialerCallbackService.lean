import DContact.Dialer.DialerCommandInbox

/-!
# Callbacks

Scheduling checks the contact, the teams and their scopes, the queue and the agent, and then, under
the lock of the contact, that no callback of the contact is pending. Cancelling and superseding go
by the receipt of the schedule command and change a callback that is still scheduled.
-/

namespace DContact.Dialer

open Lib
open Governance (Instant)
open Journey (CancelOwnerActionIntent OutcomeReference OwnerCommandIntent OwnerCommandPayload
  OwnerCommandType)

/-- `CALLBACK_COMMAND_TYPES`. -/
def callbackCommandTypes : List OwnerCommandType :=
  [.scheduleCallback, .cancelCallback, .supersedeCallback]

/-- `EXPIRY_GRACE_MS`. -/
def expiryGraceMs : Int := 24 * 60 * 60 * 1000

/-- `REVERSIBLE_STATES`. -/
def reversibleStates : List ObCallbackState := [.scheduled]

def findPendingCallback (contactId : String) (now : Instant) : DialerProgram (Option ObCallback) :=
  ask (.findPendingCallback contactId now)

def findCallback (id : String) : DialerProgram (Option ObCallback) := ask (.findCallback id)

def moveCallback (id : String) (expected : Expected ObCallbackState) (state : ObCallbackState)
    (data : RecordData) : DialerProgram (Option ObCallback) :=
  ask (.moveCallback id expected state data)

/-- `update`: the row of an identifier, whatever its state; it fails without the row. -/
def updateCallbackById (id : String) (state : ObCallbackState) (data : RecordData) :
    DialerProgram ObCallback := do
  match ← moveCallback id ⟨none, none⟩ state data with
  | some row => pure row
  | none => abandon .recordNotFound

/-- What both positive commands check first; `none` when nothing stands against the command. -/
def checkContactAndTeams (command : OwnerCommandPayload) :
    DialerProgram (Option DialerCommandDecision) := do
  let contact ← foreignRow (.contact command.contactId)
  let sourceTeam ← foreignRow (.team command.sourceOwnerTeamId)
  let targetTeam ← foreignRow (.team command.targetOwnerTeamId)
  if !contact then pure (some (rejection .contactNotFound .authorization "CONTACT_NOT_FOUND"))
  else if !sourceTeam then
    pure (some (rejection .teamSegmentNotAllowed .authorization "SOURCE_TEAM_NOT_FOUND"))
  else if !targetTeam then
    pure (some (rejection .teamSegmentNotAllowed .authorization "TARGET_TEAM_NOT_FOUND"))
  else do
    let _ ← readClock
    let sourceScope ← authorizeScope command.sourceOwnerTeamId command.contactId
    let targetScope ← authorizeScope command.targetOwnerTeamId command.contactId
    if sourceScope = .deny ∨ targetScope = .deny then
      pure (some (rejection .teamSegmentNotAllowed .authorization "WORK_SCOPE_DENIED"))
    else pure none

structure ScheduleCallbackIntent where
  requestedFor : String
  queueId : String
  agentId : Option String

section Service

variable (host : DialerHost)

def newCallback (id : String) (command : OwnerCommandPayload) (intent : ScheduleCallbackIntent)
    (requestedFor : Instant) : ObCallback where
  id := id
  contactId := command.contactId
  queueId := intent.queueId
  agentId := intent.agentId
  requestedFor := requestedFor
  expiresAt := requestedFor + expiryGraceMs
  state := .scheduled
  version := 1
  sourceOwnerTeamId := command.sourceOwnerTeamId
  targetOwnerTeamId := command.targetOwnerTeamId
  cancelledAt := none
  cancelReasonCode := none
  supersededAt := none
  supersedingOutcome := none
  originateLeaseExpiresAt := none

/-- Under the lock of the contact: the pending callback, or a new one. A time that is no date does
not reach the table. -/
def scheduleUnderLock (command : OwnerCommandPayload) (intent : ScheduleCallbackIntent)
    (requestedFor : Option Instant) : DialerProgram DialerCommandDecision := do
  let _ ← ask (.lock (.callbackDedupe command.contactId))
  let now ← readClock
  match ← findPendingCallback command.contactId now with
  | some pending =>
      pure (positive .alreadyScheduled "CONTACT_ALREADY_HAS_PENDING_CALLBACK" pending.id
        pending.version)
  | none => do
      let id ← randomUUID
      match requestedFor with
      | none => abandon .invalidDate
      | some requestedFor => do
          let created := newCallback id command intent requestedFor
          let _ ← ask (.createCallback created)
          pure (positive .scheduled "CALLBACK_SCHEDULED" created.id created.version)

/-- An agent that is not asked for, or has no name, is not looked for. -/
def agentExists (agentId : Option String) : DialerProgram Bool :=
  match agentId with
  | some agentId => if agentId = "" then pure true else foreignRow (.agent agentId)
  | none => pure true

def decideSchedule (command : OwnerCommandPayload) (intent : ScheduleCallbackIntent) :
    DialerProgram DialerCommandDecision := do
  let queue ← foreignRow (.queue intent.queueId)
  let agent ← agentExists intent.agentId
  if !queue then pure (rejection .ownerRejected .business "QUEUE_NOT_FOUND")
  else if !agent then pure (rejection .ownerRejected .business "AGENT_NOT_FOUND")
  else do
    let requestedFor := host.parseDate intent.requestedFor
    let now ← readClock
    if requestedFor.any fun requestedFor => decide (requestedFor ≤ now) then
      pure (rejection .ownerRejected .business "REQUESTED_TIME_INVALID")
    else scheduleUnderLock command intent requestedFor

def boundToCallback (command : OwnerCommandPayload) (callback : ObCallback) : Bool :=
  callback.contactId == command.contactId &&
    callback.sourceOwnerTeamId == command.sourceOwnerTeamId &&
    callback.targetOwnerTeamId == command.targetOwnerTeamId

/-- `targetStatus`: a command with a superseding outcome supersedes. -/
def leavingStatus (superseding : Option OutcomeReference) : OwnerResultStatus :=
  if superseding.isSome then .superseded else .cancelled

def leavingCallbackState (superseding : Option OutcomeReference) : ObCallbackState :=
  if superseding.isSome then .superseded else .cancelled

def leaveCallback (callback : ObCallback) (intent : CancelOwnerActionIntent)
    (superseding : Option OutcomeReference) : DialerProgram DialerCommandDecision := do
  if callback.state = leavingCallbackState superseding then
    pure (positive (leavingStatus superseding)
      (if superseding.isSome then "CALLBACK_ALREADY_SUPERSEDED" else "CALLBACK_ALREADY_CANCELLED")
      callback.id callback.version)
  else if callback.state ∉ reversibleStates then
    pure (tooLate "CALLBACK_IRREVERSIBLE" callback.id callback.version)
  else do
    let now ← readClock
    match superseding with
    | none => do
        let cancelled ← updateCallbackById callback.id .cancelled (.cancelled now intent.reasonCode)
        pure (positive .cancelled "CALLBACK_CANCELLED" cancelled.id cancelled.version)
    | some outcome => do
        let superseded ← updateCallbackById callback.id .superseded (.superseded now outcome)
        pure (positive .superseded "CALLBACK_SUPERSEDED" superseded.id superseded.version)

def decideCancelOrSupersedeCallback (command : OwnerCommandPayload)
    (intent : CancelOwnerActionIntent) (superseding : Option OutcomeReference) :
    DialerProgram DialerCommandDecision := do
  let notFound := rejection .ownerRejected .business "ORIGINAL_ACTION_NOT_FOUND"
  match ← findPositiveReceipt intent.originalActionKey .scheduleCallback with
  | none => pure notFound
  | some original =>
      match original.decision.recordId with
      | none => pure notFound
      | some recordId =>
          if recordId = "" ∨ (original.decision.status ≠ .scheduled ∧
              original.decision.status ≠ .alreadyScheduled) then pure notFound
          else do
            match ← findCallback recordId with
            | none => pure notFound
            | some callback =>
                if !boundToCallback command callback then
                  pure (rejection .bindingMismatch .contract "ORIGINAL_ACTION_BINDING_MISMATCH")
                else leaveCallback callback intent superseding

/-- `decide`, for the commands of callbacks. -/
def decideCallback (command : OwnerCommandPayload) : DialerProgram DialerCommandDecision :=
  match command.intent with
  | .scheduleCallback requestedFor queueId agentId => do
      match ← checkContactAndTeams command with
      | some refused => pure refused
      | none => decideSchedule host command ⟨requestedFor, queueId, agentId⟩
  | .cancelCallback cancel => decideCancelOrSupersedeCallback command cancel none
  | .supersedeCallback cancel outcome =>
      decideCancelOrSupersedeCallback command cancel (some outcome)
  | intent => abandon (.notImplemented intent.commandType)

end Service

end DContact.Dialer

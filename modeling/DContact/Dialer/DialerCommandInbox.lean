import DContact.Dialer.DialerRequests

/-!
# The command inbox of the dialer

A command is decided once, under the lock of its action, and the decision is kept as its receipt. A
command that is delivered again finds the receipt of its command identifier; a positive command also
finds the receipt of its action and type.
-/

namespace DContact.Dialer

open Lib
open Governance (Instant)
open Journey (OwnerCommandPayload OwnerCommandType)

def findReceipt (commandId : String) : DialerProgram (Option ObDialerCommandInbox) :=
  ask (.findReceipt commandId)

def findPositiveReceipt (actionKey : String) (commandType : OwnerCommandType) :
    DialerProgram (Option ObDialerCommandInbox) :=
  ask (.findPositiveReceipt actionKey commandType)

def findActionReceipt (actionKey requestHash : String) :
    DialerProgram (Option ObDialerCommandInbox) :=
  ask (.findActionReceipt actionKey requestHash)

/-- `POSITIVE_COMMAND_TYPES`. -/
def positiveCommandTypes : List OwnerCommandType := [.admitCampaignTarget, .scheduleCallback]

/-- `J2OwnerCommandPersistedV1`. -/
structure OwnerCommandPersisted where
  commandId : String
  actionKey : String
  requestHash : String
  deriving DecidableEq

def persistedCommand (command : OwnerCommandPayload) : OwnerCommandPersisted :=
  ⟨command.commandId, command.actionKey, command.requestHash⟩

def receiptOf (id : String) (command : OwnerCommandPayload) (decision : DialerCommandDecision)
    (observedAt : Instant) : ObDialerCommandInbox where
  id := id
  commandId := command.commandId
  actionKey := command.actionKey
  commandType := command.intent.commandType
  requestHash := command.requestHash
  decision := decision
  correlationId := command.commandId
  observedAt := observedAt

/-- What a command is matched with: the receipt of its identifier, and for a positive command the
receipt of its action and type. -/
def findExisting (command : OwnerCommandPayload) : DialerProgram (Option ObDialerCommandInbox) := do
  match ← findReceipt command.commandId with
  | some row => pure (some row)
  | none =>
      if command.intent.commandType ∈ positiveCommandTypes then
        findPositiveReceipt command.actionKey command.intent.commandType
      else pure none

def persistDialerCommand (command : OwnerCommandPayload)
    (decides : DialerProgram DialerCommandDecision) : DialerProgram OwnerCommandPersisted := do
  let _ ← ask .begin_
  let _ ← ask (.lock (.command command.actionKey))
  match ← findExisting command with
  | some row =>
      if row.requestHash ≠ command.requestHash then abandon (.hashConflict command.actionKey)
      else do
        let _ ← ask .commit
        pure (persistedCommand command)
  | none => do
      let decision ← decides
      let id ← randomUUID
      let observedAt ← readClock
      let _ ← ask (.insertReceipt (receiptOf id command decision observedAt))
      let _ ← ask .commit
      pure (persistedCommand command)

/-- `AGGREGATE_TYPE_BY_COMMAND`; the dialer has no command of a case. -/
def aggregateTypeOf : OwnerCommandType → Option TargetKind
  | .ensureCase => none
  | .admitCampaignTarget | .cancelCampaignTarget | .supersedeCampaignTarget => some .campaignTarget
  | .scheduleCallback | .cancelCallback | .supersedeCallback => some .callback

structure OwnerAggregateReference where
  type : Option TargetKind
  id : String
  version : Nat
  deriving DecidableEq

/-- `J2OwnerResultPayloadV1`. -/
structure OwnerResultPayload where
  commandId : String
  actionKey : String
  requestHash : String
  commandType : OwnerCommandType
  status : OwnerResultStatus
  code : OwnerResultCode
  category : OwnerResultCategory
  reasonCode : String
  failureClass : FailureClass
  retryDisposition : RetryDisposition
  observedAt : Instant
  ownerAggregate : Option OwnerAggregateReference
  deriving DecidableEq

/-- The record of a receipt is left out when its identifier is empty. -/
def ownerAggregate (row : ObDialerCommandInbox) : Option OwnerAggregateReference :=
  match row.decision.recordId, row.decision.recordVersion with
  | some id, some version =>
      if id = "" then none else some ⟨aggregateTypeOf row.commandType, id, version⟩
  | _, _ => none

def toOwnerResult (row : ObDialerCommandInbox) : OwnerResultPayload where
  commandId := row.commandId
  actionKey := row.actionKey
  requestHash := row.requestHash
  commandType := row.commandType
  status := row.decision.status
  code := row.decision.code
  category := row.decision.category
  reasonCode := row.decision.reasonCode
  failureClass := row.decision.failureClass
  retryDisposition := row.decision.retryDisposition
  observedAt := row.observedAt
  ownerAggregate := ownerAggregate row

/-- `J2OwnerActionQueryV1`. -/
structure OwnerActionQuery where
  actionKey : String
  requestHash : String
  deriving DecidableEq

def queryDialerAction (query : OwnerActionQuery) (commandTypes : List OwnerCommandType) :
    DialerProgram (Option OwnerResultPayload) := do
  match ← findActionReceipt query.actionKey query.requestHash with
  | none => pure none
  | some row =>
      if row.commandType ∈ commandTypes then pure (some (toOwnerResult row)) else pure none

end DContact.Dialer

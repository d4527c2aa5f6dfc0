import DContact.Governance.Reservation
import DContact.Journey.OwnerStore
import DContact.Lib.Transactions

/-!
# The tables of the dialer

The dialer owns callbacks and campaign targets. A command of the journey leaves a receipt with the
decision that was taken on it; a record is what a positive command created. The tables are those of
one tenant.
-/

namespace DContact.Dialer

open Lib
open Governance (Instant)
open Journey (OwnerCommandPayload OwnerCommandType OutcomeReference)

inductive OwnerResultStatus where
  | admitted
  | alreadyAdmitted
  | scheduled
  | alreadyScheduled
  | cancelled
  | superseded
  | tooLate
  | rejected
  deriving DecidableEq

/-- The error codes of `J2_ERROR_CONTRACT` that the dialer decides with. -/
inductive J2ErrorCode where
  | bindingMismatch
  | teamSegmentNotAllowed
  | contactNotFound
  | ownerRejected
  | actionTooLate
  deriving DecidableEq

inductive OwnerResultCode where
  | status (status : OwnerResultStatus)
  | error (code : J2ErrorCode)
  deriving DecidableEq

inductive OwnerResultCategory where
  | business
  | conflict
  | terminal
  deriving DecidableEq

inductive RetryDisposition where
  | none
  | quarantine
  | doNotRetry
  deriving DecidableEq

inductive FailureClass where
  | none
  | business
  | authorization
  | contract
  deriving DecidableEq

/-- `J2_ERROR_CONTRACT`. -/
def J2ErrorCode.contract : J2ErrorCode → OwnerResultCategory × RetryDisposition
  | .bindingMismatch => (.conflict, .quarantine)
  | .teamSegmentNotAllowed => (.terminal, .doNotRetry)
  | .contactNotFound => (.terminal, .doNotRetry)
  | .ownerRejected => (.terminal, .doNotRetry)
  | .actionTooLate => (.terminal, .doNotRetry)

structure DialerCommandDecision where
  status : OwnerResultStatus
  code : OwnerResultCode
  category : OwnerResultCategory
  reasonCode : String
  failureClass : FailureClass
  retryDisposition : RetryDisposition
  recordId : Option String
  recordVersion : Option Nat

/-- `rejection` and `callbackRejection`. -/
def rejection (code : J2ErrorCode) (failureClass : FailureClass) (reasonCode : String) :
    DialerCommandDecision where
  status := .rejected
  code := .error code
  category := code.contract.1
  reasonCode := reasonCode
  failureClass := failureClass
  retryDisposition := code.contract.2
  recordId := none
  recordVersion := none

/-- `tooLate` and `targetTooLate`. -/
def tooLate (reasonCode recordId : String) (recordVersion : Nat) : DialerCommandDecision where
  status := .tooLate
  code := .error .actionTooLate
  category := J2ErrorCode.actionTooLate.contract.1
  reasonCode := reasonCode
  failureClass := .business
  retryDisposition := J2ErrorCode.actionTooLate.contract.2
  recordId := some recordId
  recordVersion := some recordVersion

/-- `positive` and `admitted`. -/
def positive (status : OwnerResultStatus) (reasonCode recordId : String) (recordVersion : Nat) :
    DialerCommandDecision where
  status := status
  code := .status status
  category := .business
  reasonCode := reasonCode
  failureClass := .none
  retryDisposition := .none
  recordId := some recordId
  recordVersion := some recordVersion

structure ObDialerCommandInbox where
  id : String
  commandId : String
  actionKey : String
  commandType : OwnerCommandType
  requestHash : String
  decision : DialerCommandDecision
  correlationId : String
  observedAt : Instant

inductive ObCallbackState where
  | scheduled
  | originating
  | active
  | consumed
  | cancelled
  | superseded
  | reconciling
  deriving DecidableEq

structure ObCallback where
  id : String
  contactId : String
  queueId : String
  agentId : Option String
  requestedFor : Instant
  expiresAt : Instant
  state : ObCallbackState
  version : Nat
  sourceOwnerTeamId : String
  targetOwnerTeamId : String
  cancelledAt : Option Instant
  cancelReasonCode : Option String
  supersededAt : Option Instant
  supersedingOutcome : Option OutcomeReference
  originateLeaseExpiresAt : Option Instant
  deriving DecidableEq

inductive ObCampaignTargetState where
  | admitted
  | deferred
  | originating
  | active
  | consumed
  | reconciling
  | cancelled
  | superseded
  deriving DecidableEq

structure ObCampaignTarget where
  id : String
  campaignId : String
  contactId : String
  version : Nat
  state : ObCampaignTargetState
  sourceOwnerTeamId : String
  targetOwnerTeamId : String
  admissionPolicyVersion : Nat
  originateLeaseExpiresAt : Option Instant
  cancelledAt : Option Instant
  cancelReasonCode : Option String
  supersededAt : Option Instant
  supersedingOutcome : Option OutcomeReference

inductive ObCampaignStatus where
  | active
  | scheduled
  | paused
  | stopped
  | completed
  deriving DecidableEq

structure ObCampaign where
  id : String
  status : ObCampaignStatus

structure ObCampaignAdmissionPolicy where
  campaignId : String
  version : Nat
  allowCrossCampaignDuplicate : Bool

structure DialerTables where
  inbox : List ObDialerCommandInbox
  callbacks : List ObCallback
  targets : List ObCampaignTarget
  campaigns : List ObCampaign
  policies : List ObCampaignAdmissionPolicy

/-- The columns of an update of a record: its state, which always comes with the next version, and
what the state is about. -/
inductive RecordData where
  | only
  | claimed (leaseExpiresAt : Instant)
  | left
  | cancelled (cancelledAt : Instant) (reasonCode : String)
  | superseded (supersededAt : Instant) (outcome : OutcomeReference)

def ObCallback.move (state : ObCallbackState) (data : RecordData) (row : ObCallback) : ObCallback :=
  match data with
  | .only => { row with state := state, version := row.version + 1 }
  | .claimed leaseExpiresAt =>
      { row with
        state := state
        version := row.version + 1
        originateLeaseExpiresAt := some leaseExpiresAt }
  | .left =>
      { row with state := state, version := row.version + 1, originateLeaseExpiresAt := none }
  | .cancelled cancelledAt reasonCode =>
      { row with
        state := state
        version := row.version + 1
        cancelledAt := some cancelledAt
        cancelReasonCode := some reasonCode }
  | .superseded supersededAt outcome =>
      { row with
        state := state
        version := row.version + 1
        supersededAt := some supersededAt
        supersedingOutcome := some outcome }

def ObCampaignTarget.move (state : ObCampaignTargetState) (data : RecordData)
    (row : ObCampaignTarget) : ObCampaignTarget :=
  match data with
  | .only => { row with state := state, version := row.version + 1 }
  | .claimed leaseExpiresAt =>
      { row with
        state := state
        version := row.version + 1
        originateLeaseExpiresAt := some leaseExpiresAt }
  | .left =>
      { row with state := state, version := row.version + 1, originateLeaseExpiresAt := none }
  | .cancelled cancelledAt reasonCode =>
      { row with
        state := state
        version := row.version + 1
        cancelledAt := some cancelledAt
        cancelReasonCode := some reasonCode }
  | .superseded supersededAt outcome =>
      { row with
        state := state
        version := row.version + 1
        supersededAt := some supersededAt
        supersedingOutcome := some outcome }

section
variable (state : ObCallbackState) (data : RecordData) (row : ObCallback)
include state data row

@[simp] theorem ObCallback.move_id : (row.move state data).id = row.id := by cases data <;> rfl

@[simp] theorem ObCallback.move_state : (row.move state data).state = state := by cases data <;> rfl

@[simp] theorem ObCallback.move_contactId :
    (row.move state data).contactId = row.contactId := by cases data <;> rfl

@[simp] theorem ObCallback.move_expiresAt :
    (row.move state data).expiresAt = row.expiresAt := by cases data <;> rfl

end

section
variable (state : ObCampaignTargetState) (data : RecordData) (row : ObCampaignTarget)
include state data row

@[simp] theorem ObCampaignTarget.move_id :
    (row.move state data).id = row.id := by cases data <;> rfl

@[simp] theorem ObCampaignTarget.move_contactId :
    (row.move state data).contactId = row.contactId := by cases data <;> rfl

@[simp] theorem ObCampaignTarget.move_campaignId :
    (row.move state data).campaignId = row.campaignId := by cases data <;> rfl

end

inductive DialerLock where
  | command (actionKey : String)
  | callbackDedupe (contactId : String)
  | admission (campaignId contactId : String)
  deriving DecidableEq

inductive DialerChange where
  | receipt (row : ObDialerCommandInbox)
  | createCallback (row : ObCallback)
  | moveCallback (id : String) (state : ObCallbackState) (data : RecordData)
  | createTarget (row : ObCampaignTarget)
  | moveTarget (id : String) (state : ObCampaignTargetState) (data : RecordData)

def DialerChange.apply : DialerChange → DialerTables → DialerTables
  | .receipt row, tables => { tables with inbox := tables.inbox ++ [row] }
  | .createCallback row, tables => { tables with callbacks := tables.callbacks ++ [row] }
  | .moveCallback id state data, tables =>
      { tables with
        callbacks := Table.update ObCallback.id id (ObCallback.move state data) tables.callbacks }
  | .createTarget row, tables => { tables with targets := tables.targets ++ [row] }
  | .moveTarget id state data, tables =>
      { tables with
        targets := Table.update ObCampaignTarget.id id (ObCampaignTarget.move state data)
          tables.targets }

/-- A unique index, or the lock of a row, makes one change wait for another. -/
def DialerChange.clash : DialerChange → DialerChange → Bool
  | .receipt left, .receipt right => left.commandId == right.commandId
  | .createCallback left, .createCallback right => left.id == right.id
  | .moveCallback left _ _, .moveCallback right _ _ => left == right
  | .createTarget left, .createTarget right =>
      left.id == right.id || (left.campaignId == right.campaignId && left.contactId == right.contactId)
  | .moveTarget left _ _, .moveTarget right _ _ => left == right
  | _, _ => false

def dialerWrites : Writes DialerTables DialerChange := ⟨DialerChange.apply, DialerChange.clash⟩

abbrev DialerDatabase := Database DialerTables DialerLock DialerChange

end DContact.Dialer

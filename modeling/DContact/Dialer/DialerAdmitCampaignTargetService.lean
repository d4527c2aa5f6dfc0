import DContact.Dialer.DialerCallbackService

/-!
# Campaign targets

Admission checks the contact, the teams and their scopes, the campaign and its policy, and then,
under the lock of the campaign and the contact, that the contact is no target yet. Cancelling and
superseding move a target on only in the state and version in which they have read it.
-/

namespace DContact.Dialer

open Lib
open Governance (Instant)
open Journey (CancelOwnerActionIntent OutcomeReference OwnerCommandIntent OwnerCommandPayload
  OwnerCommandType)

/-- `CAMPAIGN_TARGET_COMMAND_TYPES`. -/
def campaignTargetCommandTypes : List OwnerCommandType :=
  [.admitCampaignTarget, .cancelCampaignTarget, .supersedeCampaignTarget]

/-- `REVERSIBLE_TARGET_STATES`. -/
def reversibleTargetStates : List ObCampaignTargetState := [.admitted, .deferred]

def findCampaign (id : String) : DialerProgram (Option ObCampaign) := ask (.findCampaign id)

def findPolicy (campaignId : String) : DialerProgram (Option ObCampaignAdmissionPolicy) :=
  ask (.findPolicy campaignId)

def findAdmission (campaignId contactId : String) : DialerProgram (Option ObCampaignTarget) :=
  ask (.findAdmission campaignId contactId)

def findCrossCampaign (campaignId contactId : String) : DialerProgram (Option ObCampaignTarget) :=
  ask (.findCrossCampaign campaignId contactId)

def findTarget (id : String) : DialerProgram (Option ObCampaignTarget) := ask (.findTarget id)

def moveTarget (id : String) (expected : Expected ObCampaignTargetState)
    (state : ObCampaignTargetState) (data : RecordData) : DialerProgram (Option ObCampaignTarget) :=
  ask (.moveTarget id expected state data)

def newTarget (id : String) (command : OwnerCommandPayload) (campaign : ObCampaign)
    (admissionPolicyVersion : Nat) : ObCampaignTarget where
  id := id
  campaignId := campaign.id
  contactId := command.contactId
  version := 1
  state := if campaign.status = .active then .admitted else .deferred
  sourceOwnerTeamId := command.sourceOwnerTeamId
  targetOwnerTeamId := command.targetOwnerTeamId
  admissionPolicyVersion := admissionPolicyVersion
  originateLeaseExpiresAt := none
  cancelledAt := none
  cancelReasonCode := none
  supersededAt := none
  supersedingOutcome := none

def createAdmission (command : OwnerCommandPayload) (campaign : ObCampaign)
    (admissionPolicyVersion : Nat) : DialerProgram DialerCommandDecision := do
  let id ← randomUUID
  let created := newTarget id command campaign admissionPolicyVersion
  let _ ← ask (.createTarget created)
  pure (positive .admitted
    (if created.state = .admitted then "CAMPAIGN_ACTIVE_ADMITTED" else "CAMPAIGN_DEFERRED_ADMITTED")
    created.id created.version)

def admitUnderLock (command : OwnerCommandPayload) (campaign : ObCampaign)
    (policy : Option ObCampaignAdmissionPolicy) : DialerProgram DialerCommandDecision := do
  let admissionPolicyVersion := (policy.map ObCampaignAdmissionPolicy.version).getD 1
  let allowCrossCampaignDuplicate :=
    (policy.map ObCampaignAdmissionPolicy.allowCrossCampaignDuplicate).getD false
  let _ ← ask (.lock (.admission campaign.id command.contactId))
  match ← findAdmission campaign.id command.contactId with
  | some existing =>
      pure (positive .alreadyAdmitted "CAMPAIGN_TARGET_ALREADY_ADMITTED" existing.id
        existing.version)
  | none =>
      if allowCrossCampaignDuplicate then createAdmission command campaign admissionPolicyVersion
      else do
        match ← findCrossCampaign campaign.id command.contactId with
        | some _ =>
            pure (rejection .ownerRejected .business "DUPLICATE_CONTACT_CROSS_CAMPAIGN")
        | none => createAdmission command campaign admissionPolicyVersion

def decideAdmit (command : OwnerCommandPayload) (campaignId : String) :
    DialerProgram DialerCommandDecision := do
  match ← checkContactAndTeams command with
  | some refused => pure refused
  | none => do
      match ← findCampaign campaignId with
      | none => pure (rejection .ownerRejected .business "CAMPAIGN_BINDING_INVALID")
      | some campaign =>
          if campaign.status = .stopped then
            pure (rejection .ownerRejected .business "CAMPAIGN_STOPPED")
          else if campaign.status = .completed then
            pure (rejection .ownerRejected .business "CAMPAIGN_COMPLETED")
          else do
            let policy ← findPolicy campaign.id
            admitUnderLock command campaign policy

def boundToTarget (command : OwnerCommandPayload) (target : ObCampaignTarget) : Bool :=
  target.contactId == command.contactId &&
    target.sourceOwnerTeamId == command.sourceOwnerTeamId &&
    target.targetOwnerTeamId == command.targetOwnerTeamId

def leavingTargetState (superseding : Option OutcomeReference) : ObCampaignTargetState :=
  if superseding.isSome then .superseded else .cancelled

/-- The columns of the update that a cancel or supersede command makes. -/
def leavingData (now : Instant) (intent : CancelOwnerActionIntent)
    (superseding : Option OutcomeReference) : RecordData :=
  match superseding with
  | none => .cancelled now intent.reasonCode
  | some outcome => .superseded now outcome

/-- The update is conditional on the state and the version that were read. -/
def leaveTarget (target : ObCampaignTarget) (intent : CancelOwnerActionIntent)
    (superseding : Option OutcomeReference) : DialerProgram DialerCommandDecision := do
  if target.state = leavingTargetState superseding then
    pure (positive (leavingStatus superseding)
      (if superseding.isSome then "CAMPAIGN_TARGET_ALREADY_SUPERSEDED"
        else "CAMPAIGN_TARGET_ALREADY_CANCELLED") target.id target.version)
  else if target.state ∉ reversibleTargetStates then
    pure (tooLate "CAMPAIGN_TARGET_IRREVERSIBLE" target.id target.version)
  else do
    let now ← readClock
    match ← moveTarget target.id ⟨some target.state, some target.version⟩
        (leavingTargetState superseding) (leavingData now intent superseding) with
    | none => do
        match ← findTarget target.id with
        | none => abandon .recordNotFound
        | some current =>
            pure (tooLate "CAMPAIGN_TARGET_IRREVERSIBLE" current.id current.version)
    | some _ =>
        pure (positive (leavingStatus superseding)
          (if superseding.isSome then "CAMPAIGN_TARGET_SUPERSEDED"
            else "CAMPAIGN_TARGET_CANCELLED") target.id (target.version + 1))

def decideCancelOrSupersedeTarget (command : OwnerCommandPayload)
    (intent : CancelOwnerActionIntent) (superseding : Option OutcomeReference) :
    DialerProgram DialerCommandDecision := do
  let notFound := rejection .ownerRejected .business "ORIGINAL_ACTION_NOT_FOUND"
  let mismatch := rejection .bindingMismatch .contract "ORIGINAL_ACTION_BINDING_MISMATCH"
  match ← findPositiveReceipt intent.originalActionKey .admitCampaignTarget with
  | none => pure notFound
  | some original =>
      match original.decision.recordId with
      | none => pure notFound
      | some recordId =>
          if recordId = "" ∨ (original.decision.status ≠ .admitted ∧
              original.decision.status ≠ .alreadyAdmitted) then pure notFound
          else do
            match ← findTarget recordId with
            | none => pure mismatch
            | some target =>
                if !boundToTarget command target then pure mismatch
                else leaveTarget target intent superseding

/-- `decide`, for the commands of campaign targets. -/
def decideCampaignTarget (command : OwnerCommandPayload) : DialerProgram DialerCommandDecision :=
  match command.intent with
  | .admitCampaignTarget campaignId => decideAdmit command campaignId
  | .cancelCampaignTarget cancel => decideCancelOrSupersedeTarget command cancel none
  | .supersedeCampaignTarget cancel outcome =>
      decideCancelOrSupersedeTarget command cancel (some outcome)
  | intent => abandon (.notImplemented intent.commandType)

section Port

variable (host : DialerHost)

/-- `persistCommand` of `DialerOwnerCommandService`: the service of the command's record takes it,
and a command of neither is refused before anything is asked. -/
def persistCommand (command : OwnerCommandPayload) : DialerProgram OwnerCommandPersisted :=
  if command.intent.commandType ∈ callbackCommandTypes then
    persistDialerCommand command (decideCallback host command)
  else if command.intent.commandType ∈ campaignTargetCommandTypes then
    persistDialerCommand command (decideCampaignTarget command)
  else .throw (.notImplemented command.intent.commandType)

/-- `queryAction` of `DialerOwnerCommandService`. -/
def queryAction (query : OwnerActionQuery) : DialerProgram (Option OwnerResultPayload) :=
  queryDialerAction query (callbackCommandTypes ++ campaignTargetCommandTypes)

end Port

end DContact.Dialer

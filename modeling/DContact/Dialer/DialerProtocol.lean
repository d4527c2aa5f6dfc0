import DContact.Dialer.DialerHistories

/-!
# What the dialer's programs ask for, and when

For each call: which requests it makes, and what its history shows by then. The programs conform to
this without regard to the store; the invariants of whole runs rest on it and never look at a
program again.
-/

namespace DContact.Dialer

open Lib
open Governance (Instant RuntimeCommand RuntimeOperation)
open Journey (CancelOwnerActionIntent OutcomeReference OwnerCommandPayload OwnerCommandType)

/-- What an update of a record is for. -/
inductive Purpose where
  | claim
  | finish (accepted : Bool)
  | withdraw
  | reconcile
  | postpone

def callbackPurpose (expected : Expected ObCallbackState) (state : ObCallbackState) :
    Option Purpose :=
  match expected.state, expected.version, state with
  | some .scheduled, none, .originating => some .claim
  | some .originating, none, .consumed => some (.finish true)
  | some .originating, none, .scheduled => some (.finish false)
  | none, none, .cancelled => some .withdraw
  | none, none, .superseded => some .withdraw
  | some .originating, some _, .reconciling => some .reconcile
  | _, _, _ => none

def targetPurpose (expected : Expected ObCampaignTargetState) (state : ObCampaignTargetState) :
    Option Purpose :=
  match expected.state, expected.version, state with
  | some .admitted, none, .originating => some .claim
  | some .originating, none, .consumed => some (.finish true)
  | some .originating, none, .deferred => some (.finish false)
  | some .admitted, some _, .cancelled => some .withdraw
  | some .admitted, some _, .superseded => some .withdraw
  | some .deferred, some _, .cancelled => some .withdraw
  | some .deferred, some _, .superseded => some .withdraw
  | some .originating, some _, .reconciling => some .reconcile
  | some .admitted, some _, .deferred => some .postpone
  | _, _, _ => none

/-- The record that a request updates, and what for. -/
def purposeOf : DialerRequest → Option (TargetKind × String × Purpose)
  | .moveCallback id expected state _ =>
      (callbackPurpose expected state).map fun purpose => (.callback, id, purpose)
  | .moveTarget id expected state _ =>
      (targetPurpose expected state).map fun purpose => (.campaignTarget, id, purpose)
  | _ => none

/-- The update has met a row. -/
def hit : (request : DialerRequest) → Except DialerError request.Reply → Bool
  | .moveCallback .., .ok (some _) => true
  | .moveTarget .., .ok (some _) => true
  | _, _ => false

/-- The update that an exchange has made of a record. -/
def deedOf (exchange : DialerExchange) : Option (TargetKind × String × Purpose) :=
  if hit exchange.request exchange.reply then purposeOf exchange.request else none

/-- The transport was called for a record. -/
def placed (kind : TargetKind) (id : String) (exchange : DialerExchange) : Bool :=
  match exchange.request with
  | .originate request => request.targetKind == kind && request.targetId == id
  | _ => false

/-- The transport was called for a record and took the call. -/
def accepted (kind : TargetKind) (id : String) (exchange : DialerExchange) : Prop :=
  ∃ request : TelephonyOriginateRequest, request.targetKind = kind ∧ request.targetId = id ∧
    exchange = ⟨.originate request, .ok .accepted⟩

/-- The transport was called and refused the call. -/
def refused : (request : DialerRequest) → Except DialerError request.Reply → Bool
  | .originate _, .ok (.rejected _) => true
  | _, _ => false

def Claimed (history : DialerHistory) (kind : TargetKind) (id : String) : Prop :=
  ∃ exchange ∈ history, deedOf exchange = some (kind, id, .claim)

def Finished (history : DialerHistory) (kind : TargetKind) (id : String) : Prop :=
  ∃ exchange ∈ history, ∃ result, deedOf exchange = some (kind, id, .finish result)

def OpenOn (history : DialerHistory) (kind : TargetKind) (id : String) : Prop :=
  Claimed history kind id ∧ ¬ Finished history kind id

/-- The worker has never claimed a record nor called the transport. -/
def Idle (history : DialerHistory) : Prop :=
  ∀ exchange ∈ history, deedOf exchange = none ∧ ∀ kind id, placed kind id exchange = false

/-- The reservation of a record is claimed for a delivery that this worker has made up. -/
def ReservationClaimed (host : DialerHost) (history : DialerHistory) (kind : TargetKind)
    (id : String) : Prop :=
  ∃ command view binding lease, Told history (.governance command) view ∧
    command.tenantId = host.tenantId ∧ command.actionKey = originateActionKey kind id ∧
    command.operation = .claim binding lease ∧ Told history .uuid binding.deliveryId

def withdrawnCallbackStates : List ObCallbackState := [.cancelled, .superseded]

def withdrawnTargetStates : List ObCampaignTargetState := [.cancelled, .superseded]

/-- The record was found withdrawn, or the transaction withdraws it. -/
def Withdrew (kind : Option TargetKind) (recordId : String) (history : DialerHistory)
    (work : DialerTransaction) : Prop :=
  match kind with
  | none => False
  | some .callback =>
      (∃ id row, Told history (.findCallback id) (some row) ∧ row.id = recordId ∧
        row.state ∈ withdrawnCallbackStates) ∨
      ∃ id expected state data row, Told history (.moveCallback id expected state data) (some row) ∧
        row.id = recordId ∧ state ∈ withdrawnCallbackStates ∧
        .moveCallback id state data ∈ work.changes
  | some .campaignTarget =>
      (∃ id row, Told history (.findTarget id) (some row) ∧ row.id = recordId ∧
        row.state ∈ withdrawnTargetStates) ∨
      ∃ state data, state ∈ withdrawnTargetStates ∧ .moveTarget recordId state data ∈ work.changes

/-- The statuses that tell of a record that was cancelled or superseded. -/
def withdraws : OwnerResultStatus → Bool
  | .cancelled | .superseded => true
  | _ => false

def Justified (command : OwnerCommandPayload) (decision : DialerCommandDecision)
    (history : DialerHistory) (work : DialerTransaction) : Prop :=
  withdraws decision.status = true →
    ∀ recordId, decision.recordId = some recordId →
      Withdrew (aggregateTypeOf command.intent.commandType) recordId history work

def Undecided (command : OwnerCommandPayload) (work : DialerTransaction) : Prop :=
  .command command.actionKey ∈ work.locks ∧ ∀ row, .receipt row ∉ work.changes

/-- What a command has found before it is decided. -/
def Unmatched (command : OwnerCommandPayload) (history : DialerHistory) : Prop :=
  Told history (.findReceipt command.commandId) none ∧
    (command.intent.commandType ∈ positiveCommandTypes →
      Told history (.findPositiveReceipt command.actionKey command.intent.commandType) none)

/-- The policy of a campaign lets a contact be a target of another one as well. -/
def allowsDuplicate (policy : Option ObCampaignAdmissionPolicy) : Bool :=
  (policy.map ObCampaignAdmissionPolicy.allowCrossCampaignDuplicate).getD false

def persistPermits (command : OwnerCommandPayload) (history : DialerHistory) :
    DialerRequest → Prop
  | .begin_ => history = []
  | .lock key => (Inside history fun work => work.changes = []) ∧
      ∀ actionKey, key = .command actionKey → history = [⟨.begin_, .ok ()⟩]
  | .findReceipt commandId => commandId = command.commandId ∧
      history = [⟨.begin_, .ok ()⟩, ⟨.lock (.command command.actionKey), .ok ()⟩]
  | .findPositiveReceipt .. => Inside history (Undecided command)
  | .findPendingCallback contactId now => Told history .clock now ∧
      Inside history fun work => .callbackDedupe contactId ∈ work.locks ∧ work.changes = []
  | .createCallback row => row.state = .scheduled ∧
      (Inside history fun work => .callbackDedupe row.contactId ∈ work.locks ∧ work.changes = []) ∧
      ∃ now, Told history (.findPendingCallback row.contactId now) none
  | .findAdmission campaignId contactId | .findCrossCampaign campaignId contactId =>
      Inside history fun work => .admission campaignId contactId ∈ work.locks ∧ work.changes = []
  | .createTarget row =>
      (Inside history fun work =>
        .admission row.campaignId row.contactId ∈ work.locks ∧ work.changes = []) ∧
      Told history (.findAdmission row.campaignId row.contactId) none ∧
      ∃ policy, Told history (.findPolicy row.campaignId) policy ∧
        (allowsDuplicate policy = false →
          Told history (.findCrossCampaign row.campaignId row.contactId) none)
  | .moveCallback id expected state data =>
      purposeOf (.moveCallback id expected state data) = some (.callback, id, .withdraw) ∧
        Inside history fun work => work.changes = []
  | .moveTarget id expected state data =>
      purposeOf (.moveTarget id expected state data) = some (.campaignTarget, id, .withdraw) ∧
        Inside history fun work => work.changes = []
  | .insertReceipt row => ∃ id decision observedAt, row = receiptOf id command decision observedAt ∧
      Unmatched command history ∧
      Inside history fun work => Undecided command work ∧ Justified command decision history work
  | .findActionReceipt .. | .staleCallbacks .. | .staleTargets .. | .gate | .scopeAllowed .. |
    .authorize _ | .governance _ | .originate _ => False
  | _ => True

/-- The receipt was written and committed last. -/
def Recorded (row : ObDialerCommandInbox) (history : DialerHistory) : Prop :=
  ∃ earlier : DialerHistory,
    history = earlier ++ [⟨.insertReceipt row, .ok ()⟩] ++ [⟨.commit, .ok ()⟩] ∧
      Inside (earlier ++ [⟨.insertReceipt row, .ok ()⟩]) fun work => .receipt row ∈ work.changes

def PersistRests (command : OwnerCommandPayload) (history : DialerHistory) : Prop :=
  (∃ row, Told history (.findReceipt command.commandId) (some row) ∧
    row.requestHash = command.requestHash) ∨
  (∃ row, Told history (.findReceipt command.commandId) none ∧
    Told history (.findPositiveReceipt command.actionKey command.intent.commandType) (some row) ∧
    row.requestHash = command.requestHash) ∨
  ∃ id decision observedAt, Recorded (receiptOf id command decision observedAt) history

/-- Requests that change nothing of the dialer's. -/
def looks : DialerRequest → Bool
  | .clock | .uuid | .foreign _ | .scope .. | .findReceipt _ | .findPositiveReceipt .. |
    .findActionReceipt .. | .findPendingCallback .. | .findCallback _ | .staleCallbacks .. |
    .findCampaign _ | .findPolicy _ | .findAdmission .. | .findCrossCampaign .. | .findTarget _ |
    .staleTargets .. | .gate | .scopeAllowed .. | .authorize _ => true
  | _ => false

/-- When the barrier for records of a kind may move a record. -/
def barrierMoves (kind : TargetKind) (history : DialerHistory) (id : String) : Purpose → Prop
  | .claim => Idle history
  | .postpone => kind = .campaignTarget
  | .finish result => OpenOn history kind id ∧
      (result = true → ∃ exchange ∈ history, accepted kind id exchange) ∧
      (result = false → ∀ exchange ∈ history, placed kind id exchange = true →
        refused exchange.request exchange.reply = true)
  | _ => False

def barrierPermits (host : DialerHost) (kind : TargetKind) (history : DialerHistory)
    (request : DialerRequest) : Prop :=
  transactionOf history = none ∧
    (looks request = true ∨ (∃ command, request = .governance command) ∨
      (∃ id purpose, purposeOf request = some (kind, id, purpose) ∧
        barrierMoves kind history id purpose) ∨
      ∃ call, request = .originate call ∧ call.targetKind = kind ∧
        OpenOn history kind call.targetId ∧
        (∀ exchange ∈ history, ∀ kind id, placed kind id exchange = false) ∧
        ReservationClaimed host history kind call.targetId)

def reconcilePermits (history : DialerHistory) (request : DialerRequest) : Prop :=
  transactionOf history = none ∧
    (looks request = true ∨ ∃ kind id, purposeOf request = some (kind, id, .reconcile))

def queryPermits (history : DialerHistory) (request : DialerRequest) : Prop :=
  transactionOf history = none ∧ looks request = true

def QueryRests (query : OwnerActionQuery) (result : Option OwnerResultPayload)
    (history : DialerHistory) : Prop :=
  ∃ found : Option ObDialerCommandInbox,
    Told history (.findActionReceipt query.actionKey query.requestHash) found ∧
      result = (found.filter fun row => decide (row.commandType ∈
        callbackCommandTypes ++ campaignTargetCommandTypes)).map toOwnerResult

def dialerProtocol (host : DialerHost) : Protocol DialerRequest DialerRequest.Reply DialerCall
    DialerError DialerAnswer where
  permits
    | .persist command => persistPermits command
    | .query _ => queryPermits
    | .originateCampaignTarget .. => barrierPermits host .campaignTarget
    | .originateCallback .. => barrierPermits host .callback
    | .reconcile .. => reconcilePermits
  post
    | .persist command, result, history => ∀ answer, result = .ok answer →
        answer = .persisted (persistedCommand command) ∧
          command.intent.commandType ∈ callbackCommandTypes ++ campaignTargetCommandTypes ∧
            PersistRests command history
    | .query query, result, history => ∀ answer, result = .ok answer →
        ∃ found, answer = .result found ∧ QueryRests query found history
    | _, _, _ => True

end DContact.Dialer

import DContact.Dialer.DialerTables
import DContact.Governance.Authorization
import DContact.Governance.ReservationSafety
import DContact.Lib.Histories

/-!
# What the dialer asks

Each statement of a transaction is a request, and so is each call of governance and of the
telephony transport. A statement may fail, which rolls its transaction back: this stands for a lost
connection and for a worker that stops in the middle of a transaction. The rows of other owners, the
rollout gate and the answers of scopes and authorization come from outside.
-/

namespace DContact.Dialer

open Lib
open Governance (ContactDecision Instant ReservationRow RuntimeCommand RuntimeError RuntimeOptions
  RuntimeStep RuntimeStore SettlementView Untouched execute)
open Journey (OwnerCommandType)

inductive DialerGateState where
  | disabled
  | shadowReceipt
  | ownerConformance
  | scopedInternalEnabled
  | killed
  deriving DecidableEq

inductive ScopeDecision where
  | allow
  | deny
  | defer
  deriving DecidableEq

inductive RolloutScopeKind where
  | campaign
  | callbackQueue

inductive TargetKind where
  | campaignTarget
  | callback
  deriving DecidableEq

/-- A row of another owner that a decision only looks for. -/
inductive ForeignRow where
  | contact (id : String)
  | team (id : String)
  | queue (id : String)
  | agent (id : String)

/-- What differs between the inputs of `authorizeAndReserve`. -/
structure OriginateAuthorization where
  purpose : String
  sourceId : String
  actionKey : String
  contactId : String
  correlationId : String

structure OriginateDecision where
  decision : ContactDecision
  reservationId : Option String

structure TelephonyOriginateRequest where
  targetKind : TargetKind
  targetId : String
  providerRequestKey : String

inductive TelephonyOriginateResponse where
  | accepted
  | rejected (reasonCode : String)
  deriving DecidableEq

/-- The condition of an update: the state, and for some the version as well. -/
structure Expected (κ : Type) where
  state : Option κ
  version : Option Nat

def Expected.admits {κ : Type} [DecidableEq κ] (expected : Expected κ) (state : κ) (version : Nat) :
    Bool :=
  expected.state.all (· == state) && expected.version.all (· == version)

inductive DialerRequest where
  | clock
  | uuid
  | begin_
  | commit
  | rollback
  | lock (key : DialerLock)
  | foreign (row : ForeignRow)
  | scope (teamId contactId : String)
  | findReceipt (commandId : String)
  | findPositiveReceipt (actionKey : String) (commandType : OwnerCommandType)
  | findActionReceipt (actionKey requestHash : String)
  | insertReceipt (row : ObDialerCommandInbox)
  | findPendingCallback (contactId : String) (now : Instant)
  | createCallback (row : ObCallback)
  | findCallback (id : String)
  | moveCallback (id : String) (expected : Expected ObCallbackState) (state : ObCallbackState)
      (data : RecordData)
  | staleCallbacks (deadline : Instant) (batchSize : Nat)
  | findCampaign (id : String)
  | findPolicy (campaignId : String)
  | findAdmission (campaignId contactId : String)
  | findCrossCampaign (campaignId contactId : String)
  | createTarget (row : ObCampaignTarget)
  | findTarget (id : String)
  | moveTarget (id : String) (expected : Expected ObCampaignTargetState)
      (state : ObCampaignTargetState) (data : RecordData)
  | staleTargets (deadline : Instant) (batchSize : Nat)
  | gate
  | scopeAllowed (kind : RolloutScopeKind) (scopeRef : String)
  | authorize (input : OriginateAuthorization)
  | governance (command : RuntimeCommand)
  | originate (request : TelephonyOriginateRequest)

def DialerRequest.Reply : DialerRequest → Type
  | .clock => Instant
  | .uuid => String
  | .begin_ | .commit | .rollback | .lock _ => Unit
  | .foreign _ => Bool
  | .scope .. => ScopeDecision
  | .findReceipt _ | .findPositiveReceipt .. | .findActionReceipt .. =>
      Option ObDialerCommandInbox
  | .insertReceipt _ => Unit
  | .findPendingCallback .. | .findCallback _ => Option ObCallback
  | .createCallback _ => Unit
  | .moveCallback .. => Option ObCallback
  | .staleCallbacks .. => List ObCallback
  | .findCampaign _ => Option ObCampaign
  | .findPolicy _ => Option ObCampaignAdmissionPolicy
  | .findAdmission .. | .findCrossCampaign .. | .findTarget _ => Option ObCampaignTarget
  | .createTarget _ => Unit
  | .moveTarget .. => Option ObCampaignTarget
  | .staleTargets .. => List ObCampaignTarget
  | .gate => DialerGateState
  | .scopeAllowed .. => Bool
  | .authorize _ => OriginateDecision
  | .governance _ => SettlementView
  | .originate _ => TelephonyOriginateResponse

inductive DialerError where
  | hashConflict (actionKey : String)
  | notImplemented (commandType : OwnerCommandType)
  | connectionLost
  | uniqueViolation
  | recordNotFound
  | invalidDate
  | runtime (error : RuntimeError)
  deriving DecidableEq

abbrev DialerProgram := Program DialerRequest DialerRequest.Reply DialerError

def ask (request : DialerRequest) : DialerProgram request.Reply := Program.request request

def readClock : DialerProgram Instant := ask .clock

def randomUUID : DialerProgram String := ask .uuid

def foreignRow (row : ForeignRow) : DialerProgram Bool := ask (.foreign row)

def authorizeScope (teamId contactId : String) : DialerProgram ScopeDecision :=
  ask (.scope teamId contactId)

/-- Roll the transaction back and fail. -/
def abandon {α : Type} (failure : DialerError) : DialerProgram α := do
  let _ ← ask .rollback
  .throw failure

structure DialerStore where
  db : DialerDatabase
  governance : RuntimeStore
  minted : List String
  now : Instant

structure DialerHost where
  tenantId : String
  runtime : RuntimeOptions
  parseDate : String → Option Instant
  callbackEarlyToleranceMs : Int
  originateLeaseMs : Int

/-- What a request takes from outside. -/
structure DialerTick where
  fails : Bool
  now : Instant
  uuid : String
  present : Bool
  scope : ScopeDecision
  pick : Nat
  gate : DialerGateState
  authorization : OriginateDecision
  attemptId : String
  touchId : String
  response : TelephonyOriginateResponse

/-- A row that a query without an order may answer with. -/
def anyOf {α : Type} (rows : List α) (pick : Nat) : Option α := rows[pick % rows.length]?

theorem anyOf_mem {α : Type} {rows : List α} {pick : Nat} {row : α}
    (found : anyOf rows pick = some row) : row ∈ rows :=
  List.mem_of_getElem? found

theorem anyOf_none {α : Type} {rows : List α} {pick : Nat} (absent : anyOf rows pick = none) :
    rows = [] := by
  rw [anyOf, List.getElem?_eq_none_iff] at absent
  by_contra present
  have := Nat.mod_lt pick (List.length_pos_iff.mpr present)
  omega

def ofAction (actionKey : String) (commandType : OwnerCommandType) (row : ObDialerCommandInbox) :
    Bool :=
  row.actionKey == actionKey && row.commandType == commandType

def ofRequest (actionKey requestHash : String) (row : ObDialerCommandInbox) : Bool :=
  row.actionKey == actionKey && row.requestHash == requestHash

def pendingFor (contactId : String) (now : Instant) (row : ObCallback) : Bool :=
  row.contactId == contactId && row.state == .scheduled && decide (row.expiresAt > now)

/-- The claim of the record has run out. -/
def expiredLease (lease : Option Instant) (deadline : Instant) : Bool :=
  lease.any fun expiry => decide (expiry ≤ deadline)

def staleCallbacks (rows : List ObCallback) (deadline : Instant) (batchSize : Nat) :
    List ObCallback :=
  ((rows.filter fun row => row.state == .originating &&
    expiredLease row.originateLeaseExpiresAt deadline).insertionSort fun left right =>
      left.originateLeaseExpiresAt.getD 0 ≤ right.originateLeaseExpiresAt.getD 0).take batchSize

def staleTargets (rows : List ObCampaignTarget) (deadline : Instant) (batchSize : Nat) :
    List ObCampaignTarget :=
  ((rows.filter fun row => row.state == .originating &&
    expiredLease row.originateLeaseExpiresAt deadline).insertionSort fun left right =>
      left.originateLeaseExpiresAt.getD 0 ≤ right.originateLeaseExpiresAt.getD 0).take batchSize

namespace DialerStore

/-- The statement fails, and its transaction is rolled back. -/
def failing (store : DialerStore) (pid : Nat) : DialerStore :=
  { store with db := store.db.rollback pid }

/-- A change of the dialer's tables; `none` while another transaction is in its way. -/
def writing {α : Type} (store : DialerStore) (pid : Nat) (change : DialerChange) (reply : α) :
    Option (Except DialerError α × DialerStore) :=
  (store.db.write dialerWrites pid change).map fun db => (.ok reply, { store with db := db })

def inserting (store : DialerStore) (pid : Nat) (change : DialerChange) (taken : Bool) :
    Option (Except DialerError Unit × DialerStore) :=
  if taken then some (.error .uniqueViolation, store.failing pid) else store.writing pid change ()

end DialerStore

/-- An update of one callback, if the committed row meets its condition. -/
def updateCallback (store : DialerStore) (pid : Nat) (id : String)
    (expected : Expected ObCallbackState) (state : ObCallbackState) (data : RecordData) :
    Option (Except DialerError (Option ObCallback) × DialerStore) :=
  match Table.lookup ObCallback.id id store.db.tables.callbacks with
  | none => some (.ok none, store)
  | some row =>
      if expected.admits row.state row.version then
        store.writing pid (.moveCallback id state data) (some (row.move state data))
      else some (.ok none, store)

def updateTarget (store : DialerStore) (pid : Nat) (id : String)
    (expected : Expected ObCampaignTargetState) (state : ObCampaignTargetState) (data : RecordData) :
    Option (Except DialerError (Option ObCampaignTarget) × DialerStore) :=
  match Table.lookup ObCampaignTarget.id id store.db.tables.targets with
  | none => some (.ok none, store)
  | some row =>
      if expected.admits row.state row.version then
        store.writing pid (.moveTarget id state data) (some (row.move state data))
      else some (.ok none, store)

/-- A statement reads the committed rows: no transaction here reads after it has written. -/
def answer (host : DialerHost) (pid : Nat) (tick : DialerTick) :
    (request : DialerRequest) → DialerStore →
      Option (Except DialerError request.Reply × DialerStore)
  | .clock, store =>
      if store.now ≤ tick.now then some (.ok tick.now, { store with now := tick.now }) else none
  | .uuid, store =>
      if tick.uuid ∈ store.minted then none
      else some (.ok tick.uuid, { store with minted := tick.uuid :: store.minted })
  | .begin_, store => some (.ok (), { store with db := store.db.begin_ pid })
  | .commit, store => some (.ok (), { store with db := store.db.commit dialerWrites pid })
  | .rollback, store => some (.ok (), { store with db := store.db.rollback pid })
  | .lock key, store =>
      (store.db.lock pid key).map fun db => (.ok (), { store with db := db })
  | .foreign _, store => some (.ok tick.present, store)
  | .scope .., store => some (.ok tick.scope, store)
  | .findReceipt commandId, store =>
      some (.ok (Table.lookup ObDialerCommandInbox.commandId commandId store.db.tables.inbox), store)
  | .findPositiveReceipt actionKey commandType, store =>
      some (.ok (anyOf (store.db.tables.inbox.filter (ofAction actionKey commandType)) tick.pick),
        store)
  | .findActionReceipt actionKey requestHash, store =>
      some (.ok (anyOf (store.db.tables.inbox.filter (ofRequest actionKey requestHash)) tick.pick),
        store)
  | .insertReceipt row, store =>
      store.inserting pid (.receipt row)
        (store.db.tables.inbox.any fun other => other.commandId == row.commandId)
  | .findPendingCallback contactId now, store =>
      some (.ok (anyOf (store.db.tables.callbacks.filter (pendingFor contactId now)) tick.pick),
        store)
  | .createCallback row, store =>
      store.inserting pid (.createCallback row)
        (store.db.tables.callbacks.any fun other => other.id == row.id)
  | .findCallback id, store =>
      some (.ok (Table.lookup ObCallback.id id store.db.tables.callbacks), store)
  | .moveCallback id expected state data, store => updateCallback store pid id expected state data
  | .staleCallbacks deadline batchSize, store =>
      some (.ok (staleCallbacks store.db.tables.callbacks deadline batchSize), store)
  | .findCampaign id, store =>
      some (.ok (Table.lookup ObCampaign.id id store.db.tables.campaigns), store)
  | .findPolicy campaignId, store =>
      some (.ok (Table.lookup ObCampaignAdmissionPolicy.campaignId campaignId
        store.db.tables.policies), store)
  | .findAdmission campaignId contactId, store =>
      some (.ok (store.db.tables.targets.find? fun row =>
        row.campaignId == campaignId && row.contactId == contactId), store)
  | .findCrossCampaign campaignId contactId, store =>
      some (.ok (anyOf (store.db.tables.targets.filter fun row =>
        row.contactId == contactId && row.campaignId != campaignId) tick.pick), store)
  | .createTarget row, store =>
      store.inserting pid (.createTarget row)
        (store.db.tables.targets.any fun other => other.id == row.id ||
          (other.campaignId == row.campaignId && other.contactId == row.contactId))
  | .findTarget id, store =>
      some (.ok (Table.lookup ObCampaignTarget.id id store.db.tables.targets), store)
  | .moveTarget id expected state data, store => updateTarget store pid id expected state data
  | .staleTargets deadline batchSize, store =>
      some (.ok (staleTargets store.db.tables.targets deadline batchSize), store)
  | .gate, store => some (.ok tick.gate, store)
  | .scopeAllowed .., store => some (.ok tick.present, store)
  | .authorize _, store => some (.ok tick.authorization, store)
  | .governance command, store =>
      match execute host.runtime store.governance command tick.now tick.attemptId tick.touchId with
      | .ok (governance, view) => some (.ok view, { store with governance := governance })
      | .error error => some (.error (.runtime error), store)
  | .originate _, store => some (.ok tick.response, store)

def performDialer (host : DialerHost) (pid : Nat) (tick : DialerTick) (request : DialerRequest)
    (store : DialerStore) : Option (Except DialerError request.Reply × DialerStore) :=
  if tick.fails then some (.error .connectionLost, store.failing pid)
  else answer host pid tick request store

inductive DialerElsewhere where
  | runtime (step : RuntimeStep)
  | reserved (row : ReservationRow)
  | campaigns (rows : List ObCampaign)
  | policies (rows : List ObCampaignAdmissionPolicy)

def freshReservation (store : RuntimeStore) (row : ReservationRow) : Bool :=
  !store.reservations.any fun other => other.id == row.id || other.actionKey == row.actionKey

instance (row : ReservationRow) : Decidable (Untouched row) := by
  unfold Untouched
  infer_instance

def DialerStore.elsewhere (host : DialerHost) : DialerElsewhere → DialerStore → Option DialerStore
  | .runtime step, store =>
      some { store with governance := store.governance.next host.runtime step }
  | .reserved row, store =>
      if freshReservation store.governance row && decide (Untouched row) then
        some { store with governance := { store.governance with
          reservations := store.governance.reservations ++ [row] } }
      else none
  | .campaigns rows, store =>
      some { store with db := { store.db with tables := { store.db.tables with campaigns := rows } } }
  | .policies rows, store =>
      some { store with db := { store.db with tables := { store.db.tables with policies := rows } } }

/-- Nothing has been asked of the dialer yet, and governance has reserved nothing for it. -/
def DialerStore.Fresh (store : DialerStore) : Prop :=
  store.db.sessions = [] ∧ store.db.tables.inbox = [] ∧ store.db.tables.callbacks = [] ∧
    store.db.tables.targets = [] ∧ store.governance.reservations = [] ∧
    store.governance.receipts = []

end DContact.Dialer

import DContact.Delivery.LineControlCommands
import DContact.Delivery.LineOutboundAdapter

/-!
# Workers of the LINE channel

Any number of calls of the adapter and of commands of the control plane share the stores. What comes
from outside with a request is its tick: the clock, fresh identifiers, and the answers of the
resolvers and of the provider.
-/

namespace DContact.Delivery

open Lib
open Governance (Instant RuntimeStep RuntimeStore execute)
open LineControlStore (LineRunClosure)

structure LineStore where
  outbox : List DlOutboxEntry
  attempts : List DlProviderSubmissionAttempt
  events : List LineDeliveryLifecycleEvent
  control : LineControlStore
  governance : RuntimeStore

structure LineTick where
  now : Instant
  id : String
  attemptId : String
  touchId : String
  recipient : Option String
  accessToken : Option String
  result : LineTransportResult

def performLine (host : LineHost) (_pid : Nat) (tick : LineTick) :
    (request : LineRequest) → LineStore → Option (Except LineError request.Reply × LineStore)
  | .clock, store => some (.ok tick.now, store)
  | .newId, store => some (.ok tick.id, store)
  | .findByDeliveryId deliveryId, store =>
      some (.ok (findByDeliveryId .lineMessagingApi store.outbox deliveryId), store)
  | .advance deliveryId expected data, store =>
      match advance .lineMessagingApi store.outbox deliveryId expected data with
      | some (reply, outbox) => some (.ok reply, { store with outbox := outbox })
      | none => some (.error .uniqueViolation, store)
  | .listAttempts deliveryId, store => some (.ok (listForDelivery store.attempts deliveryId), store)
  | .recordAttempt input, store =>
      match recordAttempt store.attempts input with
      | .ok (row, attempts) => some (.ok row, { store with attempts := attempts })
      | .error error => some (.error (.attempt error), store)
  | .enqueueEvent event, store =>
      match enqueueEvent store.events event with
      | some events => some (.ok (), { store with events := events })
      | none => some (.error .eventConflict, store)
  | .control request, store =>
      match store.control.perform request with
      | .ok (reply, control) => some (.ok reply, { store with control := control })
      | .error error => some (.error (.control error), store)
  | .governance command, store =>
      match execute host.runtime store.governance command tick.now tick.attemptId tick.touchId with
      | .ok (governance, view) => some (.ok view, { store with governance := governance })
      | .error error => some (.error (.runtime error), store)
  | .resolveRecipient _, store => some (.ok tick.recipient, store)
  | .resolveCredential .., store => some (.ok tick.accessToken, store)
  | .push .., store => some (.ok tick.result, store)

inductive LineCall where
  | submit (command : LineSubmitCommand)
  | reconcile (command : LineSubmitCommand)
  | ensureScope (actor : LineControlActor) (scope : LineGateScope)
  | advanceState (actor : LineControlActor) (gate : DlLineScopeGate) (target : LineRolloutState)
      (configDigest : Option String)
  | lowerState (actor : LineControlActor) (gate : DlLineScopeGate) (target : LineRolloutState)
  | setTechnicalSwitch (actor : LineControlActor) (gate : DlLineScopeGate) (on : Bool)
  | kill (actor : LineControlActor) (gate : DlLineScopeGate) (now : Instant)
  | clearWithApproval (actor : LineControlActor) (gate : DlLineScopeGate) (killClearedRef : String)
  | registerAllowlistEntry (actor : LineControlActor) (command : RegisterLineAllowlistCommand)
  | revokeAllowlistEntry (actor : LineControlActor) (id : String) (now : Instant)
  | registerCredential (actor : LineControlActor) (command : RegisterLineCredentialCommand)
  | verifyAndActivateCredential (actor : LineControlActor) (credentialId channelAccountId : String)
      (now : Instant)
  | revokeCredential (actor : LineControlActor) (credentialId : String)
  | proposeRun (actor : LineControlActor) (command : ProposeLineRunCommand)
  | proposeTeamTrial (actor : LineControlActor) (command : ProposeLineTeamTrialCommand)
  | approveRun (actor : LineControlActor) (runId : String) (now : Instant)
  | closeRun (actor : LineControlActor) (runId : String) (closure : LineRunClosure)

inductive LineAnswer where
  | submission (outcome : LineSubmitOutcome)
  | gate (outcome : LineControlOutcome DlLineScopeGate)
  | allowlistEntry (entry : DlLineAllowlistEntry)
  | credential (outcome : LineControlOutcome DlLineCredentialRef)
  | runs (outcome : LineControlOutcome (List DlLineRunAuthorization))
  | changed (changed : Bool)

def LineControlOutcome.map {α β : Type} (render : α → β) : LineControlOutcome α →
    LineControlOutcome β
  | .applied value => .applied (render value)
  | .stale => .stale
  | .denied code => .denied code

def answering {α : Type} (program : LineProgram α) (render : α → LineAnswer) :
    LineProgram LineAnswer := do
  let value ← program
  pure (render value)

def lineProgramOf (host : LineHost) (digest : LineRunProposalDigestInput → String) :
    LineCall → LineProgram LineAnswer
  | .submit command => answering (submitLine host command) .submission
  | .reconcile command => answering (reconcileLine host command none) .submission
  | .ensureScope actor scope => answering (ensureScope actor scope) fun gate => .gate (.applied gate)
  | .advanceState actor gate target configDigest =>
      answering (advanceState actor gate target configDigest) .gate
  | .lowerState actor gate target => answering (lowerState actor gate target) .gate
  | .setTechnicalSwitch actor gate on => answering (setTechnicalSwitch actor gate on) .gate
  | .kill actor gate now => answering (killByActor actor gate now) fun gate => .gate (.applied gate)
  | .clearWithApproval actor gate killClearedRef =>
      answering (clearWithApproval actor gate killClearedRef) .gate
  | .registerAllowlistEntry actor command =>
      answering (registerAllowlistEntry actor command) .allowlistEntry
  | .revokeAllowlistEntry actor id now => answering (revokeAllowlist actor id now) .changed
  | .registerCredential actor command =>
      answering (registerCredential actor command) fun credential => .credential (.applied credential)
  | .verifyAndActivateCredential actor credentialId channelAccountId now =>
      answering (verifyAndActivateCredential actor credentialId channelAccountId now) .credential
  | .revokeCredential actor credentialId => answering (revokeCredential actor credentialId) .changed
  | .proposeRun actor command =>
      answering (proposeRun digest actor command) fun outcome =>
        .runs (outcome.map fun run => [run])
  | .proposeTeamTrial actor command => answering (proposeTeamTrial digest actor command) .runs
  | .approveRun actor runId now =>
      answering (approveRun actor runId now) fun outcome => .runs (outcome.map fun run => [run])
  | .closeRun actor runId closure => answering (closeRun actor runId closure) .changed

/-- What others do: their commands to governance, and new deliveries of the channel. -/
inductive LineElsewhere where
  | runtime (step : RuntimeStep)
  | enqueued (entry : DlOutboxEntry)

def freshLineEntry (outbox : List DlOutboxEntry) (entry : DlOutboxEntry) : Bool :=
  entry.adapter = .lineMessagingApi && entry.state = .queued && entry.outcome.isNone &&
    entry.outcomeRef.isNone && !outbox.any fun other => other.deliveryId = entry.deliveryId ||
      other.command.actionKey = entry.command.actionKey ||
      other.providerRequestKey = entry.providerRequestKey

def LineStore.elsewhere (host : LineHost) : LineElsewhere → LineStore → Option LineStore
  | .runtime step, store =>
      some { store with governance := store.governance.next host.runtime step }
  | .enqueued entry, store =>
      if freshLineEntry store.outbox entry then
        some { store with outbox := store.outbox ++ [entry] }
      else none

def lineMachine (host : LineHost) (digest : LineRunProposalDigestInput → String) :
    Machine LineStore LineTick LineRequest LineRequest.Reply LineCall LineElsewhere LineError
      LineAnswer where
  perform := performLine host
  others := LineStore.elsewhere host
  program := lineProgramOf host digest

/-- Nothing is there but reservations that no command has touched. -/
def LineStore.Fresh (host : LineHost) (store : LineStore) : Prop :=
  store.outbox = [] ∧ store.attempts = [] ∧ store.events = [] ∧
    store.control = ⟨[], [], [], [], []⟩ ∧
    (Governance.runtimeSystem host.runtime).init store.governance ∧ store.governance.receipts = []

abbrev LineWorkers :=
  Workers LineStore LineRequest LineRequest.Reply LineCall LineError LineAnswer

abbrev LineWorld := World LineStore LineRequest LineRequest.Reply LineCall LineError LineAnswer

abbrev LinePerformed := Performed LineRequest LineRequest.Reply LineError

abbrev LineStep := WorkerStep LineTick LineCall LineElsewhere

def lineDeliveries (host : LineHost) (digest : LineRunProposalDigestInput → String) :
    System LineWorkers LineStep :=
  Workers.system (lineMachine host digest) (LineStore.Fresh host)

end DContact.Delivery

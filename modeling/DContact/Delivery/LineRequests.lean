import DContact.Delivery.DeliveryOutbox
import DContact.Delivery.LineProviderAttempts
import DContact.Lib.Workers

/-!
# What the LINE programs ask for

Every request is one transaction, one answer of a resolver, or one push. The programs of the control
plane and of the outbound adapter are made of these requests.
-/

namespace DContact.Delivery

open Lib
open Governance (Instant RuntimeCommand RuntimeError SettlementView)
open Journey.Send (DlDeliveryState)

inductive LineControlActorRole where
  | tenantAdmin
  | compliance
  | platformOperator
  | system
  deriving DecidableEq

structure LineControlActor where
  role : LineControlActorRole
  ref : String

inductive LineControlAction where
  | advanceState
  | lowerState
  | setTechnicalSwitch
  | kill
  | clearKill
  | registerAllowlist
  | revokeAllowlist
  | registerCredential
  | activateCredential
  | revokeCredential
  | proposeRun
  | approveRunTenantAdmin
  | approveRunCompliance
  | closeRun
  | executeRun

/-- `LINE_CONTROL_AUTHORITY` -/
def lineControlAuthority : LineControlAction → List LineControlActorRole
  | .advanceState => [.compliance]
  | .lowerState => [.compliance, .platformOperator]
  | .setTechnicalSwitch => [.platformOperator]
  | .kill => [.tenantAdmin, .compliance, .platformOperator, .system]
  | .clearKill => [.compliance]
  | .registerAllowlist => [.tenantAdmin]
  | .revokeAllowlist => [.tenantAdmin, .compliance]
  | .registerCredential => [.platformOperator]
  | .activateCredential => [.platformOperator]
  | .revokeCredential => [.platformOperator, .compliance]
  | .proposeRun => [.platformOperator]
  | .approveRunTenantAdmin => [.tenantAdmin]
  | .approveRunCompliance => [.compliance]
  | .closeRun => [.platformOperator, .compliance]
  | .executeRun => [.platformOperator]

def mayPerform (role : LineControlActorRole) (action : LineControlAction) : Bool :=
  (lineControlAuthority action).contains role

open LineControlStore (LineGatePatch LineRunApprovalRole ConsumeLineRunResult LineRunClosure)

inductive LineControlRequest where
  | ensureGate (id : String) (scope : LineGateScope)
  | findGate (scope : LineGateScope)
  | compareAndSetGate (gateId : String) (expectedVersion : Nat) (patch : LineGatePatch)
  | killGate (gateId : String) (reason : LineKillReason) (now : Instant)
  | clearGateKill (gateId : String) (expectedVersion : Nat) (killClearedRef : String)
  | addAllowlistEntry (scope : LineGateScope) (entry : DlLineAllowlistEntry)
  | findAllowlistEntry (id : String)
  | findAllowlistEntryByTuple (gateId recipientFingerprint contentDigest configDigest : String)
  | revokeAllowlistEntry (id : String) (now : Instant)
  | registerCredentialRef (credential : DlLineCredentialRef)
  | findCredentialRef (id : String)
  | findActiveCredentialRef (channelAccountId : String) (secret : Bool)
  | activateCredentialRef (id : String)
  | revokeCredentialRef (id : String)
  | findRun (id : String)
  | proposeRun (run : DlLineRunAuthorization)
  | approveRun (id : String) (role : LineRunApprovalRole) (actor : String)
  | consumeRun (id deliveryId : String) (now : Instant)
  | closeRun (id : String) (closure : LineRunClosure)
  | reserveCap (input : ReserveLineCapInput)
  | settleCap (deliveryId : String) (capKind : LineCapKind) (attemptNo : Nat)
      (settlement : LineCapSettlement) (now : Instant)
  | listActiveCapEntries (gateId : String) (capKind : LineCapKind)
  deriving DecidableEq

def LineControlRequest.Reply : LineControlRequest → Type
  | .ensureGate .. => DlLineScopeGate
  | .findGate _ => Option DlLineScopeGate
  | .compareAndSetGate .. => Option DlLineScopeGate
  | .killGate .. => DlLineScopeGate
  | .clearGateKill .. => Option DlLineScopeGate
  | .addAllowlistEntry .. => DlLineAllowlistEntry
  | .findAllowlistEntry _ => Option DlLineAllowlistEntry
  | .findAllowlistEntryByTuple .. => Option DlLineAllowlistEntry
  | .revokeAllowlistEntry .. => Bool
  | .registerCredentialRef _ => DlLineCredentialRef
  | .findCredentialRef _ => Option DlLineCredentialRef
  | .findActiveCredentialRef .. => Option DlLineCredentialRef
  | .activateCredentialRef _ => Option DlLineCredentialRef
  | .revokeCredentialRef _ => Bool
  | .findRun _ => Option DlLineRunAuthorization
  | .proposeRun _ => DlLineRunAuthorization
  | .approveRun .. => Option DlLineRunAuthorization
  | .consumeRun .. => ConsumeLineRunResult
  | .closeRun .. => Bool
  | .reserveCap _ => ReserveLineCapResult
  | .settleCap .. => Bool
  | .listActiveCapEntries .. => List DlLineCapLedgerEntry

/-- The transaction of a request: its answer, and the store after. A transaction that fails leaves
the store as it is. -/
def LineControlStore.perform (store : LineControlStore) :
    (request : LineControlRequest) → Except LineControlError (request.Reply × LineControlStore)
  | .ensureGate id scope => store.ensureGate id scope
  | .findGate scope => .ok (store.findGate scope, store)
  | .compareAndSetGate gateId expectedVersion patch =>
      store.compareAndSetGate gateId expectedVersion patch
  | .killGate gateId reason now => store.killGate gateId reason now
  | .clearGateKill gateId expectedVersion killClearedRef =>
      store.clearGateKill gateId expectedVersion killClearedRef
  | .addAllowlistEntry scope entry => store.addAllowlistEntry scope entry
  | .findAllowlistEntry id => .ok (store.findAllowlistEntry id, store)
  | .findAllowlistEntryByTuple gateId recipientFingerprint contentDigest configDigest =>
      .ok (store.findAllowlistEntryByTuple gateId recipientFingerprint contentDigest configDigest,
        store)
  | .revokeAllowlistEntry id now => .ok (store.revokeAllowlistEntry id now)
  | .registerCredentialRef credential => store.registerCredentialRef credential
  | .findCredentialRef id => .ok (store.findCredentialRef id, store)
  | .findActiveCredentialRef channelAccountId secret =>
      .ok (store.findActiveCredentialRef channelAccountId secret, store)
  | .activateCredentialRef id => .ok (store.activateCredentialRef id)
  | .revokeCredentialRef id => .ok (store.revokeCredentialRef id)
  | .findRun id => .ok (store.findRun id, store)
  | .proposeRun run => store.proposeRun run
  | .approveRun id role actor => .ok (store.approveRun id role actor)
  | .consumeRun id deliveryId now => store.consumeRun id deliveryId now
  | .closeRun id closure => .ok (store.closeRun id closure)
  | .reserveCap input => store.reserveCap input
  | .settleCap deliveryId capKind attemptNo settlement now =>
      store.settleCap deliveryId capKind attemptNo settlement now
  | .listActiveCapEntries gateId capKind => .ok (store.listActiveCapEntries gateId capKind, store)

structure LinePushRequest where
  recipient : String
  messages : List String
  retryKey : String
  accessToken : String
  deriving DecidableEq

/-- What a push is made for. Nothing of it is sent. -/
structure LinePushOccasion where
  deliveryId : String
  attemptNo : Nat
  runAuthorizationId : String
  recipientProtectedRef : String
  contentGateDigest : String
  credentialRefId : String
  credentialVersion : Nat
  deriving DecidableEq

inductive LineRequest where
  | clock
  | newId
  | findByDeliveryId (deliveryId : String)
  | advance (deliveryId : String) (expected : List DlDeliveryState) (data : OutboxPatch)
  | listAttempts (deliveryId : String)
  | recordAttempt (input : DlProviderSubmissionAttempt)
  | enqueueEvent (event : LineDeliveryLifecycleEvent)
  | control (request : LineControlRequest)
  | governance (command : RuntimeCommand)
  | resolveRecipient (recipientProtectedRef : String)
  | resolveCredential (credentialRefId : String) (version : Nat)
  | push (occasion : LinePushOccasion) (request : LinePushRequest)
  deriving DecidableEq

def LineRequest.Reply : LineRequest → Type
  | .clock => Instant
  | .newId => String
  | .findByDeliveryId _ => Option DlOutboxEntry
  | .advance .. => Option DlOutboxEntry
  | .listAttempts _ => List DlProviderSubmissionAttempt
  | .recordAttempt _ => DlProviderSubmissionAttempt
  | .enqueueEvent _ => Unit
  | .control request => request.Reply
  | .governance _ => SettlementView
  | .resolveRecipient _ => Option String
  | .resolveCredential .. => Option String
  | .push .. => LineTransportResult

inductive LineError where
  | notFound (deliveryId : String)
  | authorization (role : LineControlActorRole) (action : LineControlAction)
  | fixtureUnknown (contentRef : String)
  | control (error : LineControlError)
  | attempt (error : LineAttemptError)
  | eventConflict
  | uniqueViolation
  | runtime (error : RuntimeError)

abbrev LineProgram := Program LineRequest LineRequest.Reply LineError

namespace LineProgram

def ask (request : LineRequest) : LineProgram request.Reply := Program.request request

def askControl (request : LineControlRequest) : LineProgram request.Reply := ask (.control request)

def readClock : LineProgram Instant := ask .clock

def newId : LineProgram String := ask .newId

/-- `assertControlAuthority` -/
def assertControlAuthority (role : LineControlActorRole) (action : LineControlAction) :
    LineProgram Unit :=
  if mayPerform role action then pure () else .throw (.authorization role action)

end LineProgram

end DContact.Delivery

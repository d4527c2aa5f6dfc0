import DContact.Dialer.DialerOriginateBarrier

/-!
# Workers of the dialer

Any number of calls of the command port, of the barrier and of the reconciler run beside one
another, statement by statement.
-/

namespace DContact.Dialer

open Lib
open Journey (OwnerCommandPayload)

inductive DialerCall where
  | persist (command : OwnerCommandPayload)
  | query (query : OwnerActionQuery)
  | originateCampaignTarget (campaignTargetId correlationId : String)
  | originateCallback (callbackId correlationId : String)
  | reconcile (correlationId : String) (batchSize : Nat)
  deriving DecidableEq

inductive DialerAnswer where
  | persisted (persisted : OwnerCommandPersisted)
  | result (result : Option OwnerResultPayload)
  | outcome (outcome : OriginateOutcome)
  | evidence (evidence : List OriginateReconcileEvidence)
  deriving DecidableEq

def programOf (host : DialerHost) : DialerCall → DialerProgram DialerAnswer
  | .persist command => do
      let persisted ← persistCommand host command
      pure (.persisted persisted)
  | .query query => do
      let result ← queryAction query
      pure (.result result)
  | .originateCampaignTarget campaignTargetId correlationId => do
      let outcome ← originateCampaignTarget host campaignTargetId correlationId
      pure (.outcome outcome)
  | .originateCallback callbackId correlationId => do
      let outcome ← originateCallback host callbackId correlationId
      pure (.outcome outcome)
  | .reconcile correlationId batchSize => do
      let evidence ← reconcileExpired correlationId batchSize
      pure (.evidence evidence)

def dialerMachine (host : DialerHost) : Machine DialerStore DialerTick DialerRequest
    DialerRequest.Reply DialerCall DialerElsewhere DialerError DialerAnswer where
  perform := performDialer host
  others := DialerStore.elsewhere host
  program := programOf host

abbrev DialerWorld := World DialerStore DialerRequest DialerRequest.Reply DialerCall DialerError
  DialerAnswer

abbrev DialerWorkers := Workers DialerStore DialerRequest DialerRequest.Reply DialerCall DialerError
  DialerAnswer

abbrev DialerHistory := History DialerRequest DialerRequest.Reply DialerError

abbrev DialerCondition := Condition DialerStore DialerTick DialerRequest DialerRequest.Reply
  DialerCall DialerElsewhere DialerError DialerAnswer

section Pilot

open Governance (lineOptions)

def pilotHost : DialerHost where
  tenantId := "tenant"
  runtime := lineOptions
  parseDate _ := some 100
  callbackEarlyToleranceMs := 100
  originateLeaseMs := 10

def pilotStore : DialerStore where
  db :=
    { tables :=
        { inbox := []
          callbacks := []
          targets := []
          campaigns := [⟨"campaign", .active⟩, ⟨"other campaign", .active⟩]
          policies := [⟨"campaign", 1, false⟩, ⟨"other campaign", 1, false⟩] }
      sessions := [] }
  governance := ⟨[], [], [], [], []⟩
  minted := []
  now := 0

theorem pilotStore_fresh : pilotStore.Fresh := ⟨rfl, rfl, rfl, rfl, rfl, rfl⟩

/-- Everything is answered in favour of the dialer. -/
def pilotTick (now : Governance.Instant) (uuid : String) : DialerTick where
  fails := false
  now := now
  uuid := uuid
  present := true
  scope := .allow
  pick := 0
  gate := .scopedInternalEnabled
  authorization := ⟨.allow, some "reservation"⟩
  attemptId := "attempt"
  touchId := "touch"
  response := .accepted

def pilotCommand (commandId actionKey requestHash : String) (intent : Journey.OwnerCommandIntent) :
    OwnerCommandPayload where
  commandId := commandId
  actionKey := actionKey
  requestHash := requestHash
  journeyId := "journey"
  journeyVersion := 1
  enrollmentId := "enrollment"
  stepId := "step"
  sourceOutcome := ⟨"outcome", "outcome", 1⟩
  interactionId := "interaction"
  contactId := "contact"
  sourceOwnerTeamId := "team"
  targetOwnerTeamId := "team"
  expectedOwnerVersion := none
  intent := intent

/-- What governance has reserved for the call of a callback. -/
def pilotReservation (kind : TargetKind) (id : String) : Governance.ReservationRow :=
  { Governance.lineReservation with
    channel := .voice
    purpose := outreachPurpose kind
    actionKey := originateActionKey kind id }

def pilotRequests (pid requests : Nat) (tick : DialerTick) :
    List (WorkerStep DialerTick DialerCall DialerElsewhere) :=
  List.replicate requests (.perform pid tick)

def pilotRun (pid requests : Nat) (tick : DialerTick) :
    List (WorkerStep DialerTick DialerCall DialerElsewhere) :=
  List.replicate requests (.perform pid tick) ++ [.finish pid]

end Pilot

end DContact.Dialer

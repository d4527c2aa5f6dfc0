import DContact.Router.InboundVoiceRouter

/-!
# Router workers

Any number of router workers run beside one another, statement by statement.
-/

namespace DContact.Router

open Lib
open Governance (Instant)

inductive RouterCall where
  | handle (event : TelephonyCallEvent)
  | processDue
  | declineOffer (command : DeclineOfferCommand)
  | completeWrapUp (command : CompleteWrapUpCommand)

inductive RouterAnswer where
  | routed (result : InboundVoiceRoutingResult)
  | due (work : DueWork)

def routerProgram (host : RouterHost) : RouterCall → RouterProgram RouterAnswer
  | .handle event => do
      let result ← handle host event
      pure (.routed result)
  | .processDue => do
      let work ← processDue host
      pure (.due work)
  | .declineOffer command => do
      let result ← declineOffer host command
      pure (.routed result)
  | .completeWrapUp command => do
      let result ← completeWrapUp command
      pure (.routed result)

/-- The workers of some programs on the router's tables. -/
def machineOf {κ α : Type} (host : RouterHost) (program : κ → RouterProgram α) :
    Machine RouterStore RouterTick RouterRequest RouterRequest.Reply κ Empty RouterError α where
  perform := performRouter host
  others label := nomatch label
  program := program

abbrev routerMachine (host : RouterHost) : Machine RouterStore RouterTick RouterRequest
    RouterRequest.Reply RouterCall Empty RouterError RouterAnswer :=
  machineOf host (routerProgram host)

/-- The call that an entry of the log is about. -/
def StateReason.about : StateReason → Option String
  | .interaction id | .cooldown id => some id
  | .offerCooldownElapsed | .workSession _ | .other _ => none

def AgentStateLog.about (entry : AgentStateLog) : Option String := entry.reason.about

structure RouterStore.Fresh (store : RouterStore) : Prop where
  calls : store.interactions = []
  leases : store.leases = []
  idle : store.sessions = []
  distinct : (store.states.map AgentStateLog.id).Nodup
  below : ∀ entry ∈ store.states, entry.id < store.nextEntry
  before : ∀ entry ∈ store.states, entry.about = none

instance (store : RouterStore) : Decidable store.Fresh :=
  decidable_of_iff (store.interactions = [] ∧ store.leases = [] ∧ store.sessions = [] ∧
      (store.states.map AgentStateLog.id).Nodup ∧
      (∀ entry ∈ store.states, entry.id < store.nextEntry) ∧
      ∀ entry ∈ store.states, entry.about = none)
    ⟨fun ⟨calls, leases, idle, distinct, below, before⟩ =>
      ⟨calls, leases, idle, distinct, below, before⟩,
    fun fresh => ⟨fresh.calls, fresh.leases, fresh.idle, fresh.distinct, fresh.below, fresh.before⟩⟩

abbrev RouterWorkers := Workers RouterStore RouterRequest RouterRequest.Reply RouterCall RouterError
  RouterAnswer

abbrev RouterWorkerStep := WorkerStep RouterTick RouterCall Empty

def routerRuns (host : RouterHost) : System RouterWorkers RouterWorkerStep :=
  Workers.system (routerMachine host) RouterStore.Fresh

section Pilot

/-- One queue; an offer that is not answered within a second goes to the next agent. -/
def pilotQueue : Queue where
  id := "support"
  isActive := true
  managed := false
  teamId := none
  voiceWrapupPolicy := .legacy
  offerTimeoutSec := some 1
  offerTimeoutAction := some .immediateRequeue
  offerCooldownSec := some 60
  maxWaitSec := none
  maxWaitAction := none
  routingStrategy := .longestAvailableIdle
  skills := []

def pilotAgent (id : String) : User := ⟨id, true, true, some "100", none, []⟩

def pilotHost : RouterHost where
  defaultOfferTimeoutSec := 20
  defaultOfferTimeoutAction := .cooldownRequeue
  defaultOfferCooldownSec := 60
  defaultMaxWaitSec := none
  defaultMaxWaitAction := .wait
  queues := [pilotQueue]
  destinations :=
    [⟨"line", "1500", .directQueue, "support", none, true⟩,
      ⟨"menu", "1600", .ivr, "support", some ⟨5, [], [("1", "support")]⟩, true⟩]
  users := [pilotAgent "ann", pilotAgent "bob"]
  lowerCase := id

def pilotStore : RouterStore where
  interactions := []
  states :=
    [⟨0, "ann", .available, .other "login", 0, none⟩, ⟨1, "bob", .available, .other "login", 1, none⟩]
  leases := []
  nextEntry := 2
  minted := []
  sessions := []

def pilotTick (now : Instant) (uuid : String) : RouterTick := ⟨false, now, uuid, [], []⟩

def pilotEvent (type : TelephonyEventType) (callUuid destination : String) : TelephonyCallEvent :=
  ⟨type, callUuid, callUuid, destination, none, none⟩

def pilotRequests (pid requests : Nat) (tick : RouterTick) : List RouterWorkerStep :=
  List.replicate requests (.perform pid tick)

end Pilot

end DContact.Router

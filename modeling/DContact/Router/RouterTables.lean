import DContact.Governance.LocalTime
import DContact.Lib.Sessions
import DContact.Lib.Versions
import Mathlib.Data.List.Sort

/-!
# Tables of the voice router

The calls, the log of agent states and the leases of work sessions of one tenant. A transaction has
its own versions of the rows it has written, which nobody else may write before it ends, its own log
entries, and the locks of users, of log entries and of leases that it has taken.
-/

namespace DContact.Router

open Lib Session
open Governance (Instant)

inductive InteractionState where
  | queued
  | assigned
  | active
  | wrapup
  | completed
  | abandoned
  deriving DecidableEq

inductive IvrInputStage where
  | voice
  | dtmf
  deriving DecidableEq

inductive VoiceWrapupPolicy where
  | legacy
  | voiceNoteV1
  deriving DecidableEq

structure Interaction where
  id : String
  externalId : String
  state : InteractionState
  queueId : Option String
  agentId : Option String
  voiceWrapupPolicy : VoiceWrapupPolicy
  wrapUpCode : Option String
  queuedAt : Instant
  assignedAt : Option Instant
  answeredAt : Option Instant
  endedAt : Option Instant
  offerExpiresAt : Option Instant
  requeueAt : Option Instant
  ivrDestinationId : Option String
  ivrStage : Option IvrInputStage
  ivrAttempts : Int
  ivrInputExpiresAt : Option Instant

inductive AgentState where
  | offline
  | available
  | reserved
  | busy
  | acw
  | break_
  deriving DecidableEq

inductive StateReason where
  | interaction (id : String)
  | cooldown (id : String)
  | offerCooldownElapsed
  | workSession (reason : String)
  | other (text : String)
  deriving DecidableEq

structure AgentStateLog where
  id : Nat
  userId : String
  state : AgentState
  reason : StateReason
  startedAt : Instant
  endedAt : Option Instant
  deriving DecidableEq

structure AgentWorkSessionLease where
  id : String
  userId : String
  hostOrigin : Option String
  expiresAt : Instant
  releasedAt : Option Instant
  releaseReason : Option String

inductive OfferTimeoutAction where
  | immediateRequeue
  | cooldownRequeue
  | abandon
  deriving DecidableEq

inductive MaxWaitAction where
  | wait
  | callback
  | voicemail

inductive RoutingStrategy where
  | longestAvailableIdle
  | longestSinceLastInteraction
  | roundRobin

structure Queue where
  id : String
  isActive : Bool
  managed : Bool
  teamId : Option String
  voiceWrapupPolicy : VoiceWrapupPolicy
  offerTimeoutSec : Option Int
  offerTimeoutAction : Option OfferTimeoutAction
  offerCooldownSec : Option Int
  maxWaitSec : Option Int
  maxWaitAction : Option MaxWaitAction
  routingStrategy : RoutingStrategy
  skills : List (String × Int)

structure IvrConfiguration where
  inputTimeoutSec : Int
  voiceRoutes : List (String × String)
  dtmfRoutes : List (String × String)

inductive EntryMode where
  | directQueue
  | ivr
  deriving DecidableEq

/-- A destination; its configuration is absent where the stored JSON has not the shape of one. -/
structure VoiceDestination where
  id : String
  destination : String
  entryMode : EntryMode
  queueId : String
  ivrConfig : Option IvrConfiguration
  isActive : Bool

structure User where
  id : String
  isAgent : Bool
  isActive : Bool
  extension : Option String
  teamId : Option String
  skills : List (String × Int)

/-- The configuration of the tenant, and its lower-casing of what a caller says. -/
structure RouterHost where
  defaultOfferTimeoutSec : Int
  defaultOfferTimeoutAction : OfferTimeoutAction
  defaultOfferCooldownSec : Int
  defaultMaxWaitSec : Option Int
  defaultMaxWaitAction : MaxWaitAction
  queues : List Queue
  destinations : List VoiceDestination
  users : List User
  lowerCase : String → String

namespace RouterHost

def queue? (host : RouterHost) (id : String) : Option Queue :=
  host.queues.find? fun queue => queue.id == id

/-- The call is in a queue whose `voiceConfigVersion` is null. -/
def inLegacyQueue (host : RouterHost) (row : Interaction) : Bool :=
  row.queueId.any fun id => (host.queue? id).any fun queue => !queue.managed

/-- The call is in a queue whose `voiceConfigVersion` is 1. -/
def inManagedQueue (host : RouterHost) (row : Interaction) : Bool :=
  row.queueId.any fun id => (host.queue? id).any fun queue => queue.managed

def voiceDestination? (host : RouterHost) (destination : String) : Option VoiceDestination :=
  host.destinations.find? fun row => row.destination == destination

end RouterHost

/-- `ORDER BY started_at DESC, id DESC`, read upwards. -/
def AgentStateLog.before (left right : AgentStateLog) : Prop :=
  left.startedAt < right.startedAt ∨ (left.startedAt = right.startedAt ∧ left.id < right.id)

instance (left right : AgentStateLog) : Decidable (left.before right) := by
  unfold AgentStateLog.before
  infer_instance

/-- The first row of the lateral join: no other entry of the agent comes after it. -/
def latestState (states : List AgentStateLog) (userId : String) : Option AgentStateLog :=
  states.find? fun entry => entry.userId == userId &&
    states.all fun other => other.userId != userId || !decide (entry.before other)

structure RouterTransaction where
  written : List Interaction
  logged : List AgentStateLog
  leases : List AgentWorkSessionLease
  users : List String
  entries : List Nat

def RouterTransaction.empty : RouterTransaction := ⟨[], [], [], [], []⟩

structure RouterStore where
  interactions : List Interaction
  states : List AgentStateLog
  leases : List AgentWorkSessionLease
  nextEntry : Nat
  minted : List String
  sessions : List (Session RouterTransaction)

namespace RouterStore

variable (store : RouterStore)

def inside (pid : Nat) : Option RouterTransaction := Session.find store.sessions pid

def calls (work : RouterTransaction) : List Interaction :=
  Versions.overlay Interaction.id work.written store.interactions

def log (work : RouterTransaction) : List AgentStateLog := store.states ++ work.logged

def leasesOf (work : RouterTransaction) : List AgentWorkSessionLease :=
  Versions.overlay AgentWorkSessionLease.id work.leases store.leases

def working (pid : Nat) (work : RouterTransaction) : RouterStore :=
  { store with sessions := Session.replace store.sessions pid work }

def rollback (pid : Nat) : RouterStore :=
  { store with sessions := Session.drop store.sessions pid }

def commit (pid : Nat) (work : RouterTransaction) : RouterStore :=
  { store with
    interactions := store.calls work
    states := store.log work
    leases := store.leasesOf work
    sessions := Session.drop store.sessions pid }

def callLocked (pid : Nat) (id : String) : Bool :=
  Session.others store.sessions pid fun work => work.written.any fun row => row.id == id

def userLocked (pid : Nat) (id : String) : Bool :=
  Session.others store.sessions pid fun work => work.users.contains id

def entryLocked (pid : Nat) (id : Nat) : Bool :=
  Session.others store.sessions pid fun work => work.entries.contains id

/-- Another transaction has written a lease of the agent. -/
def leaseLocked (pid : Nat) (userId : String) : Bool :=
  Session.others store.sessions pid fun work => work.leases.any fun row => row.userId == userId

end RouterStore

variable {row : Interaction}

section Sight

variable {store : RouterStore} {pid other : Nat} {work otherWork : RouterTransaction}
  {version : Interaction} {entry : AgentStateLog}

theorem mem_calls : row ∈ store.calls work ↔ row ∈ work.written ∨
      (row ∈ store.interactions ∧ ¬ Versions.Covers Interaction.id work.written row) :=
  Versions.mem_overlay

theorem mem_log : entry ∈ store.log work ↔ entry ∈ store.states ∨ entry ∈ work.logged :=
  List.mem_append

@[simp] theorem calls_empty : store.calls .empty = store.interactions := Versions.overlay_nil

@[simp] theorem log_empty : store.log .empty = store.states := List.append_nil _

def RouterTransaction.logging (work : RouterTransaction) (entry : AgentStateLog) :
    RouterTransaction :=
  { work with logged := work.logged ++ [entry] }

theorem mem_log_logging {another : AgentStateLog} :
    another ∈ store.log (work.logging entry) ↔ another ∈ store.log work ∨ another = entry := by
  simp [RouterStore.log, RouterTransaction.logging, or_assoc]

def RouterTransaction.writing (work : RouterTransaction) (version : Interaction) :
    RouterTransaction :=
  { work with written := Versions.overlay Interaction.id [version] work.written }

theorem mem_calls_writing : row ∈ store.calls (work.writing version) ↔
      row = version ∨ (row ∈ store.calls work ∧ row.id ≠ version.id) :=
  Versions.mem_overlay_write

theorem mem_writing (mem : row ∈ (work.writing version).written) :
    row = version ∨ (row ∈ work.written ∧ row.id ≠ version.id) := by
  rcases Versions.mem_overlay.mp mem with new | ⟨old, uncovered⟩
  · exact .inl (List.mem_singleton.mp new)
  · refine .inr ⟨old, fun equal => uncovered ⟨version, List.mem_cons_self, equal.symm⟩⟩

theorem not_covered_of_fresh {versions : List Interaction}
    (minted : ∀ row ∈ versions, row.id ∈ store.minted) (fresh : row.id ∉ store.minted) :
    ¬ Versions.Covers Interaction.id versions row := by
  rintro ⟨version, mem, same⟩
  exact fresh (same ▸ minted version mem)

/-- A new version is written besides the others. -/
theorem writing_fresh (minted : ∀ row ∈ work.written, row.id ∈ store.minted)
    (fresh : row.id ∉ store.minted) :
    work.writing row = { work with written := work.written ++ [row] } := by
  have apart : ∀ other ∈ work.written,
      (!decide (Versions.Covers Interaction.id [row] other)) = true := by
    intro other mem
    simp only [Bool.not_eq_true', decide_eq_false_iff_not]
    rintro ⟨version, inside, same⟩
    rw [List.mem_singleton.mp inside] at same
    exact fresh (same ▸ minted other mem)
  unfold RouterTransaction.writing Versions.overlay
  rw [List.filter_eq_self.mpr apart]

end Sight

section Locks

variable {store : RouterStore} {pid other : Nat} {work otherWork : RouterTransaction}

theorem not_others {holds : RouterTransaction → Bool}
    (free : Session.others store.sessions pid holds = false) (differs : other ≠ pid)
    (inside : store.inside other = some otherWork) : holds otherWork = false :=
  others_eq_false.mp free ⟨other, otherWork⟩ (find_mem inside) differs

theorem not_covered {id : String} (free : store.callLocked pid id = false) (differs : other ≠ pid)
    (inside : store.inside other = some otherWork) (same : row.id = id) :
    ¬ Versions.Covers Interaction.id otherWork.written row := by
  rintro ⟨version, mem, equal⟩
  have absent := List.any_eq_false.mp (not_others free differs inside) version mem
  exact absent (beq_iff_eq.mpr (equal.trans same))

theorem inside_working : (store.working pid work).inside pid = some work :=
  find_replace ..

theorem inside_working_of_ne (differs : other ≠ pid) :
    (store.working pid work).inside other = store.inside other :=
  find_replace_of_ne differs

theorem inside_rollback : (store.rollback pid).inside pid = none := find_drop ..

theorem inside_rollback_of_ne (differs : other ≠ pid) :
    (store.rollback pid).inside other = store.inside other :=
  find_drop_of_ne differs

theorem inside_commit : (store.commit pid work).inside pid = none := find_drop ..

theorem inside_commit_of_ne (differs : other ≠ pid) :
    (store.commit pid work).inside other = store.inside other :=
  find_drop_of_ne differs

end Locks

end DContact.Router

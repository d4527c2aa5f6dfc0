import DContact.Lib.Workers
import DContact.Router.InteractionWrites

/-!
# What the router asks

Each statement of a transaction is a request. A statement reads what is committed when it runs,
under the versions of its own transaction; an update waits while another transaction has written the
call it would change. Looking for an agent takes two requests, since the rows of the statement are
locked after its snapshot is taken. A statement may fail, which rolls its transaction back.
-/

namespace DContact.Router

open Lib
open Governance (Instant)

inductive RouterError where
  | voiceConfigV1Required
  | unhandledEventType (type : String)
  | orderingKey
  | noDestination
  | duplicateInteraction
  | notFound
  | missingIvrConfiguration
  | invalidIvrConfiguration
  | wrapUpCodeRequired
  | wrapUpV1Required
  | wrapUpAgent
  | hangupActive
  | unknownQueue
  | workSession (code : String)
  | database

structure AvailableAgent where
  id : String
  extension : String

/-- What a new call is made with. -/
structure CallDraft where
  externalId : String
  queueId : Option String
  ivrDestinationId : Option String
  ivrInputExpiresAt : Option Instant

inductive RouterRequest where
  | now
  | begin_
  | commit
  | rollback
  | findCall (externalId : String)
  | findInteraction (id : String)
  | createCall (draft : CallDraft)
  | update (write : InteractionWrite)
  | logState (userId : String) (state : AgentState) (reason : StateReason)
      (endedAt : Option Instant)
  | scanAgents (queueId : String) (strategy : RoutingStrategy)
  | lockAgent (interactionId : String) (candidates : List AvailableAgent)
  | dueIvrInputs (now : Instant)
  | dueOffers (now : Instant)
  | scanCooldowns (now : Instant)
  | lockEntries (entries : List AgentStateLog)
  | dueRequeues (now : Instant)
  | waiting
  | offersOf (userId : String)
  | busy (userId : String)
  | findOpenLease (userId : String)
  | lockLease (id : String)
  | findLease (id : String)
  | expiredLeases (now : Instant)
  | createLease (userId : String) (hostOrigin : Option String) (expiresAt : Instant)
  | extendLease (id : String) (expiresAt : Instant)
  | closeLease (id userId reason : String) (now : Instant)

/-- Requests that change nothing. -/
def RouterRequest.looks : RouterRequest → Bool
  | .now | .findCall _ | .findInteraction _ | .scanAgents .. | .dueIvrInputs _ | .dueOffers _
  | .scanCooldowns _ | .dueRequeues _ | .waiting | .offersOf _ | .busy _ | .findOpenLease _
  | .findLease _ | .expiredLeases _ => true
  | _ => false

def RouterRequest.Reply : RouterRequest → Type
  | .now => Instant
  | .begin_ | .commit | .rollback | .logState .. | .extendLease .. | .closeLease .. => Unit
  | .findCall _ | .findInteraction _ => Option Interaction
  | .createCall _ => Interaction
  | .update _ | .busy _ => Bool
  | .scanAgents .. => List AvailableAgent
  | .lockAgent .. => Option AvailableAgent
  | .dueIvrInputs _ | .dueOffers _ | .dueRequeues _ | .waiting | .offersOf _ => List Interaction
  | .scanCooldowns _ | .lockEntries _ => List AgentStateLog
  | .findOpenLease _ | .lockLease _ | .findLease _ => Option AgentWorkSessionLease
  | .expiredLeases _ => List AgentWorkSessionLease
  | .createLease .. => AgentWorkSessionLease

/-- What a request meets from outside: a clock, a fresh identifier, the users whose rows were locked
when they were tried, and those with a managed command that is still to be cleaned up. -/
structure RouterTick where
  fails : Bool
  now : Instant
  uuid : String
  skipped : List String
  cleanup : List String

abbrev RouterProgram (α : Type) := Program RouterRequest RouterRequest.Reply RouterError α

def ask (request : RouterRequest) : RouterProgram request.Reply := Program.request request

def stateIn (states : List AgentStateLog) (userId : String) : Option AgentState :=
  (latestState states userId).map AgentStateLog.state

def skilled (user : User) (queue : Queue) : Bool :=
  queue.skills.all fun required =>
    user.skills.any fun skill => skill.1 == required.1 && decide (required.2 ≤ skill.2)

/-- The conditions on a user and a queue that the log has no part in. -/
def serves (host : RouterHost) (cleanup : List String) (queueId : String) (user : User) : Bool :=
  user.isAgent && user.isActive && user.extension.isSome && !cleanup.contains user.id &&
    (host.queue? queueId).any fun queue =>
      (!queue.managed || (queue.teamId.isSome && queue.teamId == user.teamId)) && skilled user queue

/-- `MAX(...)` over the calls of an agent. -/
def lastOf (field : Interaction → Option Instant) (rows : List Interaction) (userId : String) :
    Option Instant :=
  ((rows.filter fun row => row.agentId == some userId).filterMap field).max?

/-- What the routing strategy orders agents by, absent values first. -/
def rank (rows : List Interaction) (states : List AgentStateLog) (strategy : RoutingStrategy)
    (userId : String) : Option Instant :=
  match strategy with
  | .longestAvailableIdle => (latestState states userId).map AgentStateLog.startedAt
  | .longestSinceLastInteraction => lastOf Interaction.endedAt rows userId
  | .roundRobin => lastOf Interaction.assignedAt rows userId

/-- `ORDER BY rank ASC NULLS FIRST, id`. -/
def precedes (left right : Option Instant × String) : Bool :=
  match left.1, right.1 with
  | none, some _ => true
  | some _, none => false
  | none, none => decide (left.2 ≤ right.2)
  | some first, some second => decide (first < second) || (first == second && decide (left.2 ≤ right.2))

def availableAgents (host : RouterHost) (cleanup : List String) (rows : List Interaction)
    (states : List AgentStateLog) (queueId : String) (strategy : RoutingStrategy) :
    List AvailableAgent :=
  let fitting := host.users.filter fun user =>
    serves host cleanup queueId user && stateIn states user.id == some .available
  let sorted := fitting.insertionSort fun left right =>
    precedes (rank rows states strategy left.id, left.id)
      (rank rows states strategy right.id, right.id) = true
  sorted.filterMap fun user => user.extension.map fun extension => ⟨user.id, extension⟩

def expiredCooldowns (states : List AgentStateLog) (now : Instant) : List AgentStateLog :=
  states.filter fun entry =>
    entry.state == .break_ &&
    (match entry.reason with
      | .cooldown _ => true
      | _ => false) &&
    entry.endedAt.any (· ≤ now) &&
    states.all fun later => later.userId != entry.userId || !decide (entry.before later)

namespace RouterStore

/-- The first of the users that nobody else has locked when it is tried. -/
def pickAgent (store : RouterStore) (pid : Nat) (tick : RouterTick)
    (candidates : List AvailableAgent) : Option AvailableAgent :=
  candidates.find? fun agent =>
    !tick.skipped.contains agent.id && !store.userLocked pid agent.id

def freeEntries (store : RouterStore) (pid : Nat) (entries : List AgentStateLog) :
    List AgentStateLog :=
  entries.filter fun entry => !store.entryLocked pid entry.id

/-- The statement fails, and its transaction is rolled back. -/
def failing {α : Type} (store : RouterStore) (pid : Nat) (error : RouterError) :
    Option (Except RouterError α × RouterStore) :=
  some (.error error, store.rollback pid)

def update (host : RouterHost) (store : RouterStore) (pid : Nat) (work : RouterTransaction)
    (write : InteractionWrite) : Option (Except RouterError Bool × RouterStore) :=
  match (store.calls work).find? fun row => row.id == write.id with
  | none => some (.ok false, store)
  | some row =>
      if write.matches_ row then
        if store.callLocked pid row.id then none
        else
          match write with
          | .resolve _ queueId _ _ =>
              if (host.queue? queueId).isNone then store.failing pid .unknownQueue
              else some (.ok true, store.working pid
                { work with
                  written := Versions.overlay Interaction.id [write.apply row] work.written })
          | _ => some (.ok true, store.working pid
              { work with
                written := Versions.overlay Interaction.id [write.apply row] work.written })
      else some (.ok false, store)

/-- A new call; the identifier of the call outside is unique. -/
def create (host : RouterHost) (store : RouterStore) (pid : Nat) (tick : RouterTick)
    (work : RouterTransaction) (draft : CallDraft) :
    Option (Except RouterError Interaction × RouterStore) :=
  if tick.uuid ∈ store.minted then none
  else if Session.others store.sessions pid fun other =>
      other.written.any fun row => row.externalId == draft.externalId then none
  else if (store.calls work).any fun row => row.externalId == draft.externalId then
    store.failing pid .duplicateInteraction
  else
    let row : Interaction :=
      { id := tick.uuid
        externalId := draft.externalId
        state := .queued
        queueId := draft.queueId
        agentId := none
        voiceWrapupPolicy :=
          ((draft.queueId.bind host.queue?).map Queue.voiceWrapupPolicy).getD .legacy
        wrapUpCode := none
        queuedAt := tick.now
        assignedAt := none
        answeredAt := none
        endedAt := none
        offerExpiresAt := none
        requeueAt := none
        ivrDestinationId := draft.ivrDestinationId
        ivrStage := draft.ivrDestinationId.map fun _ => .voice
        ivrAttempts := 0
        ivrInputExpiresAt := draft.ivrInputExpiresAt }
    some (.ok row, { store.working pid { work with written := work.written ++ [row] } with
      minted := tick.uuid :: store.minted })

/-- A new version of the lease of that identifier. -/
def changeLease (store : RouterStore) (pid : Nat) (work : RouterTransaction) (id : String)
    (change : AgentWorkSessionLease → AgentWorkSessionLease) :
    Option (Except RouterError Unit × RouterStore) :=
  match (store.leasesOf work).find? fun row => row.id == id with
  | none => store.failing pid .notFound
  | some row =>
      if store.leaseLocked pid row.userId then none
      else some (.ok (), store.working pid
        { work with
          leases := Versions.overlay AgentWorkSessionLease.id [change row] work.leases })

end RouterStore

def answer (host : RouterHost) (pid : Nat) (tick : RouterTick) (work : RouterTransaction) :
    (request : RouterRequest) → RouterStore →
      Option (Except RouterError request.Reply × RouterStore)
  | .now, store => some (.ok tick.now, store)
  | .begin_, store => some (.ok (), store.working pid .empty)
  | .commit, store => some (.ok (), store.commit pid work)
  | .rollback, store => some (.ok (), store.rollback pid)
  | .findCall externalId, store =>
      some (.ok ((store.calls work).find? fun row => row.externalId == externalId), store)
  | .findInteraction id, store =>
      some (.ok ((store.calls work).find? fun row => row.id == id), store)
  | .createCall draft, store => store.create host pid tick work draft
  | .update write, store => store.update host pid work write
  | .logState userId state reason endedAt, store =>
      some (.ok (), { store.working pid
        { work with logged := work.logged ++
            [⟨store.nextEntry, userId, state, reason, tick.now, endedAt⟩] } with
        nextEntry := store.nextEntry + 1 })
  | .scanAgents queueId strategy, store =>
      some (.ok (availableAgents host tick.cleanup (store.calls work) (store.log work) queueId
        strategy), store)
  | .lockAgent _ candidates, store =>
      match store.pickAgent pid tick candidates with
      | none => some (.ok none, store)
      | some agent => some (.ok (some agent),
          store.working pid { work with users := agent.id :: work.users })
  | .dueIvrInputs now, store =>
      some (.ok ((store.calls work).filter fun row => row.state == .queued && row.ivrStage.isSome &&
        row.ivrInputExpiresAt.any (· ≤ now) && (row.queueId.isNone || host.inLegacyQueue row)), store)
  | .dueOffers now, store =>
      some (.ok ((store.calls work).filter fun row => row.state == .assigned &&
        row.offerExpiresAt.any (· ≤ now) && host.inLegacyQueue row), store)
  | .scanCooldowns now, store => some (.ok (expiredCooldowns (store.log work) now), store)
  | .lockEntries entries, store =>
      some (.ok (store.freeEntries pid entries), store.working pid
        { work with
          entries := (store.freeEntries pid entries).map AgentStateLog.id ++ work.entries })
  | .dueRequeues now, store =>
      some (.ok ((store.calls work).filter fun row => row.state == .queued &&
        row.requeueAt.any (· ≤ now) && host.inLegacyQueue row), store)
  | .waiting, store =>
      some (.ok ((store.calls work).filter fun row => row.state == .queued && host.inLegacyQueue row),
        store)
  | .offersOf userId, store =>
      some (.ok ((store.calls work).filter fun row => row.agentId == some userId &&
        row.state == .assigned), store)
  | .busy userId, store =>
      some (.ok ((store.calls work).any fun row => row.agentId == some userId &&
        (row.state == .active || row.state == .wrapup)), store)
  | .findOpenLease userId, store =>
      some (.ok ((store.leasesOf work).find? fun row => row.userId == userId &&
        row.releasedAt.isNone), store)
  | .lockLease id, store =>
      match (store.leasesOf work).find? fun row => row.id == id with
      | none => some (.ok none, store)
      | some row =>
          if store.leaseLocked pid row.userId then none
          else if row.releasedAt.isSome then some (.ok none, store)
          else some (.ok (some row), store.working pid
            { work with leases := Versions.overlay AgentWorkSessionLease.id [row] work.leases })
  | .findLease id, store => some (.ok ((store.leasesOf work).find? fun row => row.id == id), store)
  | .expiredLeases now, store =>
      some (.ok ((store.leasesOf work).filter fun row => row.releasedAt.isNone &&
        decide (row.expiresAt ≤ now)), store)
  | .createLease userId hostOrigin expiresAt, store =>
      if tick.uuid ∈ store.minted || store.leaseLocked pid userId then none
      else if (store.leasesOf work).any fun row => row.userId == userId && row.releasedAt.isNone then
        store.failing pid (.workSession "WORK_SESSION_HELD")
      else
        let row : AgentWorkSessionLease := ⟨tick.uuid, userId, hostOrigin, expiresAt, none, none⟩
        some (.ok row, { store.working pid { work with leases := work.leases ++ [row] } with
          minted := tick.uuid :: store.minted })
  | .extendLease id expiresAt, store =>
      store.changeLease pid work id fun row => { row with expiresAt := expiresAt }
  | .closeLease id _ reason now, store =>
      store.changeLease pid work id fun row =>
        { row with releasedAt := some now, releaseReason := some reason }

/-- A request of the router; all but the clock and the begin of a transaction are made inside one. -/
def performRouter (host : RouterHost) (pid : Nat) (tick : RouterTick) (request : RouterRequest)
    (store : RouterStore) : Option (Except RouterError request.Reply × RouterStore) :=
  if tick.fails then store.failing pid .database
  else
    match request with
    | .now => some (.ok tick.now, store)
    | .begin_ => some (.ok (), store.working pid .empty)
    | request =>
        match store.inside pid with
        | some work => answer host pid tick work request store
        | none => none

variable {host : RouterHost} {pid : Nat} {store : RouterStore} {work : RouterTransaction}
  {tick : RouterTick} {request : RouterRequest}

theorem performRouter_inside (inside : store.inside pid = some work) :
    performRouter host pid tick request store =
      if tick.fails then store.failing pid .database else answer host pid tick work request store := by
  cases request <;> simp [performRouter, answer, inside]

variable {after : RouterStore}

theorem answer_of_looks {reply : Except RouterError request.Reply} (looks : request.looks = true)
    (answered : answer host pid tick work request store = some (reply, after)) : after = store := by
  cases request <;> first | (cases answered; rfl) | cases looks

/-- What an update answers and what it leaves. -/
theorem update_cases {write : InteractionWrite} {reply : Except RouterError Bool}
    (updated : store.update host pid work write = some (reply, after)) :
    (reply = .ok false ∧ after = store ∧
      ∀ row ∈ (store.calls work).find? fun row => row.id == write.id, write.matches_ row = false) ∨
    (∃ row, ((store.calls work).find? fun row => row.id == write.id) = some row ∧
      write.matches_ row = true ∧ store.callLocked pid row.id = false ∧ reply = .ok true ∧
      after = store.working pid (work.writing (write.apply row))) ∨
    (∃ error, reply = .error error ∧ after = store.rollback pid) := by
  unfold RouterStore.update at updated
  split at updated
  next absent =>
    cases updated
    exact .inl ⟨rfl, rfl, fun row found => by rw [absent] at found; cases found⟩
  next row found =>
    split at updated
    next matched =>
      split at updated
      next => cases updated
      next unlocked =>
        rw [Bool.not_eq_true] at unlocked
        split at updated
        next =>
          split at updated
          next => cases updated; exact .inr (.inr ⟨_, rfl, rfl⟩)
          next => cases updated; exact .inr (.inl ⟨row, found, matched, unlocked, rfl, rfl⟩)
        next => cases updated; exact .inr (.inl ⟨row, found, matched, unlocked, rfl, rfl⟩)
    next unmatched =>
      cases updated
      refine .inl ⟨rfl, rfl, fun other same => ?_⟩
      rw [found] at same
      cases same
      exact Bool.eq_false_iff.mpr unmatched

/-- A new call waits with nobody; one that exists already rolls the transaction back. -/
theorem create_cases {draft : CallDraft} {reply : Except RouterError Interaction}
    (created : store.create host pid tick work draft = some (reply, after)) :
    (∃ row : Interaction, reply = .ok row ∧ row.id ∉ store.minted ∧ row.state = .queued ∧
      row.agentId = none ∧ row.requeueAt = none ∧ row.ivrStage = draft.ivrDestinationId.map (fun _ => .voice) ∧
      row.queueId = draft.queueId ∧
      after = { store.working pid { work with written := work.written ++ [row] } with
        minted := row.id :: store.minted }) ∨
    (reply = .error .duplicateInteraction ∧ after = store.rollback pid) := by
  unfold RouterStore.create at created
  split at created
  next => cases created
  next fresh =>
    split at created
    next => cases created
    split at created
    next => cases created; exact .inr ⟨rfl, rfl⟩
    cases created
    exact .inl ⟨_, rfl, fresh, rfl, rfl, rfl, rfl, rfl, rfl⟩

end DContact.Router

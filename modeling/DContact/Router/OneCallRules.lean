import DContact.Router.Desk
import DContact.Router.OccupancyMoves

/-!
# Rules for hands

The condition under which the agents stay in one hand each, and what each request then leaves a
transaction with. What a transaction knows is about its own work and the agents it has in hand, so
it stays true whatever the others do.
-/

namespace DContact.Router

open Lib List AgentStateLog Bool InteractionWrite
open Governance (Instant)

def InteractionWrite.finds (row : Interaction) : InteractionWrite → Bool
  | .abandonOffer read _ | .requeueOffer read _ _ | .hangupWaiting read _ =>
      row.agentId == read.agentId
  | _ => true

/-- What was read still holds when it is acted upon: the agent whose row is locked is available, an
offer that is taken back is the one that was read, a cooldown that is locked is the agent's latest
entry; and no entry is dated before what its transaction can see of the agent. -/
def upToDate (store : RouterStore) (pid : Nat) (tick : RouterTick) (work : RouterTransaction) :
    RouterRequest → Bool
  | .lockAgent _ candidates =>
      (store.pickAgent pid tick candidates).all fun agent =>
        stateIn (store.log work) agent.id == some .available
  | .update write =>
      ((store.calls work).find? fun row => row.id == write.id).all fun row =>
        !write.matches_ row || write.finds row
  | .lockEntries entries =>
      (store.freeEntries pid entries).all fun entry =>
        (store.log work).all fun other => other.userId != entry.userId || !decide (entry.before other)
  | .logState userId _ _ _ =>
      (store.log work).all fun other => other.userId != userId || decide (other.startedAt ≤ tick.now)
  | _ => true

def upToDateRequest (store : RouterStore) (pid : Nat) (tick : RouterTick)
    (request : RouterRequest) : Bool :=
  (store.inside pid).all fun work => upToDate store pid tick work request

variable {after : RouterStore} {tick : RouterTick} {write : InteractionWrite}
  {agent userId : String} {state : AgentState} {reason : StateReason} {endedAt : Option Instant}
  {store : RouterStore} {pid : Nat} {work : RouterTransaction}

/-- What a worker relies on: nobody else touches its transaction or takes an agent from it, and the
log only grows. -/
structure HandsKept (pid : Nat) (before after : RouterStore) : Prop where
  inside : after.inside pid = before.inside pid
  states : before.states ⊆ after.states
  owns : ∀ work, before.inside pid = some work → ∀ agent, Owns before work agent →
    Owns after work agent

theorem HandsKept.untouched (inside : after.inside pid = store.inside pid)
    (interactions : after.interactions = store.interactions) (states : after.states = store.states) :
    HandsKept pid store after :=
  ⟨inside, fun _ mem => states ▸ mem, fun _ _ _ owns => (owns_congr interactions states).mpr owns⟩

def hands : Desk RouterCall RouterAnswer where
  Inv := Seats
  Kept := HandsKept
  asks := upToDateRequest
  Done _ _ _ := True
  kept_refl _ _ := .untouched rfl rfl rfl
  kept_trans _ _ _ _ first second :=
    ⟨second.inside.trans first.inside, fun _ mem => second.states (first.states mem),
      fun work mine agent owns =>
        second.owns work (first.inside.trans mine) agent (first.owns work mine agent owns)⟩
  kept_inside _ _ _ kept := kept.inside
  kept_done _ _ _ _ _ _ _ := trivial
  begun _ _ seats := ⟨Seats.begun seats, fun _ differs =>
    .untouched (inside_working_of_ne differs) rfl rfl⟩
  rolledBack _ _ seats := ⟨seats.rolledBack, fun _ differs =>
    .untouched (inside_rollback_of_ne differs) rfl rfl⟩

section Rules

variable {host : RouterHost} {program : RouterCall → RouterProgram RouterAnswer}
  {fact : RouterStore → RouterTransaction → Prop} {world : RouterWorld RouterCall RouterAnswer}

theorem upToDate_of_asks {request : RouterRequest} (mine : store.inside pid = some work)
    (asked : hands.asks store pid tick request = true) :
    upToDate store pid tick work request = true := by
  simpa only [hands, upToDateRequest, mine, Option.all_some] using asked

theorem hands_working (seats : Seats after)
    (interactions : after.interactions = store.interactions) (states : after.states = store.states)
    (theirs : ∀ other, other ≠ pid → after.inside other = store.inside other) :
    hands.Moves pid store after :=
  ⟨seats, fun other differs => .untouched (theirs other differs) interactions states⟩

/-- What the reply to a look is known to be. -/
def Told (store : RouterStore) (work : RouterTransaction) :
    (request : RouterRequest) → request.Reply → Prop
  | .findCall _, found => ∀ row, found = some row → row.Sound
  | .findInteraction _, found => ∀ row, found = some row → row.Sound
  | .scanCooldowns _, (entries : List AgentStateLog) => ∀ entry ∈ entries, entry ∈ store.log work ∧ entry.cools = true
  | _, _ => True

variable {request : RouterRequest} {entry : AgentStateLog}

theorem cools_of_expired {states : List AgentStateLog} {now : Instant}
    (mem : entry ∈ expiredCooldowns states now) : entry ∈ states ∧ entry.cools = true := by
  obtain ⟨inside, holds⟩ := mem_filter.mp mem
  simp only [and_eq_true] at holds
  refine ⟨inside, ?_⟩
  unfold cools
  rw [and_eq_true]
  exact ⟨holds.1.1.1, holds.1.1.2⟩

theorem answer_told {value : request.Reply} (seats : Seats store)
    (mine : store.inside pid = some work) (looking : request.looks = true)
    (answered : answer host pid tick work request store = some (.ok value, after)) :
    Told store work request value := by
  cases request with
  | findCall externalId | findInteraction id =>
      cases answered
      exact fun row found => seats.sound_calls mine (mem_of_find?_eq_some found)
  | scanCooldowns now =>
      cases answered
      exact fun entry mem => cools_of_expired mem
  | _ => exact trivial

/-- A look leaves the worker with what it knows. -/
theorem ensures_look (request : RouterRequest) (stable : hands.Stable fact)
    (looking : request.looks = true) (within : Desk.Inside pid fact world.store) :
    (hands.discipline host program).Ensures pid
      (fun value after => Desk.Inside pid (fun store work => fact store work ∧ Told store work request value)
        after.store) (ask request) world := by
  refine Desk.ensures_ask request (fun value store =>
    Desk.Inside pid (fun store work => fact store work ∧ Told store work request value) store)
    stable within ?_
  intro store work tick reply after seats mine holds _ answered
  cases answer_of_looks looking answered
  refine ⟨.refl seats, ?_⟩
  rintro value rfl
  exact ⟨work, mine, holds, answer_told seats mine looking answered⟩

/-- Everybody who was given a call is reserved, and nothing is logged of the agents of others. -/
structure Calm (store : RouterStore) (work : RouterTransaction) : Prop where
  settled : Settled work
  tidy : Tidy store work

def CalmWith (vacant : String → Prop) (store : RouterStore) (work : RouterTransaction) : Prop :=
  Calm store work ∧ ∀ agent, vacant agent → Vacant store work agent

def Holding (agent : String) (store : RouterStore) (work : RouterTransaction) : Prop :=
  CalmWith (· = agent) store work ∧ agent ∈ work.users

structure Owing (agent : String) (store : RouterStore) (work : RouterTransaction) : Prop where
  owns : Owns store work agent
  settled : ∀ other ∈ work.users, other ≠ agent → ∀ row ∈ work.written,
    row.occupant = some other → Reserved work other
  tidy : Tidy store work

theorem calm_of_empty (empty : work = .empty) : Calm store work := by
  subst empty
  exact ⟨forall_mem_nil _, forall_mem_nil _⟩

theorem stable_calm : hands.Stable Calm := fun _ _ _ work kept mine calm =>
  ⟨calm.settled, fun entry mem => kept.owns work mine _ (calm.tidy entry mem)⟩

theorem stable_calmWith (vacant : String → Prop) : hands.Stable (CalmWith vacant) :=
  fun pid before after work kept mine known => ⟨stable_calm pid before after work kept mine known.1,
    fun agent same =>
      ⟨kept.owns work mine agent (known.2 agent same).owns, (known.2 agent same).idle⟩⟩

theorem stable_holding (agent : String) : hands.Stable (Holding agent) :=
  fun pid before after work kept mine known =>
    ⟨stable_calmWith _ pid before after work kept mine known.1, known.2⟩

theorem stable_owing (agent : String) : hands.Stable (Owing agent) :=
  fun _ _ _ work kept mine known => ⟨kept.owns work mine agent known.owns, known.settled,
    fun entry mem => kept.owns work mine _ (known.tidy entry mem)⟩

/-- The agent that an update takes a call from. -/
def InteractionWrite.releases : InteractionWrite → Option String
  | .abandonOffer read _ | .requeueOffer read _ _ => read.agentId
  | .hangupWaiting read _ => if read.state = .assigned then read.agentId else none
  | .declineAbandon _ agentId _ | .declineRequeue _ agentId _ | .completeWrapUp _ agentId _
  | .revokeOffer _ agentId _ => some agentId
  | _ => none

/-- An update that takes a call from an agent finds it there, and leaves it with nobody. -/
theorem InteractionWrite.releases_occupant {row : Interaction}
    (matched : write.matches_ row = true) (found : write.finds row = true)
    (taken : write.releases = some agent) :
    row.occupant = some agent ∧ (write.apply row).occupant = none := by
  have offered : ∀ held : Option String, row.state = .assigned → row.agentId = held →
      held = some agent → row.occupant = some agent := by
    intro held state same given
    rw [Interaction.occupant_of_assigned state, same, given]
  cases write with
  | abandonOffer read now | requeueOffer read now requeueAt =>
      simp only [matches_, and_eq_true, beq_iff_eq] at matched
      simp only [finds, beq_iff_eq] at found
      exact ⟨offered _ matched.1 found taken, rfl⟩
  | hangupWaiting read endedAt =>
      simp only [matches_, beq_iff_eq] at matched
      simp only [finds, beq_iff_eq] at found
      simp only [releases] at taken
      split at taken
      next state => exact ⟨offered _ (matched.trans state) found taken, rfl⟩
      next => cases taken
  | declineAbandon id agentId endedAt | declineRequeue id agentId requeueAt
  | revokeOffer id agentId now =>
      simp only [matches_, and_eq_true, beq_iff_eq] at matched
      exact ⟨offered _ matched.2 matched.1 taken, rfl⟩
  | completeWrapUp id agentId code =>
      simp only [matches_, and_eq_true, beq_iff_eq] at matched
      cases taken
      exact ⟨by simp [Interaction.occupant, matched, InteractionState.occupies], rfl⟩
  | _ => cases taken

section Changes

variable {row version : Interaction}

section
variable (seats : Seats store) (mine : store.inside pid = some work)
include seats mine

/-- The agents stay settled when a call stays with its agent or goes to nobody. -/
theorem Settled.writing (settled : Settled work) (mem : row ∈ store.calls work)
    (kept : version.occupant = row.occupant ∨ version.occupant = none) :
    Settled (work.writing version) := by
  have sits := seats.works pid work mine
  intro agent locked other inside occupied
  rcases mem_writing inside with rfl | ⟨old, -⟩
  · rcases kept with same | nobody
    · rw [same] at occupied
      rcases mem_calls.mp mem with own | ⟨committed, uncovered⟩
      · exact settled agent locked row own occupied
      · exact absurd (sits.covered agent (.inl locked) row committed occupied) uncovered
    · rw [nobody] at occupied
      cases occupied
  · exact settled agent locked other old occupied

theorem Tidy.writing (tidy : Tidy store work) (mem : row ∈ store.calls work)
    (same : version.id = row.id) : Tidy store (work.writing version) := fun entry inside =>
  (seats.owns_writing _ mine mem same).mpr (.inl (tidy entry inside))

theorem Vacant.writing (mem : row ∈ store.calls work) (same : version.id = row.id)
    (occupied : row.occupant = some agent) (nobody : version.occupant = none) :
    Vacant store (work.writing version) agent where
  owns := seats.owns_occupant mine mem same occupied
  idle := by
    intro other inside held
    rcases mem_writing inside with rfl | ⟨old, differs⟩
    · rw [nobody] at held
      cases held
    · refine differs ((seats.works pid work mine).apart other (mem_calls.mpr (.inl old)) row mem
        agent held occupied |>.trans same.symm)

end

end Changes

/-- The rule for an update that gives the call to nobody. -/
theorem ensures_change (nobody : write.assignee? = none) (within : Desk.Inside pid Calm world.store) :
    (hands.discipline host program).Ensures pid
      (fun done after => Desk.Inside pid
        (CalmWith fun agent => done = true ∧ write.releases = some agent) after.store)
      (change write) world := by
  refine Desk.ensures_ask (.update write) (fun (done : Bool) store =>
    Desk.Inside pid (CalmWith fun agent => done = true ∧ write.releases = some agent) store)
    stable_calm within ?_
  intro store work tick reply after seats mine calm current answered
  replace answered : store.update host pid work write = some (reply, after) := answered
  rcases update_cases answered with ⟨rfl, rfl, -⟩ | ⟨row, found, matched, unlocked, rfl, rfl⟩ |
    ⟨error, rfl, rfl⟩
  · refine ⟨.refl seats, ?_⟩
    rintro value ⟨⟩
    exact ⟨work, mine, calm, fun _ taken => nomatch taken.1⟩
  · have mem : row ∈ store.calls work := mem_of_find?_eq_some found
    have kept := occupant_apply matched nobody
    have same : (write.apply row).id = row.id := apply_id row write
    have given : Seats.Gives store work row (write.apply row) :=
      kept.elim .keeps .frees
    have seated := seats.written mine mem same
      (sound_apply (seats.sound_calls mine mem)) unlocked calm.tidy given
    refine ⟨hands_working seated rfl rfl fun _ differs => inside_working_of_ne differs, ?_⟩
    rintro value ⟨⟩
    have tidy : Tidy store (work.writing (write.apply row)) :=
      calm.tidy.writing seats mine mem same
    refine ⟨_, inside_working, ⟨calm.settled.writing seats mine mem kept, tidy⟩, ?_⟩
    rintro agent ⟨-, taken⟩
    have finds : write.finds row = true := by
      replace current := upToDate_of_asks mine current
      simp only [upToDate, found, Option.all_some, or_eq_true, not_eq_true', matched] at current
      exact current.resolve_left nofun
    obtain ⟨occupied, free⟩ := releases_occupant matched finds taken
    have vacant : Vacant store (work.writing (write.apply row)) agent :=
      Vacant.writing seats mine mem same occupied free
    exact ⟨vacant.owns, vacant.idle⟩
  · exact ⟨.rollback seats, nofun⟩

theorem Holding.gives (holding : Holding agent store work) (seats : Seats store)
    (mine : store.inside pid = some work) {row : Interaction} (mem : row ∈ store.calls work)
    (unlocked : store.callLocked pid row.id = false) (somebody : write.assignee? = some agent) :
    hands.Moves pid store (store.working pid (work.writing (write.apply row))) ∧
      Tidy store (work.writing (write.apply row)) ∧ (write.apply row).occupant = some agent := by
  obtain ⟨⟨calm, free⟩, locked⟩ := holding
  have same : (write.apply row).id = row.id := apply_id row write
  have given : (write.apply row).occupant = some _ := occupant_assign somebody
  have seated := seats.written mine mem same
    (sound_apply (seats.sound_calls mine mem)) unlocked calm.tidy
    (.hands agent given (free agent rfl) locked)
  exact ⟨hands_working seated rfl rfl fun _ differs => inside_working_of_ne differs,
    calm.tidy.writing seats mine mem same, given⟩

/-- The rule for an update that gives the call to an agent who is reserved already. -/
theorem ensures_assign_reserved (somebody : write.assignee? = some agent)
    (within : Desk.Inside pid (fun store work => Holding agent store work ∧ Reserved work agent)
      world.store) :
    (hands.discipline host program).Ensures pid (fun _ after => Desk.Inside pid Calm after.store) (change write)
      world := by
  refine Desk.ensures_ask (.update write) (fun _ store => Desk.Inside pid Calm store)
    (fun pid before after work kept mine known =>
      ⟨stable_holding agent pid before after work kept mine known.1, known.2⟩)
    within ?_
  intro store work tick reply after seats mine known current answered
  obtain ⟨holding, reserved⟩ := known
  have calm := holding.1.1
  replace answered : store.update host pid work write = some (reply, after) := answered
  rcases update_cases answered with ⟨rfl, rfl, -⟩ | ⟨row, found, matched, unlocked, rfl, rfl⟩ |
    ⟨error, rfl, rfl⟩
  · exact ⟨.refl seats, fun _ _ => ⟨work, mine, calm⟩⟩
  · have mem : row ∈ store.calls work := mem_of_find?_eq_some found
    obtain ⟨moves, tidy, given⟩ := holding.gives seats mine mem unlocked somebody
    refine ⟨moves, fun _ _ => ⟨_, inside_working, ?_, tidy⟩⟩
    intro other held third inside occupied
    rcases mem_writing inside with rfl | ⟨old, -⟩
    · cases given.symm.trans occupied
      exact reserved
    · exact calm.settled other held third old occupied
  · exact ⟨.rollback seats, nofun⟩

/-- The rule for an update that gives the call to an agent who is reserved afterwards. -/
theorem ensures_assign (somebody : write.assignee? = some agent)
    (within : Desk.Inside pid (Holding agent) world.store) :
    (hands.discipline host program).Ensures pid
      (fun done after => Desk.Inside pid (fun store work => Owing agent store work ∧
        (done = false → Calm store work)) after.store) (change write) world := by
  refine Desk.ensures_ask (.update write) (fun (done : Bool) store =>
    Desk.Inside pid (fun store work => Owing agent store work ∧ (done = false → Calm store work)) store)
    (stable_holding agent) within ?_
  intro store work tick reply after seats mine known current answered
  have calm := known.1.1
  have vacant := known.1.2 agent rfl
  replace answered : store.update host pid work write = some (reply, after) := answered
  rcases update_cases answered with ⟨rfl, rfl, -⟩ | ⟨row, found, matched, unlocked, rfl, rfl⟩ |
    ⟨error, rfl, rfl⟩
  · exact ⟨.refl seats, fun _ _ => ⟨work, mine, ⟨vacant.owns,
      fun other held _ row mem occupied => calm.settled other held row mem occupied,
      calm.tidy⟩, fun _ => calm⟩⟩
  · have mem : row ∈ store.calls work := mem_of_find?_eq_some found
    obtain ⟨moves, tidy, given⟩ := known.gives seats mine mem unlocked somebody
    refine ⟨moves, ?_⟩
    rintro value ⟨⟩
    have owns : Owns store (work.writing (write.apply row)) agent :=
      (seats.owns_writing _ mine mem (apply_id row write)).mpr (.inl vacant.owns)
    refine ⟨_, inside_working, ⟨owns, ?_, tidy⟩, nofun⟩
    intro other held differs third inside occupied
    rcases mem_writing inside with rfl | ⟨old, -⟩
    · exact absurd (Option.some.inj (occupied.symm.trans given)) differs
    · exact calm.settled other held third old occupied
  · exact ⟨.rollback seats, nofun⟩

/-- An entry that is dated after what the transaction sees of the agent is the latest. -/
theorem latest_of_current (seats : Seats store) (mine : store.inside pid = some work)
    (current : upToDate store pid tick work (.logState userId state reason endedAt) = true) :
    Latest store work ⟨store.nextEntry, userId, state, reason, tick.now, endedAt⟩ := by
  intro other mem same
  have below : other.id < store.nextEntry := by
    rcases mem_log.mp mem with old | own
    · exact seats.below other old
    · exact (seats.works pid work mine).below other own
  have dated := all_eq_true.mp current other mem
  simp only [or_eq_true, bne_iff_ne, ne_eq, decide_eq_true_eq] at dated
  have notAfter := dated.resolve_left fun differs => differs same
  unfold before Instant at *
  simp only
  omega

theorem ensures_log (post : RouterStore → Prop) (stable : hands.Stable fact)
    (within : Desk.Inside pid fact world.store)
    (vacant : ∀ store work, Seats store → store.inside pid = some work → fact store work →
      (state = .available ∨ state = .break_) → Vacant store work userId)
    (leaves : ∀ store work entry, Seats store → store.inside pid = some work → fact store work →
      Latest store work entry → entry.userId = userId → entry.state = state →
      post { store.working pid (work.logging entry) with nextEntry := store.nextEntry + 1 }) :
    (hands.discipline host program).Ensures pid (fun _ later => post later.store)
      (ask (.logState userId state reason endedAt)) world := by
  refine Desk.ensures_ask (.logState userId state reason endedAt) (fun _ store => post store) stable within ?_
  intro store work tick reply later seats mine known current answered
  cases answered
  have latest := latest_of_current seats mine (upToDate_of_asks mine current)
  refine ⟨hands_working (seats.logged mine rfl latest fun frees => ?_) rfl rfl
    fun _ differs => inside_working_of_ne differs, fun _ _ =>
      leaves store work _ seats mine known latest rfl rfl⟩
  refine vacant store work seats mine known ?_
  simp only [AgentStateLog.frees, AgentStateLog.cools, or_eq_true, beq_iff_eq,
    and_eq_true] at frees
  exact frees.imp_right And.left

theorem tidy_logging (tidy : Tidy store work) (owns : Owns store work entry.userId) :
    Tidy store (work.logging entry) := by
  intro other mem
  rcases mem_append.mp mem with old | new
  · exact tidy other old
  · exact mem_singleton.mp new ▸ owns

/-- The rule for an entry of a vacant agent. -/
theorem ensures_log_vacant {vacant : String → Prop}
    (within : Desk.Inside pid (CalmWith vacant) world.store) (free : vacant userId) :
    (hands.discipline host program).Ensures pid (fun _ later => Desk.Inside pid (CalmWith vacant) later.store)
      (ask (.logState userId state reason endedAt)) world := by
  refine ensures_log (fun store => Desk.Inside pid (CalmWith vacant) store)
    (stable_calmWith vacant) within (fun store work _ _ known _ => known.2 userId free) ?_
  intro store work entry seats mine known latest same _
  refine ⟨work.logging entry, inside_working, ⟨?_, ?_⟩, fun agent holds =>
    ⟨(known.2 agent holds).owns, (known.2 agent holds).idle⟩⟩
  · intro agent locked row mem occupied
    by_cases equal : entry.userId = agent
    · exact absurd occupied ((known.2 agent (equal ▸ same ▸ free)).idle row mem)
    · exact (reserved_logging_of_ne equal).mpr (known.1.settled agent locked row mem occupied)
  · exact tidy_logging known.1.tidy (same ▸ (known.2 userId free).owns)

/-- The rule for an entry that reserves the agent to whom a call was given. -/
theorem ensures_log_owing (within : Desk.Inside pid (Owing userId) world.store) :
    (hands.discipline host program).Ensures pid (fun _ later => Desk.Inside pid Calm later.store)
      (ask (.logState userId .reserved reason endedAt)) world := by
  refine ensures_log (fun store => Desk.Inside pid Calm store) (stable_owing userId) within
    (fun _ _ _ _ _ frees => by rcases frees with frees | frees <;> cases frees) ?_
  intro store work entry seats mine known latest same state
  have busy : entry.frees = false := by
    simp [frees, cools, state]
  refine ⟨work.logging entry, inside_working, ?_, ?_⟩
  · intro agent locked row mem occupied
    by_cases equal : entry.userId = agent
    · exact equal ▸ reserved_logging latest busy
    · refine (reserved_logging_of_ne equal).mpr (known.settled agent locked ?_ row mem occupied)
      exact fun own => equal (same.trans own.symm)
  · exact tidy_logging known.tidy (same ▸ known.owns)

/-- The rule for an entry that reserves a vacant agent. -/
theorem ensures_log_holding (within : Desk.Inside pid (Holding userId) world.store) :
    (hands.discipline host program).Ensures pid
      (fun _ later => Desk.Inside pid (fun store work => Holding userId store work ∧ Reserved work userId)
        later.store) (ask (.logState userId .reserved reason endedAt)) world := by
  refine ensures_log (fun store => Desk.Inside pid (fun store work =>
    Holding userId store work ∧ Reserved work userId) store) (stable_holding userId) within
    (fun _ _ _ _ _ frees => by rcases frees with frees | frees <;> cases frees) ?_
  rintro store work entry seats mine ⟨⟨calm, free⟩, locked⟩ latest same state
  have busy : entry.frees = false := by
    simp [frees, cools, state]
  have vacant := free userId rfl
  refine ⟨work.logging entry, inside_working, ⟨⟨⟨?_, ?_⟩, ?_⟩, locked⟩, ?_⟩
  · intro agent held row mem occupied
    by_cases equal : entry.userId = agent
    · exact equal ▸ reserved_logging latest busy
    · exact (reserved_logging_of_ne equal).mpr (calm.settled agent held row mem occupied)
  · exact tidy_logging calm.tidy (same ▸ vacant.owns)
  · rintro agent rfl
    exact ⟨vacant.owns, vacant.idle⟩
  · exact same ▸ reserved_logging latest busy

/-- The rule for an entry of an agent that may be in the hand of another. -/
theorem ensures_log_busy (within : Desk.Inside pid Calm world.store)
    (busy : state = .busy ∨ state = .acw) :
    (hands.discipline host program).Ensures pid
      (fun _ later => Desk.Inside pid (fun _ work => Settled work) later.store)
      (ask (.logState userId state reason endedAt)) world := by
  refine ensures_log (fun store => Desk.Inside pid (fun _ work => Settled work) store)
    stable_calm within (fun _ _ _ _ _ frees => by
      rcases busy with rfl | rfl <;> rcases frees with frees | frees <;> cases frees) ?_
  intro store work entry seats mine calm latest same equal
  have taken : entry.frees = false := by
    rcases busy with rfl | rfl <;> simp [frees, cools, equal]
  refine ⟨work.logging entry, inside_working, ?_⟩
  intro agent locked row mem occupied
  by_cases own : entry.userId = agent
  · exact own ▸ reserved_logging latest taken
  · exact (reserved_logging_of_ne own).mpr (calm.settled agent locked row mem occupied)

theorem ensures_lockAgent {interactionId : String} {candidates : List AvailableAgent}
    (within : Desk.Inside pid Calm world.store) :
    (hands.discipline host program).Ensures pid
      (fun found after => Desk.Inside pid (fun store work => Calm store work ∧
        ∀ agent : AvailableAgent, found = some agent → Holding agent.id store work) after.store)
      (ask (.lockAgent interactionId candidates)) world := by
  refine Desk.ensures_ask (.lockAgent interactionId candidates)
    (fun (found : Option AvailableAgent) store => Desk.Inside pid (fun store work =>
      Calm store work ∧ ∀ agent, found = some agent → Holding agent.id store work) store)
    stable_calm within ?_
  intro store work tick reply after seats mine calm current answered
  simp only [answer] at answered
  replace current := upToDate_of_asks mine current
  simp only [upToDate] at current
  split at answered
  next =>
    cases answered
    refine ⟨.refl seats, ?_⟩
    rintro value ⟨⟩
    exact ⟨work, mine, calm, by simp⟩
  next agent picked =>
    cases answered
    simp only [picked, Option.all_some, beq_iff_eq] at current
    have unlocked : store.userLocked pid agent.id = false := by
      have holds := find?_some picked
      simp only [and_eq_true, not_eq_true'] at holds
      exact holds.2
    have seated := seats.held mine unlocked calm.tidy current
    refine ⟨hands_working seated rfl rfl fun _ differs => inside_working_of_ne differs, ?_⟩
    rintro value ⟨⟩
    have sits := seats.works pid work mine
    obtain ⟨entry, latest, same, state⟩ := available_latest current
    have idle := sits.idle_of_free calm.settled
      ⟨entry, latest, same, frees_of_available state⟩
    have settled : Settled { work with users := agent.id :: work.users } := by
      intro other held row mem occupied
      rcases mem_cons.mp held with rfl | old
      · exact absurd occupied (idle row mem)
      · exact calm.settled other old row mem occupied
    have tidy : Tidy store { work with users := agent.id :: work.users } :=
      fun entry mem => Seats.owns_holding.mpr (.inr (calm.tidy entry mem))
    refine ⟨_, inside_working, ⟨settled, tidy⟩, ?_⟩
    rintro _ ⟨⟩
    refine ⟨⟨⟨settled, tidy⟩, ?_⟩, mem_cons_self⟩
    rintro _ rfl
    exact ⟨.inl mem_cons_self, idle⟩

/-- The rule for the lock of cooldowns that are over. -/
theorem ensures_lockEntries {entries : List AgentStateLog}
    (within : Desk.Inside pid (fun store work => Calm store work ∧
      ∀ entry ∈ entries, entry ∈ store.log work ∧ entry.cools = true) world.store) :
    (hands.discipline host program).Ensures pid
      (fun (locked : List AgentStateLog) after => Desk.Inside pid
        (CalmWith fun agent => ∃ entry ∈ locked, entry.userId = agent) after.store)
      (ask (.lockEntries entries)) world := by
  refine Desk.ensures_ask (.lockEntries entries)
    (fun (locked : List AgentStateLog) store => Desk.Inside pid
      (CalmWith fun agent => ∃ entry ∈ locked, entry.userId = agent) store) ?_ within ?_
  · intro pid before after work kept mine known
    refine ⟨stable_calm pid before after work kept mine known.1,
      fun entry mem => ⟨?_, (known.2 entry mem).2⟩⟩
    rcases mem_log.mp (known.2 entry mem).1 with old | own
    · exact mem_log.mpr (.inl (kept.states old))
    · exact mem_log.mpr (.inr own)
  intro store work tick reply after seats mine known current answered
  obtain ⟨calm, cooled⟩ := known
  replace current := upToDate_of_asks mine current
  cases answered
  simp only [upToDate, all_eq_true, or_eq_true, bne_iff_ne, ne_eq, not_eq_true',
    decide_eq_false_iff_not] at current
  have lockable : ∀ entry ∈ store.freeEntries pid entries, Seats.Lockable store pid work entry := by
    intro entry mem
    obtain ⟨inside, unlocked⟩ := mem_filter.mp mem
    refine ⟨⟨(cooled entry inside).1, fun other seen same => ?_⟩, (cooled entry inside).2, ?_⟩
    · exact (current entry mem other seen).resolve_left fun differs => differs same
    · simpa using unlocked
  have seated := seats.cooled mine calm.tidy lockable
  refine ⟨hands_working seated rfl rfl fun _ differs => inside_working_of_ne differs, ?_⟩
  rintro value ⟨⟩
  have sits := seats.works pid work mine
  have grown := fun agent => seats.owns_cooling agent mine lockable
  refine ⟨_, inside_working, ⟨calm.settled, fun entry mem =>
    (grown _).mpr (.inl (calm.tidy entry mem))⟩, ?_⟩
  rintro agent ⟨entry, mem, rfl⟩
  have cools := frees_of_cools (lockable entry mem).cools
  refine ⟨(grown _).mpr ?_, sits.idle_of_free calm.settled
    ⟨entry, (lockable entry mem).latest, rfl, cools⟩⟩
  rcases mem_log.mp (lockable entry mem).latest.1 with old | own
  · exact .inr ⟨entry, mem, old, rfl⟩
  · exact .inl (sits.frees entry own cools)

theorem ensures_create {draft : CallDraft} (within : Desk.Inside pid Calm world.store) :
    (hands.discipline host program).Ensures pid
      (fun created after => ∀ row, created = .ok row → Desk.Inside pid Calm after.store)
      (attemptCreate draft) world := by
  refine Desk.ensures_create (fun _ store => Desk.Inside pid Calm store) stable_calm within ?_
  rintro store work row seats mine calm fresh state nobody after rfl
  have idle := Interaction.occupant_of_queued state
  have seated := Seats.created seats mine fresh (fun _ => nobody) idle
  have grown := fun agent => Seats.owns_fresh seats work agent fresh
  rw [writing_fresh (seats.works pid work mine).minted fresh] at seated grown
  refine ⟨hands_working seated rfl rfl fun _ differs => inside_working_of_ne differs, _,
    inside_working, ?_, fun entry mem => (grown _).mpr (calm.tidy entry mem)⟩
  intro agent locked other mem occupied
  rcases mem_snoc.mp mem with old | rfl
  · exact calm.settled agent locked other old occupied
  · rw [idle] at occupied
    cases occupied

theorem ensures_commit (within : Desk.Inside pid (fun _ work => Settled work) world.store) :
    (hands.discipline host program).Ensures pid (fun _ after => after.store.inside pid = none) (ask .commit)
      world := by
  refine Desk.ensures_ask .commit (fun _ store => store.inside pid = none)
    (fun _ _ _ _ _ _ settled => settled) within ?_
  intro store work tick reply after seats mine settled _ answered
  cases answered
  refine ⟨⟨seats.committed mine settled, fun other differs => ?_⟩, fun _ _ => inside_commit⟩
  refine ⟨inside_commit_of_ne differs, fun _ mem => mem_log.mpr (.inl mem),
    fun otherWork inside agent owns => ?_⟩
  exact (seats.owns_of_commit agent mine differs inside).mpr owns

end Rules

end DContact.Router

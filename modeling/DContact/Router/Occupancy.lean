import DContact.Router.RouterMachine

/-!
# Who has an agent

An agent is in one hand at a time. A transaction has an agent when it has locked the user, when it
has written a call that is with the agent, or when it has locked the entry that ends a cooldown.
What it does with the agent is its own until it commits, so the tables are in order before and after
every commit: no two calls are with one agent, and nobody is available who has a call.
-/

namespace DContact.Router

open Lib
open Governance (Instant)

def AgentStateLog.cools (entry : AgentStateLog) : Bool :=
  entry.state == .break_ &&
    match entry.reason with
    | .cooldown _ => true
    | _ => false

/-- After such an entry the router may give the agent a call, now or when a cooldown is over. -/
def AgentStateLog.frees (entry : AgentStateLog) : Bool := entry.state == .available || entry.cools

def LatestIn (states : List AgentStateLog) (entry : AgentStateLog) : Prop :=
  entry ∈ states ∧ ∀ other ∈ states, other.userId = entry.userId → ¬ entry.before other

def FreeIn (states : List AgentStateLog) (agent : String) : Prop :=
  ∃ entry, LatestIn states entry ∧ entry.userId = agent ∧ entry.frees = true

variable {entry : AgentStateLog}

namespace AgentStateLog

variable {left right third : AgentStateLog}

theorem same_of_unordered (first : ¬ left.before right) (second : ¬ right.before left) :
    left.id = right.id := by
  unfold before Instant at *
  omega

theorem frees_of_cools (cools : left.cools = true) : left.frees = true := by
  simp [frees, cools]

theorem frees_of_available (available : left.state = .available) : left.frees = true := by
  simp [frees, available]

theorem cools_iff :
    entry.cools = true ↔ entry.state = .break_ ∧ ∃ id, entry.reason = .cooldown id := by
  unfold cools
  cases entry.reason <;> simp

end AgentStateLog

variable {states : List AgentStateLog} {agent : String}

theorem latestState_latest (found : latestState states agent = some entry) :
    LatestIn states entry ∧ entry.userId = agent := by
  have holds := List.find?_some found
  simp only [Bool.and_eq_true, beq_iff_eq, List.all_eq_true, Bool.or_eq_true, bne_iff_ne,
    Bool.not_eq_true', decide_eq_false_iff_not] at holds
  refine ⟨⟨List.mem_of_find?_eq_some found, fun other mem same => ?_⟩, holds.1⟩
  rcases holds.2 other mem with differs | notBefore
  · exact absurd (same.trans holds.1) differs
  · exact notBefore

theorem available_latest (available : stateIn states agent = some .available) :
    ∃ entry, LatestIn states entry ∧ entry.userId = agent ∧ entry.state = .available := by
  obtain ⟨entry, found, state⟩ := Option.map_eq_some_iff.mp available
  obtain ⟨latest, same⟩ := latestState_latest found
  exact ⟨entry, latest, same, state⟩

theorem FreeIn.of_harmless {more : List AgentStateLog}
    (free : FreeIn more agent) (subset : states ⊆ more)
    (harmless : ∀ entry ∈ more, entry ∉ states → entry.userId = agent → entry.frees = false) :
    FreeIn states agent := by
  obtain ⟨entry, ⟨mem, last⟩, same, frees⟩ := free
  have old : entry ∈ states := by
    by_contra new
    rw [harmless entry mem new same] at frees
    cases frees
  exact ⟨entry, ⟨old, fun other inside => last other (subset inside)⟩, same, frees⟩

def Owns (store : RouterStore) (work : RouterTransaction) (agent : String) : Prop :=
  agent ∈ work.users ∨
  (∃ row ∈ store.interactions, row.occupant = some agent ∧
    Versions.Covers Interaction.id work.written row) ∨
  ∃ entry ∈ store.states, entry.id ∈ work.entries ∧ entry.userId = agent

/-- The transaction has logged that the agent is not free, after all that it has logged of it. -/
def Reserved (work : RouterTransaction) (agent : String) : Prop :=
  ∃ entry ∈ work.logged, entry.userId = agent ∧ entry.frees = false ∧
    ∀ other ∈ work.logged, other.userId = agent → other.frees = true → other.before entry

/-- One transaction under way: what it sees is in order, but for an agent to whom it has given a
call and who is not logged as reserved yet. -/
structure Sits (store : RouterStore) (work : RouterTransaction) : Prop where
  keyed : (work.written.map Interaction.id).Nodup
  minted : ∀ row ∈ work.written, row.id ∈ store.minted
  sound : ∀ row ∈ work.written, row.Sound
  below : ∀ entry ∈ work.logged, entry.id < store.nextEntry
  distinct : ∀ entry ∈ work.logged, ∀ other ∈ store.log work, entry.id = other.id → entry = other
  apart : ∀ left ∈ store.calls work, ∀ right ∈ store.calls work, ∀ agent,
    left.occupant = some agent → right.occupant = some agent → left.id = right.id
  vacant : ∀ agent, FreeIn (store.log work) agent → ∀ row ∈ store.calls work,
    row.occupant = some agent → agent ∈ work.users ∧ ¬ Reserved work agent
  rows : ∀ row ∈ work.written, ∀ agent, row.occupant = some agent → Owns store work agent
  frees : ∀ entry ∈ work.logged, entry.frees = true → Owns store work entry.userId
  covered : ∀ agent, Owns store work agent → ∀ row ∈ store.interactions,
    row.occupant = some agent → Versions.Covers Interaction.id work.written row
  later : ∀ entry ∈ work.logged, Owns store work entry.userId → ∀ other ∈ store.states,
    other.userId = entry.userId → other.frees = true → other.before entry
  users : ∀ entry, LatestIn store.states entry → entry.userId ∈ work.users →
    entry.cools = true → entry.id ∈ work.entries
  entries : ∀ entry ∈ store.states, entry.id ∈ work.entries → entry.cools = true ∧
    ∀ other ∈ store.states, other.userId = entry.userId → entry.before other → other.frees = false
  present : ∀ id ∈ work.entries, ∃ entry ∈ store.log work, entry.id = id

structure Separate (left right : RouterTransaction) : Prop where
  written : ∀ row ∈ left.written, ¬ Versions.Covers Interaction.id right.written row
  logged : ∀ entry ∈ left.logged, ∀ other ∈ right.logged, entry.id ≠ other.id
  users : ∀ agent ∈ left.users, agent ∉ right.users
  entries : ∀ entry ∈ left.entries, entry ∉ right.entries

structure Seats (store : RouterStore) : Prop where
  keyed : (store.interactions.map Interaction.id).Nodup
  minted : ∀ row ∈ store.interactions, row.id ∈ store.minted
  sound : ∀ row ∈ store.interactions, row.Sound
  below : ∀ entry ∈ store.states, entry.id < store.nextEntry
  distinct : ∀ entry ∈ store.states, ∀ other ∈ store.states, entry.id = other.id → entry = other
  apart : ∀ left ∈ store.interactions, ∀ right ∈ store.interactions, ∀ agent,
    left.occupant = some agent → right.occupant = some agent → left.id = right.id
  vacant : ∀ agent, FreeIn store.states agent → ∀ row ∈ store.interactions,
    row.occupant ≠ some agent
  works : ∀ pid work, store.inside pid = some work → Sits store work
  separate : ∀ pid other work otherWork, pid ≠ other → store.inside pid = some work →
    store.inside other = some otherWork → Separate work otherWork
  owned : ∀ pid other work otherWork, pid ≠ other → store.inside pid = some work →
    store.inside other = some otherWork → ∀ agent, Owns store work agent →
    ¬ Owns store otherWork agent

/-- Everybody to whom the transaction has given a call is reserved. -/
def Settled (work : RouterTransaction) : Prop :=
  ∀ agent ∈ work.users, ∀ row ∈ work.written, row.occupant = some agent → Reserved work agent

/-- The transaction has logged nothing of agents in the hands of others. -/
def Tidy (store : RouterStore) (work : RouterTransaction) : Prop :=
  ∀ entry ∈ work.logged, Owns store work entry.userId

structure Vacant (store : RouterStore) (work : RouterTransaction) (agent : String) : Prop where
  owns : Owns store work agent
  idle : ∀ row ∈ work.written, row.occupant ≠ some agent

namespace Seats

variable {store : RouterStore} (seats : Seats store) {pid other : Nat}
  {work otherWork : RouterTransaction}

include seats

section
variable (mine : store.inside pid = some work)
include mine

theorem sound_calls {row : Interaction} (mem : row ∈ store.calls work) : row.Sound := by
  rcases mem_calls.mp mem with own | ⟨old, -⟩
  · exact (seats.works pid work mine).sound row own
  · exact seats.sound row old

/-- The rows that a transaction sees have distinct identifiers. -/
theorem keyed_calls : ((store.calls work).map Interaction.id).Nodup :=
  Versions.nodup_overlay (seats.works pid work mine).keyed seats.keyed

theorem same_row {left right : Interaction} (leftMember : left ∈ store.calls work)
    (rightMember : right ∈ store.calls work) (same : left.id = right.id) : left = right :=
  List.inj_on_of_nodup_map (seats.keyed_calls mine) leftMember rightMember same

/-- An agent whose latest committed entry frees it is in the hand of the one who has locked it, or
who has locked that entry. -/
theorem free_owner (latest : LatestIn store.states entry) (frees : entry.frees = true)
    (owns : Owns store work entry.userId) :
    entry.userId ∈ work.users ∨ (entry.cools = true ∧ entry.id ∈ work.entries) := by
  rcases owns with locked | ⟨row, mem, occupied, -⟩ | ⟨cooldown, mem, locked, same⟩
  · exact .inl locked
  · exact absurd occupied (seats.vacant _ ⟨entry, latest, rfl, frees⟩ row mem)
  · refine .inr ?_
    obtain ⟨cools, quiet⟩ := (seats.works pid work mine).entries cooldown mem locked
    have unordered : ¬ cooldown.before entry := fun before => by
      rw [quiet entry latest.1 same.symm before] at frees
      cases frees
    have equal : entry.id = cooldown.id :=
      AgentStateLog.same_of_unordered (latest.2 cooldown mem same) unordered
    rw [seats.distinct entry latest.1 cooldown mem equal]
    exact ⟨cools, locked⟩

end

end Seats

end DContact.Router

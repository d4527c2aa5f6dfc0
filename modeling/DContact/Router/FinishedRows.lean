import DContact.Router.Desk
import DContact.Lib.Table

/-!
# Calls that are over

A transaction that has written a call is the only one that may write it or log anything about it
before it ends. So the versions of a call follow one another, and so do the entries about it: a call
that is over keeps its state, and whoever is reserved for a call still holds it.
-/

namespace DContact.Router

open Lib
open Governance (Instant)

def InteractionState.isFinal : InteractionState → Bool
  | .completed | .abandoned => true
  | .queued | .assigned | .active | .wrapup => false

/-- A later version of a call. -/
structure Traces (old new : Interaction) : Prop where
  id : new.id = old.id
  externalId : new.externalId = old.externalId
  final : old.state.isFinal = true → new.state = old.state

theorem Traces.refl (row : Interaction) : Traces row row := ⟨rfl, rfl, fun _ => rfl⟩

theorem Traces.trans {first second third : Interaction} (left : Traces first second)
    (right : Traces second third) : Traces first third where
  id := right.id.trans left.id
  externalId := right.externalId.trans left.externalId
  final isFinal :=
    have same := left.final isFinal
    (right.final (same.symm ▸ isFinal)).trans same

/-- The agent was given the call, and it was neither taken back nor abandoned. -/
structure Interaction.Holds (row : Interaction) (agent : String) : Prop where
  agentId : row.agentId = some agent
  waits : row.state ≠ .queued
  lives : row.state ≠ .abandoned

def OfferedIn (states : List AgentStateLog) (agent id : String) : Prop :=
  ∃ entry ∈ states, entry.userId = agent ∧ entry.about = some id ∧ entry.state = .reserved ∧
    ∀ other ∈ states, other.userId = agent → other.about = some id → ¬ entry.before other

variable {states : List AgentStateLog}

theorem OfferedIn.congr {more : List AgentStateLog} {agent id : String}
    (offered : OfferedIn more agent id)
    (same : ∀ entry, entry.about = some id → (entry ∈ more ↔ entry ∈ states)) :
    OfferedIn states agent id := by
  obtain ⟨entry, mem, user, about, reserved, last⟩ := offered
  exact ⟨entry, (same entry about).mp mem, user, about, reserved, fun other inside mine told =>
    last other ((same other told).mpr inside) mine told⟩

theorem offered_of_latest {agent id : String} {entry : AgentStateLog}
    (latest : latestState states agent = some entry) (about : entry.about = some id)
    (reserved : entry.state = .reserved) : OfferedIn states agent id := by
  have holds := List.find?_some latest
  simp only [Bool.and_eq_true, beq_iff_eq, List.all_eq_true, Bool.or_eq_true, bne_iff_ne,
    Bool.not_eq_true', decide_eq_false_iff_not] at holds
  refine ⟨entry, List.mem_of_find?_eq_some latest, holds.1, about, reserved, ?_⟩
  exact fun other mem mine _ => (holds.2 other mem).resolve_left fun differs => differs mine

namespace InteractionWrite

def takes : InteractionWrite → Option String
  | .abandonOffer read _ | .requeueOffer read _ _ | .hangupWaiting read _ => read.agentId
  | .declineAbandon _ agentId _ | .declineRequeue _ agentId _ | .revokeOffer _ agentId _ =>
      some agentId
  | _ => none

/-- A hang-up of a waiting call has read one that waits or is offered. -/
def Proper : InteractionWrite → Prop
  | .hangupWaiting read _ => read.state = .queued ∨ read.state = .assigned
  | _ => True

/-- The statement that gives a new call to its agent. -/
def creates : InteractionWrite → Bool
  | .assignCreated .. => true
  | _ => false

/-- The agent from whom a call is taken is the one that was read, a hang-up finds the call as it has
read it, and a call that leaves the IVR for an agent still waits. -/
def asRead (row : Interaction) : InteractionWrite → Bool
  | .hangupWaiting read _ => row.state == read.state && row.agentId == read.agentId
  | .abandonOffer read _ | .requeueOffer read _ _ => row.agentId == read.agentId
  | .resolve _ _ _ (some _) => row.state == .queued
  | _ => true

variable {row : Interaction} {write : InteractionWrite} {agent : String}

theorem waits_of_assigns (matched : write.matches_ row = true) (found : write.asRead row = true)
    (older : write.creates = false) (somebody : write.assignee? = some agent) :
    row.state = .queued := by
  cases write with
  | assignCreated => cases older
  | reassign | assignRequeued =>
      simp only [matches_, Bool.and_eq_true, beq_iff_eq] at matched
      exact matched.1
  | resolve _ _ _ offer =>
      cases offer with
      | none => cases somebody
      | some offer => exact beq_iff_eq.mp found
  | _ => cases somebody

/-- A statement leaves a version of the call that it changes. -/
theorem traces_apply (matched : write.matches_ row = true) (proper : write.Proper)
    (waits : ∀ agent, write.assignee? = some agent → row.state = .queued) :
    Traces row (write.apply row) := by
  refine ⟨apply_id row write, apply_externalId row write, fun final => ?_⟩
  have unfinal : ∀ state, row.state = state → state.isFinal = false → (write.apply row).state = row.state :=
    fun state same open_ => by rw [same, open_] at final; cases final
  cases write with
  | assignCreated _ offer | reassign _ offer | assignRequeued _ _ offer =>
      exact unfinal _ (waits _ rfl) rfl
  | resolve _ _ _ offer =>
      cases offer with
      | none => rfl
      | some offer => exact unfinal _ (waits _ rfl) rfl
  | requeueWaiting | collect => rfl
  | abandonWaiting | abandonOffer | requeueOffer | answer =>
      simp only [matches_, Bool.and_eq_true, beq_iff_eq] at matched
      exact unfinal _ matched.1 rfl
  | declineAbandon | declineRequeue | completeWrapUp | revokeOffer =>
      simp only [matches_, Bool.and_eq_true, beq_iff_eq] at matched
      exact unfinal _ matched.2 rfl
  | hangupActive => exact unfinal _ (beq_iff_eq.mp matched) rfl
  | hangupWaiting read =>
      have same := beq_iff_eq.mp matched
      rcases proper with queued | assigned
      · exact unfinal _ (same.trans queued) rfl
      · exact unfinal _ (same.trans assigned) rfl

/-- Whoever holds the call goes on holding it, or is the one from whom it is taken. -/
theorem holds_apply (matched : write.matches_ row = true) (found : write.asRead row = true)
    (waits : ∀ agent, write.assignee? = some agent → row.state = .queued) (holds : row.Holds agent) :
    (write.apply row).Holds agent ∨ write.takes = some agent := by
  cases write with
  | assignCreated _ offer | reassign _ offer | assignRequeued _ _ offer =>
      exact absurd (waits _ rfl) holds.waits
  | resolve _ _ _ offer =>
      cases offer with
      | none => exact .inl ⟨holds.agentId, holds.waits, holds.lives⟩
      | some offer => exact absurd (waits _ rfl) holds.waits
  | requeueWaiting | collect => exact .inl ⟨holds.agentId, holds.waits, holds.lives⟩
  | completeWrapUp | answer | hangupActive => exact .inl ⟨holds.agentId, nofun, nofun⟩
  | abandonWaiting =>
      simp only [matches_, Bool.and_eq_true, beq_iff_eq] at matched
      exact absurd matched.1 holds.waits
  | abandonOffer | requeueOffer => exact .inr ((beq_iff_eq.mp found).symm.trans holds.agentId)
  | hangupWaiting =>
      simp only [asRead, Bool.and_eq_true, beq_iff_eq] at found
      exact .inr (found.2.symm.trans holds.agentId)
  | declineAbandon | declineRequeue | revokeOffer =>
      simp only [matches_, Bool.and_eq_true, beq_iff_eq] at matched
      exact .inr (matched.1.symm.trans holds.agentId)

theorem holds_assign (somebody : write.assignee? = some agent) : (write.apply row).Holds agent := by
  cases write with
  | assignCreated | reassign | assignRequeued => exact ⟨somebody, nofun, nofun⟩
  | resolve _ _ _ offer =>
      cases offer with
      | none => cases somebody
      | some offer => exact ⟨somebody, nofun, nofun⟩
  | _ => cases somebody

end InteractionWrite

structure Working (store : RouterStore) (work : RouterTransaction) : Prop where
  keyed : (work.written.map Interaction.id).Nodup
  minted : ∀ row ∈ work.written, row.id ∈ store.minted
  below : ∀ entry ∈ work.logged, entry.id < store.nextEntry
  covered : ∀ entry ∈ work.logged, ∀ id, entry.about = some id → ∃ row ∈ work.written, row.id = id
  traces : ∀ row ∈ work.written, ∀ old ∈ store.interactions, old.id = row.id → Traces old row

structure Orderly (store : RouterStore) : Prop where
  keyed : (store.interactions.map Interaction.id).Nodup
  minted : ∀ row ∈ store.interactions, row.id ∈ store.minted
  below : ∀ entry ∈ store.states, entry.id < store.nextEntry
  told : ∀ entry ∈ store.states, ∀ id, entry.about = some id → id ∈ store.minted
  offers : ∀ row ∈ store.interactions, ∀ agent, OfferedIn store.states agent row.id →
    row.Holds agent
  works : ∀ pid work, store.inside pid = some work → Working store work
  apart : ∀ pid other work otherWork, other ≠ pid → store.inside pid = some work →
    store.inside other = some otherWork → ∀ row ∈ work.written,
    ¬ Versions.Covers Interaction.id otherWork.written row

def CallsTraced (before after : RouterStore) : Prop :=
  ∀ row ∈ before.interactions, ∃ later ∈ after.interactions, Traces row later

theorem CallsTraced.refl (store : RouterStore) : CallsTraced store store :=
  fun row mem => ⟨row, mem, .refl row⟩

variable {first second third : RouterStore}

theorem CallsTraced.trans (left : CallsTraced first second) (right : CallsTraced second third) :
    CallsTraced first third :=
  Table.kept_trans .trans left right

/-- What the others leave of the calls, and of what a transaction knows about its own. -/
structure RowsKept (pid : Nat) (before after : RouterStore) : Prop where
  inside : after.inside pid = before.inside pid
  told : ∀ work, before.inside pid = some work → ∀ row ∈ work.written, ∀ entry,
    entry.about = some row.id → (entry ∈ after.states ↔ entry ∈ before.states)
  rows : CallsTraced before after

theorem RowsKept.refl (pid : Nat) (store : RouterStore) : RowsKept pid store store :=
  ⟨rfl, fun _ _ _ _ _ _ => Iff.rfl, .refl store⟩

theorem RowsKept.trans {pid : Nat} (left : RowsKept pid first second)
    (right : RowsKept pid second third) :
    RowsKept pid first third where
  inside := right.inside.trans left.inside
  told work mine row mem entry about :=
    (right.told work (left.inside.trans mine) row mem entry about).trans
      (left.told work mine row mem entry about)
  rows := left.rows.trans right.rows

/-- The tables themselves are as they were. -/
theorem RowsKept.untouched {pid : Nat} {before after : RouterStore}
    (inside : after.inside pid = before.inside pid) (interactions : after.interactions = before.interactions)
    (states : after.states = before.states) : RowsKept pid before after where
  inside := inside
  told _ _ _ _ _ _ := by rw [states]
  rows row mem := ⟨row, interactions ▸ mem, .refl row⟩

namespace Orderly

variable {store after : RouterStore} {pid other : Nat} {work otherWork : RouterTransaction}
  {row version : Interaction} {entry : AgentStateLog} (orderly : Orderly store)

include orderly

/-- One transaction has moved on; the tables are as they were. -/
theorem rework (interactions : after.interactions = store.interactions)
    (states : after.states = store.states) (minted : store.minted ⊆ after.minted)
    (below : store.nextEntry ≤ after.nextEntry)
    (theirs : ∀ other, other ≠ pid → after.inside other = store.inside other)
    (own : ∀ work, after.inside pid = some work → Working after work ∧ ∀ other otherWork,
      other ≠ pid → store.inside other = some otherWork → ∀ row ∈ work.written,
      ¬ Versions.Covers Interaction.id otherWork.written row) : Orderly after where
  keyed := interactions ▸ orderly.keyed
  minted row mem := minted (orderly.minted row (interactions ▸ mem))
  below entry mem := Nat.lt_of_lt_of_le (orderly.below entry (states ▸ mem)) below
  told entry mem id about := minted (orderly.told entry (states ▸ mem) id about)
  offers row mem agent offered :=
    orderly.offers row (interactions ▸ mem) agent (states ▸ offered)
  works := by
    intro other work inside
    by_cases mine : other = pid
    · subst mine
      exact (own work inside).1
    · have works := orderly.works other work (theirs other mine ▸ inside)
      exact ⟨works.keyed, fun row mem => minted (works.minted row mem),
        fun entry mem => Nat.lt_of_lt_of_le (works.below entry mem) below, works.covered,
        fun row mem old before => works.traces row mem old (interactions ▸ before)⟩
  apart := by
    intro left right leftWork rightWork differs leftInside rightInside
    by_cases mine : left = pid
    · subst mine
      exact (own leftWork leftInside).2 right rightWork differs (theirs right differs ▸ rightInside)
    · rw [theirs left mine] at leftInside
      by_cases theirsToo : right = pid
      · subst theirsToo
        rintro row mem ⟨version, inside, same⟩
        exact (own rightWork rightInside).2 left leftWork mine leftInside version inside
          ⟨row, mem, same.symm⟩
      · rw [theirs right theirsToo] at rightInside
        exact orderly.apart left right leftWork rightWork differs leftInside rightInside

section
variable (mine : store.inside pid = some work)
include mine

theorem keyed_calls : ((store.calls work).map Interaction.id).Nodup :=
  Versions.nodup_overlay (orderly.works pid work mine).keyed orderly.keyed

theorem same_row (first : row ∈ store.calls work) (second : version ∈ store.calls work)
    (same : row.id = version.id) : row = version :=
  List.inj_on_of_nodup_map (orderly.keyed_calls mine) first second same

theorem minted_calls (mem : row ∈ store.calls work) : row.id ∈ store.minted := by
  rcases mem_calls.mp mem with own | ⟨old, -⟩
  · exact (orderly.works pid work mine).minted row own
  · exact orderly.minted row old

theorem below_log (mem : entry ∈ store.log work) : entry.id < store.nextEntry := by
  rcases mem_log.mp mem with old | own
  · exact orderly.below entry old
  · exact (orderly.works pid work mine).below entry own

/-- What the transaction sees about a call that exists. -/
theorem minted_log (mem : entry ∈ store.log work) {id : String} (about : entry.about = some id) :
    id ∈ store.minted := by
  rcases mem_log.mp mem with old | own
  · exact orderly.told entry old id about
  · obtain ⟨row, inside, rfl⟩ := (orderly.works pid work mine).covered entry own id about
    exact (orderly.works pid work mine).minted row inside

end

end Orderly

end DContact.Router

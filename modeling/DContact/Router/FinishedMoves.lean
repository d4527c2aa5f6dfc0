import DContact.Router.FinishedRows

/-!
# Moves of the calls

Each statement that changes something keeps the tables in order, and what it leaves a transaction
with.
-/

namespace DContact.Router

open Lib List
open Governance (Instant)

/-- Whoever is reserved for a call that the transaction has written holds it. -/
def Whole (log : List AgentStateLog) (written : List Interaction) : Prop :=
  ∀ row ∈ written, ∀ agent, OfferedIn log agent row.id → row.Holds agent

/-- The same, but for an agent from whom a call was taken, or to whom it is about to be given. -/
structure Owed (agent : Option String) (id : String) (log : List AgentStateLog)
    (written : List Interaction) : Prop where
  touched : ∃ row ∈ written, row.id = id
  others : ∀ row ∈ written, ∀ other, OfferedIn log other row.id →
    row.Holds other ∨ (agent = some other ∧ row.id = id)

/-- A call of the transaction that waits. -/
def Drafted (id : String) (written : List Interaction) : Prop :=
  ∃ row ∈ written, row.id = id ∧ row.state = .queued

def Given (agent id : String) (written : List Interaction) : Prop :=
  ∃ row ∈ written, row.id = id ∧ row.Holds agent

variable {log : List AgentStateLog} {id : String}

theorem Whole.owed {written : List Interaction} (whole : Whole log written)
    (touched : ∃ row ∈ written, row.id = id) (agent : Option String) :
    Owed agent id log written :=
  ⟨touched, fun row mem other offered => .inl (whole row mem other offered)⟩

theorem Owed.whole {written : List Interaction}
    (owed : Owed none id log written) : Whole log written := fun row mem other offered =>
  (owed.others row mem other offered).resolve_right fun both => by cases both.1

theorem Owed.weaken {written : List Interaction}
    (owed : Owed none id log written) (agent : Option String) : Owed agent id log written :=
  owed.whole.owed owed.touched agent

theorem Drafted.touched {written : List Interaction} (drafted : Drafted id written) :
    ∃ row ∈ written, row.id = id :=
  drafted.imp fun _ known => ⟨known.1, known.2.1⟩

variable {agent : String}

theorem Given.touched {written : List Interaction} (given : Given agent id written) :
    ∃ row ∈ written, row.id = id :=
  given.imp fun _ known => ⟨known.1, known.2.1⟩

/-- What is known of the log and of the rows stays true as long as nothing is logged about them. -/
def Steady (fact : List AgentStateLog → List Interaction → Prop) : Prop :=
  ∀ log more written, (∀ row ∈ written, ∀ entry, entry.about = some row.id →
    (entry ∈ more ↔ entry ∈ log)) → fact log written → fact more written

theorem steady_whole : Steady Whole := fun _ _ _ same whole row mem agent offered =>
  whole row mem agent (offered.congr (same row mem))

theorem steady_owed (agent : Option String) (id : String) : Steady (Owed agent id) :=
  fun _ _ _ same owed => ⟨owed.touched, fun row mem other offered =>
    owed.others row mem other (offered.congr (same row mem))⟩

theorem Steady.and {first second : List AgentStateLog → List Interaction → Prop}
    (left : Steady first) (right : Steady second) :
    Steady fun log written => first log written ∧ second log written :=
  fun log more written same known =>
    ⟨left log more written same known.1, right log more written same known.2⟩

theorem steady_rows {fact : List Interaction → Prop} : Steady fun _ written => fact written :=
  fun _ _ _ _ known => known

theorem RowsKept.steady {pid : Nat} {before after : RouterStore} {work : RouterTransaction}
    {fact : List AgentStateLog → List Interaction → Prop} (kept : RowsKept pid before after)
    (mine : before.inside pid = some work) (steady : Steady fact)
    (known : fact (before.log work) work.written) : fact (after.log work) work.written := by
  refine steady _ _ _ (fun row mem entry about => ?_) known
  rw [mem_log, mem_log, kept.told work mine row mem entry about]

namespace Orderly

variable {store : RouterStore} {pid : Nat} {work : RouterTransaction} {row version : Interaction}
  {entry : AgentStateLog} (orderly : Orderly store)

include orderly

/-- Whoever is reserved for a call that the transaction sees holds it. -/
theorem holds_of_offered (mine : store.inside pid = some work)
    (whole : Whole (store.log work) work.written) (mem : row ∈ store.calls work)
    (offered : OfferedIn (store.log work) agent row.id) : row.Holds agent := by
  rcases mem_calls.mp mem with own | ⟨old, uncovered⟩
  · exact whole row own agent offered
  · refine orderly.offers row old agent (offered.congr fun entry about => ?_)
    rw [mem_log]
    refine ⟨fun seen => seen.resolve_right fun logged => ?_, .inl⟩
    exact uncovered ((orderly.works pid work mine).covered entry logged row.id about)

theorem begun : Orderly (store.working pid .empty) := by
  refine orderly.rework rfl rfl (fun _ mem => mem) (Nat.le_refl _)
    (fun other differs => inside_working_of_ne differs) ?_
  intro work inside
  rw [inside_working] at inside
  cases inside
  exact ⟨⟨nodup_nil, forall_mem_nil _, forall_mem_nil _, forall_mem_nil _, forall_mem_nil _⟩,
    fun _ _ _ _ => forall_mem_nil _⟩

theorem rolledBack : Orderly (store.rollback pid) := by
  refine orderly.rework rfl rfl (fun _ mem => mem) (Nat.le_refl _)
    (fun other differs => inside_rollback_of_ne differs) ?_
  intro work inside
  rw [inside_rollback] at inside
  cases inside

/-- A transaction goes on. -/
theorem goesOn (mine : store.inside pid = some work) {next : RouterTransaction}
    {minted : List String} {counter : Nat} (more : store.minted ⊆ minted)
    (later : store.nextEntry ≤ counter)
    (working : Working { store with minted := minted, nextEntry := counter } next)
    (apart : ∀ other otherWork, other ≠ pid → store.inside other = some otherWork →
      ∀ row ∈ next.written, row ∈ work.written ∨
        ¬ Versions.Covers Interaction.id otherWork.written row) :
    Orderly { store.working pid next with minted := minted, nextEntry := counter } := by
  refine orderly.rework rfl rfl more later (fun other differs => inside_working_of_ne differs) ?_
  intro own inside
  cases Option.some.inj (inside_working.symm.trans inside)
  refine ⟨{ working with }, fun other otherWork differs theirs row mem => ?_⟩
  rcases apart other otherWork differs theirs row mem with old | free
  · exact orderly.apart pid other work otherWork differs mine theirs row old
  · exact free

/-- Locks of users and of entries are nothing to the calls. -/
theorem locked (mine : store.inside pid = some work) {after : RouterTransaction}
    (written : after.written = work.written) (logged : after.logged = work.logged) :
    Orderly (store.working pid after) := by
  have works := orderly.works pid work mine
  refine orderly.goesOn mine (fun _ mem => mem) (Nat.le_refl _) ⟨written ▸ works.keyed,
    written ▸ works.minted, logged ▸ works.below, ?_, written ▸ works.traces⟩ ?_
  · rw [written, logged]
    exact works.covered
  · exact fun _ _ _ _ row mem => .inl (written ▸ mem)

section
variable (mine : store.inside pid = some work)
include mine

theorem written (mem : row ∈ store.calls work) (free : store.callLocked pid row.id = false)
    (traces : Traces row version) : Orderly (store.working pid (work.writing version)) := by
  have works := orderly.works pid work mine
  refine orderly.goesOn mine (fun _ mem => mem) (Nat.le_refl _)
    ⟨Versions.nodup_write works.keyed, ?_, works.below, ?_, ?_⟩ ?_
  · intro other seen
    rcases mem_writing seen with rfl | ⟨old, -⟩
    · exact traces.id ▸ orderly.minted_calls mine mem
    · exact works.minted other old
  · intro entry logged id about
    obtain ⟨other, seen, rfl⟩ := works.covered entry logged id about
    exact Versions.covers_write.mpr (.inr ⟨other, seen, rfl⟩)
  · intro other seen old before same
    rcases mem_writing seen with rfl | ⟨earlier, -⟩
    · refine Traces.trans ?_ traces
      rcases mem_calls.mp mem with own | ⟨committed, -⟩
      · exact works.traces row own old before (same.trans traces.id)
      · have equal : old = row :=
          inj_on_of_nodup_map orderly.keyed before committed (same.trans traces.id)
        exact equal ▸ .refl old
    · exact works.traces other earlier old before same
  · intro other otherWork differs theirs seen inside
    rcases mem_writing inside with rfl | ⟨old, -⟩
    · exact .inr (not_covered free differs theirs traces.id)
    · exact .inl old

/-- A call that was not there before. -/
theorem created (fresh : row.id ∉ store.minted) :
    Orderly { store.working pid (work.writing row) with minted := row.id :: store.minted } := by
  have works := orderly.works pid work mine
  refine orderly.goesOn mine (fun _ mem => mem_cons_of_mem _ mem) (Nat.le_refl _)
    ⟨Versions.nodup_write works.keyed, ?_, works.below, ?_, ?_⟩ ?_
  · intro other seen
    rcases mem_writing seen with rfl | ⟨old, -⟩
    · exact mem_cons_self
    · exact mem_cons_of_mem _ (works.minted other old)
  · intro entry logged id about
    obtain ⟨other, seen, rfl⟩ := works.covered entry logged id about
    exact Versions.covers_write.mpr (.inr ⟨other, seen, rfl⟩)
  · intro other seen old before same
    rcases mem_writing seen with rfl | ⟨earlier, -⟩
    · exact absurd (same ▸ orderly.minted old before) fresh
    · exact works.traces other earlier old before same
  · intro other otherWork differs theirs seen inside
    rcases mem_writing inside with rfl | ⟨old, -⟩
    · exact .inr (not_covered_of_fresh (orderly.works other otherWork theirs).minted fresh)
    · exact .inl old

/-- Nobody is reserved for a call that was not there before. -/
theorem not_offered (fresh : row.id ∉ store.minted) :
    ¬ OfferedIn (store.log work) agent row.id := by
  rintro ⟨entry, mem, -, about, -⟩
  exact fresh (orderly.minted_log mine mem about)

theorem whole_created (fresh : row.id ∉ store.minted) (whole : Whole (store.log work) work.written) :
    Whole (store.log work) (work.writing row).written := by
  intro other mem agent offered
  rcases mem_writing mem with rfl | ⟨old, -⟩
  · exact absurd offered (orderly.not_offered mine fresh)
  · exact whole other old agent offered

end

omit orderly in
/-- What an update leaves a transaction with. -/
theorem owed_written {agent : Option String} (same : version.id = row.id)
    (others : ∀ other ∈ work.written, other.id ≠ version.id → ∀ agent,
      OfferedIn (store.log work) agent other.id → other.Holds agent)
    (holds : ∀ other, OfferedIn (store.log work) other row.id → version.Holds other ∨
      agent = some other) :
    Owed agent row.id (store.log work) (work.writing version).written := by
  refine ⟨⟨version, Versions.mem_overlay.mpr (.inl mem_cons_self), same⟩, ?_⟩
  intro other mem third offered
  rcases mem_writing mem with rfl | ⟨old, differs⟩
  · exact (holds third (same ▸ offered)).imp id fun equal => ⟨equal, same⟩
  · exact .inl (others other old differs third offered)

theorem logged (mine : store.inside pid = some work) (number : entry.id = store.nextEntry)
    (touched : ∀ id, entry.about = some id → ∃ row ∈ work.written, row.id = id) :
    Orderly { store.working pid (work.logging entry) with nextEntry := store.nextEntry + 1 } := by
  have works := orderly.works pid work mine
  refine orderly.goesOn mine (fun _ mem => mem) (Nat.le_succ _)
    ⟨works.keyed, works.minted, ?_, ?_, works.traces⟩ ?_
  · intro other mem
    rcases mem_snoc.mp mem with old | rfl
    · exact Nat.lt_succ_of_lt (works.below other old)
    · rw [number]
      exact Nat.lt_succ_self _
  · intro other mem id about
    rcases mem_snoc.mp mem with old | rfl
    · exact works.covered other old id about
    · exact touched id about
  · exact fun _ _ _ _ row mem => .inl mem

end Orderly

section Logging

variable {store : RouterStore} {work : RouterTransaction} {entry : AgentStateLog}
  {written : List Interaction}

theorem offered_logging_of_ne (offered : OfferedIn (store.log (work.logging entry)) agent id)
    (other : ¬ (entry.userId = agent ∧ entry.about = some id)) :
    OfferedIn (store.log work) agent id := by
  obtain ⟨reservation, mem, user, about, reserved, last⟩ := offered
  refine ⟨reservation, ?_, user, about, reserved, fun third inside =>
    last third (mem_log_logging.mpr (.inl inside))⟩
  rcases mem_log_logging.mp mem with old | rfl
  · exact old
  · exact absurd ⟨user, about⟩ other

section
variable (free : entry.state ≠ .reserved)
  (after : ∀ other ∈ store.log work, other.userId = entry.userId → other.about = entry.about → other.before entry)
  (about : entry.about = some id)
include free after about

/-- After an entry that is no reservation and comes last, the agent is not reserved any more. -/
theorem not_offered_logging : ¬ OfferedIn (store.log (work.logging entry)) entry.userId id := by
  rintro ⟨reservation, mem, user, told, reserved, last⟩
  rcases mem_log_logging.mp mem with old | rfl
  · exact last entry (mem_log_logging.mpr (.inr rfl)) rfl about
      (after reservation old user (told.trans about.symm))
  · exact free reserved

theorem whole_logging_off (owed : Owed (some entry.userId) id (store.log work) written) :
    Whole (store.log (work.logging entry)) written := by
  intro row mem other offered
  by_cases own : entry.userId = other ∧ entry.about = some row.id
  · obtain ⟨rfl, told⟩ := own
    exact absurd offered (not_offered_logging free after told)
  · refine (owed.others row mem other (offered_logging_of_ne offered own)).resolve_right ?_
    rintro ⟨same, equal⟩
    cases same
    exact own ⟨rfl, equal ▸ about⟩

end

theorem whole_logging_aside (aside : entry.about = none)
    (whole : Whole (store.log work) written) : Whole (store.log (work.logging entry)) written :=
  fun row mem other offered => whole row mem other
    (offered_logging_of_ne offered fun own => by rw [aside] at own; cases own.2)

/-- A reservation of whom the call was given to. -/
theorem whole_logging_given (keyed : (written.map Interaction.id).Nodup)
    (given : Given entry.userId id written) (about : entry.about = some id)
    (whole : Whole (store.log work) written) : Whole (store.log (work.logging entry)) written := by
  obtain ⟨row, mem, same, holds⟩ := given
  intro other inside agent offered
  by_cases own : entry.userId = agent ∧ entry.about = some other.id
  · have equal : other.id = row.id := Option.some.inj (own.2.symm.trans (about.trans (same ▸ rfl)))
    rw [inj_on_of_nodup_map keyed inside mem equal]
    exact own.1 ▸ holds
  · exact whole other inside agent (offered_logging_of_ne offered own)

theorem owed_logging (about : entry.about = some id) (touched : ∃ row ∈ written, row.id = id)
    (whole : Whole (store.log work) written) :
    Owed (some entry.userId) id (store.log (work.logging entry)) written := by
  refine ⟨touched, fun row inside agent offered => ?_⟩
  by_cases own : entry.userId = agent ∧ entry.about = some row.id
  · exact .inr ⟨congrArg some own.1, Option.some.inj (own.2.symm.trans about)⟩
  · exact .inl (whole row inside agent (offered_logging_of_ne offered own))

end Logging

namespace Orderly

variable {store : RouterStore} {pid other : Nat} {work otherWork : RouterTransaction}
  (orderly : Orderly store)

include orderly

/-- A row of the tables has a version in what the transaction sees. -/
theorem traced (mine : store.inside pid = some work) {row : Interaction}
    (mem : row ∈ store.interactions) : ∃ later ∈ store.calls work, Traces row later := by
  by_cases covered : Versions.Covers Interaction.id work.written row
  · obtain ⟨version, inside, same⟩ := covered
    exact ⟨version, mem_calls.mpr (.inl inside),
      (orderly.works pid work mine).traces version inside row mem same.symm⟩
  · exact ⟨row, mem_calls.mpr (.inr ⟨mem, covered⟩), .refl row⟩

theorem committed (mine : store.inside pid = some work)
    (whole : Whole (store.log work) work.written) : Orderly (store.commit pid work) where
  keyed := orderly.keyed_calls mine
  minted row mem := orderly.minted_calls mine mem
  below entry mem := orderly.below_log mine mem
  told entry mem id about := orderly.minted_log mine mem about
  offers row mem agent offered := orderly.holds_of_offered mine whole mem offered
  works := by
    intro other otherWork inside
    by_cases own : other = pid
    · subst own
      rw [inside_commit] at inside
      cases inside
    · rw [inside_commit_of_ne own] at inside
      have works := orderly.works other otherWork inside
      refine ⟨works.keyed, works.minted, works.below, works.covered, ?_⟩
      intro row mem old before same
      rcases mem_calls.mp before with version | ⟨committed, -⟩
      · exact absurd ⟨old, version, same⟩
          (orderly.apart other pid otherWork work (Ne.symm own) inside mine row mem)
      · exact works.traces row mem old committed same
  apart := by
    intro left right leftWork rightWork differs leftInside rightInside
    by_cases own : left = pid
    · subst own
      rw [inside_commit] at leftInside
      cases leftInside
    · by_cases too : right = pid
      · subst too
        rw [inside_commit] at rightInside
        cases rightInside
      · rw [inside_commit_of_ne own] at leftInside
        rw [inside_commit_of_ne too] at rightInside
        exact orderly.apart left right leftWork rightWork differs leftInside rightInside

theorem kept_of_commit (mine : store.inside pid = some work) (differs : other ≠ pid) :
    RowsKept other store (store.commit pid work) where
  inside := inside_commit_of_ne differs
  told := by
    intro otherWork inside row mem entry about
    rw [show (store.commit pid work).states = store.log work from rfl, mem_log]
    refine ⟨fun seen => seen.resolve_right fun logged => ?_, .inl⟩
    obtain ⟨version, written, same⟩ := (orderly.works pid work mine).covered entry logged _ about
    exact orderly.apart other pid otherWork work (Ne.symm differs) inside mine row mem
      ⟨version, written, same⟩
  rows row mem := orderly.traced mine mem

end Orderly

end DContact.Router

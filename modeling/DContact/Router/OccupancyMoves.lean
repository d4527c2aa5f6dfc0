import DContact.Router.OccupancySteps

/-!
# Moves of a transaction

Each statement that changes something keeps the agents in one hand each.
-/

namespace DContact.Router

open Lib List AgentStateLog Versions
open Governance (Instant)

variable {entry : AgentStateLog}

namespace Seats

variable {store : RouterStore} {pid : Nat} {work : RouterTransaction}

theorem nothing_owned {agent : String} : ¬ Owns store .empty agent := by
  rintro (locked | ⟨row, -, -, version, mem, -⟩ | ⟨entry, -, locked, -⟩)
  · exact not_mem_nil locked
  · exact not_mem_nil mem
  · exact not_mem_nil locked

theorem sits_empty (seats : Seats store) : Sits store .empty where
  keyed := nodup_nil
  minted := forall_mem_nil _
  sound := forall_mem_nil _
  below := forall_mem_nil _
  distinct := forall_mem_nil _
  apart := by
    rw [calls_empty]
    exact seats.apart
  vacant := by
    rw [calls_empty, log_empty]
    exact fun agent free row mem occupied => absurd occupied (seats.vacant agent free row mem)
  rows := forall_mem_nil _
  frees := forall_mem_nil _
  covered _ owns := absurd owns nothing_owned
  later := forall_mem_nil _
  users _ _ mem := absurd mem not_mem_nil
  entries _ _ mem := absurd mem not_mem_nil
  present := forall_mem_nil _

theorem begun (seats : Seats store) : Seats (store.working pid .empty) := by
  refine seats.rework rfl rfl (fun _ mem => mem) (Nat.le_refl _) inside_working
    (fun other differs => inside_working_of_ne differs) ?_ ?_ ?_
  · exact seats.sits_empty.congr rfl rfl (fun _ mem => mem) (Nat.le_refl _)
  · exact fun other otherWork _ _ =>
      ⟨forall_mem_nil _, forall_mem_nil _, forall_mem_nil _, forall_mem_nil _⟩
  · exact fun other otherWork _ _ agent owns => absurd owns nothing_owned

theorem rolledBack (seats : Seats store) : Seats (store.rollback pid) := by
  have inside : ∀ other otherWork, (store.rollback pid).inside other = some otherWork →
      store.inside other = some otherWork := by
    intro other otherWork found
    by_cases own : other = pid
    · subst own
      rw [inside_rollback] at found
      cases found
    · rwa [inside_rollback_of_ne own] at found
  exact
    { seats with
      works := fun other otherWork found => (seats.works other otherWork (inside _ _ found)).congr
        rfl rfl (fun _ mem => mem) (Nat.le_refl _)
      separate := fun left right leftWork rightWork apart leftFound rightFound =>
        seats.separate left right leftWork rightWork apart (inside _ _ leftFound)
          (inside _ _ rightFound)
      owned := fun left right leftWork rightWork apart leftFound rightFound =>
        seats.owned left right leftWork rightWork apart (inside _ _ leftFound)
          (inside _ _ rightFound) }

/-- A transaction goes on. -/
theorem goesOn (seats : Seats store) (mine : store.inside pid = some work)
    {next : RouterTransaction} {minted : List String} {counter : Nat}
    (more : store.minted ⊆ minted) (later : store.nextEntry ≤ counter)
    (sits : Sits { store with minted := minted, nextEntry := counter } next)
    (separate : ∀ other otherWork, other ≠ pid → store.inside other = some otherWork →
      Separate work otherWork → Separate next otherWork)
    (owned : ∀ other otherWork, other ≠ pid → store.inside other = some otherWork → ∀ agent,
      Owns store next agent → Owns store work agent ∨ ¬ Owns store otherWork agent) :
    Seats { store.working pid next with minted := minted, nextEntry := counter } := by
  refine seats.rework rfl rfl more later inside_working
    (fun other differs => inside_working_of_ne differs)
    (sits.congr rfl rfl (fun _ mem => mem) (Nat.le_refl _)) ?_ ?_
  · intro other otherWork differs inside
    exact separate other otherWork differs inside
      (seats.separate pid other work otherWork (Ne.symm differs) mine inside)
  · intro other otherWork differs inside agent owns
    rcases owned other otherWork differs inside agent owns with old | free
    · exact seats.owned pid other work otherWork (Ne.symm differs) mine inside agent old
    · exact free

theorem logged (seats : Seats store) (mine : store.inside pid = some work)
    (fresh : entry.id = store.nextEntry) (latest : Latest store work entry)
    (vacant : entry.frees = true → Vacant store work entry.userId) :
    Seats { store.working pid (work.logging entry) with nextEntry := store.nextEntry + 1 } := by
  have sits := seats.works pid work mine
  refine seats.goesOn mine (fun _ mem => mem) (Nat.le_succ _) ?_ ?_ ?_
  · exact
      { sits with
        below := by
          intro other mem
          rcases mem_snoc.mp mem with old | rfl
          · exact Nat.lt_succ_of_lt (sits.below other old)
          · exact fresh ▸ Nat.lt_succ_self _
        distinct := by
          have below : ∀ other ∈ store.log work, other.id ≠ entry.id := by
            intro other mem same
            have known : other.id < store.nextEntry := by
              rcases mem_log.mp mem with old | own
              · exact seats.below other old
              · exact sits.below other own
            omega
          intro other mem third inside same
          rcases mem_log_logging.mp inside with old | rfl
          · rcases mem_snoc.mp mem with own | rfl
            · exact sits.distinct other own third old same
            · exact absurd same.symm (below third old)
          · rcases mem_append.mp mem with own | new
            · exact absurd same (below other (mem_log.mpr (.inr own)))
            · exact mem_singleton.mp new
        vacant := by
          intro agent free row mem occupied
          by_cases same : entry.userId = agent
          · subst same
            cases frees : entry.frees with
            | true => exact absurd occupied (sits.unoccupied (vacant frees) row mem)
            | false =>
                obtain ⟨other, ⟨inside, last⟩, mine, free⟩ := free
                rcases mem_log_logging.mp inside with old | rfl
                · exact absurd (latest other old mine)
                    (last entry (mem_log_logging.mpr (.inr rfl)) mine.symm)
                · rw [frees] at free
                  cases free
          · have earlier : FreeIn (store.log work) agent := by
              refine free.of_harmless (fun other inside => mem_log_logging.mpr (.inl inside)) ?_
              intro other inside new equal
              rcases mem_log_logging.mp inside with old | rfl
              · exact absurd old new
              · exact absurd equal same
            obtain ⟨locked, unreserved⟩ := sits.vacant agent earlier row mem occupied
            exact ⟨locked, fun reserved => unreserved ((reserved_logging_of_ne same).mp reserved)⟩
        frees := by
          intro other mem frees
          rcases mem_snoc.mp mem with old | rfl
          · exact sits.frees other old frees
          · exact (vacant frees).owns
        covered := sits.covered
        later := by
          intro other mem owns third inside same frees
          rcases mem_snoc.mp mem with old | rfl
          · exact sits.later other old owns third inside same frees
          · exact latest third (mem_log.mpr (.inl inside)) same
        present := by
          intro id locked
          obtain ⟨other, mem, same⟩ := sits.present id locked
          exact ⟨other, mem_log_logging.mpr (.inl mem), same⟩ }
  · intro other otherWork differs inside separate
    refine ⟨separate.written, ?_, separate.users, separate.entries⟩
    intro third mem fourth theirs same
    rcases mem_snoc.mp mem with old | rfl
    · exact separate.logged third old fourth theirs same
    · have below := (seats.works other otherWork inside).below fourth theirs
      omega
  · exact fun other otherWork differs inside agent owns => .inl owns

inductive Gives (store : RouterStore) (work : RouterTransaction) (row version : Interaction) : Prop
  | keeps (same : version.occupant = row.occupant)
  | frees (nobody : version.occupant = none)
  | hands (agent : String) (somebody : version.occupant = some agent)
      (vacant : Vacant store work agent) (locked : agent ∈ work.users)

section Writing

variable {row version : Interaction} {agent : String}

/-- Whoever has the version had the row, or was vacant. -/
theorem Gives.occupant (gives : Gives store work row version)
    (given : version.occupant = some agent) :
    row.occupant = some agent ∨ (Vacant store work agent ∧ agent ∈ work.users) := by
  cases gives with
  | keeps same => exact .inl (same ▸ given)
  | frees nobody =>
      rw [nobody] at given
      cases given
  | hands handed somebody vacant locked =>
      cases somebody.symm.trans given
      exact .inr ⟨vacant, locked⟩

theorem owns_writing (seats : Seats store) (agent : String) (mine : store.inside pid = some work)
    (mem : row ∈ store.calls work) (same : version.id = row.id) :
    Owns store (work.writing version) agent ↔
      Owns store work agent ∨ (row ∈ store.interactions ∧ row.occupant = some agent) := by
  unfold Owns
  constructor
  · rintro (locked | ⟨other, inside, occupied, covers⟩ | cooldown)
    · exact .inl (.inl locked)
    · rcases covers_write.mp covers with own | old
      · by_cases known : Versions.Covers Interaction.id work.written other
        · exact .inl (.inr (.inl ⟨other, inside, occupied, known⟩))
        · have equal : other = row := seats.same_row mine (mem_calls.mpr (.inr ⟨inside, known⟩))
            mem (own.symm.trans same)
          exact .inr (equal ▸ ⟨inside, occupied⟩)
      · exact .inl (.inr (.inl ⟨other, inside, occupied, old⟩))
    · exact .inl (.inr (.inr cooldown))
  · rintro ((locked | ⟨other, inside, occupied, covers⟩ | cooldown) | ⟨inside, occupied⟩)
    · exact .inl locked
    · exact .inr (.inl ⟨other, inside, occupied, covers_write.mpr (.inr covers)⟩)
    · exact .inr (.inr cooldown)
    · exact .inr (.inl ⟨row, inside, occupied, covers_write.mpr (.inl same)⟩)

theorem owns_occupant (seats : Seats store) (mine : store.inside pid = some work)
    (mem : row ∈ store.calls work) (same : version.id = row.id)
    (occupied : row.occupant = some agent) : Owns store (work.writing version) agent := by
  rw [seats.owns_writing agent mine mem same]
  rcases mem_calls.mp mem with own | ⟨old, -⟩
  · exact .inl ((seats.works pid work mine).rows row own agent occupied)
  · exact .inr ⟨old, occupied⟩

theorem written (seats : Seats store) (mine : store.inside pid = some work)
    (mem : row ∈ store.calls work) (same : version.id = row.id) (sound : version.Sound)
    (free : store.callLocked pid row.id = false) (tidy : Tidy store work)
    (gives : Gives store work row version) : Seats (store.working pid (work.writing version)) := by
  have sits := seats.works pid work mine
  have grown := fun agent => seats.owns_writing agent mine mem same
  have unowned : ∀ entry ∈ work.logged, Owns store work entry.userId := tidy
  refine seats.goesOn mine (fun _ mem => mem) (Nat.le_refl _) ?_ ?_ ?_
  · exact
      { sits with
        keyed := nodup_write sits.keyed
        minted := by
          intro other inside
          rcases mem_writing inside with rfl | ⟨old, -⟩
          · rw [same]
            rcases mem_calls.mp mem with own | ⟨old, -⟩
            · exact sits.minted row own
            · exact seats.minted row old
          · exact sits.minted other old
        sound := by
          intro other inside
          rcases mem_writing inside with rfl | ⟨old, -⟩
          · exact sound
          · exact sits.sound other old
        apart := by
          have alone : ∀ other ∈ store.calls work, other.id ≠ version.id → ∀ agent,
              version.occupant = some agent → other.occupant ≠ some agent := by
            intro other inside differs agent given occupied
            rcases gives.occupant given with had | ⟨vacant, -⟩
            · refine differs ?_
              rw [same]
              exact sits.apart other inside row mem agent occupied had
            · exact sits.unoccupied vacant other inside occupied
          intro left leftMember right rightMember agent leftOccupied rightOccupied
          rcases mem_calls_writing.mp leftMember with rfl | ⟨leftOld, leftOther⟩
          · rcases mem_calls_writing.mp rightMember with rfl | ⟨rightOld, rightOther⟩
            · rfl
            · exact absurd rightOccupied (alone right rightOld rightOther agent leftOccupied)
          · rcases mem_calls_writing.mp rightMember with rfl | ⟨rightOld, -⟩
            · exact absurd leftOccupied (alone left leftOld leftOther agent rightOccupied)
            · exact sits.apart left leftOld right rightOld agent leftOccupied rightOccupied
        vacant := by
          intro agent free other inside occupied
          rcases mem_calls_writing.mp inside with rfl | ⟨old, -⟩
          · rcases gives.occupant occupied with had | ⟨vacant, locked⟩
            · exact sits.vacant agent free row mem had
            · exact ⟨locked, fun reserved => sits.not_free vacant.owns reserved free⟩
          · exact sits.vacant agent free other old occupied
        rows := by
          intro other inside agent occupied
          rcases mem_writing inside with rfl | ⟨old, -⟩
          · rcases gives.occupant occupied with had | ⟨vacant, -⟩
            · exact seats.owns_occupant mine mem same had
            · exact (grown agent).mpr (.inl vacant.owns)
          · exact (grown agent).mpr (.inl (sits.rows other old agent occupied))
        frees := fun entry inside frees => (grown _).mpr (.inl (sits.frees entry inside frees))
        covered := by
          intro agent owns other inside occupied
          rcases (grown agent).mp owns with old | ⟨committed, given⟩
          · exact covers_write.mpr (.inr (sits.covered agent old other inside occupied))
          · refine covers_write.mpr (.inl ?_)
            rw [same]
            exact seats.apart row committed other inside agent given occupied
        later := fun entry inside _ => sits.later entry inside (unowned entry inside) }
  · intro other otherWork differs inside separate
    refine ⟨?_, separate.logged, separate.users, separate.entries⟩
    intro third mem
    rcases mem_writing mem with rfl | ⟨old, -⟩
    · exact not_covered free differs inside same
    · exact separate.written third old
  · intro other otherWork differs inside agent owns
    refine ((grown agent).mp owns).imp_right fun ⟨committed, occupied⟩ theirs => ?_
    exact not_covered free differs inside rfl
      ((seats.works other otherWork inside).covered agent theirs row committed occupied)

end Writing

section Creating

variable {row : Interaction} {agent : String}

theorem owns_fresh (seats : Seats store) (work : RouterTransaction) (agent : String)
    (fresh : row.id ∉ store.minted) :
    Owns store (work.writing row) agent ↔ Owns store work agent := by
  unfold Owns
  constructor
  · rintro (locked | ⟨other, inside, occupied, covers⟩ | cooldown)
    · exact .inl locked
    · rcases covers_write.mp covers with own | old
      · exact absurd (own ▸ seats.minted other inside) fresh
      · exact .inr (.inl ⟨other, inside, occupied, old⟩)
    · exact .inr (.inr cooldown)
  · rintro (locked | ⟨other, inside, occupied, covers⟩ | cooldown)
    · exact .inl locked
    · exact .inr (.inl ⟨other, inside, occupied, covers_write.mpr (.inr covers)⟩)
    · exact .inr (.inr cooldown)

theorem created (seats : Seats store) (mine : store.inside pid = some work)
    (fresh : row.id ∉ store.minted) (sound : row.Sound) (nobody : row.occupant = none) :
    Seats { store.working pid (work.writing row) with minted := row.id :: store.minted } := by
  have sits := seats.works pid work mine
  have grown := fun agent => seats.owns_fresh work agent fresh
  refine seats.goesOn mine (fun _ mem => mem_cons_of_mem _ mem) (Nat.le_refl _) ?_ ?_ ?_
  · have kept : ∀ other ∈ store.calls (work.writing row), ∀ agent, other.occupant = some agent →
        other ∈ store.calls work := by
      intro other mem agent occupied
      rcases mem_calls_writing.mp mem with rfl | ⟨old, -⟩
      · rw [nobody] at occupied
        cases occupied
      · exact old
    exact
      { sits with
        keyed := nodup_write sits.keyed
        minted := by
          intro other inside
          rcases mem_writing inside with rfl | ⟨old, -⟩
          · exact mem_cons_self
          · exact mem_cons_of_mem _ (sits.minted other old)
        sound := by
          intro other inside
          rcases mem_writing inside with rfl | ⟨old, -⟩
          · exact sound
          · exact sits.sound other old
        apart := fun left leftMember right rightMember agent leftOccupied rightOccupied =>
          sits.apart left (kept left leftMember agent leftOccupied) right
            (kept right rightMember agent rightOccupied) agent leftOccupied rightOccupied
        vacant := fun agent free other mem occupied =>
          sits.vacant agent free other (kept other mem agent occupied) occupied
        rows := by
          intro other inside agent occupied
          rcases mem_writing inside with rfl | ⟨old, -⟩
          · rw [nobody] at occupied
            cases occupied
          · exact (grown agent).mpr (sits.rows other old agent occupied)
        frees := fun entry inside frees => (grown _).mpr (sits.frees entry inside frees)
        covered := fun agent owns other inside occupied => covers_write.mpr
          (.inr (sits.covered agent ((grown agent).mp owns) other inside occupied))
        later := fun entry inside owns => sits.later entry inside ((grown _).mp owns) }
  · intro other otherWork differs inside separate
    refine ⟨?_, separate.logged, separate.users, separate.entries⟩
    intro third mem
    rcases mem_writing mem with rfl | ⟨old, -⟩
    · exact not_covered_of_fresh (seats.works other otherWork inside).minted fresh
    · exact separate.written third old
  · exact fun other otherWork differs inside agent owns => .inl ((grown agent).mp owns)

end Creating

section Locking

variable {agent : String}

theorem owns_holding {other : String} :
    Owns store { work with users := agent :: work.users } other ↔
      other = agent ∨ Owns store work other := by
  simp only [Owns, mem_cons, or_assoc]

section
variable (seats : Seats store) (mine : store.inside pid = some work)
include seats mine

/-- Nobody else has an agent in hand who is available in what the transaction sees. -/
theorem unowned_of_available (unlocked : store.userLocked pid agent = false)
    (available : stateIn (store.log work) agent = some .available) {other : Nat}
    {otherWork : RouterTransaction} (differs : other ≠ pid)
    (inside : store.inside other = some otherWork) : ¬ Owns store otherWork agent := by
  intro owns
  obtain ⟨entry, ⟨mem, last⟩, rfl, state⟩ := available_latest available
  have frees := frees_of_available state
  rcases mem_log.mp mem with old | own
  · have latest : LatestIn store.states entry :=
      ⟨old, fun third known => last third (mem_log.mpr (.inl known))⟩
    rcases seats.free_owner inside latest frees owns with locked | ⟨cools, -⟩
    · have absent := not_others unlocked differs inside
      simp only [contains_eq_mem, decide_eq_false_iff_not] at absent
      exact absent locked
    · have pausing := (cools_iff.mp cools).1
      rw [state] at pausing
      cases pausing
  · exact seats.owned pid other work otherWork (Ne.symm differs) mine inside entry.userId
      ((seats.works pid work mine).frees entry own frees) owns

/-- The committed calls of such an agent are all written by the transaction. -/
theorem covered_of_available (available : stateIn (store.log work) agent = some .available) :
    ∀ row ∈ store.interactions, row.occupant = some agent →
      Versions.Covers Interaction.id work.written row := by
  intro row mem occupied
  obtain ⟨entry, ⟨inside, last⟩, rfl, state⟩ := available_latest available
  have frees := frees_of_available state
  rcases mem_log.mp inside with old | own
  · have latest : LatestIn store.states entry :=
      ⟨old, fun third known => last third (mem_log.mpr (.inl known))⟩
    exact absurd occupied (seats.vacant _ ⟨entry, latest, rfl, frees⟩ row mem)
  · have sits := seats.works pid work mine
    exact sits.covered _ (sits.frees entry own frees) row mem occupied

theorem held (unlocked : store.userLocked pid agent = false) (tidy : Tidy store work)
    (available : stateIn (store.log work) agent = some .available) :
    Seats (store.working pid { work with users := agent :: work.users }) := by
  have sits := seats.works pid work mine
  have unowned : ∀ entry ∈ work.logged, Owns store work entry.userId := tidy
  refine seats.goesOn mine (fun _ mem => mem) (Nat.le_refl _) ?_ ?_ ?_
  · exact
      { sits with
        vacant := fun other free row mem occupied =>
          have owes := sits.vacant other free row mem occupied
          ⟨mem_cons_of_mem _ owes.1, owes.2⟩
        rows := fun row mem other occupied =>
          owns_holding.mpr (.inr (sits.rows row mem other occupied))
        frees := fun entry mem frees => owns_holding.mpr (.inr (sits.frees entry mem frees))
        covered := by
          intro other owns row mem occupied
          rcases owns_holding.mp owns with rfl | old
          · exact seats.covered_of_available mine available row mem occupied
          · exact sits.covered other old row mem occupied
        later := fun entry mem _ => sits.later entry mem (unowned entry mem)
        users := by
          intro entry latest mem cools
          rcases mem_cons.mp mem with same | old
          · obtain ⟨free, ⟨inside, last⟩, equal, state⟩ := available_latest available
            rcases mem_log.mp inside with committed | own
            · have unordered : ¬ free.before entry :=
                last entry (mem_log.mpr (.inl latest.1)) (same.trans equal.symm)
              have sameId := same_of_unordered
                (latest.2 free committed (equal.trans same.symm)) unordered
              have equalEntries := seats.distinct entry latest.1 free committed sameId
              have pausing := (cools_iff.mp cools).1
              rw [equalEntries, state] at pausing
              cases pausing
            · have owns := sits.frees free own (frees_of_available state)
              rw [equal, ← same] at owns
              rcases seats.free_owner mine latest (frees_of_cools cools) owns with
                locked | ⟨-, locked⟩
              · exact sits.users entry latest locked cools
              · exact locked
          · exact sits.users entry latest old cools }
  · intro other otherWork differs inside separate
    refine ⟨separate.written, separate.logged, ?_, separate.entries⟩
    intro third mem theirs
    rcases mem_cons.mp mem with rfl | old
    · exact seats.unowned_of_available mine unlocked available differs inside (.inl theirs)
    · exact separate.users third old theirs
  · intro other otherWork differs inside third owns
    rcases owns_holding.mp owns with rfl | old
    · exact .inr (seats.unowned_of_available mine unlocked available differs inside)
    · exact .inl old

end

end Locking

section Cooldowns

variable {cooldowns : List AgentStateLog} {agent : String}

structure Lockable (store : RouterStore) (pid : Nat) (work : RouterTransaction)
    (entry : AgentStateLog) : Prop where
  latest : LatestIn (store.log work) entry
  cools : entry.cools = true
  unlocked : store.entryLocked pid entry.id = false

theorem Lockable.committed (lockable : Lockable store pid work entry)
    (old : entry ∈ store.states) : LatestIn store.states entry :=
  ⟨old, fun other mem => lockable.latest.2 other (mem_log.mpr (.inl mem))⟩

theorem locked_entry (seats : Seats store) (mine : store.inside pid = some work)
    (lockable : ∀ entry ∈ cooldowns, Lockable store pid work entry)
    (mem : entry ∈ store.states) (locked : entry.id ∈ cooldowns.map AgentStateLog.id) :
    entry ∈ cooldowns := by
  obtain ⟨cooldown, inside, same⟩ := mem_map.mp locked
  rcases mem_log.mp (lockable cooldown inside).latest.1 with old | own
  · exact seats.distinct cooldown old entry mem same ▸ inside
  · have equal := (seats.works pid work mine).distinct cooldown own entry
      (mem_log.mpr (.inl mem)) same
    exact equal ▸ inside

theorem owns_cooling (seats : Seats store) (agent : String) (mine : store.inside pid = some work)
    (lockable : ∀ entry ∈ cooldowns, Lockable store pid work entry) :
    Owns store { work with entries := cooldowns.map AgentStateLog.id ++ work.entries } agent ↔
      Owns store work agent ∨ ∃ entry ∈ cooldowns, entry ∈ store.states ∧ entry.userId = agent := by
  unfold Owns
  constructor
  · rintro (locked | call | ⟨entry, mem, locked, same⟩)
    · exact .inl (.inl locked)
    · exact .inl (.inr (.inl call))
    · rcases mem_append.mp locked with new | old
      · exact .inr ⟨entry, seats.locked_entry mine lockable mem new, mem, same⟩
      · exact .inl (.inr (.inr ⟨entry, mem, old, same⟩))
  · rintro ((locked | call | ⟨entry, mem, locked, same⟩) | ⟨entry, inside, mem, same⟩)
    · exact .inl locked
    · exact .inr (.inl call)
    · exact .inr (.inr ⟨entry, mem, mem_append_right _ locked, same⟩)
    · exact .inr (.inr ⟨entry, mem,
        mem_append_left _ (mem_map_of_mem inside), same⟩)

/-- Nobody else has an agent in hand whose cooldown can be locked. -/
theorem unowned_of_lockable (seats : Seats store)
    (lockable : Lockable store pid work entry) (old : entry ∈ store.states) {other : Nat}
    {otherWork : RouterTransaction} (differs : other ≠ pid)
    (inside : store.inside other = some otherWork) : ¬ Owns store otherWork entry.userId := by
  intro owns
  have latest := lockable.committed old
  have absent := not_others lockable.unlocked differs inside
  simp only [contains_eq_mem, decide_eq_false_iff_not] at absent
  rcases seats.free_owner inside latest (frees_of_cools lockable.cools) owns with
    locked | ⟨-, locked⟩
  · exact absent ((seats.works other otherWork inside).users entry latest locked lockable.cools)
  · exact absent locked

theorem cooled (seats : Seats store) (mine : store.inside pid = some work)
    (tidy : Tidy store work) (lockable : ∀ entry ∈ cooldowns, Lockable store pid work entry) :
    Seats (store.working pid
      { work with entries := cooldowns.map AgentStateLog.id ++ work.entries }) := by
  have sits := seats.works pid work mine
  have unowned : ∀ entry ∈ work.logged, Owns store work entry.userId := tidy
  have grown := fun agent => seats.owns_cooling agent mine lockable
  refine seats.goesOn mine (fun _ mem => mem) (Nat.le_refl _) ?_ ?_ ?_
  · exact
      { sits with
        rows := fun row mem other occupied =>
          (grown other).mpr (.inl (sits.rows row mem other occupied))
        frees := fun entry mem frees => (grown _).mpr (.inl (sits.frees entry mem frees))
        covered := by
          intro other owns row mem occupied
          rcases (grown other).mp owns with old | ⟨entry, inside, committed, rfl⟩
          · exact sits.covered other old row mem occupied
          · have free : FreeIn store.states entry.userId :=
              ⟨entry, (lockable entry inside).committed committed, rfl,
                frees_of_cools (lockable entry inside).cools⟩
            exact absurd occupied (seats.vacant _ free row mem)
        later := fun entry mem _ => sits.later entry mem (unowned entry mem)
        users := fun entry latest mem cools =>
          mem_append_right _ (sits.users entry latest mem cools)
        entries := by
          intro entry mem locked
          rcases mem_append.mp locked with new | old
          · have inside := seats.locked_entry mine lockable mem new
            refine ⟨(lockable entry inside).cools, fun other known same before => ?_⟩
            exact absurd before
              ((lockable entry inside).latest.2 other (mem_log.mpr (.inl known)) same)
          · exact sits.entries entry mem old
        present := by
          intro id locked
          rcases mem_append.mp locked with new | old
          · obtain ⟨entry, inside, rfl⟩ := mem_map.mp new
            exact ⟨entry, (lockable entry inside).latest.1, rfl⟩
          · exact sits.present id old }
  · intro other otherWork differs inside separate
    refine ⟨separate.written, separate.logged, separate.users, ?_⟩
    intro id mem theirs
    rcases mem_append.mp mem with new | old
    · obtain ⟨entry, locked, rfl⟩ := mem_map.mp new
      have absent := not_others (lockable entry locked).unlocked differs inside
      simp only [contains_eq_mem, decide_eq_false_iff_not] at absent
      exact absent theirs
    · exact separate.entries id old theirs
  · intro other otherWork differs inside third owns
    rcases (grown third).mp owns with old | ⟨entry, locked, committed, rfl⟩
    · exact .inl old
    · exact .inr (seats.unowned_of_lockable (lockable entry locked) committed differs inside)

end Cooldowns

section Committing

variable {agent : String} {other : Nat} {otherWork : RouterTransaction}

theorem committed_of_locked (seats : Seats store) (mine : store.inside pid = some work)
    (differs : other ≠ pid) (inside : store.inside other = some otherWork)
    (mem : entry ∈ store.log work) (locked : entry.id ∈ otherWork.entries) :
    entry ∈ store.states := by
  rcases mem_log.mp mem with old | own
  · exact old
  · obtain ⟨known, seen, equal⟩ := (seats.works other otherWork inside).present entry.id locked
    rcases mem_log.mp seen with old | logged
    · exact (seats.works pid work mine).distinct entry own known (mem_log.mpr (.inl old))
        equal.symm ▸ old
    · exact absurd equal.symm ((seats.separate pid other work otherWork (Ne.symm differs) mine
        inside).logged entry own known logged)

/-- What another transaction has in hand after the commit it had before. -/
theorem owns_of_commit (seats : Seats store) (agent : String) (mine : store.inside pid = some work)
    (differs : other ≠ pid) (inside : store.inside other = some otherWork) :
    Owns (store.commit pid work) otherWork agent ↔ Owns store otherWork agent := by
  have separate := seats.separate pid other work otherWork (Ne.symm differs) mine inside
  constructor
  · rintro (locked | ⟨row, mem, occupied, covers⟩ | ⟨entry, mem, locked, same⟩)
    · exact .inl locked
    · rcases mem_calls.mp mem with own | ⟨old, -⟩
      · exact absurd covers (separate.written row own)
      · exact .inr (.inl ⟨row, old, occupied, covers⟩)
    · exact .inr (.inr ⟨entry, seats.committed_of_locked mine differs inside mem locked, locked,
        same⟩)
  · rintro (locked | ⟨row, mem, occupied, covers⟩ | ⟨entry, mem, locked, same⟩)
    · exact .inl locked
    · refine .inr (.inl ⟨row, mem_calls.mpr (.inr ⟨mem, ?_⟩), occupied, covers⟩)
      rintro ⟨version, own, equal⟩
      exact separate.written version own (covers.congr equal.symm)
    · exact .inr (.inr ⟨entry, mem_log.mpr (.inl mem), locked, same⟩)

/-- Nobody who is free in the eyes of a settled transaction has a call in them. -/
theorem idle_after (seats : Seats store) (mine : store.inside pid = some work)
    (settled : Settled work) (free : FreeIn (store.log work) agent) :
    ∀ row ∈ store.calls work, row.occupant ≠ some agent := by
  have sits := seats.works pid work mine
  intro row mem occupied
  obtain ⟨locked, unreserved⟩ := sits.vacant agent free row mem occupied
  rcases mem_calls.mp mem with own | ⟨old, uncovered⟩
  · exact unreserved (settled agent locked row own occupied)
  · exact uncovered (sits.covered agent (.inl locked) row old occupied)

theorem mem_calls_commit {row : Interaction} :
    row ∈ (store.commit pid work).calls otherWork ↔ row ∈ otherWork.written ∨
      (row ∈ store.calls work ∧ ¬ Versions.Covers Interaction.id otherWork.written row) :=
  mem_overlay

theorem mem_log_commit : entry ∈ (store.commit pid work).log otherWork ↔
      entry ∈ store.log work ∨ entry ∈ otherWork.logged :=
  mem_append

section
variable (seats : Seats store) (mine : store.inside pid = some work)
include seats mine

/-- What another transaction sees after the commit with an agent of its own it saw before. -/
theorem seen_before (differs : other ≠ pid) (inside : store.inside other = some otherWork)
    (owns : Owns store otherWork agent) {row : Interaction}
    (mem : row ∈ (store.commit pid work).calls otherWork) (occupied : row.occupant = some agent) :
    row ∈ store.calls otherWork := by
  rcases mem_calls_commit.mp mem with own | ⟨seen, uncovered⟩
  · exact mem_calls.mpr (.inl own)
  · rcases mem_calls.mp seen with written | ⟨old, -⟩
    · exact absurd owns (seats.owned pid other work otherWork (Ne.symm differs) mine inside agent
        ((seats.works pid work mine).rows row written agent occupied))
    · exact mem_calls.mpr (.inr ⟨old, uncovered⟩)

theorem sits_after (settled : Settled work) (differs : other ≠ pid)
    (inside : store.inside other = some otherWork) : Sits (store.commit pid work) otherWork := by
  have sits := seats.works pid work mine
  have theirs := seats.works other otherWork inside
  have separate := seats.separate pid other work otherWork (Ne.symm differs) mine inside
  have kept := fun agent => seats.owns_of_commit agent mine differs inside
  have alien : ∀ agent, Owns store work agent → ¬ Owns store otherWork agent :=
    seats.owned pid other work otherWork (Ne.symm differs) mine inside
  exact
    { theirs with
      distinct := by
        intro entry mem third seen same
        rcases mem_log_commit.mp seen with known | own
        · rcases mem_log.mp known with old | logged
          · exact theirs.distinct entry mem third (mem_log.mpr (.inl old)) same
          · exact absurd same.symm (separate.logged third logged entry mem)
        · exact theirs.distinct entry mem third (mem_log.mpr (.inr own)) same
      apart := by
        intro left leftMember right rightMember agent leftOccupied rightOccupied
        by_cases owns : Owns store otherWork agent
        · exact theirs.apart left
            (seats.seen_before mine differs inside owns leftMember leftOccupied) right
            (seats.seen_before mine differs inside owns rightMember rightOccupied) agent
            leftOccupied rightOccupied
        · have seen : ∀ row ∈ (store.commit pid work).calls otherWork, row.occupant = some agent →
              row ∈ store.calls work := by
            intro row mem occupied
            rcases mem_calls_commit.mp mem with own | ⟨known, -⟩
            · exact absurd (theirs.rows row own agent occupied) owns
            · exact known
          exact sits.apart left (seen left leftMember leftOccupied) right
            (seen right rightMember rightOccupied) agent leftOccupied rightOccupied
      vacant := by
        intro agent free row mem occupied
        by_cases owns : Owns store otherWork agent
        · refine theirs.vacant agent ?_ row
            (seats.seen_before mine differs inside owns mem occupied) occupied
          refine free.of_harmless ?_ ?_
          · intro entry known
            rcases mem_log.mp known with old | own
            · exact mem_log_commit.mpr (.inl (mem_log.mpr (.inl old)))
            · exact mem_log_commit.mpr (.inr own)
          · intro entry seen new same
            by_contra frees
            rw [Bool.not_eq_false] at frees
            rcases mem_log_commit.mp seen with known | own
            · rcases mem_log.mp known with old | logged
              · exact new (mem_log.mpr (.inl old))
              · exact alien agent (same ▸ sits.frees entry logged frees) owns
            · exact new (mem_log.mpr (.inr own))
        · have seen : row ∈ store.calls work := by
            rcases mem_calls_commit.mp mem with own | ⟨known, -⟩
            · exact absurd (theirs.rows row own agent occupied) owns
            · exact known
          refine absurd occupied (seats.idle_after mine settled ?_ row seen)
          refine free.of_harmless (fun entry known => mem_log_commit.mpr (.inl known)) ?_
          intro entry known new same
          rcases mem_log_commit.mp known with old | own
          · exact absurd old new
          · by_contra frees
            rw [Bool.not_eq_false] at frees
            exact owns (same ▸ theirs.frees entry own frees)
      rows := fun row mem agent occupied =>
        (kept agent).mpr (theirs.rows row mem agent occupied)
      frees := fun entry mem frees => (kept _).mpr (theirs.frees entry mem frees)
      covered := by
        intro agent owns row mem occupied
        replace owns := (kept agent).mp owns
        rcases mem_calls.mp mem with written | ⟨old, -⟩
        · exact absurd owns (alien agent (sits.rows row written agent occupied))
        · exact theirs.covered agent owns row old occupied
      later := by
        intro entry mem owns third seen same frees
        replace owns := (kept _).mp owns
        rcases mem_log.mp seen with old | logged
        · exact theirs.later entry mem owns third old same frees
        · exact absurd owns (alien _ (same ▸ sits.frees third logged frees))
      users := by
        intro entry latest mem cools
        rcases mem_log.mp latest.1 with old | logged
        · exact theirs.users entry
            ⟨old, fun third known => latest.2 third (mem_log.mpr (.inl known))⟩ mem cools
        · exact absurd (.inl mem)
            (alien _ (sits.frees entry logged (frees_of_cools cools)))
      entries := by
        intro entry mem locked
        have old := seats.committed_of_locked mine differs inside mem locked
        obtain ⟨cools, quiet⟩ := theirs.entries entry old locked
        refine ⟨cools, fun third seen same before => ?_⟩
        rcases mem_log.mp seen with known | logged
        · exact quiet third known same before
        · by_contra frees
          rw [Bool.not_eq_false] at frees
          exact alien _ (same ▸ sits.frees third logged frees) (.inr (.inr ⟨entry, old, locked, rfl⟩))
      present := by
        intro id locked
        obtain ⟨entry, known, same⟩ := theirs.present id locked
        rcases mem_log.mp known with old | own
        · exact ⟨entry, mem_log_commit.mpr (.inl (mem_log.mpr (.inl old))), same⟩
        · exact ⟨entry, mem_log_commit.mpr (.inr own), same⟩ }

theorem committed (settled : Settled work) : Seats (store.commit pid work) := by
  have sits := seats.works pid work mine
  have inside : ∀ other otherWork, (store.commit pid work).inside other = some otherWork →
      other ≠ pid ∧ store.inside other = some otherWork := by
    intro other otherWork found
    by_cases own : other = pid
    · subst own
      rw [inside_commit] at found
      cases found
    · exact ⟨own, inside_commit_of_ne own ▸ found⟩
  exact
    { keyed := seats.keyed_calls mine
      minted := by
        intro row mem
        rcases mem_calls.mp mem with own | ⟨old, -⟩
        · exact sits.minted row own
        · exact seats.minted row old
      sound := fun row mem => seats.sound_calls mine mem
      below := by
        intro entry mem
        rcases mem_log.mp mem with old | own
        · exact seats.below entry old
        · exact sits.below entry own
      distinct := by
        intro entry mem other seen same
        rcases mem_log.mp mem with old | own
        · rcases mem_log.mp seen with known | logged
          · exact seats.distinct entry old other known same
          · exact (sits.distinct other logged entry mem same.symm).symm
        · exact sits.distinct entry own other seen same
      apart := sits.apart
      vacant := fun agent free => seats.idle_after mine settled free
      works := fun other otherWork found =>
        seats.sits_after mine settled (inside _ _ found).1 (inside _ _ found).2
      separate := fun left right leftWork rightWork apart leftFound rightFound =>
        seats.separate left right leftWork rightWork apart (inside _ _ leftFound).2
          (inside _ _ rightFound).2
      owned := by
        intro left right leftWork rightWork apart leftFound rightFound agent owns theirs
        obtain ⟨leftOther, leftInside⟩ := inside _ _ leftFound
        obtain ⟨rightOther, rightInside⟩ := inside _ _ rightFound
        exact seats.owned left right leftWork rightWork apart leftInside rightInside agent
          ((seats.owns_of_commit _ mine leftOther leftInside).mp owns)
          ((seats.owns_of_commit _ mine rightOther rightInside).mp theirs) }

end

end Committing

end Seats

end DContact.Router

import DContact.Lib.Sessions

/-!
# Read-committed transactions

A database has committed tables and transactions in flight. A transaction holds advisory locks and
has made changes that nobody else sees until it commits. A statement waits for a lock that another
transaction holds, and for a change of another transaction that it clashes with; a statement outside
a transaction commits at once. What a commit keeps follows from what the publication of one change
keeps.
-/

namespace DContact.Lib

open Session

/-- A transaction in flight: its locks and its changes, the first change first. -/
structure Transaction (κ χ : Type) where
  locks : List κ
  changes : List χ

/-- What a change does to the tables, and which changes wait for one another. -/
structure Writes (δ χ : Type) where
  apply : χ → δ → δ
  clash : χ → χ → Bool

structure Database (δ κ χ : Type) where
  tables : δ
  sessions : List (Session (Transaction κ χ))

namespace Database

variable {δ κ χ : Type}

def inside (db : Database δ κ χ) (pid : Nat) : Option (Transaction κ χ) :=
  Session.find db.sessions pid

def working (db : Database δ κ χ) (pid : Nat) (transaction : Transaction κ χ) : Database δ κ χ :=
  { db with sessions := Session.replace db.sessions pid transaction }

def begin_ (db : Database δ κ χ) (pid : Nat) : Database δ κ χ := db.working pid ⟨[], []⟩

def rollback (db : Database δ κ χ) (pid : Nat) : Database δ κ χ :=
  { db with sessions := Session.drop db.sessions pid }

/-- `pg_advisory_xact_lock`: `none` while another transaction holds the lock. -/
def lock [DecidableEq κ] (db : Database δ κ χ) (pid : Nat) (key : κ) : Option (Database δ κ χ) :=
  match db.inside pid with
  | none => some db
  | some transaction =>
      if Session.others db.sessions pid fun other => decide (key ∈ other.locks) then none
      else some (db.working pid { transaction with locks := key :: transaction.locks })

def write (writes : Writes δ χ) (db : Database δ κ χ) (pid : Nat) (change : χ) :
    Option (Database δ κ χ) :=
  if Session.others db.sessions pid fun other => other.changes.any (writes.clash change) then none
  else
    match db.inside pid with
    | none => some { db with tables := writes.apply change db.tables }
    | some transaction =>
        some (db.working pid { transaction with changes := transaction.changes ++ [change] })

def publish (writes : Writes δ χ) (changes : List χ) (tables : δ) : δ :=
  changes.foldl (fun tables change => writes.apply change tables) tables

def commit (writes : Writes δ χ) (db : Database δ κ χ) (pid : Nat) : Database δ κ χ :=
  match db.inside pid with
  | none => db
  | some transaction => ⟨publish writes transaction.changes db.tables, Session.drop db.sessions pid⟩

def Pending (db : Database δ κ χ) (pid : Nat) (change : χ) : Prop :=
  ∃ transaction, db.inside pid = some transaction ∧ change ∈ transaction.changes

def Holds (db : Database δ κ χ) (pid : Nat) (key : κ) : Prop :=
  ∃ transaction, db.inside pid = some transaction ∧ key ∈ transaction.locks

/-- No lock is held twice. -/
def LocksApart (db : Database δ κ χ) : Prop :=
  ∀ left right key, db.Holds left key → db.Holds right key → left = right

variable {db after : Database δ κ χ} {pid other : Nat} {key held : κ} {change : χ}
  {transaction : Transaction κ χ} {writes : Writes δ χ}

@[simp] theorem inside_working : (db.working pid transaction).inside pid = some transaction :=
  find_replace ..

theorem inside_working_of_ne (differs : other ≠ pid) :
    (db.working pid transaction).inside other = db.inside other := by
  unfold inside working
  exact find_replace_of_ne differs

theorem inside_rollback : (db.rollback pid).inside pid = none := find_drop ..

theorem inside_rollback_of_ne (differs : other ≠ pid) :
    (db.rollback pid).inside other = db.inside other :=
  find_drop_of_ne differs

/-- What changes when a transaction is put in the place of another: nothing for the others. -/
theorem holds_working :
    (db.working pid transaction).Holds other held ↔
      if other = pid then held ∈ transaction.locks else db.Holds other held := by
  by_cases own : other = pid
  · subst own
    simp [Holds]
  · simp [Holds, inside_working_of_ne own, own]

theorem holds_rollback : (db.rollback pid).Holds other held ↔ other ≠ pid ∧ db.Holds other held := by
  by_cases own : other = pid
  · subst own
    simp [Holds, inside_rollback]
  · simp [Holds, inside_rollback_of_ne own, own]

theorem lock_some [DecidableEq κ] (locked : db.lock pid key = some after) :
    (db.inside pid = none ∧ after = db) ∨
      ∃ transaction, db.inside pid = some transaction ∧
        (∀ other, other ≠ pid → ¬ db.Holds other key) ∧
        after = db.working pid { transaction with locks := key :: transaction.locks } := by
  unfold lock at locked
  split at locked
  next outside =>
    cases locked
    exact .inl ⟨outside, rfl⟩
  next transaction inside_ =>
    split at locked
    next => cases locked
    next free =>
      cases locked
      refine .inr ⟨transaction, inside_, ?_, rfl⟩
      rintro other differs ⟨work, found, mem⟩
      have apart := others_eq_false.mp (Bool.eq_false_iff.mpr free) _
        (find_mem found) differs
      exact absurd mem (by simpa using apart)

theorem write_some (written : db.write writes pid change = some after) :
    (∀ other earlier, other ≠ pid → db.Pending other earlier → writes.clash change earlier = false) ∧
      ((db.inside pid = none ∧ after = { db with tables := writes.apply change db.tables }) ∨
        ∃ transaction, db.inside pid = some transaction ∧
          after = db.working pid { transaction with
            changes := transaction.changes ++ [change] }) := by
  unfold write at written
  split at written
  next => cases written
  next free =>
    constructor
    · rintro other earlier differs ⟨work, found, mem⟩
      have apart := others_eq_false.mp (Bool.eq_false_iff.mpr free) _
        (find_mem found) differs
      exact (List.any_eq_false.mp apart earlier mem |> Bool.eq_false_iff.mpr)
    · split at written
      next outside =>
        cases written
        exact .inl ⟨outside, rfl⟩
      next transaction inside_ =>
        cases written
        exact .inr ⟨transaction, inside_, rfl⟩

/-- What a statement does to the database, whatever it answers. -/
inductive Effect (κ χ : Type) where
  | nothing
  | begin_
  | commit
  | rollback
  | lock (key : κ)
  | write (change : χ)

def Effect.within : Effect κ χ → Option (Transaction κ χ) → Option (Transaction κ χ)
  | .nothing, work => work
  | .begin_, _ => some ⟨[], []⟩
  | .commit, _ => none
  | .rollback, _ => none
  | .lock key, work => work.map fun work => { work with locks := key :: work.locks }
  | .write change, work => work.map fun work => { work with changes := work.changes ++ [change] }

/-- What a session is in after a statement: a transaction begun, or the one before and perhaps a lock
or a change more. -/
theorem Effect.within_some {effect : Effect κ χ} {work : Option (Transaction κ χ)}
    {next : Transaction κ χ} (moved : effect.within work = some next) :
    (effect = .begin_ ∧ next = ⟨[], []⟩) ∨ ∃ before, work = some before ∧
      ((effect = .nothing ∧ next = before) ∨
        (∃ key, effect = .lock key ∧ next = { before with locks := key :: before.locks }) ∨
        ∃ change, effect = .write change ∧
          next = { before with changes := before.changes ++ [change] }) := by
  cases effect with
  | nothing => exact .inr ⟨next, moved, .inl ⟨rfl, rfl⟩⟩
  | begin_ =>
      cases moved
      exact .inl ⟨rfl, rfl⟩
  | commit => cases moved
  | rollback => cases moved
  | lock key =>
      obtain ⟨before, found, rfl⟩ := Option.map_eq_some_iff.mp moved
      exact .inr ⟨before, found, .inr (.inl ⟨key, rfl, rfl⟩)⟩
  | write change =>
      obtain ⟨before, found, rfl⟩ := Option.map_eq_some_iff.mp moved
      exact .inr ⟨before, found, .inr (.inr ⟨change, rfl, rfl⟩)⟩

/-- The database after a statement of a session. -/
inductive Moved [DecidableEq κ] (writes : Writes δ χ) (db : Database δ κ χ) (pid : Nat) :
    Effect κ χ → Database δ κ χ → Prop where
  | nothing : Moved writes db pid .nothing db
  | begin_ : Moved writes db pid .begin_ (db.begin_ pid)
  | commit : Moved writes db pid .commit (db.commit writes pid)
  | rollback : Moved writes db pid .rollback (db.rollback pid)
  | lock {key : κ} {after : Database δ κ χ} (locked : db.lock pid key = some after) :
      Moved writes db pid (.lock key) after
  | write {change : χ} {after : Database δ κ χ} (written : db.write writes pid change = some after) :
      Moved writes db pid (.write change) after

section Moved

variable [DecidableEq κ] {effect : Effect κ χ}

omit [DecidableEq κ] in
theorem inside_commit : (db.commit writes pid).inside pid = none := by
  unfold commit
  split
  next outside => exact outside
  next => exact find_drop ..

omit [DecidableEq κ] in
theorem inside_commit_of_ne (differs : other ≠ pid) :
    (db.commit writes pid).inside other = db.inside other := by
  unfold commit
  split
  next => rfl
  next => exact find_drop_of_ne differs

theorem Moved.inside (moved : Moved writes db pid effect after) :
    after.inside pid = effect.within (db.inside pid) := by
  cases moved with
  | nothing => rfl
  | begin_ => exact inside_working
  | commit => exact inside_commit
  | rollback => exact inside_rollback
  | lock locked =>
      rcases lock_some locked with ⟨outside, rfl⟩ | ⟨work, found, -, rfl⟩
      · simp [Effect.within, outside]
      · simp [Effect.within, found]
  | write written =>
      rcases (write_some written).2 with ⟨outside, rfl⟩ | ⟨work, found, rfl⟩
      · change db.inside pid = _
        simp [Effect.within, outside]
      · simp [Effect.within, found]

theorem Moved.others (moved : Moved writes db pid effect after) (differs : other ≠ pid) :
    after.inside other = db.inside other := by
  cases moved with
  | nothing => rfl
  | begin_ => exact inside_working_of_ne differs
  | commit => exact inside_commit_of_ne differs
  | rollback => exact inside_rollback_of_ne differs
  | lock locked =>
      rcases lock_some locked with ⟨-, rfl⟩ | ⟨work, -, -, rfl⟩
      · rfl
      · exact inside_working_of_ne differs
  | write written =>
      rcases (write_some written).2 with ⟨-, rfl⟩ | ⟨work, -, rfl⟩
      · rfl
      · exact inside_working_of_ne differs

end Moved

section
variable (apart : db.LocksApart)
include apart

theorem LocksApart.working
    (free : ∀ key ∈ transaction.locks, ∀ other, other ≠ pid → ¬ db.Holds other key) :
    (db.working pid transaction).LocksApart := by
  intro left right key leftHolds rightHolds
  rw [holds_working] at leftHolds rightHolds
  split at leftHolds <;> split at rightHolds
  next leftOwn rightOwn => exact leftOwn.trans rightOwn.symm
  next leftOwn rightOther => exact absurd rightHolds (free key leftHolds right rightOther)
  next leftOther rightOwn => exact absurd leftHolds (free key rightHolds left leftOther)
  next => exact apart left right key leftHolds rightHolds

theorem LocksApart.rollback : (db.rollback pid).LocksApart := by
  intro left right key leftHolds rightHolds
  exact apart left right key (holds_rollback.mp leftHolds).2 (holds_rollback.mp rightHolds).2

theorem LocksApart.own (found : db.inside pid = some transaction) :
    ∀ key ∈ transaction.locks, ∀ other, other ≠ pid → ¬ db.Holds other key :=
  fun key mem other differs holds => differs (apart other pid key holds ⟨transaction, found, mem⟩)

theorem LocksApart.lock [DecidableEq κ] (locked : db.lock pid key = some after) :
    after.LocksApart := by
  rcases lock_some locked with ⟨-, rfl⟩ | ⟨transaction, found, free, rfl⟩
  · exact apart
  · refine apart.working fun held mem other differs holds => ?_
    rcases List.mem_cons.mp mem with rfl | old
    · exact free other differs holds
    · exact apart.own found held old other differs holds

theorem LocksApart.commit : (db.commit writes pid).LocksApart := by
  have kept : ∀ session key, (db.commit writes pid).Holds session key → db.Holds session key := by
    rintro session key ⟨work, found, mem⟩
    by_cases own : session = pid
    · subst own
      rw [inside_commit] at found
      cases found
    · exact ⟨work, (inside_commit_of_ne own).symm.trans found, mem⟩
  intro left right key leftHolds rightHolds
  exact apart left right key (kept left key leftHolds) (kept right key rightHolds)

theorem LocksApart.moved [DecidableEq κ] {effect : Effect κ χ}
    (moved : Moved writes db pid effect after) : after.LocksApart := by
  cases moved with
  | nothing => exact apart
  | begin_ => exact apart.working nofun
  | commit => exact apart.commit
  | rollback => exact apart.rollback
  | lock locked => exact apart.lock locked
  | write written =>
      rcases (write_some written).2 with ⟨-, rfl⟩ | ⟨work, found, rfl⟩
      · exact apart
      · exact apart.working fun key mem => apart.own found key mem

end

/-- What the publication of the first change keeps, and the end of a transaction keeps, a commit
keeps. -/
theorem commit_induction {P : Database δ κ χ → Prop} (holds : P db)
    (publishes : ∀ db change rest locks, P db → db.inside pid = some ⟨locks, change :: rest⟩ →
      P ⟨writes.apply change db.tables, (db.working pid ⟨locks, rest⟩).sessions⟩)
    (ends : ∀ db, P db → P (db.rollback pid)) : P (db.commit writes pid) := by
  unfold commit
  split
  next => exact holds
  next transaction found =>
    obtain ⟨locks, changes⟩ := transaction
    induction changes generalizing db with
    | nil => exact ends db holds
    | cons change rest ih =>
        have published := publishes db change rest locks holds found
        have next := ih published (find_replace ..)
        simpa [publish, working] using next

end Database

end DContact.Lib

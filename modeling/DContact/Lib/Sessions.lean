import Mathlib.Data.List.Basic

/-!
# Sessions of concurrent transactions

The transactions in flight are a list of sessions, each with an identifier and
the work it has done so far. A session that moves on replaces its entry, and one
that ends is dropped. Locks are properties of the work, so they end with it.
-/

namespace DContact.Lib

universe u

/-- One transaction in flight. -/
structure Session (τ : Type u) where
  pid : Nat
  work : τ

namespace Session

variable {τ : Type u}

def find (sessions : List (Session τ)) (pid : Nat) : Option τ :=
  (sessions.find? fun session => session.pid == pid).map Session.work

def drop (sessions : List (Session τ)) (pid : Nat) : List (Session τ) :=
  sessions.filter fun session => session.pid != pid

def replace (sessions : List (Session τ)) (pid : Nat) (work : τ) : List (Session τ) :=
  ⟨pid, work⟩ :: drop sessions pid

def others (sessions : List (Session τ)) (pid : Nat) (holds : τ → Bool) : Bool :=
  sessions.any fun session => session.pid != pid && holds session.work

variable {sessions : List (Session τ)} {pid : Nat} {work : τ}

theorem find_mem (found : find sessions pid = some work) : ⟨pid, work⟩ ∈ sessions := by
  obtain ⟨session, first, rfl⟩ := Option.map_eq_some_iff.mp found
  have same : session.pid = pid := by simpa using List.find?_some first
  subst same
  exact List.mem_of_find?_eq_some first

variable {session : Session τ}

theorem mem_drop : session ∈ drop sessions pid ↔ session ∈ sessions ∧ session.pid ≠ pid := by
  simp [drop]

theorem mem_replace :
    session ∈ replace sessions pid work ↔
      session = ⟨pid, work⟩ ∨ (session ∈ sessions ∧ session.pid ≠ pid) := by
  simp [replace, mem_drop]

@[simp] theorem find_replace (sessions : List (Session τ)) (pid : Nat) (work : τ) :
    find (replace sessions pid work) pid = some work := by
  simp [find, replace]

theorem find_drop (sessions : List (Session τ)) (pid : Nat) : find (drop sessions pid) pid = none := by
  simp [find, drop]

theorem find_drop_of_ne {other : Nat} (differs : other ≠ pid) :
    find (drop sessions pid) other = find sessions other := by
  unfold find drop
  rw [List.find?_filter]
  congr 2
  funext session
  by_cases same : session.pid = other
  · simp [same, differs]
  · simp [same]

theorem find_replace_of_ne {other : Nat} (differs : other ≠ pid) :
    find (replace sessions pid work) other = find sessions other := by
  have away : (pid == other) = false := by simpa using Ne.symm differs
  have dropped : find (drop sessions pid) other = find sessions other := find_drop_of_ne differs
  rw [← dropped]
  unfold find replace
  rw [List.find?_cons, away]

@[simp] theorem drop_replace (sessions : List (Session τ)) (pid : Nat) (work : τ) :
    drop (replace sessions pid work) pid = drop sessions pid := by
  simp [drop, replace, List.filter_filter]

@[simp] theorem replace_replace (sessions : List (Session τ)) (pid : Nat) (first second : τ) :
    replace (replace sessions pid first) pid second = replace sessions pid second := by
  rw [replace, drop_replace, replace]

theorem others_eq_false {holds : τ → Bool} :
    others sessions pid holds = false ↔
      ∀ session ∈ sessions, session.pid ≠ pid → holds session.work = false := by
  simp [others, List.any_eq_false]

variable {P : Session τ → Prop}

/-- What every session has survives a replacement that has it as well. -/
theorem forall_replace (every : ∀ session ∈ sessions, P session) (replaced : P ⟨pid, work⟩) :
    ∀ session ∈ replace sessions pid work, P session := by
  intro session mem
  rcases mem_replace.mp mem with rfl | ⟨present, -⟩
  · exact replaced
  · exact every session present

/-- The same for what holds between every two sessions. -/
theorem pairs_replace {R : Session τ → Session τ → Prop}
    (every : ∀ left ∈ sessions, ∀ right ∈ sessions, R left right) (own : R ⟨pid, work⟩ ⟨pid, work⟩)
    (others : ∀ session ∈ sessions, session.pid ≠ pid →
      R ⟨pid, work⟩ session ∧ R session ⟨pid, work⟩) :
    ∀ left ∈ replace sessions pid work, ∀ right ∈ replace sessions pid work, R left right := by
  intro left leftMember right rightMember
  rcases mem_replace.mp leftMember with rfl | ⟨leftPresent, leftOther⟩
  · rcases mem_replace.mp rightMember with rfl | ⟨rightPresent, rightOther⟩
    · exact own
    · exact (others right rightPresent rightOther).1
  · rcases mem_replace.mp rightMember with rfl | ⟨rightPresent, -⟩
    · exact (others left leftPresent leftOther).2
    · exact every left leftPresent right rightPresent

theorem forall_drop (every : ∀ session ∈ sessions, P session) :
    ∀ session ∈ drop sessions pid, P session :=
  fun session mem => every session (mem_drop.mp mem).1

def Exclusive {κ : Type*} (lock : τ → Option κ) (sessions : List (Session τ)) : Prop :=
  ∀ left ∈ sessions, ∀ right ∈ sessions, left.pid ≠ right.pid →
    ∀ key, lock left.work = some key → lock right.work ≠ some key

theorem Exclusive.drop {κ : Type*} {lock : τ → Option κ} (exclusive : Exclusive lock sessions)
    (pid : Nat) : Exclusive lock (Session.drop sessions pid) :=
  fun left leftMember right rightMember =>
    exclusive left (mem_drop.mp leftMember).1 right (mem_drop.mp rightMember).1

/-- A session takes a lock that no other one holds. -/
theorem Exclusive.replace {κ : Type*} {lock : τ → Option κ} (exclusive : Exclusive lock sessions)
    {pid : Nat} {work : τ}
    (free : ∀ key, lock work = some key → ∀ session ∈ sessions, session.pid ≠ pid →
      lock session.work ≠ some key) : Exclusive lock (Session.replace sessions pid work) := by
  refine pairs_replace exclusive (fun apart => absurd rfl apart) fun session mem other => ⟨?_, ?_⟩
  · exact fun _ key held => free key held session mem other
  · exact fun _ key held heldToo => free key heldToo session mem other held

end Session

end DContact.Lib

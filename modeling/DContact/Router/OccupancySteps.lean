import DContact.Router.Occupancy

/-!
# Statements and hands

What each statement of a transaction does to the hands that the agents are in.
-/

namespace DContact.Router

open Lib
open Governance (Instant)

section Frames

variable {store after : RouterStore} {work : RouterTransaction} {agent : String}

theorem owns_congr (interactions : after.interactions = store.interactions)
    (states : after.states = store.states) : Owns after work agent ↔ Owns store work agent := by
  unfold Owns
  rw [interactions, states]

theorem Sits.congr (sits : Sits store work) (interactions : after.interactions = store.interactions)
    (states : after.states = store.states) (minted : store.minted ⊆ after.minted)
    (counter : store.nextEntry ≤ after.nextEntry) : Sits after work where
  keyed := sits.keyed
  minted row mem := minted (sits.minted row mem)
  sound := sits.sound
  below entry mem := Nat.lt_of_lt_of_le (sits.below entry mem) counter
  distinct := by
    unfold RouterStore.log
    rw [states]
    exact sits.distinct
  apart := by
    unfold RouterStore.calls
    rw [interactions]
    exact sits.apart
  vacant := by
    unfold RouterStore.calls RouterStore.log
    rw [interactions, states]
    exact sits.vacant
  rows row mem agent occupied :=
    (owns_congr interactions states).mpr (sits.rows row mem agent occupied)
  frees entry mem frees :=
    (owns_congr interactions states).mpr (sits.frees entry mem frees)
  covered agent owns := by
    rw [interactions]
    exact sits.covered agent ((owns_congr interactions states).mp owns)
  later entry mem owns := by
    rw [states]
    exact sits.later entry mem ((owns_congr interactions states).mp owns)
  users := by
    rw [states]
    exact sits.users
  entries := by
    rw [states]
    exact sits.entries
  present := by
    unfold RouterStore.log
    rw [states]
    exact sits.present

theorem Separate.symm {left right : RouterTransaction} (separate : Separate left right) :
    Separate right left where
  written row mem := by
    rintro ⟨other, inside, same⟩
    exact separate.written other inside ⟨row, mem, same.symm⟩
  logged entry mem other inside same := separate.logged other inside entry mem same.symm
  users agent mem inside := separate.users agent inside mem
  entries entry mem inside := separate.entries entry inside mem

/-- A transaction goes on; the tables stay as they are. -/
theorem Seats.rework (seats : Seats store) {pid : Nat}
    (interactions : after.interactions = store.interactions) (states : after.states = store.states)
    (minted : store.minted ⊆ after.minted) (counter : store.nextEntry ≤ after.nextEntry)
    (mine : after.inside pid = some work)
    (theirs : ∀ other, other ≠ pid → after.inside other = store.inside other)
    (sits : Sits after work)
    (separate : ∀ other otherWork, other ≠ pid → store.inside other = some otherWork →
      Separate work otherWork)
    (owned : ∀ other otherWork, other ≠ pid → store.inside other = some otherWork →
      ∀ agent, Owns store work agent → ¬ Owns store otherWork agent) : Seats after where
  keyed := by rw [interactions]; exact seats.keyed
  minted row mem := minted (seats.minted row (interactions ▸ mem))
  sound := by rw [interactions]; exact seats.sound
  below entry mem := Nat.lt_of_lt_of_le (seats.below entry (states ▸ mem)) counter
  distinct := by rw [states]; exact seats.distinct
  apart := by rw [interactions]; exact seats.apart
  vacant := by rw [interactions, states]; exact seats.vacant
  works other otherWork inside := by
    by_cases own : other = pid
    · subst own
      rw [mine] at inside
      cases inside
      exact sits
    · rw [theirs other own] at inside
      exact (seats.works other otherWork inside).congr interactions states minted counter
  separate left right leftWork rightWork apart leftInside rightInside := by
    by_cases leftOwn : left = pid
    · subst leftOwn
      rw [mine] at leftInside
      cases leftInside
      rw [theirs right (Ne.symm apart)] at rightInside
      exact separate right rightWork (Ne.symm apart) rightInside
    · rw [theirs left leftOwn] at leftInside
      by_cases rightOwn : right = pid
      · subst rightOwn
        rw [mine] at rightInside
        cases rightInside
        exact (separate left leftWork leftOwn leftInside).symm
      · rw [theirs right rightOwn] at rightInside
        exact seats.separate left right leftWork rightWork apart leftInside rightInside
  owned left right leftWork rightWork apart leftInside rightInside agent := by
    rw [owns_congr interactions states, owns_congr interactions states]
    by_cases leftOwn : left = pid
    · subst leftOwn
      rw [mine] at leftInside
      cases leftInside
      rw [theirs right (Ne.symm apart)] at rightInside
      exact owned right rightWork (Ne.symm apart) rightInside agent
    · rw [theirs left leftOwn] at leftInside
      by_cases rightOwn : right = pid
      · subst rightOwn
        rw [mine] at rightInside
        cases rightInside
        exact fun theirs mine => owned left leftWork leftOwn leftInside agent mine theirs
      · rw [theirs right rightOwn] at rightInside
        exact seats.owned left right leftWork rightWork apart leftInside rightInside agent

end Frames

section Reserved

variable {store : RouterStore} {work : RouterTransaction} {agent : String} {entry : AgentStateLog}

/-- Nobody is free who is in the hand of the transaction and reserved by it. -/
theorem Sits.not_free (sits : Sits store work) (owns : Owns store work agent)
    (reserved : Reserved work agent) : ¬ FreeIn (store.log work) agent := by
  rintro ⟨free, ⟨mem, last⟩, same, frees⟩
  obtain ⟨entry, inside, mine, -, after⟩ := reserved
  refine last entry (mem_log.mpr (.inr inside)) (mine.trans same.symm) ?_
  rcases mem_log.mp mem with old | new
  · exact sits.later entry inside (mine ▸ owns) free old (same.trans mine.symm) frees
  · exact after free new same frees

theorem Sits.idle_of_free (sits : Sits store work) (settled : Settled work)
    (free : FreeIn (store.log work) agent) : ∀ row ∈ work.written, row.occupant ≠ some agent := by
  intro row mem occupied
  obtain ⟨locked, unreserved⟩ :=
    sits.vacant agent free row (mem_calls.mpr (.inl mem)) occupied
  exact unreserved (settled agent locked row mem occupied)

/-- A vacant agent has no call among those that the transaction sees. -/
theorem Sits.unoccupied (sits : Sits store work) (vacant : Vacant store work agent) :
    ∀ row ∈ store.calls work, row.occupant ≠ some agent := by
  intro row mem occupied
  rcases mem_calls.mp mem with own | ⟨old, uncovered⟩
  · exact vacant.idle row own occupied
  · exact uncovered (sits.covered agent vacant.owns row old occupied)

theorem reserved_logging_of_ne (other : entry.userId ≠ agent) :
    Reserved (work.logging entry) agent ↔ Reserved work agent := by
  simp only [Reserved, RouterTransaction.logging, List.mem_append, List.mem_singleton]
  constructor
  · rintro ⟨reserved, inside, mine, busy, after⟩
    rcases inside with old | rfl
    · exact ⟨reserved, old, mine, busy, fun free mem => after free (.inl mem)⟩
    · exact absurd mine other
  · rintro ⟨reserved, inside, mine, busy, after⟩
    refine ⟨reserved, .inl inside, mine, busy, ?_⟩
    rintro free (old | rfl) same frees
    · exact after free old same frees
    · exact absurd same other

def Latest (store : RouterStore) (work : RouterTransaction) (entry : AgentStateLog) : Prop :=
  ∀ other ∈ store.log work, other.userId = entry.userId → other.before entry

theorem reserved_logging (latest : Latest store work entry) (busy : entry.frees = false) :
    Reserved (work.logging entry) entry.userId := by
  refine ⟨entry, List.mem_append_right _ List.mem_cons_self, rfl, busy, ?_⟩
  intro other mem same frees
  rcases List.mem_append.mp mem with old | new
  · exact latest other (mem_log.mpr (.inr old)) same
  · cases List.mem_singleton.mp new
    rw [busy] at frees
    cases frees

end Reserved

end DContact.Router

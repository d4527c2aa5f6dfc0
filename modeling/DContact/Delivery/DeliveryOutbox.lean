import DContact.Governance.ReservationSafety
import DContact.Journey.SendExecutor

/-!
# The outbox of the delivery owner

An entry is one claimed delivery. Its binding never changes; its state moves on through conditional
updates, each of which names the states it may start from. A repository works for one adapter and
sees the entries of that adapter only.
-/

namespace DContact.Delivery

open Lib Table
open Governance (Instant TerminalOutcome)
open Journey.Send (DlDeliveryAdapter DlDeliveryState)

/-- An entry as `enqueue` persists it, and what the adapter writes to it later. -/
structure DlOutboxEntry extends Journey.Send.DlOutboxEntry where
  submittedAt : Option Instant
  settledAt : Option Instant
  outcome : Option TerminalOutcome
  outcomeRef : Option String

/-- The entries of a tenant are told apart by their delivery. -/
def DlOutboxEntry.key (entry : DlOutboxEntry) : String := entry.deliveryId

def DlOutboxEntry.reservationId (entry : DlOutboxEntry) : String := entry.command.reservationId

def DlOutboxEntry.leaseExpiresAt (entry : DlOutboxEntry) : Instant := entry.command.leaseExpiresAt

/-- The columns of an update; a column that is not given stays. -/
structure OutboxPatch where
  state : DlDeliveryState
  submittedAt : Option Instant
  settledAt : Option Instant
  outcome : Option TerminalOutcome
  outcomeRef : Option String
  deriving DecidableEq

/-- An update of the state alone. -/
def OutboxPatch.of (state : DlDeliveryState) : OutboxPatch := ⟨state, none, none, none, none⟩

def OutboxPatch.apply (data : OutboxPatch) (entry : DlOutboxEntry) : DlOutboxEntry :=
  { entry with
    state := data.state
    submittedAt := data.submittedAt.or entry.submittedAt
    settledAt := data.settledAt.or entry.settledAt
    outcome := data.outcome.or entry.outcome
    outcomeRef := data.outcomeRef.or entry.outcomeRef }

section
variable (data : OutboxPatch) (entry : DlOutboxEntry)
include data entry

@[simp] theorem OutboxPatch.apply_key : (data.apply entry).key = entry.key := rfl

end

/-- `findByDeliveryId` of the repository of one adapter. -/
def findByDeliveryId (adapter : DlDeliveryAdapter) (outbox : List DlOutboxEntry)
    (deliveryId : String) : Option DlOutboxEntry :=
  (Table.lookup DlOutboxEntry.key deliveryId outbox).filter fun entry =>
    entry.adapter = adapter

/-- The outcome reference is unique among the entries of a tenant. -/
def outcomeRefTaken (outbox : List DlOutboxEntry) (deliveryId : String) (data : OutboxPatch) : Bool :=
  outbox.any fun other => other.deliveryId != deliveryId && other.outcomeRef.isSome &&
    other.outcomeRef == data.outcomeRef

/-- `advance`: the entry after the update, or nothing if its state is none of the expected ones. A
reference that another entry carries is a unique violation, which is `none`. -/
def advance (adapter : DlDeliveryAdapter) (outbox : List DlOutboxEntry) (deliveryId : String)
    (expected : List DlDeliveryState) (data : OutboxPatch) :
    Option (Option DlOutboxEntry × List DlOutboxEntry) :=
  match findByDeliveryId adapter outbox deliveryId with
  | none => some (none, outbox)
  | some entry =>
      if entry.state ∉ expected then some (none, outbox)
      else if outcomeRefTaken outbox deliveryId data then none
      else some (some (data.apply entry),
        Table.update DlOutboxEntry.key deliveryId data.apply outbox)

/-- `findReconcilable`: submitted entries whose lease has run out, the oldest lease first. -/
def findReconcilable (adapter : DlDeliveryAdapter) (outbox : List DlOutboxEntry)
    (notAfter : Instant) : List DlOutboxEntry :=
  (outbox.filter fun entry => entry.adapter = adapter &&
    (entry.state = .submitting || entry.state = .submitted) &&
    entry.leaseExpiresAt ≤ notAfter).insertionSort fun left right =>
      left.leaseExpiresAt ≤ right.leaseExpiresAt

variable {adapter : DlDeliveryAdapter} {outbox after : List DlOutboxEntry}
  {deliveryId found : String} {expected : List DlDeliveryState} {data : OutboxPatch}
  {entry : DlOutboxEntry} {reply : Option DlOutboxEntry}

def Distinct (outbox : List DlOutboxEntry) : Prop := (outbox.map DlOutboxEntry.key).Nodup

theorem findByDeliveryId_some :
    findByDeliveryId adapter outbox deliveryId = some entry ↔
      lookup DlOutboxEntry.key deliveryId outbox = some entry ∧
        entry.adapter = adapter := by
  simp [findByDeliveryId, Option.filter_eq_some_iff]

theorem findByDeliveryId_key (known : findByDeliveryId adapter outbox deliveryId = some entry) :
    entry.key = deliveryId :=
  lookup_key (findByDeliveryId_some.mp known).1

/-- What is found once an entry was added was there before, or is that entry. -/
theorem findByDeliveryId_append {known : DlOutboxEntry}
    (present : findByDeliveryId adapter (outbox ++ [entry]) deliveryId = some known) :
    findByDeliveryId adapter outbox deliveryId = some known ∨ known = entry := by
  rw [findByDeliveryId_some, lookup, List.find?_append, Option.or_eq_some_iff] at present
  rcases present with ⟨old | ⟨-, new⟩, ours⟩
  · exact .inl (findByDeliveryId_some.mpr ⟨old, ours⟩)
  · have mem := List.mem_of_find?_eq_some new
    exact .inr (List.mem_singleton.mp mem)

inductive Advanced (adapter : DlDeliveryAdapter) (outbox : List DlOutboxEntry) (deliveryId : String)
    (expected : List DlDeliveryState) (data : OutboxPatch) :
    Option DlOutboxEntry → List DlOutboxEntry → Prop where
  | missed (other : ∀ entry, findByDeliveryId adapter outbox deliveryId = some entry →
      entry.state ∉ expected) : Advanced adapter outbox deliveryId expected data none outbox
  | moved {entry : DlOutboxEntry}
      (known : findByDeliveryId adapter outbox deliveryId = some entry)
      (awaited : entry.state ∈ expected) :
      Advanced adapter outbox deliveryId expected data (some (data.apply entry))
        (Table.update DlOutboxEntry.key deliveryId data.apply outbox)

theorem advance_advanced (ok : advance adapter outbox deliveryId expected data = some (reply, after)) :
    Advanced adapter outbox deliveryId expected data reply after := by
  unfold advance at ok
  split at ok
  next unknown =>
    cases ok
    exact .missed fun entry known => by simp [unknown] at known
  next entry known =>
    by_cases awaited : entry.state ∈ expected
    · simp only [awaited, not_true_eq_false, if_false] at ok
      split at ok
      · cases ok
      · cases ok
        exact .moved known awaited
    · simp only [awaited, not_false_eq_true, if_true] at ok
      cases ok
      refine .missed fun other known' => ?_
      rw [known] at known'
      cases known'
      exact awaited

theorem Advanced.distinct (distinct : Distinct outbox)
    (advanced : Advanced adapter outbox deliveryId expected data reply after) : Distinct after := by
  cases advanced with
  | missed => exact distinct
  | moved =>
      unfold Distinct
      rw [map_key_update data.apply_key]
      exact distinct

theorem findByDeliveryId_written (known : findByDeliveryId adapter outbox deliveryId = some entry) :
    findByDeliveryId adapter (update DlOutboxEntry.key deliveryId data.apply outbox)
      deliveryId = some (data.apply entry) := by
  obtain ⟨present, ours⟩ := findByDeliveryId_some.mp known
  rw [findByDeliveryId_some, lookup_update data.apply_key, present, Option.map_some,
    if_pos (lookup_key present)]
  exact ⟨rfl, ours⟩

theorem findByDeliveryId_unwritten (differs : found ≠ deliveryId) :
    findByDeliveryId adapter (update DlOutboxEntry.key deliveryId data.apply outbox) found =
      findByDeliveryId adapter outbox found := by
  unfold findByDeliveryId
  rw [lookup_update data.apply_key]
  cases present : lookup DlOutboxEntry.key found outbox with
  | none => rfl
  | some other =>
      have named := lookup_key present
      rw [Option.map_some, if_neg fun equal => differs (named ▸ equal)]

/-- Every entry is looked up as before, except the one that was written. -/
theorem Advanced.lookup (advanced : Advanced adapter outbox deliveryId expected data reply after)
    (found : String) :
    findByDeliveryId adapter after found = findByDeliveryId adapter outbox found ∨
      found = deliveryId ∧ ∃ entry, findByDeliveryId adapter outbox found = some entry ∧
        entry.state ∈ expected ∧ findByDeliveryId adapter after found = some (data.apply entry) ∧
          reply = some (data.apply entry) := by
  cases advanced with
  | missed => exact .inl rfl
  | @moved entry known awaited =>
      by_cases same : found = deliveryId
      · subst same
        exact .inr ⟨rfl, entry, known, awaited, findByDeliveryId_written known, rfl⟩
      · exact .inl (findByDeliveryId_unwritten same)

theorem mem_findReconcilable {notAfter : Instant}
    (mem : entry ∈ findReconcilable adapter outbox notAfter) :
    entry ∈ outbox ∧ entry.adapter = adapter ∧ entry.leaseExpiresAt ≤ notAfter := by
  have listed := (List.perm_insertionSort _ _).mem_iff.mp mem
  simp only [List.mem_filter, Bool.and_eq_true, decide_eq_true_eq] at listed
  exact ⟨listed.1, listed.2.1.1, listed.2.2⟩

end DContact.Delivery

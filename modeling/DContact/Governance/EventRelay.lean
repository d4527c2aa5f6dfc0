import DContact.Governance.EventEnvelope
import Mathlib.Data.List.MinMax
import Mathlib.Data.Prod.Lex

/-!
# The event relay

`publishNext` takes the oldest row of the outbox that is ready and hands its event to
the broker. A row whose send has failed waits out a back-off and is passed over
meanwhile, and a row that the guard rejects is passed over for good. The events of an
aggregate therefore leave in the order of their versions only while no row stands
behind a later version of its aggregate.
-/

namespace DContact.Governance

open Lib List

inductive OutboxState where
  | pending
  | publishing
  | published
  | failed
  | quarantined
  deriving DecidableEq

structure OutboxRow extends OutboxEvent where
  state : OutboxState
  attempts : Nat
  availableAt : Instant
  leaseOwner : Option String
  leaseExpiresAt : Option Instant
  publishedAt : Option Instant
  createdAt : Instant

variable {now : Instant} {row : OutboxRow} {state : RelayState}

namespace OutboxRow

def aggregate (row : OutboxRow) : AggregateType × String := (row.aggregateType, row.aggregateId)

/-- A row that `publishNext` may take at a time. -/
def ready (now : Instant) (row : OutboxRow) : Bool :=
  (decide (row.state = .pending) || decide (row.state = .failed)) && decide (row.availableAt ≤ now)

/-- `ORDER BY created_at, id`. -/
def order (row : OutboxRow) : Lex (Instant × List Nat) :=
  toLex (row.createdAt, Text.codeUnits row.id)

theorem ready_unpublished (isReady : row.ready now = true) : row.state ≠ .published := by
  intro published
  simp [ready, published] at isReady

end OutboxRow

structure RelayOptions where
  hostText : Option Json → String
  backoffMs : Nat → Nat
  leaseOwner : String
  leaseSeconds : Nat
  legacyEventTypes : List String

/-- How a send ends. Dropping the cached heads may fail after the event has left, and the
transaction may be lost before it commits, with or without the event having left. -/
inductive SendOutcome where
  | delivered
  | refused
  | invalidationFailed
  | rolledBack (sent : Bool)

def SendOutcome.sends : SendOutcome → Bool
  | .delivered | .invalidationFailed => true
  | .refused => false
  | .rolledBack sent => sent

structure PublishAttempt where
  outboxId : String
  state : OutboxState
  attempts : Nat
  rejection : Option EnvelopeRejection

def producerRejection (options : RelayOptions) (row : OutboxRow) : Option EnvelopeRejection :=
  if row.eventType ∈ options.legacyEventTypes then none
  else
    match parseCg4CanonicalEvent options.hostText row.eventType row.payload with
    | .accepted => none
    | .rejected reason _ => if isCg4ProducerSideRejection reason then some reason else none

/-- The order of the keys, computed. -/
instance : Preorder (Lex (Instant × List Nat)) :=
  (Prod.Lex.instLinearOrder Instant (List Nat)).toPreorder

def selectNext (rows : List OutboxRow) (now : Instant) : Option OutboxRow :=
  List.argmin OutboxRow.order (rows.filter (OutboxRow.ready now))

def quarantineRow (row : OutboxRow) : OutboxRow :=
  { row with
    state := .quarantined
    attempts := row.attempts + 1
    leaseOwner := none
    leaseExpiresAt := none }

def leaseRow (options : RelayOptions) (now : Instant) (row : OutboxRow) : OutboxRow :=
  { row with
    state := .publishing
    leaseOwner := some options.leaseOwner
    leaseExpiresAt := some (now + options.leaseSeconds * 1000) }

def publishRow (now : Instant) (row : OutboxRow) : OutboxRow :=
  { row with
    state := .published
    attempts := row.attempts + 1
    publishedAt := some now
    leaseOwner := none
    leaseExpiresAt := none }

/-- The writes of the `catch` for a row that had been tried `attempts` times. -/
def failRow (options : RelayOptions) (now : Instant) (attempts : Nat) (row : OutboxRow) : OutboxRow :=
  { row with
    state := .failed
    attempts := attempts
    availableAt := now + options.backoffMs attempts
    leaseOwner := none
    leaseExpiresAt := none }

/-- What becomes of a row that is sent; a lost transaction leaves it as it was. -/
def sendRow (options : RelayOptions) (now : Instant) (outcome : SendOutcome) (row : OutboxRow) :
    OutboxRow :=
  match outcome with
  | .delivered => publishRow now (leaseRow options now row)
  | .refused => failRow options now (row.attempts + 1) (leaseRow options now row)
  | .invalidationFailed =>
      failRow options now (row.attempts + 1) (publishRow now (leaseRow options now row))
  | .rolledBack _ => row

structure RelayState where
  rows : List OutboxRow
  sent : List OutboxRow
  published : List OutboxRow

def RelayState.write (state : RelayState) (rowId : String) (rewrite : OutboxRow → OutboxRow) :
    RelayState :=
  { state with rows := Table.update (fun row => row.id) rowId rewrite state.rows }

/-- One call, with the events that have left and those that count as published. -/
def publishNext (options : RelayOptions) (state : RelayState) (now : Instant)
    (outcome : SendOutcome) : RelayState × Option PublishAttempt :=
  match selectNext state.rows now with
  | none => (state, none)
  | some row =>
      match producerRejection options row with
      | some reason =>
          match outcome with
          | .rolledBack _ => (state, none)
          | _ =>
              (state.write row.id quarantineRow,
                some ⟨row.id, .quarantined, row.attempts + 1, some reason⟩)
      | none =>
          let written := state.write row.id (sendRow options now outcome)
          let sent := if outcome.sends then state.sent ++ [row] else state.sent
          match outcome with
          | .delivered =>
              ({ written with sent := sent, published := state.published ++ [row] },
                some ⟨row.id, .published, row.attempts + 1, none⟩)
          | .refused | .invalidationFailed =>
              ({ written with sent := sent }, some ⟨row.id, .failed, row.attempts + 1, none⟩)
          | .rolledBack _ => ({ written with sent := sent }, none)

/-- Rows that a relay has left in the middle of a publish become available again. -/
def recoverExpiredLeases (state : RelayState) (now : Instant) : RelayState :=
  { state with
    rows := state.rows.map fun row =>
      if row.state = .publishing ∧ (row.leaseExpiresAt.any fun expiresAt => decide (expiresAt ≤ now))
      then
        { row with
          state := .pending
          availableAt := now
          leaseOwner := none
          leaseExpiresAt := none }
      else row }

inductive RelayStep where
  | publishNext (now : Instant) (outcome : SendOutcome)
  | recoverExpiredLeases (now : Instant)

def RelayState.next (options : RelayOptions) (state : RelayState) : RelayStep → Option RelayState
  | .publishNext now outcome => some (publishNext options state now outcome).1
  | .recoverExpiredLeases now => some (recoverExpiredLeases state now)

/-- Any outbox whose identifiers are distinct, before the relay has sent anything. -/
def relaySystem (options : RelayOptions) : System RelayState RelayStep :=
  System.ofNext (fun state => (state.rows.map fun row => row.id).Nodup ∧ state.sent = [] ∧
    state.published = []) (RelayState.next options)

theorem selectNext_some {rows : List OutboxRow} (selected : selectNext rows now = some row) :
    row ∈ rows ∧ row.ready now = true ∧
      ∀ other ∈ rows, other.ready now = true → ¬ other.order < row.order := by
  have mem := argmin_mem (Option.mem_def.mpr selected)
  obtain ⟨present, isReady⟩ := mem_filter.mp mem
  refine ⟨present, isReady, ?_⟩
  intro other there otherReady
  exact not_lt_of_mem_argmin (mem_filter.mpr ⟨there, otherReady⟩)
    (Option.mem_def.mpr selected)

structure Kept (before after : OutboxRow) : Prop where
  event : after.toOutboxEvent = before.toOutboxEvent
  published : before.state = .published → after.state = .published

theorem Kept.refl (row : OutboxRow) : Kept row row := ⟨rfl, id⟩

/-- What a step at a time does to the rows and to the events. -/
inductive Relayed (state : RelayState) (now : Instant) : RelayState → Prop
  | quiet {after : RelayState} (rewrite : OutboxRow → OutboxRow)
      (rows : after.rows = state.rows.map rewrite) (keeps : ∀ row ∈ state.rows, Kept row (rewrite row))
      (sent : after.sent = state.sent) (published : after.published = state.published) :
      Relayed state now after
  | sent {after : RelayState} {row : OutboxRow}
      (selected : selectNext state.rows now = some row) (rewrite : OutboxRow → OutboxRow)
      (rows : after.rows = state.rows.map rewrite) (keeps : ∀ row ∈ state.rows, Kept row (rewrite row))
      (sent : after.sent = state.sent ++ [row]) (published : after.published = state.published) :
      Relayed state now after
  | delivered {after : RelayState} {row : OutboxRow}
      (selected : selectNext state.rows now = some row) (rewrite : OutboxRow → OutboxRow)
      (rows : after.rows = state.rows.map rewrite) (keeps : ∀ row ∈ state.rows, Kept row (rewrite row))
      (done : (rewrite row).state = .published)
      (sent : after.sent = state.sent ++ [row]) (published : after.published = state.published ++ [row]) :
      Relayed state now after

theorem write_keeps {rewrite : OutboxRow → OutboxRow}
    (distinct : (state.rows.map fun row => row.id).Nodup)
    (selected : selectNext state.rows now = some row)
    (event : ∀ row, (rewrite row).toOutboxEvent = row.toOutboxEvent) :
    ∀ other ∈ state.rows, Kept other (if other.id = row.id then rewrite other else other) := by
  obtain ⟨present, isReady, -⟩ := selectNext_some selected
  intro other mem
  split
  next same =>
    have this : other = row := Table.eq_of_key_eq distinct mem present same
    rw [this]
    exact ⟨event row, fun published => absurd published (OutboxRow.ready_unpublished isReady)⟩
  next => exact .refl other

theorem sendRow_event (options : RelayOptions) (now : Instant) (outcome : SendOutcome)
    (row : OutboxRow) : (sendRow options now outcome row).toOutboxEvent = row.toOutboxEvent := by
  cases outcome <;> rfl

variable {outcome : SendOutcome} {options : RelayOptions}

theorem publishNext_relayed (distinct : (state.rows.map fun row => row.id).Nodup) :
    Relayed state now (publishNext options state now outcome).1 := by
  unfold publishNext
  split
  next => exact .quiet id (by simp) (fun row _ => .refl row) rfl rfl
  next row selected =>
    have keeps := write_keeps distinct selected (sendRow_event options now outcome)
    split
    next =>
      split
      next => exact .quiet id (by simp) (fun row _ => .refl row) rfl rfl
      have quarantined : ∀ other ∈ state.rows,
          Kept other (if other.id = row.id then quarantineRow other else other) :=
        write_keeps distinct selected fun _ => rfl
      exact .quiet _ rfl quarantined rfl rfl
    next =>
      cases outcome with
      | delivered => exact .delivered selected _ rfl keeps (by rw [if_pos rfl]; rfl) rfl rfl
      | refused => exact .quiet _ rfl keeps rfl rfl
      | invalidationFailed => exact .sent selected _ rfl keeps rfl rfl
      | rolledBack sent =>
          cases sent with
          | true => exact .sent selected _ rfl keeps rfl rfl
          | false => exact .quiet _ rfl keeps rfl rfl

/-- A row that is ready shares its version with another row of its aggregate, or stands
before an unpublished earlier version which is not ready itself or was created later. -/
def RelayState.outOfTurn (state : RelayState) : RelayStep → Bool
  | .publishNext now _ =>
      state.rows.any fun later => later.ready now && state.rows.any fun other =>
        decide (other.id ≠ later.id) && decide (other.aggregate = later.aggregate) &&
          (decide (other.aggregateVersion = later.aggregateVersion) ||
            (decide (other.aggregateVersion < later.aggregateVersion) &&
              decide (other.state ≠ .published) &&
              !(other.ready now && decide (other.order < later.order))))
  | .recoverExpiredLeases _ => false

theorem in_turn (turn : state.outOfTurn (.publishNext now outcome) = false)
    {later other : OutboxRow}
    (laterMember : later ∈ state.rows) (otherMember : other ∈ state.rows)
    (isReady : later.ready now = true) (apart : other.id ≠ later.id)
    (same : other.aggregate = later.aggregate) :
    other.aggregateVersion ≠ later.aggregateVersion ∧
      (other.aggregateVersion < later.aggregateVersion → other.state ≠ .published →
        other.ready now = true ∧ other.order < later.order) := by
  have noneLater := any_eq_false.mp turn later laterMember
  rw [isReady, Bool.true_and] at noneLater
  have noneOther := any_eq_false.mp (Bool.eq_false_iff.mpr noneLater) other otherMember
  constructor
  · intro equal
    simp [apart, same, equal] at noneOther
  · intro lower unpublished
    simpa [apart, same, lower, lower.ne, unpublished] using noneOther

/-- What has left the outbox is behind no unpublished row. -/
structure InTurn (state : RelayState) : Prop where
  distinct : (state.rows.map fun row => row.id).Nodup
  known : ∀ event ∈ state.sent, ∃ row ∈ state.rows, row.toOutboxEvent = event.toOutboxEvent
  recorded : ∀ event ∈ state.published, ∃ row ∈ state.rows,
    row.toOutboxEvent = event.toOutboxEvent ∧ row.state = .published
  ahead : ∀ event ∈ state.sent, ∀ row ∈ state.rows, row.aggregate = event.aggregate →
    row.aggregateVersion < event.aggregateVersion → row.state = .published
  listed : ∀ event ∈ state.published, event ∈ state.sent
  ordered : state.published.Pairwise fun earlier later =>
    earlier.aggregate = later.aggregate → earlier.aggregateVersion < later.aggregateVersion
  forward : state.sent.Pairwise fun earlier later =>
    earlier.aggregate = later.aggregate → earlier.aggregateVersion ≤ later.aggregateVersion

section Turns

variable {state after : RelayState}

theorem aggregate_of_event {left right : OutboxRow}
    (same : left.toOutboxEvent = right.toOutboxEvent) :
    left.id = right.id ∧ left.aggregate = right.aggregate ∧
      left.aggregateVersion = right.aggregateVersion := by
  refine ⟨congrArg OutboxEvent.id same, ?_, congrArg OutboxEvent.aggregateVersion same⟩
  have types := congrArg OutboxEvent.aggregateType same
  have ids := congrArg OutboxEvent.aggregateId same
  exact Prod.ext types ids

/-- Rewriting rows that keep their events disturbs nothing that has been sent. -/
theorem InTurn.rewrite (turns : InTurn state) {rewrite : OutboxRow → OutboxRow}
    (keeps : ∀ row ∈ state.rows, Kept row (rewrite row)) :
    InTurn { state with rows := state.rows.map rewrite } := by
  have ids : ((state.rows.map rewrite).map fun row => row.id) =
      state.rows.map fun row => row.id := by
    rw [map_map]
    apply map_congr_left
    intro row mem
    exact congrArg OutboxEvent.id (keeps row mem).event
  refine ⟨ids ▸ turns.distinct, ?_, ?_, ?_, turns.listed, turns.ordered, turns.forward⟩
  · intro event mem
    obtain ⟨row, present, same⟩ := turns.known event mem
    exact ⟨rewrite row, mem_map_of_mem present, (keeps row present).event.trans same⟩
  · intro event mem
    obtain ⟨row, present, same, published⟩ := turns.recorded event mem
    exact ⟨rewrite row, mem_map_of_mem present, (keeps row present).event.trans same,
      (keeps row present).published published⟩
  · intro event mem row there same lower
    obtain ⟨old, present, rfl⟩ := mem_map.mp there
    obtain ⟨-, aggregate, version⟩ := aggregate_of_event (keeps old present).event
    apply (keeps old present).published
    exact turns.ahead event mem old present (aggregate ▸ same) (version ▸ lower)

theorem InTurn.recovered (turns : InTurn state) (now : Instant) :
    InTurn (recoverExpiredLeases state now) := by
  refine turns.rewrite ?_
  intro row _
  split
  next left => exact ⟨rfl, fun published => absurd (published.symm.trans left.1) (by decide)⟩
  next => exact .refl row

theorem InTurn.selected (turns : InTurn state)
    (turn : state.outOfTurn (.publishNext now outcome) = false)
    (selected : selectNext state.rows now = some row) :
    (∀ other ∈ state.rows, other.aggregate = row.aggregate →
      other.aggregateVersion < row.aggregateVersion → other.state = .published) ∧
    (∀ event ∈ state.sent, event.aggregate = row.aggregate →
      event.aggregateVersion ≤ row.aggregateVersion) ∧
    ∀ event ∈ state.published, event.aggregate = row.aggregate →
      event.aggregateVersion < row.aggregateVersion := by
  obtain ⟨present, isReady, first⟩ := selectNext_some selected
  have unpublished := OutboxRow.ready_unpublished isReady
  have reached : ∀ event ∈ state.sent, event.aggregate = row.aggregate →
      event.aggregateVersion ≤ row.aggregateVersion := by
    intro event mem same
    by_contra beyond
    exact unpublished (turns.ahead event mem row present same.symm (not_le.mp beyond))
  refine ⟨?_, reached, ?_⟩
  · intro other mem same lower
    by_contra waiting
    have apart : other.id ≠ row.id := by
      intro equal
      have this : other = row := Table.eq_of_key_eq turns.distinct mem present equal
      rw [this] at lower
      exact lower.ne rfl
    obtain ⟨otherReady, before⟩ := (in_turn turn present mem isReady apart same).2 lower waiting
    exact first other mem otherReady before
  · intro event mem same
    obtain ⟨other, there, copy, published⟩ := turns.recorded event mem
    obtain ⟨-, aggregate, version⟩ := aggregate_of_event copy
    have apart : other.id ≠ row.id := by
      intro equal
      have this : other = row := Table.eq_of_key_eq turns.distinct there present equal
      exact unpublished (this ▸ published)
    have different := (in_turn turn present there isReady apart (aggregate.trans same)).1
    rw [version] at different
    exact lt_of_le_of_ne (reached event (turns.listed event mem) same) different

/-- One more event has left. -/
theorem InTurn.send (turns : InTurn state) (present : row ∈ state.rows)
    (alone : ∀ other ∈ state.rows, other.aggregate = row.aggregate →
      other.aggregateVersion < row.aggregateVersion → other.state = .published)
    (reached : ∀ event ∈ state.sent, event.aggregate = row.aggregate →
      event.aggregateVersion ≤ row.aggregateVersion) :
    InTurn { state with sent := state.sent ++ [row] } := by
  refine ⟨turns.distinct, ?_, turns.recorded, ?_, ?_, turns.ordered, ?_⟩
  · intro event mem
    rcases mem_append.mp mem with old | new
    · exact turns.known event old
    · exact ⟨row, present, by rw [mem_singleton.mp new]⟩
  · intro event mem other there same lower
    rcases mem_snoc.mp mem with old | rfl
    · exact turns.ahead event old other there same lower
    · exact alone other there same lower
  · intro event mem
    exact mem_append_left _ (turns.listed event mem)
  · rw [pairwise_append]
    refine ⟨turns.forward, pairwise_singleton _ _, ?_⟩
    intro earlier mem later single same
    rw [mem_singleton.mp single] at same ⊢
    exact reached earlier mem same

theorem InTurn.relayed (turns : InTurn state)
    (turn : state.outOfTurn (.publishNext now outcome) = false)
    (relayed : Relayed state now after) : InTurn after := by
  cases relayed with
  | quiet rewrite rows keeps sent published =>
      have rewritten := turns.rewrite keeps
      rwa [← rows, ← sent, ← published] at rewritten
  | @sent row selected rewrite rows keeps sent published =>
      obtain ⟨alone, reached, -⟩ := turns.selected turn selected
      have rewritten := (turns.send (selectNext_some selected).1 alone reached).rewrite keeps
      rwa [← rows, ← sent, ← published] at rewritten
  | @delivered row selected rewrite rows keeps done sent published =>
      obtain ⟨alone, reached, beyond⟩ := turns.selected turn selected
      have present := (selectNext_some selected).1
      have rewritten := (turns.send present alone reached).rewrite keeps
      rw [← rows, ← sent] at rewritten
      refine ⟨rewritten.distinct, rewritten.known, ?_, rewritten.ahead, ?_, ?_, rewritten.forward⟩
      · intro event mem
        rw [published] at mem
        rcases mem_append.mp mem with old | new
        · exact rewritten.recorded event old
        · rw [mem_singleton.mp new, rows]
          exact ⟨rewrite row, mem_map_of_mem present, (keeps row present).event, done⟩
      · intro event mem
        rw [published] at mem
        rcases mem_snoc.mp mem with old | rfl
        · exact rewritten.listed event old
        · rw [sent]
          exact mem_append_right _ mem_cons_self
      · rw [published, pairwise_append]
        refine ⟨turns.ordered, pairwise_singleton _ _, ?_⟩
        intro earlier mem later single same
        rw [mem_singleton.mp single] at same ⊢
        exact beyond earlier mem same

end Turns

theorem inTurn_of_reachable (reachable : ((relaySystem options).restrict fun state step =>
      !state.outOfTurn step).Reachable state) : InTurn state := by
  refine reachable.invariant ?_ ?_
  · intro start ⟨distinct, sent, published⟩
    refine ⟨distinct, ?_, ?_, ?_, ?_, ?_, ?_⟩ <;> simp [sent, published]
  · intro source step target turns ⟨turn, taken⟩
    have turn : source.outOfTurn step = false := by simpa using turn
    cases step with
    | publishNext now outcome =>
        cases taken
        exact turns.relayed turn (publishNext_relayed turns.distinct)
    | recoverExpiredLeases now =>
        cases taken
        exact turns.recovered now

/-- The events of one aggregate are published in the order of their versions and sent in
no other; whatever has been sent, no earlier version of its aggregate is unpublished. -/
theorem relay_publishes_in_order {options : RelayOptions} {state : RelayState}
    (reachable : ((relaySystem options).restrict fun state step =>
      !state.outOfTurn step).Reachable state) :
    (state.published.Pairwise fun earlier later =>
      earlier.aggregate = later.aggregate → earlier.aggregateVersion < later.aggregateVersion) ∧
    (state.sent.Pairwise fun earlier later =>
      earlier.aggregate = later.aggregate → earlier.aggregateVersion ≤ later.aggregateVersion) ∧
    (∀ event ∈ state.published, event ∈ state.sent) ∧
    ∀ event ∈ state.sent, ∀ row ∈ state.rows, row.aggregate = event.aggregate →
      row.aggregateVersion < event.aggregateVersion → row.state = .published := by
  have turns := inTurn_of_reachable reachable
  exact ⟨turns.ordered, turns.forward, turns.listed, turns.ahead⟩

def relayOptions : RelayOptions := ⟨fun _ => "", fun attempts => 2 ^ attempts * 1000, "relay", 30, []⟩

def samplePayload : Json :=
  .obj [("contractVersion", .num 1), ("mutationId", .str "m"), ("transitionKind", .str "POLICY_CHANGED"),
    ("subjectId", .str "policy"), ("subjectVersion", .num 1), ("state", .str "ACTIVE"),
    ("effectiveAt", .str "2026-01-05T09:00:00.000Z"), ("affectedScope", .obj []),
    ("scopeDigest", .str "s"), ("ruleRegistryVersion", .str ruleRegistryVersion),
    ("policySchemaVersion", .num 1), ("evaluatorVersion", .str evaluatorVersion),
    ("stateDigest", .str "d"), ("restrictiveness", .str "NEUTRAL")]

def waitingEvent (version : Nat) : OutboxRow where
  id := "event-" ++ toString version
  mutationId := "m"
  aggregateType := .policy
  aggregateId := "policy"
  aggregateVersion := version
  eventType := policyChanged
  orderingKey := "tenant:scope"
  payload := samplePayload
  payloadHash := "hash"
  state := .pending
  attempts := 0
  availableAt := version
  leaseOwner := none
  leaseExpiresAt := none
  publishedAt := none
  createdAt := version

def twoWaiting : RelayState := ⟨[waitingEvent 1, waitingEvent 2], [], []⟩

theorem twoWaiting_init : (relaySystem relayOptions).init twoWaiting :=
  ⟨by decide, rfl, rfl⟩

/-- The first version fails once and is sent again after its back-off, and the second
follows it. -/
theorem retried_in_order :
    ∃ state, ((relaySystem relayOptions).restrict fun state step =>
        !state.outOfTurn step).Reachable state ∧
      state.published.map (fun event => event.aggregateVersion) = [1, 2] ∧
      state.published.Pairwise fun earlier later =>
        earlier.aggregate = later.aggregate → earlier.aggregateVersion < later.aggregateVersion := by
  have ends : System.endsWith (System.guardNext (fun state step => !state.outOfTurn step)
      (RelayState.next relayOptions)) twoWaiting
      [.publishNext 1 .refused, .publishNext 3000 .delivered] (.publishNext 3000 .delivered)
      (fun _ after => decide (after.published.map (fun event => event.aggregateVersion) = [1, 2])) =
        true := by
    decide +kernel
  obtain ⟨before, after, reachable, taken, found⟩ :=
    System.Reachable.endsWithGuarded twoWaiting_init ends
  exact ⟨after, reachable.step taken, of_decide_eq_true found,
    (relay_publishes_in_order (reachable.step taken)).1⟩

/-- While the first version waits out its back-off, the second is published. -/
theorem published_past_failed_send :
    ∃ state, (relaySystem relayOptions).Reachable state ∧
      ∃ event ∈ state.published, ∃ row ∈ state.rows, row.aggregate = event.aggregate ∧
        row.aggregateVersion < event.aggregateVersion ∧ row.state = .failed := by
  have ends : System.endsWith (RelayState.next relayOptions) twoWaiting [.publishNext 10 .refused]
      (.publishNext 10 .delivered) (fun _ after => decide (∃ event ∈ after.published,
        ∃ row ∈ after.rows, row.aggregate = event.aggregate ∧
          row.aggregateVersion < event.aggregateVersion ∧ row.state = .failed)) = true := by
    decide +kernel
  obtain ⟨before, after, reachable, taken, found⟩ := System.Reachable.endsWith twoWaiting_init ends
  exact ⟨after, reachable.step taken, of_decide_eq_true found⟩

end DContact.Governance

import DContact.Governance.EventEnvelope
import Mathlib.Data.List.Chain
import Mathlib.Data.List.MinMax

/-!
# The consumer inbox

One consumer group of one tenant. Every delivery is recorded once; an event is applied
when it carries the next version of its aggregate, and every other new event opens a
pause of its scope. A canonical reload moves the cursor of one aggregate and clears the
pause of one scope. Each delivery and each reload is one transaction under the lock of
its aggregate. Several aggregates can share a scope, so the pause that a delivery has found
open on its scope may be cleared by the reload of another aggregate before the delivery
writes to it.
-/

namespace DContact.Governance

open Lib List

inductive InboxState where
  | applied
  | duplicate
  | gapHeld
  | outOfOrder
  | quarantined
  | unsupported
  deriving DecidableEq

/-- `INBOX_STATE`. -/
def inboxStateOf : InboxDecision → InboxState
  | .apply => .applied
  | .duplicate => .duplicate
  | .gap .. => .gapHeld
  | .outOfOrder .. => .outOfOrder
  | .quarantine _ => .quarantined
  | .unsupported .. => .unsupported

def detailOf : InboxDecision → Option String
  | .gap expectedVersion receivedVersion =>
      some ("คาด version " ++ toString expectedVersion ++ " แต่ได้รับ " ++ toString receivedVersion)
  | .outOfOrder appliedVersion receivedVersion =>
      some ("apply ถึง version " ++ toString appliedVersion ++ " แล้ว แต่ได้รับ " ++
        toString receivedVersion)
  | .quarantine detail => some detail
  | .unsupported reason detail => some (reason.text ++ ": " ++ detail)
  | .apply | .duplicate => none

structure InboundEvent where
  eventId : String
  eventType : String
  aggregateType : AggregateType
  aggregateId : String
  aggregateVersion : Nat
  payloadHash : String
  payload : Json
  receivedAt : Instant

abbrev Aggregate := AggregateType × String

def InboundEvent.aggregate (event : InboundEvent) : Aggregate := (event.aggregateType, event.aggregateId)

structure InboxRow where
  id : String
  eventId : String
  aggregateType : AggregateType
  aggregateId : String
  aggregateVersion : Nat
  eventType : String
  payloadHash : String
  state : InboxState
  detail : Option String
  receivedAt : Instant

def InboxRow.aggregate (row : InboxRow) : Aggregate := (row.aggregateType, row.aggregateId)

inductive ScopePauseKind where
  | contact
  | policyScope
  deriving DecidableEq

structure ScopeRef where
  kind : ScopePauseKind
  ref : String
  deriving DecidableEq

structure ScopePause where
  id : String
  scope : ScopeRef
  active : Bool
  reason : ScopePauseReason
  detail : Option String
  eventId : Option String
  observedVersion : Option Nat
  expectedVersion : Option Nat
  pausedAt : Instant
  clearedAt : Option Instant
  clearedToVersion : Option Nat

def cg4ScopeRefFor (event : InboundEvent) : ScopeRef :=
  if event.aggregateType = .contact then ⟨.contact, event.aggregateId⟩
  else
    let scopeKey :=
      match event.payload with
      | .obj fields =>
          match Json.field fields "affectedScope" with
          | some (.obj scope) => Json.field scope "scopeKey"
          | _ => none
      | _ => none
    match scopeKey with
    | some (.str text) => ⟨.policyScope, if text = "" then event.aggregateId else text⟩
    | _ => ⟨.policyScope, event.aggregateId⟩

/-- What has been done to an aggregate, in order. -/
inductive InboxEntry where
  | applied (eventId : String) (aggregate : Aggregate) (version : Nat)
  | reloaded (aggregate : Aggregate) (version : Nat)
  deriving DecidableEq

def InboxEntry.aggregate : InboxEntry → Aggregate
  | .applied _ aggregate _ => aggregate
  | .reloaded aggregate _ => aggregate

/-- The tables, together with the events that have been recorded and the order in which
events were applied and canonical states reloaded. -/
structure ConsumerInbox where
  rows : List InboxRow
  pauses : List ScopePause
  recorded : List InboundEvent
  history : List InboxEntry

def appliedRows (rows : List InboxRow) (aggregate : Aggregate) : List InboxRow :=
  rows.filter fun row => decide (row.aggregate = aggregate) && decide (row.state = .applied)

def cursorOf (rows : List InboxRow) (aggregate : Aggregate) : Option InboxCursor :=
  ((appliedRows rows aggregate).argmax InboxRow.aggregateVersion).map fun row =>
    ⟨row.aggregateVersion, row.payloadHash⟩

def ConsumerInbox.isPaused (inbox : ConsumerInbox) (scope : ScopeRef) : Bool :=
  inbox.pauses.any fun pause => decide (pause.scope = scope) && pause.active

/-- Identifiers that the host draws. -/
structure InboxIds where
  inboxId : String
  eventId : String
  pauseId : String

structure InboxOptions where
  parse : String → Json → EnvelopeParse

/-- A second anomaly on a scope that is held refreshes the hold. -/
def refreshPause (reason : ScopePauseReason) (detail : Option String) (eventId : String)
    (observedVersion : Nat) (expectedVersion : Option Nat) (pause : ScopePause) : ScopePause :=
  { pause with
    reason := reason
    detail := detail.or pause.detail
    eventId := some eventId
    observedVersion := some observedVersion
    expectedVersion := expectedVersion.or pause.expectedVersion }

/-- `looked` is the pause that the transaction found open on the scope when it looked. -/
def pauseScope (pauses : List ScopePause) (looked : Option String) (scope : ScopeRef)
    (reason : ScopePauseReason) (detail : Option String) (eventId : String) (observedVersion : Nat)
    (expectedVersion : Option Nat) (pauseId : String) (now : Instant) :
    Except String (List ScopePause × String) :=
  match looked with
  | some held =>
      .ok (Table.update ScopePause.id held
        (refreshPause reason detail eventId observedVersion expectedVersion) pauses, held)
  | none => do
      ensure (pauseId ∉ pauses.map ScopePause.id) "cg_scope_pause_pkey"
      ensure (∀ pause ∈ pauses, ¬ (pause.scope = scope ∧ pause.active = true))
        "cg_scope_pause_one_active_per_scope"
      .ok (pauses ++ [⟨pauseId, scope, true, reason, detail, some eventId, some observedVersion,
        expectedVersion, now, none, none⟩], pauseId)

structure InboxOutcome where
  decision : InboxDecision
  recorded : Bool
  inboxId : String
  pauseId : Option String
  applied : Bool

def classify (options : InboxOptions) (rows : List InboxRow) (event : InboundEvent) : InboxDecision :=
  classifyCg4InboundEvent (cursorOf rows event.aggregate) ⟨event.aggregateVersion, event.payloadHash⟩
    (options.parse event.eventType event.payload)

def inboxRowOf (event : InboundEvent) (decision : InboxDecision) (inboxId : String) : InboxRow where
  id := inboxId
  eventId := event.eventId
  aggregateType := event.aggregateType
  aggregateId := event.aggregateId
  aggregateVersion := event.aggregateVersion
  eventType := event.eventType
  payloadHash := event.payloadHash
  state := inboxStateOf decision
  detail := detailOf decision
  receivedAt := event.receivedAt

def insertInbox (rows : List InboxRow) (row : InboxRow) : Except String (List InboxRow) := do
  ensure (row.id ∉ rows.map InboxRow.id) "cg_consumer_inbox_pkey"
  ensure (row.eventId ∉ rows.map InboxRow.eventId) "cg_consumer_inbox_group_event_key"
  .ok (rows ++ [row])

def pauseFor (pauses : List ScopePause) (looked : Option String) (event : InboundEvent)
    (decision : InboxDecision) (pauseId : String) (now : Instant) :
    Except String (List ScopePause × Option String) :=
  match cg4PauseReasonFor decision with
  | none => .ok (pauses, none)
  | some reason => do
      let expected := match decision with
        | .gap expectedVersion _ => some expectedVersion
        | _ => none
      let (held, heldId) ← pauseScope pauses looked (cg4ScopeRefFor event) reason
        (detailOf decision) event.eventId event.aggregateVersion expected pauseId now
      .ok (held, some heldId)

/-- A delivery. `applyFails` says that the consumer's own `apply` raises. -/
def ConsumerInbox.record (options : InboxOptions) (inbox : ConsumerInbox) (event : InboundEvent)
    (now : Instant) (ids : InboxIds) (applyFails : Bool) (looked : Option String) :
    Except String (ConsumerInbox × InboxOutcome) :=
  match inbox.rows.find? fun row => row.eventId == event.eventId with
  | some existing =>
      .ok (inbox, ⟨.duplicate, false, existing.id, none, decide (existing.state = .applied)⟩)
  | none => do
      let decision := classify options inbox.rows event
      let rows ← insertInbox inbox.rows (inboxRowOf event decision ids.inboxId)
      ensure (decision = .apply → applyFails = false) "apply"
      let (pauses, pauseId) ← pauseFor inbox.pauses looked event decision ids.pauseId now
      .ok ({ rows := rows
             pauses := pauses
             recorded := inbox.recorded ++ [event]
             history := if decision = .apply then
                 inbox.history ++ [.applied event.eventId event.aggregate event.aggregateVersion]
               else inbox.history },
        ⟨decision, true, ids.inboxId, pauseId, decide (decision = .apply)⟩)

structure ResumeInput where
  scope : ScopeRef
  aggregateType : AggregateType
  aggregateId : String
  canonicalVersion : Nat
  canonicalDigest : String
  eventType : String

def ResumeInput.aggregate (input : ResumeInput) : Aggregate := (input.aggregateType, input.aggregateId)

def canonicalRow (input : ResumeInput) (ids : InboxIds) (now : Instant) : InboxRow where
  id := ids.inboxId
  eventId := ids.eventId
  aggregateType := input.aggregateType
  aggregateId := input.aggregateId
  aggregateVersion := input.canonicalVersion
  eventType := input.eventType
  payloadHash := input.canonicalDigest
  state := .applied
  detail := some "canonical reload"
  receivedAt := now

def reloadRows (rows : List InboxRow) (input : ResumeInput) (ids : InboxIds) (now : Instant) :
    Except String (List InboxRow) :=
  if rows.any fun row => decide (row.aggregate = input.aggregate) &&
      row.aggregateVersion == input.canonicalVersion && decide (row.state = .applied) then
    .ok rows
  else insertInbox rows (canonicalRow input ids now)

def clearPauses (pauses : List ScopePause) (input : ResumeInput) (now : Instant) : List ScopePause :=
  pauses.map fun pause =>
    if pause.scope = input.scope ∧ pause.active = true then
      { pause with
        active := false
        clearedAt := some now
        clearedToVersion := some input.canonicalVersion }
    else pause

structure ResumeOutcome where
  cleared : Nat
  cursorVersion : Nat

def ConsumerInbox.resumeFromCanonical (inbox : ConsumerInbox) (input : ResumeInput) (now : Instant)
    (ids : InboxIds) : Except String (ConsumerInbox × ResumeOutcome) := do
  let rows ← reloadRows inbox.rows input ids now
  .ok ({ inbox with
      rows := rows
      pauses := clearPauses inbox.pauses input now
      history := inbox.history ++ [.reloaded input.aggregate input.canonicalVersion] },
    ⟨inbox.pauses.countP fun pause => decide (pause.scope = input.scope) && pause.active,
      input.canonicalVersion⟩)

inductive InboxStep where
  | record (event : InboundEvent) (now : Instant) (ids : InboxIds) (applyFails : Bool)
      (looked : Option String)
  | resume (input : ResumeInput) (now : Instant) (ids : InboxIds)

def ConsumerInbox.canHaveFound (inbox : ConsumerInbox) (scope : ScopeRef) : Option String → Bool
  | none => true
  | some id => inbox.pauses.any fun pause => pause.id == id && decide (pause.scope = scope)

/-- A transaction that fails leaves everything as it was. -/
def ConsumerInbox.next (options : InboxOptions) (inbox : ConsumerInbox) :
    InboxStep → Option ConsumerInbox
  | .record event now ids applyFails looked =>
      if inbox.canHaveFound (cg4ScopeRefFor event) looked then
        match inbox.record options event now ids applyFails looked with
        | .ok (after, _) => some after
        | .error _ => some inbox
      else none
  | .resume input now ids =>
      match inbox.resumeFromCanonical input now ids with
      | .ok (after, _) => some after
      | .error _ => some inbox

def ConsumerInbox.empty : ConsumerInbox := ⟨[], [], [], []⟩

def inboxSystem (options : InboxOptions) : System ConsumerInbox InboxStep :=
  System.ofNext (fun inbox => inbox = .empty) (ConsumerInbox.next options)

def cursorVersion (rows : List InboxRow) (aggregate : Aggregate) : Nat :=
  appliedVersion (cursorOf rows aggregate)

variable {rows : List InboxRow}

theorem cursorVersion_le_iff {aggregate : Aggregate} {bound : Nat} :
    cursorVersion rows aggregate ≤ bound ↔
      ∀ row ∈ rows, row.aggregate = aggregate → row.state = .applied →
        row.aggregateVersion ≤ bound := by
  have listed : ∀ row, row ∈ appliedRows rows aggregate ↔
      row ∈ rows ∧ row.aggregate = aggregate ∧ row.state = .applied := by
    intro row
    simp [appliedRows]
  unfold cursorVersion appliedVersion cursorOf
  cases found : (appliedRows rows aggregate).argmax InboxRow.aggregateVersion with
  | none =>
      have empty := argmax_eq_none.mp found
      constructor
      · intro _ row mem same applied
        have there := (listed row).mpr ⟨mem, same, applied⟩
        rw [empty] at there
        cases there
      · intro _
        exact Nat.zero_le bound
  | some top =>
      have isTop := Option.mem_def.mpr found
      obtain ⟨mem, same, applied⟩ := (listed top).mp (argmax_mem isTop)
      constructor
      · intro below row rowMember rowSame rowApplied
        exact (le_of_mem_argmax ((listed row).mpr ⟨rowMember, rowSame, rowApplied⟩) isTop).trans
          below
      · intro every
        exact every top mem same applied

variable {row : InboxRow}

theorem le_cursorVersion (mem : row ∈ rows)
    (applied : row.state = .applied) : row.aggregateVersion ≤ cursorVersion rows row.aggregate :=
  cursorVersion_le_iff.mp le_rfl row mem rfl applied

theorem cursorVersion_append (rows : List InboxRow) (row : InboxRow) (aggregate : Aggregate) :
    cursorVersion (rows ++ [row]) aggregate =
      if row.aggregate = aggregate ∧ row.state = .applied then
        max (cursorVersion rows aggregate) row.aggregateVersion
      else cursorVersion rows aggregate := by
  apply Nat.le_antisymm
  · rw [cursorVersion_le_iff]
    intro other mem same applied
    rcases mem_snoc.mp mem with old | rfl
    · have below := cursorVersion_le_iff.mp le_rfl other old same applied
      split
      next => exact below.trans (le_max_left _ _)
      next => exact below
    · rw [if_pos ⟨same, applied⟩]
      exact le_max_right _ _
  · have older : cursorVersion rows aggregate ≤ cursorVersion (rows ++ [row]) aggregate := by
      rw [cursorVersion_le_iff]
      intro other mem same applied
      rw [← same]
      exact le_cursorVersion (mem_append_left _ mem) applied
    split
    next applies =>
      refine max_le older ?_
      rw [← applies.1]
      exact le_cursorVersion (mem_append_right _ mem_cons_self) applies.2
    next => exact older

theorem insertInbox_ok {after : List InboxRow} (ok : insertInbox rows row = .ok after) :
    row.eventId ∉ rows.map InboxRow.eventId ∧ after = rows ++ [row] := by
  replace ok := rest_ok ok
  obtain ⟨_, fresh, ok⟩ := bind_ok ok
  cases ok
  exact ⟨ensure_ok.mp fresh, rfl⟩

variable {scope : ScopeRef} {inbox : ConsumerInbox}

theorem isPaused_iff : inbox.isPaused scope = true ↔
      ∃ pause ∈ inbox.pauses, pause.scope = scope ∧ pause.active = true := by
  simp [ConsumerInbox.isPaused]

variable {pauses : List ScopePause} {looked : Option String} {pauseId : String} {now : Instant}
  {after : List ScopePause} {reason : ScopePauseReason} {detail : Option String} {eventId : String}
  {observedVersion : Nat} {expectedVersion : Option Nat}

theorem pauseScope_keeps {heldId : String}
    (ok : pauseScope pauses looked scope reason detail eventId observedVersion expectedVersion pauseId
      now = .ok (after, heldId)) {other : ScopeRef}
    (held : ∃ pause ∈ pauses, pause.scope = other ∧ pause.active = true) :
    ∃ pause ∈ after, pause.scope = other ∧ pause.active = true := by
  obtain ⟨pause, mem, same, active⟩ := held
  cases looked with
  | some id =>
      cases ok
      refine ⟨_, Table.mem_update.mpr ⟨pause, mem, rfl⟩, ?_⟩
      split <;> exact ⟨same, active⟩
  | none =>
      replace ok := rest_ok (rest_ok ok)
      cases ok
      exact ⟨pause, mem_append_left _ mem, same, active⟩

theorem pauseScope_opens {heldId : String}
    (ok : pauseScope pauses looked scope reason detail eventId observedVersion expectedVersion pauseId
      now = .ok (after, heldId)) (current : ∀ id, looked = some id →
      ∃ pause ∈ pauses, pause.scope = scope ∧ pause.active = true) :
    ∃ pause ∈ after, pause.scope = scope ∧ pause.active = true := by
  cases looked with
  | some id => exact pauseScope_keeps ok (current id rfl)
  | none =>
      replace ok := rest_ok (rest_ok ok)
      cases ok
      exact ⟨_, mem_append_right _ mem_cons_self, rfl, rfl⟩

variable {event : InboundEvent} {decision : InboxDecision} {heldId : Option String}

theorem pauseFor_keeps
    (ok : pauseFor pauses looked event decision pauseId now = .ok (after, heldId))
    {other : ScopeRef} (held : ∃ pause ∈ pauses, pause.scope = other ∧ pause.active = true) :
    ∃ pause ∈ after, pause.scope = other ∧ pause.active = true := by
  unfold pauseFor at ok
  split at ok
  next =>
    cases ok
    exact held
  next =>
    obtain ⟨⟨_, _⟩, opened, ok⟩ := bind_ok ok
    cases ok
    exact pauseScope_keeps opened held

theorem pauseFor_opens
    (ok : pauseFor pauses looked event decision pauseId now = .ok (after, heldId))
    (holds : cg4InboxDecisionPausesScope decision = true) (current : ∀ id, looked = some id →
      ∃ pause ∈ pauses, pause.scope = cg4ScopeRefFor event ∧ pause.active = true) :
    ∃ pause ∈ after, pause.scope = cg4ScopeRefFor event ∧ pause.active = true := by
  have reasons := pauseReason_isSome decision
  unfold pauseFor at ok
  split at ok
  next silent =>
    rw [silent, Option.isSome_none, holds] at reasons
    cases reasons
  next =>
    obtain ⟨⟨_, _⟩, opened, ok⟩ := bind_ok ok
    cases ok
    exact pauseScope_opens opened current

/-- A step would leave an event unapplied on a scope that is not held: a delivery which must
hold its scope has found a pause that is no longer open, or a reload releases a scope on which
an event is recorded that neither the cursor of its aggregate nor the reloaded version has
reached. -/
def ConsumerInbox.uncovers (options : InboxOptions) (inbox : ConsumerInbox) : InboxStep → Bool
  | .record event _ _ _ looked =>
      cg4InboxDecisionPausesScope (classify options inbox.rows event) && looked.isSome &&
        !inbox.isPaused (cg4ScopeRefFor event)
  | .resume input _ _ => inbox.recorded.any fun event =>
      decide (cg4ScopeRefFor event = input.scope) &&
        decide (cursorVersion inbox.rows event.aggregate < event.aggregateVersion) &&
        !(decide (event.aggregate = input.aggregate) &&
          decide (event.aggregateVersion ≤ input.canonicalVersion))

variable {input : ResumeInput} {ids : InboxIds} {options : InboxOptions} {after : ConsumerInbox}

theorem covered_of_uncovers (covers : inbox.uncovers options (.resume input now ids) = false)
    (mem : event ∈ inbox.recorded) (here : cg4ScopeRefFor event = input.scope) :
    event.aggregateVersion ≤ cursorVersion inbox.rows event.aggregate ∨
      event.aggregate = input.aggregate ∧ event.aggregateVersion ≤ input.canonicalVersion := by
  rw [ConsumerInbox.uncovers, any_eq_false] at covers
  have covered := covers event mem
  by_cases reached : event.aggregateVersion ≤ cursorVersion inbox.rows event.aggregate
  · exact .inl reached
  · simp only [here, Nat.lt_of_not_le reached, decide_true, Bool.true_and, Bool.not_eq_true,
      Bool.not_eq_false', Bool.and_eq_true, decide_eq_true_eq] at covered
    exact .inr covered

/-- What a step does to the tables and to the history. -/
inductive Received (options : InboxOptions) (inbox : ConsumerInbox) : InboxStep → ConsumerInbox → Prop
  | unchanged {step : InboxStep} : Received options inbox step inbox
  | recorded {step : InboxStep} {after : ConsumerInbox} (event : InboundEvent) (row : InboxRow)
      (copies : row = inboxRowOf event (classify options inbox.rows event) row.id)
      (fresh : event.eventId ∉ inbox.rows.map InboxRow.eventId)
      (rows : after.rows = inbox.rows ++ [row])
      (events : after.recorded = inbox.recorded ++ [event])
      (history : after.history = if classify options inbox.rows event = .apply then
          inbox.history ++ [.applied event.eventId event.aggregate event.aggregateVersion]
        else inbox.history)
      (holds : ∀ scope, inbox.isPaused scope = true → after.isPaused scope = true)
      (pauses : cg4InboxDecisionPausesScope (classify options inbox.rows event) = true →
        inbox.uncovers options step = false → after.isPaused (cg4ScopeRefFor event) = true) :
      Received options inbox step after
  | reloaded {after : ConsumerInbox} (input : ResumeInput) (now : Instant) (ids : InboxIds)
      (rows : (after.rows = inbox.rows ∧ ∃ row ∈ inbox.rows, row.aggregate = input.aggregate ∧
          row.aggregateVersion = input.canonicalVersion ∧ row.state = .applied) ∨
        (after.rows = inbox.rows ++ [canonicalRow input ids now] ∧
          ids.eventId ∉ inbox.rows.map InboxRow.eventId))
      (events : after.recorded = inbox.recorded)
      (history : after.history = inbox.history ++ [.reloaded input.aggregate input.canonicalVersion])
      (holds : ∀ scope, scope ≠ input.scope → inbox.isPaused scope = true →
        after.isPaused scope = true) :
      Received options inbox (.resume input now ids) after

theorem record_received {applyFails : Bool} {outcome : InboxOutcome}
    (ok : inbox.record options event now ids applyFails looked = .ok (after, outcome)) :
    Received options inbox (.record event now ids applyFails looked) after := by
  unfold ConsumerInbox.record at ok
  split at ok
  next =>
    cases ok
    exact .unchanged
  next =>
    obtain ⟨rows, inserted, ok⟩ := bind_ok ok
    replace ok := rest_ok ok
    obtain ⟨⟨pauses, pauseId⟩, opened, ok⟩ := bind_ok ok
    cases ok
    obtain ⟨fresh, rfl⟩ := insertInbox_ok inserted
    refine .recorded event _ rfl fresh rfl rfl rfl ?_ ?_
    · intro scope paused
      rw [isPaused_iff] at paused ⊢
      exact pauseFor_keeps opened paused
    · intro holds current
      rw [isPaused_iff]
      refine pauseFor_opens opened holds ?_
      rintro id rfl
      rw [← isPaused_iff]
      simpa [ConsumerInbox.uncovers, holds] using current

theorem resume_received {outcome : ResumeOutcome}
    (ok : inbox.resumeFromCanonical input now ids = .ok (after, outcome)) :
    Received options inbox (.resume input now ids) after := by
  obtain ⟨rows, reloads, ok⟩ := bind_ok ok
  cases ok
  refine .reloaded input now ids ?_ rfl rfl ?_
  · unfold reloadRows at reloads
    split at reloads
    next known =>
      cases reloads
      obtain ⟨row, mem, copies⟩ := any_eq_true.mp known
      simp only [Bool.and_eq_true, decide_eq_true_eq, beq_iff_eq] at copies
      exact .inl ⟨rfl, row, mem, copies.1.1, copies.1.2, copies.2⟩
    next =>
      obtain ⟨fresh, rfl⟩ := insertInbox_ok reloads
      exact .inr ⟨rfl, fresh⟩
  · intro scope apart paused
    rw [isPaused_iff] at paused ⊢
    obtain ⟨pause, mem, same, active⟩ := paused
    refine ⟨pause, mem_map.mpr ⟨pause, mem, ?_⟩, same, active⟩
    rw [if_neg]
    rintro ⟨here, -⟩
    exact apart (same.symm.trans here)

theorem next_received {step : InboxStep}
    (taken : inbox.next options step = some after) : Received options inbox step after := by
  cases step with
  | record event now ids applyFails looked =>
      rw [ConsumerInbox.next] at taken
      split at taken
      next =>
        split at taken
        next ok =>
          cases taken
          exact record_received ok
        next =>
          cases taken
          exact .unchanged
      next => cases taken
  | resume input now ids =>
      rw [ConsumerInbox.next] at taken
      split at taken
      next ok =>
        cases taken
        exact resume_received ok
      next =>
        cases taken
        exact .unchanged

def InboxEntry.appliedId : InboxEntry → Option String
  | .applied eventId _ _ => some eventId
  | .reloaded _ _ => none

def InboxEntry.appliedVersion : InboxEntry → Option Nat
  | .applied _ _ version => some version
  | .reloaded _ _ => none

/-- Of two neighbouring entries that are both applications, the second is the next one. -/
def InboxEntry.Follows : InboxEntry → InboxEntry → Prop
  | .applied _ _ earlier, .applied _ _ later => later = earlier + 1
  | _, _ => True

def ConsumerInbox.historyOf (inbox : ConsumerInbox) (aggregate : Aggregate) : List InboxEntry :=
  inbox.history.filter fun entry => decide (entry.aggregate = aggregate)

structure Consistent (inbox : ConsumerInbox) : Prop where
  eventIds : (inbox.rows.map InboxRow.eventId).Nodup
  known : ∀ eventId ∈ inbox.history.filterMap InboxEntry.appliedId,
    eventId ∈ inbox.rows.map InboxRow.eventId
  once : (inbox.history.filterMap InboxEntry.appliedId).Nodup
  reached : ∀ aggregate, ∀ version ∈ (inbox.historyOf aggregate).filterMap InboxEntry.appliedVersion,
    version ≤ cursorVersion inbox.rows aggregate
  increasing : ∀ aggregate,
    ((inbox.historyOf aggregate).filterMap InboxEntry.appliedVersion).Pairwise (· < ·)
  contiguous : ∀ aggregate, (inbox.historyOf aggregate).IsChain InboxEntry.Follows
  latest : ∀ aggregate, ∀ entry ∈ (inbox.historyOf aggregate).getLast?, ∀ version,
    entry.appliedVersion = some version → version = cursorVersion inbox.rows aggregate
  flagged : ∀ event ∈ inbox.recorded, inbox.isPaused (cg4ScopeRefFor event) = true ∨
    event.aggregateVersion ≤ cursorVersion inbox.rows event.aggregate

theorem consistent_empty : Consistent .empty where
  eventIds := .nil
  known := forall_mem_nil _
  once := .nil
  reached _ := forall_mem_nil _
  increasing := fun _ => .nil
  contiguous := fun _ => .nil
  latest := by
    intro aggregate entry mem
    cases mem
  flagged := by
    intro event mem
    cases mem

section Steps

variable {after : ConsumerInbox}

theorem historyOf_snoc {entry : InboxEntry} (history : after.history = inbox.history ++ [entry])
    (aggregate : Aggregate) : after.historyOf aggregate =
      inbox.historyOf aggregate ++ if entry.aggregate = aggregate then [entry] else [] := by
  rw [ConsumerInbox.historyOf, history, filter_append]
  by_cases here : entry.aggregate = aggregate <;> simp [ConsumerInbox.historyOf, here]

section
variable (consistent : Consistent inbox)
  (copies : row = inboxRowOf event (classify options inbox.rows event) row.id)
  (fresh : event.eventId ∉ inbox.rows.map InboxRow.eventId)
include consistent copies fresh

theorem Consistent.recordedIds (rows : after.rows = inbox.rows ++ [row]) :
    (after.rows.map InboxRow.eventId).Nodup := by
  have isFresh : row.eventId ∉ inbox.rows.map InboxRow.eventId := by
    rw [copies]
    exact fresh
  rw [rows]
  exact Table.nodup_append consistent.eventIds isFresh

/-- A recorded event that is not applied changes neither the history nor a cursor. -/
theorem Consistent.held (rows : after.rows = inbox.rows ++ [row])
    (events : after.recorded = inbox.recorded ++ [event]) (history : after.history = inbox.history)
    (skips : classify options inbox.rows event ≠ .apply)
    (holds : ∀ scope, inbox.isPaused scope = true → after.isPaused scope = true)
    (pauses : cg4InboxDecisionPausesScope (classify options inbox.rows event) = true →
      after.isPaused (cg4ScopeRefFor event) = true) : Consistent after := by
  have unapplied : row.state ≠ .applied := by
    rw [copies]
    intro applied
    apply skips
    have state : inboxStateOf (classify options inbox.rows event) = .applied := applied
    cases decision : classify options inbox.rows event with
    | apply => rfl
    | _ => simp [decision, inboxStateOf] at state
  have cursors : ∀ aggregate, cursorVersion after.rows aggregate =
      cursorVersion inbox.rows aggregate := by
    intro aggregate
    rw [rows, cursorVersion_append, if_neg]
    exact fun applied => unapplied applied.2
  refine ⟨consistent.recordedIds copies fresh rows, ?_, by rw [history]; exact consistent.once, ?_, ?_, ?_, ?_, ?_⟩
  · intro eventId mem
    rw [history] at mem
    rw [rows, map_append]
    exact mem_append_left _ (consistent.known eventId mem)
  · intro aggregate version mem
    rw [ConsumerInbox.historyOf, history] at mem
    rw [cursors]
    exact consistent.reached aggregate version mem
  · intro aggregate
    rw [ConsumerInbox.historyOf, history]
    exact consistent.increasing aggregate
  · intro aggregate
    rw [ConsumerInbox.historyOf, history]
    exact consistent.contiguous aggregate
  · intro aggregate
    rw [ConsumerInbox.historyOf, history, cursors]
    exact consistent.latest aggregate
  · intro other mem
    rw [events] at mem
    rw [cursors]
    rcases mem_append.mp mem with old | new
    · exact (consistent.flagged other old).imp_left (holds _)
    · rw [mem_singleton.mp new]
      cases decision : classify options inbox.rows event with
      | apply => exact absurd decision skips
      | duplicate => exact .inr (version_of_duplicate decision).le
      | _ => exact .inl (pauses (by rw [decision]; rfl))

theorem Consistent.applies (rows : after.rows = inbox.rows ++ [row])
    (events : after.recorded = inbox.recorded ++ [event]) (history : after.history =
      inbox.history ++ [.applied event.eventId event.aggregate event.aggregateVersion])
    (applies : classify options inbox.rows event = .apply)
    (holds : ∀ scope, inbox.isPaused scope = true → after.isPaused scope = true) :
    Consistent after := by
  have ids := consistent.recordedIds copies fresh rows
  rw [applies] at copies
  have version : event.aggregateVersion = cursorVersion inbox.rows event.aggregate + 1 :=
    version_of_apply applies
  have cursors : ∀ aggregate, cursorVersion after.rows aggregate =
      if event.aggregate = aggregate then event.aggregateVersion
      else cursorVersion inbox.rows aggregate := by
    intro aggregate
    have there : row.aggregate = event.aggregate := by
      rw [copies]
      rfl
    have number : row.aggregateVersion = event.aggregateVersion := by
      rw [copies]
      rfl
    have applied : row.state = .applied := by
      rw [copies]
      rfl
    rw [rows, cursorVersion_append, there, number]
    by_cases here : event.aggregate = aggregate
    · rw [if_pos ⟨here, applied⟩, if_pos here, ← here]
      omega
    · rw [if_neg (fun both => here both.1), if_neg here]
  have forward : ∀ aggregate, cursorVersion inbox.rows aggregate ≤
      cursorVersion after.rows aggregate := by
    intro aggregate
    rw [cursors]
    split
    next here =>
      rw [← here]
      omega
    next => exact le_rfl
  have histories : ∀ aggregate, after.historyOf aggregate = inbox.historyOf aggregate ++
      if event.aggregate = aggregate then
        [.applied event.eventId event.aggregate event.aggregateVersion] else [] :=
    historyOf_snoc history
  refine ⟨ids, ?_, ?_, ?_, ?_, ?_, ?_, ?_⟩
  · intro eventId mem
    rw [history, filterMap_append] at mem
    rw [rows, map_append]
    rcases mem_append.mp mem with old | new
    · exact mem_append_left _ (consistent.known eventId old)
    · have same : eventId = event.eventId := by simpa [InboxEntry.appliedId] using new
      rw [same, copies]
      exact mem_append_right _ mem_cons_self
  · rw [history, filterMap_append, nodup_append]
    refine ⟨consistent.once, by simp [InboxEntry.appliedId], ?_⟩
    intro earlier mem later new same
    have this : later = event.eventId := by simpa [InboxEntry.appliedId] using new
    exact fresh (this ▸ same ▸ consistent.known earlier mem)
  · intro aggregate other mem
    rw [histories, filterMap_append] at mem
    rcases mem_append.mp mem with old | new
    · exact (consistent.reached aggregate other old).trans (forward aggregate)
    · rw [cursors]
      split at new
      next here =>
        rw [if_pos here]
        have this : other = event.aggregateVersion := by simpa [InboxEntry.appliedVersion] using new
        exact this.le
      next => cases new
  · intro aggregate
    rw [histories, filterMap_append, pairwise_append]
    refine ⟨consistent.increasing aggregate, by split <;> simp [InboxEntry.appliedVersion], ?_⟩
    intro earlier mem later new
    split at new
    next here =>
      have this : later = event.aggregateVersion := by simpa [InboxEntry.appliedVersion] using new
      have below := consistent.reached aggregate earlier mem
      rw [this, version, here]
      omega
    next => cases new
  · intro aggregate
    rw [histories]
    split
    next here =>
      refine (consistent.contiguous aggregate).append (.singleton _) ?_
      intro last isLast entry isFirst
      have first : InboxEntry.applied event.eventId event.aggregate event.aggregateVersion = entry := by
        simpa using isFirst
      rw [← first]
      cases last with
      | reloaded => trivial
      | applied _ _ earlier =>
          have stood := consistent.latest aggregate _ isLast earlier rfl
          rw [InboxEntry.Follows, version, here, stood]
    next =>
      rw [append_nil]
      exact consistent.contiguous aggregate
  · intro aggregate entry isLast other isApplied
    rw [histories] at isLast
    rw [cursors]
    split at isLast
    next here =>
      rw [if_pos here]
      have this : InboxEntry.applied event.eventId event.aggregate event.aggregateVersion = entry := by
        simpa using isLast
      rw [← this] at isApplied
      exact (Option.some.inj isApplied).symm
    next apart =>
      rw [if_neg apart]
      rw [append_nil] at isLast
      exact consistent.latest aggregate entry isLast other isApplied
  · intro other mem
    rw [events] at mem
    rcases mem_snoc.mp mem with old | rfl
    · rcases consistent.flagged other old with paused | covered
      · exact .inl (holds _ paused)
      · exact .inr (covered.trans (forward _))
    · rw [cursors, if_pos rfl]
      exact .inr le_rfl

end

/-- A reload moves one cursor forward, possibly past events that never came. -/
theorem Consistent.reloaded (consistent : Consistent inbox)
    (rows : (after.rows = inbox.rows ∧ ∃ row ∈ inbox.rows, row.aggregate = input.aggregate ∧
        row.aggregateVersion = input.canonicalVersion ∧ row.state = .applied) ∨
      (after.rows = inbox.rows ++ [canonicalRow input ids now] ∧
        ids.eventId ∉ inbox.rows.map InboxRow.eventId))
    (events : after.recorded = inbox.recorded)
    (history : after.history = inbox.history ++ [.reloaded input.aggregate input.canonicalVersion])
    (holds : ∀ scope, scope ≠ input.scope → inbox.isPaused scope = true → after.isPaused scope = true)
    (covers : inbox.uncovers options (.resume input now ids) = false) : Consistent after := by
  have cursors : ∀ aggregate, cursorVersion after.rows aggregate =
      if input.aggregate = aggregate then
        max (cursorVersion inbox.rows aggregate) input.canonicalVersion
      else cursorVersion inbox.rows aggregate := by
    intro aggregate
    rcases rows with ⟨rows, row, mem, there, number, applied⟩ | ⟨rows, -⟩
    · rw [rows]
      by_cases here : input.aggregate = aggregate
      · have reached := le_cursorVersion mem applied
        rw [there, number, here] at reached
        rw [if_pos here, max_eq_left reached]
      · rw [if_neg here]
    · rw [rows, cursorVersion_append]
      by_cases here : input.aggregate = aggregate
      · rw [if_pos here, if_pos ⟨here, rfl⟩]
        rfl
      · rw [if_neg here, if_neg (fun both => here both.1)]
  have forward : ∀ aggregate, cursorVersion inbox.rows aggregate ≤
      cursorVersion after.rows aggregate := by
    intro aggregate
    rw [cursors]
    split
    next => exact le_max_left _ _
    next => exact le_rfl
  have histories : ∀ aggregate, after.historyOf aggregate = inbox.historyOf aggregate ++
      if input.aggregate = aggregate then [.reloaded input.aggregate input.canonicalVersion]
      else [] :=
    historyOf_snoc history
  have versions : ∀ aggregate, (after.historyOf aggregate).filterMap InboxEntry.appliedVersion =
      (inbox.historyOf aggregate).filterMap InboxEntry.appliedVersion := by
    intro aggregate
    rw [histories, filterMap_append]
    split <;> simp [InboxEntry.appliedVersion]
  have appliedIds : after.history.filterMap InboxEntry.appliedId =
      inbox.history.filterMap InboxEntry.appliedId := by
    rw [history, filterMap_append]
    simp [InboxEntry.appliedId]
  refine ⟨?_, ?_, by rw [appliedIds]; exact consistent.once, ?_, ?_, ?_, ?_, ?_⟩
  · rcases rows with ⟨rows, -⟩ | ⟨rows, fresh⟩
    · rw [rows]
      exact consistent.eventIds
    · rw [rows]
      exact Table.nodup_append consistent.eventIds fresh
  · intro eventId mem
    rw [appliedIds] at mem
    have known := consistent.known eventId mem
    rcases rows with ⟨rows, -⟩ | ⟨rows, -⟩
    · rw [rows]
      exact known
    · rw [rows, map_append]
      exact mem_append_left _ known
  · intro aggregate version mem
    rw [versions] at mem
    exact (consistent.reached aggregate version mem).trans (forward aggregate)
  · intro aggregate
    rw [versions]
    exact consistent.increasing aggregate
  · intro aggregate
    rw [histories]
    split
    next =>
      refine (consistent.contiguous aggregate).append (.singleton _) ?_
      intro last _ entry isFirst
      have first : InboxEntry.reloaded input.aggregate input.canonicalVersion = entry := by
        simpa using isFirst
      rw [← first]
      cases last <;> trivial
    next =>
      rw [append_nil]
      exact consistent.contiguous aggregate
  · intro aggregate entry isLast version isApplied
    rw [histories] at isLast
    split at isLast
    next =>
      have this : InboxEntry.reloaded input.aggregate input.canonicalVersion = entry := by
        simpa using isLast
      rw [← this] at isApplied
      cases isApplied
    next apart =>
      rw [append_nil] at isLast
      rw [cursors, if_neg apart]
      exact consistent.latest aggregate entry isLast version isApplied
  · intro event mem
    rw [events] at mem
    rcases consistent.flagged event mem with paused | reached
    · by_cases here : cg4ScopeRefFor event = input.scope
      · -- the scope has just been released, so the guard speaks about this event
        rcases covered_of_uncovers covers mem here with reached | ⟨same, below⟩
        · exact .inr (reached.trans (forward _))
        · rw [cursors, same, if_pos rfl]
          exact .inr (below.trans (le_max_right _ _))
      · exact .inl (holds _ here paused)
    · exact .inr (reached.trans (forward _))

end Steps

theorem consistent_of_reachable (reachable : ((inboxSystem options).restrict fun inbox step =>
      !inbox.uncovers options step).Reachable inbox) : Consistent inbox := by
  refine reachable.invariant ?_ ?_
  · rintro _ rfl
    exact consistent_empty
  · intro source step target consistent ⟨covers, taken⟩
    have covers : source.uncovers options step = false := by simpa using covers
    cases next_received taken with
    | unchanged => exact consistent
    | recorded event row copies fresh rows events history holds pauses =>
        by_cases applies : classify options source.rows event = .apply
        · rw [if_pos applies] at history
          exact consistent.applies copies fresh rows events history applies holds
        · rw [if_neg applies] at history
          exact consistent.held copies fresh rows events history applies holds
            fun stops => pauses stops covers
    | reloaded input now ids rows events history holds =>
        exact consistent.reloaded rows events history holds covers

/-- No event is applied twice; the applied versions of an aggregate increase, one by one
between reloads; and an event recorded above the cursor of its aggregate holds its scope. -/
theorem inbox_applies_in_order {options : InboxOptions} {inbox : ConsumerInbox}
    (reachable : ((inboxSystem options).restrict fun inbox step =>
      !inbox.uncovers options step).Reachable inbox) :
    (inbox.history.filterMap InboxEntry.appliedId).Nodup ∧
    (∀ aggregate,
      ((inbox.historyOf aggregate).filterMap InboxEntry.appliedVersion).Pairwise (· < ·) ∧
      (inbox.historyOf aggregate).IsChain InboxEntry.Follows) ∧
    ∀ event ∈ inbox.recorded, inbox.isPaused (cg4ScopeRefFor event) = false →
      event.aggregateVersion ≤ cursorVersion inbox.rows event.aggregate := by
  have consistent := consistent_of_reachable reachable
  refine ⟨consistent.once, fun aggregate => ⟨consistent.increasing aggregate,
    consistent.contiguous aggregate⟩, ?_⟩
  intro event mem released
  rcases consistent.flagged event mem with paused | reached
  · rw [released] at paused
    cases paused
  · exact reached

def inboxOptions : InboxOptions := ⟨parseCg4CanonicalEvent fun _ => ""⟩

def changePayload (version : Nat) : Json :=
  .obj [("contractVersion", .num 1), ("mutationId", .str "m"), ("transitionKind", .str "POLICY_CHANGED"),
    ("subjectId", .str "policy"), ("subjectVersion", .num version), ("state", .str "ACTIVE"),
    ("effectiveAt", .str "2026-01-05T09:00:00.000Z"),
    ("affectedScope", .obj [("scopeKey", .str "tenant:scope")]), ("scopeDigest", .str "s"),
    ("ruleRegistryVersion", .str ruleRegistryVersion), ("policySchemaVersion", .num 1),
    ("evaluatorVersion", .str evaluatorVersion), ("stateDigest", .str "d"),
    ("restrictiveness", .str "NEUTRAL")]

def changeEvent (version : Nat) : InboundEvent where
  eventId := "event-" ++ toString version
  eventType := policyChanged
  aggregateType := .policy
  aggregateId := "policy"
  aggregateVersion := version
  payloadHash := "hash-" ++ toString version
  payload := changePayload version
  receivedAt := version

def deliver (version : Nat) (looked : Option String) : InboxStep :=
  .record (changeEvent version) version
    ⟨"row-" ++ toString version, "", "pause-" ++ toString version⟩ false looked

/-- The canonical state of the series is read at a version. -/
def reloadTo (version : Nat) : InboxStep :=
  .resume ⟨⟨.policyScope, "tenant:scope"⟩, .policy, "policy", version, "hash-" ++ toString version,
    policyChanged⟩ 10 ⟨"reload-" ++ toString version, "reload-event-" ++ toString version, ""⟩

/-- The third version comes before the second, the series is reloaded at the third, and the
fourth is applied. -/
theorem reloaded_in_order :
    ∃ inbox, ((inboxSystem inboxOptions).restrict fun inbox step =>
        !inbox.uncovers inboxOptions step).Reachable inbox ∧
      inbox.history = [.applied "event-1" (.policy, "policy") 1, .reloaded (.policy, "policy") 3,
        .applied "event-4" (.policy, "policy") 4] ∧
      (inbox.historyOf (.policy, "policy")).IsChain InboxEntry.Follows := by
  have ends : System.endsWith (System.guardNext (fun inbox step => !inbox.uncovers inboxOptions step)
      (ConsumerInbox.next inboxOptions)) .empty
      [deliver 1 none, deliver 3 none, deliver 3 none, reloadTo 3, deliver 2 none] (deliver 4 none)
      (fun _ after => decide (after.history = [.applied "event-1" (.policy, "policy") 1,
        .reloaded (.policy, "policy") 3, .applied "event-4" (.policy, "policy") 4])) = true := by
    decide +kernel
  obtain ⟨before, after, reachable, taken, found⟩ :=
    System.Reachable.endsWithGuarded (show (inboxSystem inboxOptions).init .empty from rfl) ends
  exact ⟨after, reachable.step taken, of_decide_eq_true found,
    ((inbox_applies_in_order (reachable.step taken)).2.1 _).2⟩

/-- A reload at the third version releases the scope while the fifth is held. -/
theorem released_above_cursor :
    ∃ inbox, (inboxSystem inboxOptions).Reachable inbox ∧
      ∃ event ∈ inbox.recorded, inbox.isPaused (cg4ScopeRefFor event) = false ∧
        cursorVersion inbox.rows event.aggregate < event.aggregateVersion := by
  have ends : System.endsWith (ConsumerInbox.next inboxOptions) .empty
      [deliver 1 none, deliver 3 none, deliver 5 (some "pause-3")] (reloadTo 3)
      (fun _ after => decide (∃ event ∈ after.recorded,
        after.isPaused (cg4ScopeRefFor event) = false ∧
          cursorVersion after.rows event.aggregate < event.aggregateVersion)) = true := by
    decide +kernel
  obtain ⟨before, after, reachable, taken, found⟩ :=
    System.Reachable.endsWith (show (inboxSystem inboxOptions).init .empty from rfl) ends
  exact ⟨after, reachable.step taken, of_decide_eq_true found⟩

end DContact.Governance

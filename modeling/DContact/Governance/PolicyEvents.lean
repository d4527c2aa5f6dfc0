import DContact.Governance.EventEnvelope
import DContact.Governance.ScopeExclusion

/-!
# Announced policy changes

Every move of a head is announced by an event whose aggregate is the series of the
version and whose number is the version of the head. A consumer expects the numbers
1, 2, 3 and so on of every aggregate. The two agree as long as the head of a scope is
only ever moved by one series.
-/

namespace DContact.Governance

open Lib List Session

structure EventHost where
  tenantId : String
  stableDigest : Json → String

/-- A move of a head that `emitHeadChange` announces; without `activate` the version is
only scheduled. -/
structure Announcement where
  mutationId : String
  eventId : String
  move : HeadMove
  activate : Bool

def cg4EventScopeDimensions (scopeKey : String) : List (String × Json) :=
  match parseCg4PolicyScopeKey scopeKey with
  | .error _ => []
  | .ok dimensions =>
      scopeDimensions.filterMap fun dimension =>
        (dimensions dimension).map fun value => (dimension.text, .str value)

namespace Announcement

def headVersion (announcement : Announcement) : Nat :=
  if announcement.activate || announcement.move.head.current.isSome then
    announcement.move.head.headVersion + 1
  else announcement.move.head.headVersion

def headDigest (engine : PolicyEngine) (announcement : Announcement) : String :=
  let move := announcement.move
  if announcement.activate then
    engine.digest (.head move.row.policyId move.row.version move.contentDigest)
  else move.head.headDigest

def payloadFields (host : EventHost) (engine : PolicyEngine) (announcement : Announcement) :
    List (String × Json) :=
  let move := announcement.move
  let scopeKey := move.row.scopeKey
  [("contractVersion", .num 1), ("mutationId", .str announcement.mutationId),
    ("transitionKind", .str (if announcement.activate then "POLICY_ACTIVATED" else "POLICY_CHANGED")),
    ("subjectId", .str move.row.policyId), ("subjectVersion", .num move.row.version),
    ("state", .str (if announcement.activate then "ACTIVE" else "SCHEDULED")),
    ("effectiveAt", .str (toISOString move.activateAt)),
    ("affectedScope", .obj (("scopeKey", .str scopeKey) :: cg4EventScopeDimensions scopeKey)),
    ("scopeDigest", .str (host.stableDigest (.obj [("scopeKey", .str scopeKey)]))),
    ("policyVersion", .num move.row.version), ("policyContentDigest", .str move.contentDigest),
    ("ruleRegistryVersion", .str ruleRegistryVersion),
    ("policySchemaVersion", .num policySchemaVersion), ("evaluatorVersion", .str evaluatorVersion),
    ("stateDigest", .str (announcement.headDigest engine)),
    ("restrictiveness", .str move.row.effectiveDiffClass.text)] ++
    if announcement.activate then [] else [("nextActivationAt", .str (toISOString move.activateAt))]

def event (host : EventHost) (engine : PolicyEngine) (announcement : Announcement) : OutboxEvent :=
  let payload := Json.obj (announcement.payloadFields host engine)
  { id := announcement.eventId
    mutationId := announcement.mutationId
    aggregateType := .policy
    aggregateId := announcement.move.row.policyId
    aggregateVersion := announcement.headVersion
    eventType := policyChanged
    orderingKey := host.tenantId ++ ":" ++ announcement.move.row.scopeKey
    payload := payload
    payloadHash := host.stableDigest payload }

end Announcement

/-- The keys that occur in the payload of an announcement. -/
def announcedKeys : List String :=
  ["contractVersion", "mutationId", "transitionKind", "subjectId", "subjectVersion", "state",
    "effectiveAt", "affectedScope", "scopeDigest", "policyVersion", "policyContentDigest",
    "ruleRegistryVersion", "policySchemaVersion", "evaluatorVersion", "stateDigest",
    "restrictiveness", "nextActivationAt", "scopeKey"]

theorem announcedKeys_allowed : ∀ key ∈ announcedKeys, lowerCase key ∉ restrictedKeys := by
  decide +kernel

theorem dimension_allowed (dimension : ScopeDimension) :
    lowerCase dimension.text ∉ restrictedKeys := by
  cases dimension <;> decide +kernel

theorem findRestrictedKey_text (path text : String) : findRestrictedKey path (.str text) = none := by
  rw [findRestrictedKey] <;> simp

theorem findRestrictedKey_number (path : String) (number : Rat) :
    findRestrictedKey path (.num number) = none := by
  rw [findRestrictedKey] <;> simp

/-- The scope of an announcement holds texts under known keys. -/
theorem affectedScope_allowed (path scopeKey : String) :
    findRestrictedKey path
      (.obj (("scopeKey", .str scopeKey) :: cg4EventScopeDimensions scopeKey)) = none := by
  have listed : ∀ entry ∈ cg4EventScopeDimensions scopeKey, ∃ dimension : ScopeDimension, ∃ value,
      entry = (dimension.text, .str value) := by
    unfold cg4EventScopeDimensions
    intro entry bound
    split at bound
    next => cases bound
    next dimensions _ =>
      obtain ⟨dimension, -, kept⟩ := mem_filterMap.mp bound
      obtain ⟨value, -, rfl⟩ := Option.map_eq_some_iff.mp kept
      exact ⟨dimension, value, rfl⟩
  rw [findRestrictedKey]
  apply restrictedInFields_none
  · intro entry mem
    rcases mem_cons.mp mem with rfl | bound
    · exact announcedKeys_allowed "scopeKey" (by decide)
    · obtain ⟨dimension, value, rfl⟩ := listed entry bound
      exact dimension_allowed dimension
  · intro entry mem path
    rcases mem_cons.mp mem with rfl | bound
    · exact findRestrictedKey_text path _
    · obtain ⟨dimension, value, rfl⟩ := listed entry bound
      exact findRestrictedKey_text path _

theorem payloadFields_unrestricted (host : EventHost) (engine : PolicyEngine)
    (announcement : Announcement) (path : String) :
    restrictedInFields path (announcement.payloadFields host engine) = none := by
  apply restrictedInFields_none
  · intro entry mem
    apply announcedKeys_allowed
    unfold Announcement.payloadFields at mem
    rcases mem_append.mp mem with fixed | optional
    · simp only [mem_cons, not_mem_nil, or_false] at fixed
      rcases fixed with rfl | rfl | rfl | rfl | rfl | rfl | rfl | rfl | rfl | rfl | rfl | rfl | rfl |
        rfl | rfl | rfl <;> simp [announcedKeys]
    · split at optional
      next => cases optional
      next =>
        rw [mem_singleton.mp optional]
        simp [announcedKeys]
  · intro entry mem path
    unfold Announcement.payloadFields at mem
    rcases mem_append.mp mem with fixed | optional
    · simp only [mem_cons, not_mem_nil, or_false] at fixed
      rcases fixed with rfl | rfl | rfl | rfl | rfl | rfl | rfl | rfl | rfl | rfl | rfl | rfl | rfl |
        rfl | rfl | rfl <;>
        first
        | exact findRestrictedKey_text path _
        | exact findRestrictedKey_number path _
        | exact affectedScope_allowed path _
    · split at optional
      next => cases optional
      next =>
        rw [mem_singleton.mp optional]
        exact findRestrictedKey_text path _

theorem diffClass_known (diffClass : DiffClass) :
    restrictivenessKnown (some (.str diffClass.text)) = true := by
  cases diffClass <;> decide

/-- Every announcement passes the guard of its consumers. -/
theorem event_accepted (hostText : Option Json → String) (host : EventHost) (engine : PolicyEngine)
    (announcement : Announcement) :
    let event := announcement.event host engine
    parseCg4CanonicalEvent hostText event.eventType event.payload = .accepted := by
  have texts : (textFields.find? fun name =>
      !isText (Json.field (announcement.payloadFields host engine) name)) = none := by
    simp [textFields, Announcement.payloadFields, Json.field, isText]
  have checked : checkFields hostText (announcement.payloadFields host engine) = .ok () := by
    unfold checkFields
    dsimp only
    rw [texts, payloadFields_unrestricted host engine announcement "payload"]
    simp [Announcement.payloadFields, Json.field, Json.integer?, isObject, isNumber, isTextOf,
      diffClass_known, contractVersion, ensure, bind, Except.bind]
  have known : policyChanged ∈ eventTypes := by decide
  simp only [Announcement.event, parseCg4CanonicalEvent, known, not_true_eq_false, if_false, checked]

def Transaction.move (engine : PolicyEngine) : Transaction → Option (HeadMove × Bool)
  | .publish input _ (.counted candidate _) =>
      input.occurredAt.map fun occurredAt =>
        let move := publishMove engine candidate occurredAt
        (move, !decide (move.occurredAt < move.activateAt))
  | .activate input _ (.counted reads head _) =>
      input.occurredAt.map fun occurredAt =>
        (activationMove engine reads.row reads.compiled head reads.job occurredAt, true)
  | _ => none

structure AnnouncedState where
  state : TransactionState
  announcements : List Announcement

/-- A step with the identifiers that the host draws for the event. -/
structure AnnouncedStep where
  step : TransactionStep
  mutationId : String
  eventId : String

def announced (options : StudioOptions) (state : TransactionState) (label : AnnouncedStep) :
    Option Announcement :=
  match label.step with
  | .commit pid ids =>
      match Session.find state.sessions pid with
      | none => none
      | some transaction =>
          match transaction.write options.engine state.studio.store ids with
          | some (.ok _) =>
              if (findLifecycleReceipt state.studio transaction.command).isNone then
                (transaction.move options.engine).map fun made =>
                  ⟨label.mutationId, label.eventId, made.1, made.2⟩
              else none
          | _ => none
  | _ => none

def AnnouncedState.next (options : StudioOptions) (log : AnnouncedState) (label : AnnouncedStep) :
    Option AnnouncedState :=
  match log.state.next options label.step with
  | none => none
  | some after =>
      some ⟨after, log.announcements ++ (announced options log.state label).toList⟩

def AnnouncedState.empty : AnnouncedState := ⟨.empty, []⟩

def announcementSystem (options : StudioOptions) : System AnnouncedState AnnouncedStep :=
  System.ofNext (fun log => log = .empty) (AnnouncedState.next options)

structure Moves (before after : PolicyStore) (move : HeadMove) (activate : Bool) (head : HeadRow) :
    Prop where
  written : HeadWritten before.heads move.head.headVersion head after.heads
  scopeKey : head.scopeKey = move.row.scopeKey
  version : head.headVersion = move.head.headVersion + 1
  visible : (activate || move.head.current.isSome) = true
  series : head.policyId = move.row.policyId ∨
    ∃ ref, move.head.current = some ref ∧ head.policyId = ref.policyId

variable {announcement : Announcement} {head : HeadRow} {before after : PolicyStore}

theorem Moves.announcedVersion
    (moves : Moves before after announcement.move announcement.activate head) :
    announcement.headVersion = head.headVersion := by
  rw [Announcement.headVersion, if_pos moves.visible, moves.version]

variable {engine : PolicyEngine} {transaction : Transaction}

/-- A transaction that writes leaves the heads alone or makes its move. -/
theorem write_moves {ids : NewIds} {response : LifecycleResponse}
    (wrote : transaction.write engine before ids = some (.ok (after, response))) :
    (transaction.move engine = none ∧ after.heads = before.heads) ∨
      ∃ move activate head, transaction.move engine = some (move, activate) ∧
        transaction.reads = some (move.row, some move.head) ∧
        Moves before after move activate head := by
  cases transaction with
  | amend input now stage =>
      cases write_commit wrote with
      | amended change => exact .inl ⟨rfl, change.heads_quiet⟩
  | test input now stage =>
      cases write_commit wrote with
      | tested => exact .inl ⟨rfl, rfl⟩
  | publish input now stage =>
      cases stage with
      | counted candidate quorum =>
          have ok := Option.some.inj wrote
          obtain ⟨occurredAt, time, ok⟩ := bind_ok ok
          obtain ⟨_, written, ok⟩ := bind_ok ok
          cases ok
          right
          refine ⟨publishMove engine candidate occurredAt,
            !decide (occurredAt < candidate.row.activateAt.getD occurredAt), ?_⟩
          rw [Transaction.move, orFail_ok.mp time]
          unfold applyPublish at written
          split at written
          next early =>
            obtain ⟨ref, points, marked⟩ := (schedule_ok written).marked
            exact ⟨markedHead (publishMove engine candidate occurredAt) ref, rfl, rfl, marked, rfl,
              rfl, by rw [points]; exact Bool.or_true _, .inr ⟨ref, points, rfl⟩⟩
          next late =>
            have arrived : ¬ occurredAt < candidate.row.activateAt.getD occurredAt := late
            exact ⟨activatedHead engine (publishMove engine candidate occurredAt), rfl, rfl,
              (activateHead_ok written).heads, rfl, rfl, by simp [arrived], .inl rfl⟩
      | _ => cases wrote
  | activate input now stage =>
      cases stage with
      | counted reads head quorum =>
          have ok := Option.some.inj wrote
          obtain ⟨occurredAt, time, ok⟩ := bind_ok ok
          obtain ⟨_, written, ok⟩ := bind_ok ok
          cases ok
          right
          refine ⟨activationMove engine reads.row reads.compiled head reads.job occurredAt, true, ?_⟩
          rw [Transaction.move, orFail_ok.mp time]
          exact ⟨activatedHead engine _, rfl, rfl, (activateHead_ok written).heads, rfl, rfl, rfl,
            .inl rfl⟩
      | _ => cases wrote

variable {state : TransactionState} {options : StudioOptions} {label : AnnouncedStep}

theorem next_moves {after : TransactionState} (keyed : Keyed state.studio.store)
    (taken : state.next options label.step = some after) :
    (announced options state label = none ∧ after.studio.store.heads = state.studio.store.heads) ∨
      ∃ announcement head transaction pid ids, announced options state label = some announcement ∧
        label.step = .commit pid ids ∧ find state.sessions pid = some transaction ∧
        after.sessions = drop state.sessions pid ∧
        transaction.move options.engine = some (announcement.move, announcement.activate) ∧
        transaction.reads = some (announcement.move.row, some announcement.move.head) ∧
        Moves state.studio.store after.studio.store announcement.move announcement.activate head := by
  obtain ⟨step, mutationId, eventId⟩ := label
  have taken : state.next options step = some after := taken
  cases step with
  | commit pid ids =>
      rw [TransactionState.next, TransactionState.commit] at taken
      cases found : find state.sessions pid with
      | none => simp [found] at taken
      | some transaction =>
          rw [found] at taken
          dsimp only at taken
          cases wrote : transaction.write options.engine state.studio.store ids with
          | none => simp [wrote] at taken
          | some result =>
              cases result with
              | error failure =>
                  rw [wrote] at taken
                  cases taken
                  exact .inl ⟨by simp [announced, found, wrote], rfl⟩
              | ok made =>
                  obtain ⟨store, response⟩ := made
                  rw [wrote] at taken
                  dsimp only at taken
                  split at taken
                  next new =>
                    cases taken
                    rcases write_moves wrote with ⟨still, heads⟩ | ⟨move, activate, head, made, reads, moves⟩
                    · exact .inl ⟨by simp [announced, found, wrote, still], heads⟩
                    · refine .inr ⟨⟨mutationId, eventId, move, activate⟩, head, transaction, pid, ids,
                        ?_, rfl, found, rfl, made, reads, moves⟩
                      simp [announced, found, wrote, new, made]
                  next old =>
                    cases taken
                    exact .inl ⟨by simp [announced, found, wrote, old], rfl⟩
  | _ =>
      refine .inl ⟨rfl, ?_⟩
      cases next_progress keyed taken with
      | other change => exact change.heads_quiet
      | _ => rfl

structure Bound (store : PolicyStore) : Prop where
  scope : ∀ left ∈ store.policies, ∀ right ∈ store.policies, left.policyId = right.policyId →
    left.scopeKey = right.scopeKey
  first : ∀ row ∈ store.policies, ∃ first ∈ store.policies,
    first.policyId = row.policyId ∧ first.version = 1

section Bound

theorem Bound.rewrite (bound : Bound before) {rewrite : PolicyRow → PolicyRow}
    (policies : after.policies = before.policies.map rewrite)
    (same : ∀ row ∈ before.policies, SameVersion row (rewrite row)) : Bound after := by
  constructor
  · intro left leftMember right rightMember series
    rw [policies] at leftMember rightMember
    obtain ⟨leftOld, leftThere, rfl⟩ := mem_map.mp leftMember
    obtain ⟨rightOld, rightThere, rfl⟩ := mem_map.mp rightMember
    rw [(same leftOld leftThere).policyId, (same rightOld rightThere).policyId] at series
    rw [(same leftOld leftThere).scopeKey, (same rightOld rightThere).scopeKey]
    exact bound.scope leftOld leftThere rightOld rightThere series
  · intro row mem
    rw [policies] at mem
    obtain ⟨old, there, rfl⟩ := mem_map.mp mem
    obtain ⟨first, present, series, version⟩ := bound.first old there
    refine ⟨rewrite first, ?_, ?_, ?_⟩
    · rw [policies]
      exact mem_map_of_mem present
    · rw [(same first present).policyId, (same old there).policyId, series]
    · rw [(same first present).version, version]

theorem Bound.same (bound : Bound before) (policies : after.policies = before.policies) :
    Bound after := by
  constructor
  · rw [policies]
    exact bound.scope
  · rw [policies]
    exact bound.first

theorem Bound.drafted (bound : Bound before) {row : PolicyRow}
    (policies : after.policies = before.policies ++ [row])
    (version : (row.policyId, row.version) ∉
      before.policies.map fun other => (other.policyId, other.version))
    (continues : Continues before row) : Bound after := by
  -- a version that begins a series has no other version of its series beside it
  have scope : ∀ other ∈ before.policies, other.policyId = row.policyId →
      other.scopeKey = row.scopeKey := by
    intro other mem series
    rcases continues with one | ⟨earlier, present, earlierSeries, earlierScope⟩
    · obtain ⟨first, there, firstSeries, firstVersion⟩ := bound.first other mem
      refine absurd (mem_map.mpr ⟨first, there, ?_⟩) version
      rw [firstSeries, series, firstVersion, one]
    · rw [← earlierScope]
      exact bound.scope other mem earlier present (series.trans earlierSeries.symm)
  constructor
  · intro left leftMember right rightMember series
    rw [policies] at leftMember rightMember
    rcases mem_append.mp leftMember with leftOld | leftNew <;>
      rcases mem_append.mp rightMember with rightOld | rightNew
    · exact bound.scope left leftOld right rightOld series
    · rw [mem_singleton.mp rightNew] at series ⊢
      exact scope left leftOld series
    · rw [mem_singleton.mp leftNew] at series ⊢
      exact (scope right rightOld series.symm).symm
    · rw [mem_singleton.mp leftNew, mem_singleton.mp rightNew]
  · intro other mem
    rw [policies] at mem ⊢
    have older : ∀ other ∈ before.policies, ∃ first ∈ before.policies ++ [row],
        first.policyId = other.policyId ∧ first.version = 1 := by
      intro other there
      obtain ⟨first, present, named⟩ := bound.first other there
      exact ⟨first, mem_append_left _ present, named⟩
    rcases mem_append.mp mem with old | new
    · exact older other old
    · rw [mem_singleton.mp new]
      rcases continues with one | ⟨earlier, present, series, -⟩
      · exact ⟨row, by simp, rfl, one⟩
      · obtain ⟨first, there, firstSeries, one⟩ := older earlier present
        exact ⟨first, there, firstSeries.trans series, one⟩

theorem Bound.change {published due : Option PolicyRow} (bound : Bound before)
    (change : Change engine before published due after) : Bound after := by
  cases change with
  | side policies | worked policies => exact bound.same policies
  | drafted row policies _ _ _ version _ _ _ continues =>
      exact bound.drafted policies version continues
  | edited rewrite policies _ _ edits =>
      exact bound.rewrite policies fun row mem => (edits row mem).endures.evolves.same
  | scheduled move jobId _ _ _ _ written =>
      exact bound.rewrite written.policies fun row _ => .of_core (scheduledRow_core _ row).1
  | published move _ _ _ written | activated move job leaseOwner _ _ _ written =>
      exact bound.rewrite written.policies fun row _ => .of_core (moved_core move row).1

theorem Bound.commit (bound : Bound before) (commit : Commit engine before transaction after) :
    Bound after := by
  cases commit with
  | amended change => exact bound.change change
  | tested artifactId _ =>
      exact bound.rewrite (recordTest_policies _ _ _) fun row _ => (testedRow_endures _ _ row).evolves.same
  | scheduled written =>
      exact bound.rewrite written.policies fun row _ => .of_core (scheduledRow_core _ row).1
  | published _ _ written | activated _ written =>
      exact bound.rewrite written.policies fun row _ => .of_core (moved_core _ row).1

end Bound

variable {step : TransactionStep}

theorem Bound.progress {after : TransactionState} (bound : Bound state.studio.store)
    (progress : Progress engine state step after) : Bound after.studio.store := by
  cases progress with
  | other change => exact bound.change change
  | committed found commit => exact bound.commit commit
  | _ => exact bound

/-- A head that was read is not ahead of the stored one, and of the same series as long
as neither has moved. -/
def Abreast (heads : List HeadRow) (scopeKey : String) (read : HeadSnapshot) : Prop :=
  ∀ ref, read.current = some ref → ∃ stored, headOf heads scopeKey = some stored ∧
    read.headVersion ≤ stored.headVersion ∧
    (stored.headVersion = read.headVersion → stored.policyId = ref.policyId)

theorem abreast_read (engine : PolicyEngine) (store : PolicyStore) (scopeKey : String) :
    Abreast store.heads scopeKey (loadHead engine store scopeKey) := by
  intro ref points
  cases found : headOf store.heads scopeKey with
  | none => simp [loadHead_none found] at points
  | some head =>
      rw [loadHead_some found] at points ⊢
      cases points
      exact ⟨head, rfl, le_rfl, fun _ => rfl⟩

variable {activate : Bool} {move : HeadMove}

theorem Abreast.moves {scopeKey : String} {read : HeadSnapshot}
    (abreast : Abreast before.heads scopeKey read) (keyed : Keyed before)
    (moves : Moves before after move activate head) : Abreast after.heads scopeKey read := by
  intro ref points
  obtain ⟨stored, found, behind, same⟩ := abreast ref points
  have heads := moves.written.headOf_after keyed.heads scopeKey
  by_cases here : scopeKey = head.scopeKey
  · rw [if_pos here] at heads
    rcases moves.written.expected keyed.heads with ⟨-, absent⟩ | ⟨current, present, version⟩
    · rw [← here, found] at absent
      cases absent
    · rw [← here, found] at present
      cases present
      have ahead : read.headVersion < head.headVersion := by
        rw [moves.version]
        omega
      exact ⟨head, heads, ahead.le, fun equal => absurd equal ahead.ne'⟩
  · rw [if_neg here] at heads
    exact ⟨stored, heads.trans found, behind, same⟩

def AbreastState (state : TransactionState) : Prop :=
  ∀ session ∈ state.sessions, ∀ row head, session.work.reads = some (row, some head) →
    Abreast state.studio.store.heads row.scopeKey head

theorem AbreastState.readsOn {store : PolicyStore}
    {reads further : Option (PolicyRow × Option HeadSnapshot)}
    (abreast : ∀ row head, reads = some (row, some head) → Abreast store.heads row.scopeKey head)
    (readsOn : ReadsOn engine store reads further) :
    ∀ row head, further = some (row, some head) → Abreast store.heads row.scopeKey head := by
  cases readsOn with
  | same => exact abreast
  | row mem =>
      intro row head read
      cases read
  | head read =>
      intro row head read
      cases read
      exact abreast_read engine store _

theorem AbreastState.next {after : TransactionState}
    (abreast : AbreastState state) (keyed : Keyed state.studio.store)
    (taken : state.next options label.step = some after) : AbreastState after := by
  have heads : ∀ scopeKey read, Abreast state.studio.store.heads scopeKey read →
      Abreast after.studio.store.heads scopeKey read := by
    intro scopeKey read before
    rcases next_moves keyed taken with ⟨-, same⟩ | ⟨_, _, _, _, _, -, -, -, -, -, -, moves⟩
    · rwa [same]
    · exact before.moves keyed moves
  suffices known : ∀ session ∈ after.sessions, ∀ row head,
      session.work.reads = some (row, some head) →
        Abreast state.studio.store.heads row.scopeKey head from
    fun session mem row head read => heads _ _ (known session mem row head read)
  have progress := next_progress keyed taken
  generalize label.step = step at progress
  cases progress with
  | other change sessions => rwa [sessions]
  | started begun =>
      refine forall_replace abreast ?_
      intro row head read
      rw [ofCommand_reads begun] at read
      cases read
  | advanced found ok =>
      exact forall_replace abreast
        (AbreastState.readsOn (abreast _ (find_mem found)) (Transaction.readsOn ok))
  | dropped pid => exact forall_drop abreast
  | committed found commit sessions =>
      rw [sessions]
      exact forall_drop abreast

def TransactionState.crossesSeries (state : TransactionState) : TransactionStep → Bool
  | .commit pid _ =>
      (Session.find state.sessions pid).any fun transaction =>
        transaction.reads.any fun read =>
          (headOf state.studio.store.heads read.1.scopeKey).any fun head =>
            head.policyId != read.1.policyId
  | _ => false

def AnnouncedState.on (log : AnnouncedState) (scopeKey : String) : List Announcement :=
  log.announcements.filter fun announcement => announcement.move.row.scopeKey == scopeKey

def headMoves (store : PolicyStore) (scopeKey : String) : Nat :=
  ((headOf store.heads scopeKey).map HeadRow.headVersion).getD 0

structure Numbered (log : AnnouncedState) : Prop where
  grounded : Grounded log.state
  abreast : AbreastState log.state
  bound : Bound log.state.studio.store
  known : ∀ announcement ∈ log.announcements, Snapshot log.state.studio.store announcement.move.row
  owned : ∀ announcement ∈ log.announcements, ∃ head,
    headOf log.state.studio.store.heads announcement.move.row.scopeKey = some head ∧
      head.policyId = announcement.move.row.policyId
  versions : ∀ scopeKey, (log.on scopeKey).map Announcement.headVersion =
    List.range' 1 (headMoves log.state.studio.store scopeKey)

theorem numbered_empty : Numbered .empty where
  grounded := grounded_empty
  abreast := forall_mem_nil _
  bound := by
    constructor
    · exact forall_mem_nil _
    · exact forall_mem_nil _
  known := forall_mem_nil _
  owned := forall_mem_nil _
  versions := by
    intro scopeKey
    rfl

/-- The series that a head has after a move is the one that has moved it, when the head
was of that series before. -/
theorem Moves.owner (moves : Moves before after move activate head) (keyed : Keyed before)
    (abreast : Abreast before.heads move.row.scopeKey move.head)
    (own : ∀ stored, headOf before.heads move.row.scopeKey = some stored →
      stored.policyId = move.row.policyId) : head.policyId = move.row.policyId := by
  rcases moves.series with activated | ⟨ref, points, marked⟩
  · exact activated
  · obtain ⟨stored, found, -, same⟩ := abreast ref points
    rcases moves.written.expected keyed.heads with ⟨-, absent⟩ | ⟨current, present, version⟩
    · rw [moves.scopeKey, found] at absent
      cases absent
    · rw [moves.scopeKey, found] at present
      cases present
      rw [marked, ← same version]
      exact own stored found

theorem Moves.headMoves_before (moves : Moves before after move activate head)
    (keyed : Keyed before) : headMoves before move.row.scopeKey = move.head.headVersion := by
  rcases moves.written.expected keyed.heads with ⟨zero, absent⟩ | ⟨current, present, version⟩
  · rw [moves.scopeKey] at absent
    rw [headMoves, absent, zero]
    rfl
  · rw [moves.scopeKey] at present
    rw [headMoves, present, ← version]
    rfl

variable {log : AnnouncedState}

theorem Numbered.moves {after : TransactionState} (numbered : Numbered log)
    (grounded : Grounded after) (abreast : AbreastState after) (bound : Bound after.studio.store)
    (lasts : Lasts log.state.studio.store after.studio.store)
    (read : Snapshot log.state.studio.store announcement.move.row)
    (seen : Abreast log.state.studio.store.heads announcement.move.row.scopeKey
      announcement.move.head)
    (own : ∀ stored, headOf log.state.studio.store.heads announcement.move.row.scopeKey =
      some stored → stored.policyId = announcement.move.row.policyId)
    (moves : Moves log.state.studio.store after.studio.store announcement.move
      announcement.activate head) :
    Numbered ⟨after, log.announcements ++ [announcement]⟩ := by
  have keyed := numbered.grounded.keyed
  have owner := moves.owner keyed seen own
  have heads := moves.written.headOf_after keyed.heads
  refine ⟨grounded, abreast, bound, ?_, ?_, ?_⟩
  · intro other mem
    rcases mem_snoc.mp mem with old | rfl
    · exact (numbered.known other old).lasts lasts
    · exact read.lasts lasts
  · intro other mem
    rcases mem_snoc.mp mem with old | rfl
    · obtain ⟨stored, found, series⟩ := numbered.owned other old
      by_cases here : other.move.row.scopeKey = head.scopeKey
      · refine ⟨head, by rw [heads, if_pos here], ?_⟩
        rw [moves.scopeKey] at here
        rw [owner, ← series]
        exact (own stored (here ▸ found)).symm
      · exact ⟨stored, by rw [heads, if_neg here, found], series⟩
    · exact ⟨head, by rw [heads, if_pos moves.scopeKey.symm], owner⟩
  · intro scopeKey
    have before := numbered.versions scopeKey
    simp only [AnnouncedState.on, filter_append, map_append] at before ⊢
    by_cases here : announcement.move.row.scopeKey = scopeKey
    · have count : headMoves after.studio.store scopeKey =
          headMoves log.state.studio.store scopeKey + 1 := by
        rw [← here, moves.headMoves_before keyed, headMoves, heads, if_pos moves.scopeKey.symm,
          Option.map_some, Option.getD_some, moves.version]
      rw [before, count, List.range'_1_concat, ← here, moves.headMoves_before keyed]
      simp [moves.announcedVersion, moves.version, Nat.add_comm]
    · have count : headMoves after.studio.store scopeKey =
          headMoves log.state.studio.store scopeKey := by
        rw [headMoves, headMoves, heads, if_neg]
        rw [moves.scopeKey]
        exact Ne.symm here
      rw [before, count]
      simp [here]

theorem Numbered.next {after : AnnouncedState} (numbered : Numbered log)
    (keeps : log.state.crossesSeries label.step = false)
    (taken : log.next options label = some after) : Numbered after := by
  rw [AnnouncedState.next] at taken
  split at taken
  next => cases taken
  next state moved =>
    cases taken
    have keyed := numbered.grounded.keyed
    have progress := next_progress keyed moved
    have grounded := numbered.grounded.progress progress
    have abreast := numbered.abreast.next keyed moved
    have bound := numbered.bound.progress progress
    have lasts := progress.endures.lasts
    rcases next_moves keyed moved with ⟨silent, heads⟩ |
      ⟨announcement, head, transaction, pid, ids, made, step, found, -, -, reads, moves⟩
    · rw [silent, Option.toList_none, append_nil]
      refine ⟨grounded, abreast, bound, ?_, ?_, ?_⟩
      · intro announcement mem
        exact (numbered.known announcement mem).lasts lasts
      · rw [heads]
        exact numbered.owned
      · intro scopeKey
        rw [headMoves, heads]
        exact numbered.versions scopeKey
    · rw [made, Option.toList_some]
      have session := find_mem found
      refine numbered.moves grounded abreast bound lasts
        (numbered.grounded.seen _ session _ _ reads).1 (numbered.abreast _ session _ _ reads) ?_ moves
      intro stored present
      rw [step, TransactionState.crossesSeries, found, Option.any_some, reads, Option.any_some,
        present, Option.any_some] at keeps
      simpa using keeps

theorem numbered_of_reachable (reachable : ((announcementSystem options).restrict fun log label =>
      !log.state.crossesSeries label.step).Reachable log) : Numbered log := by
  refine reachable.invariant ?_ ?_
  · rintro _ rfl
    exact numbered_empty
  · intro source label target numbered ⟨keeps, taken⟩
    exact numbered.next (by simpa using keeps) taken

/-- The decisions of a consumer that receives the events of one aggregate one after the
other; its cursor moves with every event that it applies. -/
def receive (hostText : Option Json → String) : Option InboxCursor → List OutboxEvent →
    List InboxDecision
  | _, [] => []
  | cursor, event :: rest =>
      let incoming : InboxCursor := ⟨event.aggregateVersion, event.payloadHash⟩
      let decision := classifyCg4InboundEvent cursor incoming
        (parseCg4CanonicalEvent hostText event.eventType event.payload)
      decision :: receive hostText (if decision = .apply then some incoming else cursor) rest

theorem receive_contiguous {hostText : Option Json → String} {cursor : Option InboxCursor}
    {events : List OutboxEvent}
    (accepted : ∀ event ∈ events,
      parseCg4CanonicalEvent hostText event.eventType event.payload = .accepted)
    (contiguous : events.map OutboxEvent.aggregateVersion =
      List.range' (appliedVersion cursor + 1) events.length) :
    ∀ decision ∈ receive hostText cursor events, decision = .apply := by
  induction events generalizing cursor with
  | nil => exact forall_mem_nil _
  | cons event rest ih =>
      rw [map_cons, length_cons, List.range'_succ, List.cons.injEq] at contiguous
      have decides : classifyCg4InboundEvent cursor ⟨event.aggregateVersion, event.payloadHash⟩
          (parseCg4CanonicalEvent hostText event.eventType event.payload) = .apply := by
        rw [accepted event mem_cons_self]
        exact apply_of_version contiguous.1
      intro decision mem
      rw [receive, decides] at mem
      rcases mem_cons.mp mem with first | later
      · exact first
      · refine ih (fun event there => accepted event (mem_cons_of_mem _ there)) ?_ decision later
        rw [if_pos rfl]
        have first : appliedVersion (some ⟨event.aggregateVersion, event.payloadHash⟩) =
            appliedVersion cursor + 1 := contiguous.1
        rw [first]
        exact contiguous.2

def AnnouncedState.eventsOf (log : AnnouncedState) (host : EventHost) (engine : PolicyEngine)
    (aggregateId : String) : List OutboxEvent :=
  (log.announcements.map (Announcement.event host engine)).filter fun event =>
    event.aggregateId == aggregateId

theorem Numbered.series (numbered : Numbered log) (mem : announcement ∈ log.announcements) :
    (log.announcements.filter fun other =>
        other.move.row.policyId == announcement.move.row.policyId) =
      log.on announcement.move.row.scopeKey := by
  unfold AnnouncedState.on
  apply filter_congr
  intro other there
  obtain ⟨row, present, evolves⟩ := numbered.known announcement mem
  obtain ⟨otherRow, otherPresent, otherEvolves⟩ := numbered.known other there
  obtain ⟨head, found, series⟩ := numbered.owned announcement mem
  obtain ⟨otherHead, otherFound, otherSeries⟩ := numbered.owned other there
  have forward : other.move.row.policyId = announcement.move.row.policyId →
      other.move.row.scopeKey = announcement.move.row.scopeKey := by
    intro same
    rw [← evolves.same.scopeKey, ← otherEvolves.same.scopeKey]
    exact numbered.bound.scope otherRow otherPresent row present
      (otherEvolves.same.policyId.trans (same.trans evolves.same.policyId.symm))
  have backward : other.move.row.scopeKey = announcement.move.row.scopeKey →
      other.move.row.policyId = announcement.move.row.policyId := by
    intro same
    rw [same, found] at otherFound
    cases otherFound
    exact otherSeries.symm.trans series
  rw [Bool.eq_iff_iff, beq_iff_eq, beq_iff_eq]
  exact ⟨forward, backward⟩

/-- The events of every aggregate carry the numbers 1, 2, 3 and so on, and a consumer
that receives them in this order applies every one of them. -/
theorem announced_in_order {options : StudioOptions} {log : AnnouncedState}
    (reachable : ((announcementSystem options).restrict fun log label =>
      !log.state.crossesSeries label.step).Reachable log)
    (host : EventHost) (hostText : Option Json → String) (aggregateId : String) :
    let events := log.eventsOf host options.engine aggregateId
    events.map OutboxEvent.aggregateVersion = List.range' 1 events.length ∧
      ∀ decision ∈ receive hostText none events, decision = .apply := by
  have numbered := numbered_of_reachable reachable
  intro events
  have mapped : events = (log.announcements.filter fun other =>
      other.move.row.policyId == aggregateId).map (Announcement.event host options.engine) := by
    simp only [events, AnnouncedState.eventsOf, filter_map]
    rfl
  have contiguous : events.map OutboxEvent.aggregateVersion = List.range' 1 events.length := by
    cases listed : log.announcements.filter fun other => other.move.row.policyId == aggregateId with
    | nil => rw [mapped, listed, map_nil, map_nil, length_nil, List.range'_zero]
    | cons announcement rest =>
        have present : announcement ∈ log.announcements.filter fun other =>
            other.move.row.policyId == aggregateId := by
          rw [listed]
          exact mem_cons_self
        obtain ⟨mem, named⟩ := mem_filter.mp present
        rw [beq_iff_eq] at named
        have scope := numbered.series mem
        rw [named] at scope
        have versions := numbered.versions announcement.move.row.scopeKey
        rw [← scope] at versions
        have same : events.map OutboxEvent.aggregateVersion =
            List.range' 1 (headMoves log.state.studio.store announcement.move.row.scopeKey) := by
          rw [mapped, map_map, ← versions]
          rfl
        have count := congrArg List.length same
        rw [length_map, length_range'] at count
        rw [same, count]
  refine ⟨contiguous, receive_contiguous ?_ (by simpa [appliedVersion] using contiguous)⟩
  intro event mem
  rw [mapped] at mem
  obtain ⟨announcement, -, rfl⟩ := mem_map.mp mem
  exact event_accepted hostText host options.engine announcement

theorem emptyLog_fresh (options : StudioOptions) : (announcementSystem options).init .empty := rfl

def publishAlone (command : LifecycleCommand) : List TransactionStep :=
  [.start 1 command 0] ++ List.replicate 8 (.advance 1)

def unannounced (step : TransactionStep) : AnnouncedStep := ⟨step, "", ""⟩

def lateCommand : LifecycleCommand :=
  .publish ⟨lateVersion.base 2, "late", 1, lateVersion.contentDigest, lateVersion.artifactDigest,
    "approval:late:1", 1, looseVersion.headDigest⟩

def loosePublished : List AnnouncedStep :=
  (looseVersion.prepare.map TransactionStep.other ++ publishAlone (publishCommand looseVersion)).map unannounced

def commitAs (eventId : String) : AnnouncedStep :=
  ⟨.commit 1 ⟨"", "", eventId ++ "-job"⟩, eventId, eventId⟩

/-- The loose version is announced with the number 1. -/
theorem first_series_in_order :
    ∃ log, ((announcementSystem sampleOptions).restrict fun log label =>
        !log.state.crossesSeries label.step).Reachable log ∧ log.announcements.length = 1 ∧
      ∀ host hostText, let events := log.eventsOf host sampleOptions.engine "loose"
        events.map OutboxEvent.aggregateVersion = List.range' 1 events.length ∧
          ∀ decision ∈ receive hostText none events, decision = .apply := by
  have ends : System.endsWith (System.guardNext (fun log label =>
      !log.state.crossesSeries label.step) (AnnouncedState.next sampleOptions)) .empty
      loosePublished (commitAs "loose") (fun _ after => decide (after.announcements.length = 1)) =
        true := by
    decide +kernel
  obtain ⟨before, after, reachable, taken, found⟩ :=
    System.Reachable.endsWithGuarded (emptyLog_fresh sampleOptions) ends
  exact ⟨after, reachable.step taken, of_decide_eq_true found, fun host hostText =>
    announced_in_order (reachable.step taken) host hostText "loose"⟩

/-- The late version is scheduled on the scope of the loose one: the first event of its
series carries the number 2, and a consumer takes it for a gap. -/
theorem second_series_announced_with_gap :
    ∃ log, (announcementSystem sampleOptions).Reachable log ∧
      ∀ host hostText, let events := log.eventsOf host sampleOptions.engine "late"
        events.map OutboxEvent.aggregateVersion = [2] ∧
          receive hostText none events = [.gap 1 2] := by
  have ends : System.endsWith (AnnouncedState.next sampleOptions) .empty
      (loosePublished ++ [commitAs "loose"] ++
        (lateVersion.prepare.map TransactionStep.other ++ publishAlone lateCommand).map unannounced)
      (commitAs "late") (fun _ after => decide ((after.announcements.filter fun announcement =>
        announcement.move.row.policyId == "late").map Announcement.headVersion = [2])) = true := by
    decide +kernel
  obtain ⟨before, after, reachable, taken, found⟩ :=
    System.Reachable.endsWith (emptyLog_fresh sampleOptions) ends
  refine ⟨after, reachable.step taken, ?_⟩
  intro host hostText
  have versions := of_decide_eq_true found
  obtain ⟨announcement, listed, version⟩ := map_eq_singleton_iff.mp versions
  have events : after.eventsOf host sampleOptions.engine "late" =
      [announcement.event host sampleOptions.engine] := by
    have mapped : after.eventsOf host sampleOptions.engine "late" =
        (after.announcements.filter fun other => other.move.row.policyId == "late").map
          (Announcement.event host sampleOptions.engine) := by
      simp only [AnnouncedState.eventsOf, filter_map]
      rfl
    rw [mapped, listed, map_singleton]
  have accepted := event_accepted hostText host sampleOptions.engine announcement
  have number : (announcement.event host sampleOptions.engine).aggregateVersion = 2 := version
  intro received
  simp only [received, events, map_singleton, receive, accepted, number, classifyCg4InboundEvent]
  exact ⟨trivial, by decide⟩

end DContact.Governance

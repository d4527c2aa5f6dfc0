import DContact.Governance.IncrementalProjection
import Mathlib.Algebra.Group.Prod

/-!
# What the incremental projection counts

A run leaves every bucket with the number of its canonical rows as long as rows appear only ahead of
what has been passed, a rebuild covers all it drops and finishes, and nothing that a rebuild counts
is read by anyone else. Without that a late row is never counted, a rebuild forgets the rest of its
first or last bucket, and a rebuild ahead of the cursor drops what lies between them.
-/

namespace DContact.Governance

open Lib ProjectionStore CanonicalTables

variable {δ : Type} [DecidableEq δ]

namespace CanonicalTables

def volumeOf (tally : Cg5ProjectionSource → Nat) (metricKey : Cg5MetricKey) : Nat :=
  ((cg5ProjectionSources.filter fun source => metricFor source = metricKey).map tally).sum

def volume (tables : CanonicalTables) (metricKey : Cg5MetricKey) (bucketStart : Instant)
    (dimensions : Cg5MetricDimensions) : Nat :=
  volumeOf (fun source => (tables.rowsOf source).countP fun row =>
    decide (cg5BucketStart row.occurredAt = bucketStart ∧ dimensionsFor row = dimensions)) metricKey

def impact (tables : CanonicalTables) (bucketStart : Instant) (policyVersion : Int)
    (decision : String) : Nat :=
  tables.decisions.countP fun row =>
    decide (cg5BucketStart row.decidedAt = bucketStart ∧ row.policyVersion = policyVersion ∧
      row.decision = decision)

end CanonicalTables

namespace ProjectionStore

def metric (store : ProjectionStore δ) (metricKey : Cg5MetricKey) (bucketStart : Instant)
    (dimensionKey : δ) : Nat × Nat :=
  match store.metricBuckets metricKey bucketStart dimensionKey with
  | none => (0, 0)
  | some bucket => (bucket.value, bucket.sampleCount)

def policyImpact (store : ProjectionStore δ) (bucketStart : Instant) (policyVersion : Int)
    (decision : String) : Nat :=
  (store.policyImpactBuckets bucketStart policyVersion decision).getD 0

/-- Every bucket holds the number of its canonical rows. -/
structure Exact (dimensionKey : Cg5MetricDimensions → δ) (store : ProjectionStore δ) : Prop where
  metrics : ∀ metricKey bucketStart dimensions,
    store.metric metricKey bucketStart (dimensionKey dimensions) =
      (store.tables.volume metricKey bucketStart dimensions,
        store.tables.volume metricKey bucketStart dimensions)
  impacts : ∀ bucketStart policyVersion decision,
    store.policyImpact bucketStart policyVersion decision =
      store.tables.impact bucketStart policyVersion decision

end ProjectionStore

/-- The range of a rebuild that has dropped its buckets and has not counted all of it again. -/
def ProjectionWork.rebuilds : ProjectionWork → Option Cg5ProjectionRange
  | .rebuilding task _ | .advancing task _ | .overtaking task _ _ => some task.range
  | _ => none

def ProjectionWork.isEnded : ProjectionWork → Bool
  | .ended _ => true
  | _ => false

/-- A run that nobody inserts beside leaves the projection exact, and by itself it comes to an
end. -/
structure CountsOnce (dimensionKey : Cg5MetricDimensions → δ)
    (runs : System (Projection δ) ProjectionStep) : Prop where
  counts : ∀ before after pid reader counts, runs.Reachable before → runs.Reaches before after →
    Session.find before.sessions pid = none →
    Session.find after.sessions pid = some (.ended (.processed reader counts)) →
    reader.maxBatchesPerSource = none → after.store.tables = before.store.tables →
    (∀ session ∈ after.sessions, session.work.rebuilds = none) →
    after.store.Exact dimensionKey
  ends : ∀ before pid reader, runs.Reachable before → Session.find before.sessions pid = none →
    (∀ session ∈ before.sessions, session.work.isEnded = true) →
    0 < reader.batchSize → reader.maxBatchesPerSource = none →
    ∃ after counts, runs.Reaches before after ∧
      Session.find after.sessions pid = some (.ended (.processed reader counts)) ∧
      after.store.tables = before.store.tables

namespace ProjectionWork

/-- The rows that a batch of a run has read and not yet counted. -/
def unwritten : ProjectionWork → List ProjectionRow
  | .projecting _ (.read rows) => rows
  | _ => []

/-- The source whose cursor a batch of a run has read and not yet moved. -/
def bounds : ProjectionWork → Option Cg5ProjectionSource
  | .projecting task (.bounded _) | .projecting task (.read _) => some task.source
  | _ => none

end ProjectionWork

def ProjectionStore.passed (store : ProjectionStore δ) (source : Cg5ProjectionSource) :
    Cg5ProjectionCursor :=
  (store.cursors source).getD .start

namespace Projection

/-- A new row lies ahead of the cursor, of every row that a batch is about to pass, and of every
range that is being rebuilt. -/
structure InsertsAhead (state : Projection δ) (source : Cg5ProjectionSource)
    (row : ProjectionRow) : Prop where
  cursor : (state.store.passed source).after row = true
  batches : ∀ session ∈ state.sessions, session.work.bounds = some source →
    ∀ other ∈ session.work.unwritten, other.position < row.position
  rebuilds : ∀ session ∈ state.sessions, ∀ range, session.work.rebuilds = some range →
    range.closes ≤ row.occurredAt

/-- A rebuild drops nothing that it does not count again, and nobody else counts it. -/
structure ClearsAlone (state : Projection δ) (reader : Reader) (range : Cg5ProjectionRange) :
    Prop where
  batchSize : 0 < reader.batchSize
  whole : ∀ source, ∀ row ∈ state.store.tables.rowsOf source,
    (fiveMinuteRange range).contains (cg5BucketStart row.occurredAt) = true →
    range.contains row.occurredAt = false → (state.store.passed source).after row = true
  batches : ∀ session ∈ state.sessions, ∀ row ∈ session.work.unwritten,
    range.contains row.occurredAt = false
  rebuilds : ∀ session ∈ state.sessions, ∀ other, session.work.rebuilds = some other →
    ∀ bucketStart, (fiveMinuteRange range).contains bucketStart = true →
      (fiveMinuteRange other).contains bucketStart = false

/-- A rebuild moves a cursor only over rows that it has counted, and while nobody else moves it. -/
structure Overtakes (state : Projection δ) (task : RebuildTask) (last : ProjectionRow)
    (existing : Option Cg5ProjectionCursor) : Prop where
  current : existing = state.store.cursors task.source
  batches : ∀ session ∈ state.sessions, session.work.bounds ≠ some task.source
  counted : ∀ row ∈ state.store.tables.rowsOf task.source, (state.store.passed task.source).after row = true →
    row.position ≤ last.position → task.range.contains row.occurredAt = true

/-- A batch of a run reads nothing that is being rebuilt. -/
def ReadsApart (state : Projection δ) (rows : List ProjectionRow) : Prop :=
  ∀ session ∈ state.sessions, ∀ range, session.work.rebuilds = some range →
    ∀ row ∈ rows, range.contains row.occurredAt = false

/-- What a step of a call may not run into. -/
def Undisturbed (state : Projection δ) : ProjectionWork → Prop
  | .projecting task (.bounded boundary) =>
      state.ReadsApart (task.reader.readRows state.store.tables task.source boundary none)
  | .clearing reader range => state.ClearsAlone reader range
  | .overtaking task last existing => isNewer existing last = true → state.Overtakes task last existing
  | _ => True

/-- Rows appear ahead of the projection, rebuilds are whole and alone on their range, and a rebuild
that has dropped its buckets does not stop. -/
def Orderly (state : Projection δ) : ProjectionStep → Prop
  | .insert row => state.InsertsAhead row.source row.projected
  | .start _ _ => True
  | .advance pid => ∀ work, Session.find state.sessions pid = some work → state.Undisturbed work
  | .crash pid => ∀ work, Session.find state.sessions pid = some work → work.rebuilds = none

end Projection

namespace Cg5ProjectionCursor

def Whole (cursor : Cg5ProjectionCursor) : Prop :=
  cursor = start ∨ ∃ row, cursor = behind row

@[simp] theorem after_behind (last row : ProjectionRow) :
    (behind last).after row = decide (last.position < row.position) := by
  rw [Bool.eq_iff_iff, decide_eq_true_iff, ProjectionRow.position, ProjectionRow.position,
    Prod.Lex.toLex_lt_toLex]
  simp only [after, behind, Bool.or_eq_true, Bool.and_eq_true, decide_eq_true_eq]
  exact or_congr Iff.rfl (and_congr_left' eq_comm)

variable {cursor : Cg5ProjectionCursor}

theorem Whole.moved (whole : cursor.Whole) {last row : ProjectionRow}
    (ahead : cursor.after last = true) (passed : cursor.after row = false) :
    (behind last).after row = false := by
  rcases whole with rfl | ⟨other, rfl⟩
  · cases passed
  · simp only [after_behind, decide_eq_true_eq, decide_eq_false_iff_not, not_lt] at ahead passed ⊢
    exact passed.trans ahead.le

theorem Whole.upTo (whole : cursor.Whole) {last row : ProjectionRow}
    (passed : cursor.after last = false) (before : row.position ≤ last.position) :
    cursor.after row = false := by
  rcases whole with rfl | ⟨other, rfl⟩
  · cases passed
  · simp only [after_behind, decide_eq_false_iff_not, not_lt] at passed ⊢
    exact before.trans passed

theorem isNewer_iff {existing : Option Cg5ProjectionCursor} (whole : (existing.getD start).Whole)
    (last : ProjectionRow) : isNewer existing last = (existing.getD start).after last := by
  cases existing with
  | none => rfl
  | some cursor =>
      rcases whole with same | ⟨row, same⟩
      · obtain rfl : cursor = start := same
        rfl
      · obtain rfl : cursor = behind row := same
        rfl

end Cg5ProjectionCursor

variable {rows : List ProjectionRow}

/-- Rows with identifiers of their own share no position. -/
theorem position_apart (distinct : (rows.map ProjectionRow.id).Nodup) :
    ∀ left ∈ rows, ∀ right ∈ rows, left.position = right.position → left = right := by
  intro left leftMember right rightMember same
  have ids : left.id = right.id := (Prod.mk.inj (toLex.injective same)).2
  exact List.inj_on_of_nodup_map distinct leftMember rightMember ids

theorem rowsOf_insert (tables : CanonicalTables) (row : CanonicalRow) (source : Cg5ProjectionSource) :
    (tables.insert row).rowsOf source =
      if source = row.source then tables.rowsOf source ++ [row.projected]
      else tables.rowsOf source := by
  cases row <;> cases source <;> simp [CanonicalTables.insert, CanonicalTables.rowsOf,
    CanonicalRow.source, CanonicalRow.projected]

def CanonicalTables.tally (tables : CanonicalTables)
    (counted : Cg5ProjectionSource → ProjectionRow → Bool) (kind : ProjectionRow → Bool)
    (source : Cg5ProjectionSource) : Nat :=
  (tables.rowsOf source).countP fun row => counted source row && kind row

def inBucket (dimensionKey : Cg5MetricDimensions → δ) (bucketStart : Instant) (key : δ)
    (row : ProjectionRow) : Bool :=
  decide (cg5BucketStart row.occurredAt = bucketStart ∧ dimensionKey (dimensionsFor row) = key)

def inImpact (bucketStart : Instant) (policyVersion : Int) (decision : String)
    (row : ProjectionRow) : Bool :=
  decide (cg5BucketStart row.occurredAt = bucketStart ∧ row.policyVersion = some policyVersion ∧
    row.decision = some decision)

structure Tallied (dimensionKey : Cg5MetricDimensions → δ)
    (counted : Cg5ProjectionSource → ProjectionRow → Bool) (store : ProjectionStore δ) : Prop where
  metrics : ∀ metricKey bucketStart key, store.metric metricKey bucketStart key =
    (CanonicalTables.volumeOf (store.tables.tally counted (inBucket dimensionKey bucketStart key))
        metricKey,
      CanonicalTables.volumeOf (store.tables.tally counted (inBucket dimensionKey bucketStart key))
        metricKey)
  impacts : ∀ bucketStart policyVersion decision,
    store.policyImpact bucketStart policyVersion decision =
      store.tables.tally counted (inImpact bucketStart policyVersion decision) .decision

theorem volumeOf_congr {first second : Cg5ProjectionSource → Nat}
    (same : ∀ source, first source = second source) (metricKey : Cg5MetricKey) :
    volumeOf first metricKey = volumeOf second metricKey := by
  rw [show first = second from funext same]

theorem volumeOf_add (tally : Cg5ProjectionSource → Nat) (source : Cg5ProjectionSource)
    (more : Nat) (metricKey : Cg5MetricKey) :
    volumeOf (fun other => tally other + if other = source then more else 0)
        metricKey =
      volumeOf tally metricKey + if metricKey = metricFor source then more else 0 := by
  cases metricKey <;> cases source <;>
    simp [volumeOf, cg5ProjectionSources, metricFor] <;> omega

theorem upsertMetric_metric (store : ProjectionStore δ) (metricKey other : Cg5MetricKey)
    (bucketStart start : Instant) (key found : δ) (dimensions : Cg5MetricDimensions)
    (updatedAt : Instant) :
    (store.upsertMetric metricKey bucketStart key dimensions updatedAt).metric other start found =
      store.metric other start found +
        if other = metricKey ∧ start = bucketStart ∧ found = key then (1, 1) else 0 := by
  unfold metric upsertMetric
  dsimp only
  by_cases here : other = metricKey ∧ start = bucketStart ∧ found = key
  · obtain ⟨rfl, rfl, rfl⟩ := here
    rw [if_pos ⟨rfl, rfl, rfl⟩, if_pos ⟨rfl, rfl, rfl⟩]
    cases store.metricBuckets other start found <;> rfl
  · rw [if_neg here, if_neg here]
    rfl

omit [DecidableEq δ] in
theorem upsertPolicyImpact_policyImpact (store : ProjectionStore δ) (bucketStart start : Instant)
    (policyVersion version : Int) (decision found : String) :
    (store.upsertPolicyImpact bucketStart policyVersion decision).policyImpact start version found =
      store.policyImpact start version found +
        if start = bucketStart ∧ version = policyVersion ∧ found = decision then 1 else 0 := by
  unfold policyImpact upsertPolicyImpact
  dsimp only
  by_cases here : start = bucketStart ∧ version = policyVersion ∧ found = decision
  · obtain ⟨rfl, rfl, rfl⟩ := here
    rw [if_pos ⟨rfl, rfl, rfl⟩, if_pos ⟨rfl, rfl, rfl⟩]
    cases store.policyImpactBuckets start version found <;> rfl
  · rw [if_neg here, if_neg here]
    rfl

section
variable (dimensionKey : Cg5MetricDimensions → δ) (source : Cg5ProjectionSource)
include dimensionKey source

theorem incrementMetric_metric (store : ProjectionStore δ) (row : ProjectionRow)
    (metricKey : Cg5MetricKey) (bucketStart : Instant) (key : δ) :
    (store.incrementMetric dimensionKey source row).metric metricKey bucketStart key =
      store.metric metricKey bucketStart key +
        if metricKey = metricFor source ∧ inBucket dimensionKey bucketStart key row = true then (1, 1)
        else 0 := by
  have onlyMetric : (store.incrementMetric dimensionKey source row).metric metricKey bucketStart key =
      (store.upsertMetric (metricFor source) (cg5BucketStart row.occurredAt)
        (dimensionKey (dimensionsFor row)) (dimensionsFor row) row.occurredAt).metric metricKey
          bucketStart key := by
    unfold incrementMetric
    dsimp only
    split
    next => split <;> rfl
    next => rfl
  have bucket : (bucketStart = cg5BucketStart row.occurredAt ∧ key = dimensionKey (dimensionsFor row)) ↔
      inBucket dimensionKey bucketStart key row = true := by
    rw [inBucket, decide_eq_true_iff]
    exact and_congr eq_comm eq_comm
  rw [onlyMetric, upsertMetric_metric]
  exact congrArg _ (if_congr (and_congr_right fun _ => bucket) rfl rfl)

theorem incrementMetric_impact (store : ProjectionStore δ) (row : ProjectionRow)
    (bucketStart : Instant) (policyVersion : Int) (decision : String) :
    (store.incrementMetric dimensionKey source row).policyImpact bucketStart policyVersion decision =
      store.policyImpact bucketStart policyVersion decision +
        if source = .decision ∧ inImpact bucketStart policyVersion decision row = true then 1
        else 0 := by
  unfold incrementMetric
  dsimp only
  split
  next fromDecisions =>
    split
    next version verdict hasVersion hasVerdict =>
      have impact : (bucketStart = cg5BucketStart row.occurredAt ∧ policyVersion = version ∧
          decision = verdict) ↔
          source = .decision ∧ inImpact bucketStart policyVersion decision row = true := by
        rw [inImpact, decide_eq_true_iff, hasVersion, hasVerdict, Option.some_inj, Option.some_inj]
        exact ⟨fun ⟨start, version_, verdict_⟩ =>
            ⟨fromDecisions, start.symm, version_.symm, verdict_.symm⟩,
          fun ⟨_, start, version_, verdict_⟩ => ⟨start.symm, version_.symm, verdict_.symm⟩⟩
      refine (upsertPolicyImpact_policyImpact ..).trans ?_
      exact congrArg _ (if_congr impact rfl rfl)
    next missing =>
      rw [if_neg]
      · rfl
      · rintro ⟨-, inside⟩
        obtain ⟨-, hasVersion, hasVerdict⟩ := of_decide_eq_true inside
        exact missing _ _ hasVersion hasVerdict
  next elsewhere =>
    rw [if_neg fun both => elsewhere both.1]
    rfl

theorem incrementMetric_tables (store : ProjectionStore δ) (row : ProjectionRow) :
    (store.incrementMetric dimensionKey source row).tables = store.tables ∧
      (store.incrementMetric dimensionKey source row).cursors = store.cursors := by
  unfold incrementMetric
  dsimp only
  split
  next => split <;> exact ⟨rfl, rfl⟩
  next => exact ⟨rfl, rfl⟩

theorem recountRows_tables (rows : List ProjectionRow) (store : ProjectionStore δ) :
    (store.recountRows dimensionKey source rows).tables = store.tables ∧
      (store.recountRows dimensionKey source rows).cursors = store.cursors := by
  unfold recountRows
  induction rows generalizing store with
  | nil => exact ⟨rfl, rfl⟩
  | cons row rest ih =>
      obtain ⟨tables, cursors⟩ := incrementMetric_tables dimensionKey source store row
      obtain ⟨restTables, restCursors⟩ := ih (store.incrementMetric dimensionKey source row)
      exact ⟨restTables.trans tables, restCursors.trans cursors⟩

theorem recountRows_metric (rows : List ProjectionRow) (store : ProjectionStore δ)
    (metricKey : Cg5MetricKey) (bucketStart : Instant) (key : δ) :
    (store.recountRows dimensionKey source rows).metric metricKey bucketStart key =
      store.metric metricKey bucketStart key +
        if metricKey = metricFor source then
          (rows.countP (inBucket dimensionKey bucketStart key),
            rows.countP (inBucket dimensionKey bucketStart key))
        else 0 := by
  unfold recountRows
  induction rows generalizing store with
  | nil => simp
  | cons row rest ih =>
      rw [List.foldl_cons, ih, incrementMetric_metric, List.countP_cons]
      by_cases own : metricKey = metricFor source
      · subst own
        by_cases inside : inBucket dimensionKey bucketStart key row = true
        · refine Prod.ext ?_ ?_ <;> simp [inside] <;> omega
        · simp [inside]
      · simp [own]

theorem recountRows_impact (rows : List ProjectionRow) (store : ProjectionStore δ)
    (bucketStart : Instant) (policyVersion : Int) (decision : String) :
    (store.recountRows dimensionKey source rows).policyImpact bucketStart policyVersion decision =
      store.policyImpact bucketStart policyVersion decision +
        if source = .decision then rows.countP (inImpact bucketStart policyVersion decision)
        else 0 := by
  unfold recountRows
  induction rows generalizing store with
  | nil => simp
  | cons row rest ih =>
      rw [List.foldl_cons, ih, incrementMetric_impact, List.countP_cons]
      by_cases own : source = .decision
      · by_cases inside : inImpact bucketStart policyVersion decision row = true
        · simp [own, inside, add_assoc, add_comm 1]
        · simp [own, inside]
      · simp [own]

end

/-- Rows of a source are counted once more, and they had not been counted. -/
theorem Tallied.joining {dimensionKey : Cg5MetricDimensions → δ}
    {before after : Cg5ProjectionSource → ProjectionRow → Bool} {store : ProjectionStore δ}
    {source : Cg5ProjectionSource} (tallied : Tallied dimensionKey before store)
    (distinct : (store.tables.rowsOf source).Nodup) (apart : rows.Nodup)
    (within : ∀ row ∈ rows, row ∈ store.tables.rowsOf source)
    (fresh : ∀ row ∈ rows, before source row = false)
    (joined : ∀ other, ∀ row ∈ store.tables.rowsOf other,
      after other row = (before other row || (decide (other = source) && decide (row ∈ rows)))) :
    Tallied dimensionKey after (store.recountRows dimensionKey source rows) := by
  have tables := (recountRows_tables dimensionKey source rows store).1
  have counts : ∀ kind other, store.tables.tally after kind other =
      store.tables.tally before kind other + if other = source then rows.countP kind else 0 := by
    intro kind other
    by_cases own : other = source
    · subst own
      rw [if_pos rfl]
      exact Pages.countP_joining distinct apart within fresh
        (fun row mem => by simpa using joined other row mem) kind
    · rw [if_neg own, Nat.add_zero]
      refine List.countP_congr fun row mem => ?_
      rw [joined other row mem]
      simp [own]
  refine ⟨fun metricKey bucketStart key => ?_, fun bucketStart policyVersion decision => ?_⟩
  · rw [recountRows_metric, tallied.metrics, tables, volumeOf_congr (counts _), volumeOf_add]
    by_cases own : metricKey = metricFor source <;> simp [own]
  · rw [recountRows_impact, tallied.impacts, tables, counts]
    by_cases own : source = .decision <;> simp [own, eq_comm]

end DContact.Governance

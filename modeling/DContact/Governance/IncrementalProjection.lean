import DContact.Governance.LocalTime
import DContact.Lib.Pages
import DContact.Lib.Sessions
import DContact.Lib.Transition
import Mathlib.Data.Prod.Lex

/-!
# The incremental projection

The reader counts decisions, attempts, touches and reservations in buckets of five minutes. Each
source has a cursor, and a batch takes the next rows behind it; a rebuild drops the buckets of a
range and counts the range again. A batch holds the advisory lock of its source from its first
statement to its commit. Dropping buckets and advancing a cursor take no lock.
-/

namespace DContact.Governance

open Lib

inductive Cg5ProjectionSource where
  | decision | attempt | touch | reservation
  deriving DecidableEq

/-- The order in which a run takes the sources. -/
def cg5ProjectionSources : List Cg5ProjectionSource := [.decision, .attempt, .touch, .reservation]

inductive Cg5MetricKey where
  | decision | restriction | frequency | exception | consent | policyHealth | audit | reservation
  deriving DecidableEq

structure Cg5MetricDimensions where
  channel : Option String
  purpose : Option String
  decision : Option String
  gate : Option String
  reasonCode : Option String
  teamId : Option String
  deriving DecidableEq

def cg5EmptyDimensions : Cg5MetricDimensions := ⟨none, none, none, none, none, none⟩

structure CgDecisionLog where
  id : Nat
  decidedAt : Instant
  channel : String
  purpose : String
  teamId : Option String
  decision : String
  gate : String
  reasonCode : String
  policyVersion : Int
  deriving DecidableEq

/-- An attempt or a touch, with the columns that the reader selects. -/
structure CgFactRow where
  id : Nat
  occurredAt : Instant
  channel : String
  purpose : String
  deriving DecidableEq

structure CgReservationRow where
  id : Nat
  createdAt : Instant
  channel : String
  purpose : String
  teamId : Option String
  deriving DecidableEq

structure CanonicalTables where
  decisions : List CgDecisionLog
  attempts : List CgFactRow
  touches : List CgFactRow
  reservations : List CgReservationRow
  deriving DecidableEq

/-- What the reader makes of a row of any source. -/
structure ProjectionRow where
  id : Nat
  occurredAt : Instant
  channel : String
  purpose : String
  teamId : Option String
  decision : Option String
  gate : Option String
  reasonCode : Option String
  policyVersion : Option Int
  deriving DecidableEq

def CgDecisionLog.projected (row : CgDecisionLog) : ProjectionRow :=
  { id := row.id, occurredAt := row.decidedAt, channel := row.channel, purpose := row.purpose,
    teamId := row.teamId, decision := some row.decision, gate := some row.gate,
    reasonCode := some row.reasonCode, policyVersion := some row.policyVersion }

def CgFactRow.projected (gate : String) (row : CgFactRow) : ProjectionRow :=
  { id := row.id, occurredAt := row.occurredAt, channel := row.channel, purpose := row.purpose,
    teamId := none, decision := none, gate := some gate, reasonCode := none, policyVersion := none }

def CgReservationRow.projected (row : CgReservationRow) : ProjectionRow :=
  { id := row.id, occurredAt := row.createdAt, channel := row.channel, purpose := row.purpose,
    teamId := row.teamId, decision := none, gate := some "RESERVATION_CREATED", reasonCode := none,
    policyVersion := none }

def CanonicalTables.rowsOf (tables : CanonicalTables) : Cg5ProjectionSource → List ProjectionRow
  | .decision => tables.decisions.map CgDecisionLog.projected
  | .attempt => tables.attempts.map (CgFactRow.projected "ATTEMPT")
  | .touch => tables.touches.map (CgFactRow.projected "TOUCH")
  | .reservation => tables.reservations.map CgReservationRow.projected

def dimensionsFor (row : ProjectionRow) : Cg5MetricDimensions :=
  { cg5EmptyDimensions with
    channel := some row.channel
    purpose := some row.purpose
    decision := row.decision
    gate := row.gate
    reasonCode := row.reasonCode
    teamId := row.teamId }

def metricFor : Cg5ProjectionSource → Cg5MetricKey
  | .decision => .decision
  | .attempt | .touch => .frequency
  | .reservation => .reservation

/-- The start of the five minutes in which an instant lies. -/
def cg5BucketStart (date : Instant) : Instant := date / 300000 * 300000

structure Cg5MetricBucket where
  dimensions : Cg5MetricDimensions
  value : Nat
  sampleCount : Nat
  updatedAt : Instant

structure Cg5ProjectionCursor where
  lastProcessedAt : Option Instant
  lastProcessedId : Option Nat
  deriving DecidableEq

namespace Cg5ProjectionCursor

def start : Cg5ProjectionCursor := ⟨none, none⟩

def behind (row : ProjectionRow) : Cg5ProjectionCursor := ⟨some row.occurredAt, some row.id⟩

/-- Whether a row is still ahead. A cursor that lacks the instant or the id has passed nothing. -/
def after (cursor : Cg5ProjectionCursor) (row : ProjectionRow) : Bool :=
  match cursor.lastProcessedAt, cursor.lastProcessedId with
  | some lastAt, some lastId =>
      decide (lastAt < row.occurredAt) || (decide (row.occurredAt = lastAt) && decide (lastId < row.id))
  | _, _ => true

end Cg5ProjectionCursor

structure Cg5ProjectionRange where
  opens : Instant
  closes : Instant
  deriving DecidableEq

def Cg5ProjectionRange.contains (range : Cg5ProjectionRange) (date : Instant) : Bool :=
  decide (range.opens ≤ date) && decide (date < range.closes)

def fiveMinuteRange (range : Cg5ProjectionRange) : Cg5ProjectionRange :=
  ⟨cg5BucketStart range.opens, cg5BucketStart (range.closes - 1) + 300000⟩

def whereAfter (cursor : Cg5ProjectionCursor) (range : Option Cg5ProjectionRange)
    (row : ProjectionRow) : Bool :=
  range.all (fun range => range.contains row.occurredAt) && cursor.after row

def ProjectionRow.position (row : ProjectionRow) : Instant ×ₗ Nat := toLex (row.occurredAt, row.id)

structure Reader where
  batchSize : Nat
  /-- No bound stands for infinity. -/
  maxBatchesPerSource : Option Nat
  deriving DecidableEq

def Reader.readRows (reader : Reader) (tables : CanonicalTables) (source : Cg5ProjectionSource)
    (cursor : Cg5ProjectionCursor) (range : Option Cg5ProjectionRange) : List ProjectionRow :=
  Pages.page ProjectionRow.position (whereAfter cursor range) reader.batchSize (tables.rowsOf source)

/-- Canonical rows, the projection in its buckets of five minutes, and a cursor for each source. -/
structure ProjectionStore (δ : Type) where
  tables : CanonicalTables
  metricBuckets : Cg5MetricKey → Instant → δ → Option Cg5MetricBucket
  policyImpactBuckets : Instant → Int → String → Option Nat
  cursors : Cg5ProjectionSource → Option Cg5ProjectionCursor

namespace ProjectionStore

variable {δ : Type} [DecidableEq δ]

def upsertMetric (store : ProjectionStore δ) (metricKey : Cg5MetricKey) (bucketStart : Instant)
    (dimensionKey : δ) (dimensions : Cg5MetricDimensions) (updatedAt : Instant) : ProjectionStore δ :=
  let bucket := match store.metricBuckets metricKey bucketStart dimensionKey with
    | none => ⟨dimensions, 1, 1, updatedAt⟩
    | some bucket =>
        { bucket with
          value := bucket.value + 1
          sampleCount := bucket.sampleCount + 1
          updatedAt := updatedAt }
  { store with
    metricBuckets := fun key start other =>
      if key = metricKey ∧ start = bucketStart ∧ other = dimensionKey then some bucket
      else store.metricBuckets key start other }

def upsertPolicyImpact (store : ProjectionStore δ) (bucketStart : Instant) (policyVersion : Int)
    (decision : String) : ProjectionStore δ :=
  let value := match store.policyImpactBuckets bucketStart policyVersion decision with
    | none => 1
    | some value => value + 1
  { store with
    policyImpactBuckets := fun start version other =>
      if start = bucketStart ∧ version = policyVersion ∧ other = decision then some value
      else store.policyImpactBuckets start version other }

def incrementMetric (dimensionKey : Cg5MetricDimensions → δ) (source : Cg5ProjectionSource)
    (store : ProjectionStore δ) (row : ProjectionRow) : ProjectionStore δ :=
  let dimensions := dimensionsFor row
  let bucketStart := cg5BucketStart row.occurredAt
  let counted := store.upsertMetric (metricFor source) bucketStart (dimensionKey dimensions)
    dimensions row.occurredAt
  if source = .decision then
    match row.policyVersion, row.decision with
    | some policyVersion, some decision =>
        counted.upsertPolicyImpact bucketStart policyVersion decision
    | _, _ => counted
  else counted

def moveCursor (store : ProjectionStore δ) (source : Cg5ProjectionSource)
    (last : ProjectionRow) : ProjectionStore δ :=
  { store with
    cursors := fun other => if other = source then some (.behind last) else store.cursors other }

/-- The writes of a batch: every row is counted, and the cursor moves behind the last one. -/
def projectRows (dimensionKey : Cg5MetricDimensions → δ) (source : Cg5ProjectionSource)
    (rows : List ProjectionRow) (store : ProjectionStore δ) : ProjectionStore δ :=
  let counted := rows.foldl (incrementMetric dimensionKey source) store
  match rows.getLast? with
  | none => counted
  | some last => counted.moveCursor source last

/-- The writes of a batch of a rebuild. -/
def recountRows (dimensionKey : Cg5MetricDimensions → δ) (source : Cg5ProjectionSource)
    (rows : List ProjectionRow) (store : ProjectionStore δ) : ProjectionStore δ :=
  rows.foldl (incrementMetric dimensionKey source) store

def volumeMetrics : List Cg5MetricKey := [.decision, .frequency, .reservation]

def clearRange (range : Cg5ProjectionRange) (store : ProjectionStore δ) : ProjectionStore δ :=
  { store with
    metricBuckets := fun key start dimensionKey =>
      if volumeMetrics.contains key && (fiveMinuteRange range).contains start then none
      else store.metricBuckets key start dimensionKey
    policyImpactBuckets := fun start policyVersion decision =>
      if (fiveMinuteRange range).contains start then none
      else store.policyImpactBuckets start policyVersion decision }

end ProjectionStore

def isNewer (existing : Option Cg5ProjectionCursor) (last : ProjectionRow) : Bool :=
  match existing.bind Cg5ProjectionCursor.lastProcessedAt with
  | none => true
  | some boundary =>
      decide (boundary < last.occurredAt) ||
        (decide (last.occurredAt = boundary) &&
          match existing.bind Cg5ProjectionCursor.lastProcessedId with
          | none => true
          | some id => decide (id < last.id))

inductive ProjectionCall where
  | run (reader : Reader)
  | rebuildRange (reader : Reader) (range : Cg5ProjectionRange)

/-- What a run has processed of each source, in the order of the sources. -/
abbrev ProcessedCounts := List (Cg5ProjectionSource × Nat)

inductive ProjectionResult where
  | processed (reader : Reader) (counts : ProcessedCounts)
  | rebuilt
  | failed (message : String)
  deriving DecidableEq

/-- How far the transaction of a batch has come. -/
inductive BatchStage where
  | waiting
  | locked
  | bounded (boundary : Cg5ProjectionCursor)
  | read (rows : List ProjectionRow)
  deriving DecidableEq

/-- A run in the middle of a source. -/
structure ProjectionTask where
  reader : Reader
  source : Cg5ProjectionSource
  rest : List Cg5ProjectionSource
  counts : ProcessedCounts
  processed : Nat
  batches : Nat
  deriving DecidableEq

structure RebuildTask where
  reader : Reader
  range : Cg5ProjectionRange
  source : Cg5ProjectionSource
  rest : List Cg5ProjectionSource
  cursor : Cg5ProjectionCursor
  lastProcessed : Option ProjectionRow
  deriving DecidableEq

inductive ProjectionWork where
  | projecting (task : ProjectionTask) (stage : BatchStage)
  | clearing (reader : Reader) (range : Cg5ProjectionRange)
  | rebuilding (task : RebuildTask) (stage : BatchStage)
  | advancing (task : RebuildTask) (last : ProjectionRow)
  | overtaking (task : RebuildTask) (last : ProjectionRow) (existing : Option Cg5ProjectionCursor)
  | ended (result : ProjectionResult)
  deriving DecidableEq

namespace ProjectionWork

/-- The source whose advisory lock the transaction holds. -/
def lock : ProjectionWork → Option Cg5ProjectionSource
  | .projecting task stage => if stage = .waiting then none else some task.source
  | .rebuilding task stage => if stage = .waiting then none else some task.source
  | _ => none

/-- A run goes on with the sources that are left. -/
def project (reader : Reader) (counts : ProcessedCounts) : List Cg5ProjectionSource → ProjectionWork
  | [] => .ended (.processed reader counts)
  | source :: rest => .projecting ⟨reader, source, rest, counts, 0, 0⟩ .waiting

/-- A rebuild goes on with the sources that are left. -/
def rebuild (reader : Reader) (range : Cg5ProjectionRange) :
    List Cg5ProjectionSource → ProjectionWork
  | [] => .ended .rebuilt
  | source :: rest => .rebuilding ⟨reader, range, source, rest, .start, none⟩ .waiting

def ofCall : ProjectionCall → ProjectionWork
  | .run reader => project reader [] cg5ProjectionSources
  | .rebuildRange reader range =>
      if range.closes ≤ range.opens then .ended (.failed "range ต้องมี from ก่อน to")
      else .clearing reader range

end ProjectionWork

/-- After a batch of a run has committed. -/
def ProjectionTask.next (task : ProjectionTask) (count : Nat) : ProjectionWork :=
  let task := { task with processed := task.processed + count, batches := task.batches + 1 }
  if count < task.reader.batchSize ∨ task.reader.maxBatchesPerSource.any (· ≤ task.batches) then
    .project task.reader (task.counts ++ [(task.source, task.processed)]) task.rest
  else .projecting task .waiting

/-- After the rows of a source have been counted again. -/
def RebuildTask.finish (task : RebuildTask) (last : Option ProjectionRow) : ProjectionWork :=
  match last with
  | none => .rebuild task.reader task.range task.rest
  | some last => .advancing task last

def RebuildTask.next (task : RebuildTask) (rows : List ProjectionRow) : ProjectionWork :=
  match rows.getLast? with
  | none => task.finish task.lastProcessed
  | some last =>
      if rows.length < task.reader.batchSize then task.finish (some last)
      else .rebuilding { task with cursor := .behind last, lastProcessed := some last } .waiting

/-- What is committed, and the calls in flight or ended. -/
structure Projection (δ : Type) where
  store : ProjectionStore δ
  sessions : List (Session ProjectionWork)

inductive CanonicalRow where
  | decision (row : CgDecisionLog)
  | attempt (row : CgFactRow)
  | touch (row : CgFactRow)
  | reservation (row : CgReservationRow)

namespace CanonicalRow

def source : CanonicalRow → Cg5ProjectionSource
  | .decision _ => .decision
  | .attempt _ => .attempt
  | .touch _ => .touch
  | .reservation _ => .reservation

def projected : CanonicalRow → ProjectionRow
  | .decision row => row.projected
  | .attempt row => row.projected "ATTEMPT"
  | .touch row => row.projected "TOUCH"
  | .reservation row => row.projected

end CanonicalRow

def CanonicalTables.insert (tables : CanonicalTables) : CanonicalRow → CanonicalTables
  | .decision row => { tables with decisions := tables.decisions ++ [row] }
  | .attempt row => { tables with attempts := tables.attempts ++ [row] }
  | .touch row => { tables with touches := tables.touches ++ [row] }
  | .reservation row => { tables with reservations := tables.reservations ++ [row] }

/-- A transaction that inserts commits, a call starts, goes on by a statement, or stops for good. -/
inductive ProjectionStep where
  | insert (row : CanonicalRow)
  | start (pid : Nat) (call : ProjectionCall)
  | advance (pid : Nat)
  | crash (pid : Nat)

namespace Projection

variable {δ : Type} [DecidableEq δ]

def moveTo (state : Projection δ) (pid : Nat) (work : ProjectionWork) : Projection δ :=
  { state with sessions := Session.replace state.sessions pid work }

def commit (state : Projection δ) (pid : Nat) (store : ProjectionStore δ) (work : ProjectionWork) :
    Projection δ :=
  ⟨store, Session.replace state.sessions pid work⟩

def free (state : Projection δ) (pid : Nat) (source : Cg5ProjectionSource) : Bool :=
  !Session.others state.sessions pid fun work => decide (work.lock = some source)

def advance (dimensionKey : Cg5MetricDimensions → δ) (state : Projection δ) (pid : Nat) :
    ProjectionWork → Option (Projection δ)
  | .projecting task .waiting =>
      if state.free pid task.source then some (state.moveTo pid (.projecting task .locked)) else none
  | .projecting task .locked =>
      some (state.moveTo pid (.projecting task
        (.bounded ((state.store.cursors task.source).getD .start))))
  | .projecting task (.bounded boundary) =>
      some (state.moveTo pid (.projecting task
        (.read (task.reader.readRows state.store.tables task.source boundary none))))
  | .projecting task (.read rows) =>
      some (state.commit pid (state.store.projectRows dimensionKey task.source rows)
        (task.next rows.length))
  | .clearing reader range =>
      some (state.commit pid (state.store.clearRange range)
        (.rebuild reader range cg5ProjectionSources))
  | .rebuilding task .waiting =>
      if state.free pid task.source then some (state.moveTo pid (.rebuilding task .locked)) else none
  | .rebuilding task .locked =>
      some (state.moveTo pid (.rebuilding task
        (.read (task.reader.readRows state.store.tables task.source task.cursor (some task.range)))))
  | .rebuilding task (.read rows) =>
      some (state.commit pid (state.store.recountRows dimensionKey task.source rows)
        (task.next rows))
  | .rebuilding _ (.bounded _) => none
  | .advancing task last =>
      some (state.moveTo pid (.overtaking task last (state.store.cursors task.source)))
  | .overtaking task last existing =>
      some (state.commit pid
        (if isNewer existing last then state.store.moveCursor task.source last else state.store)
        (.rebuild task.reader task.range task.rest))
  | .ended _ => none

def next (dimensionKey : Cg5MetricDimensions → δ) (state : Projection δ) :
    ProjectionStep → Option (Projection δ)
  | .insert row =>
      if (state.store.tables.rowsOf row.source).any fun other => other.id = row.projected.id then none
      else some { state with store := { state.store with tables := state.store.tables.insert row } }
  | .start pid call =>
      if (Session.find state.sessions pid).isSome then none
      else some (state.moveTo pid (.ofCall call))
  | .advance pid => (Session.find state.sessions pid).bind (state.advance dimensionKey pid)
  | .crash pid =>
      match Session.find state.sessions pid with
      | none | some (.ended _) => none
      | some _ => some { state with sessions := Session.drop state.sessions pid }

/-- The rows have identifiers of their own, and nothing has been projected. -/
structure Fresh (state : Projection δ) : Prop where
  distinct : ∀ source, ((state.store.tables.rowsOf source).map ProjectionRow.id).Nodup
  metricBuckets : ∀ key start dimensionKey, state.store.metricBuckets key start dimensionKey = none
  policyImpactBuckets : ∀ start version decision,
    state.store.policyImpactBuckets start version decision = none
  cursors : ∀ source, state.store.cursors source = none
  sessions : state.sessions = []

end Projection

def projection {δ : Type} [DecidableEq δ] (dimensionKey : Cg5MetricDimensions → δ) :
    System (Projection δ) ProjectionStep :=
  .ofNext Projection.Fresh (Projection.next dimensionKey)

end DContact.Governance

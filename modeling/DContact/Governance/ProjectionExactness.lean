import DContact.Governance.ProjectionCounts

/-!
# Exactness of the incremental projection

Between two steps a row has been counted when the cursor of its source has passed it, or, inside a
range that is being rebuilt, when the rebuild has counted it again. The buckets hold the counted
rows, and a run without a bound on its batches passes every row that it finds.
-/

namespace DContact.Governance

open Lib List Session ProjectionWork ProjectionStore Cg5ProjectionCursor Bool

variable {δ : Type} [DecidableEq δ] {dimensionKey : Cg5MetricDimensions → δ}

/-! ## What the transactions in flight have read -/

structure Window (table : List ProjectionRow) (ahead : ProjectionRow → Bool)
    (rows : List ProjectionRow) : Prop where
  apart : rows.Nodup
  within : ∀ row ∈ rows, row ∈ table ∧ ahead row = true
  upTo : ∀ last, rows.getLast? = some last → ∀ row ∈ table, ahead row = true →
    (row ∈ rows ↔ row.position ≤ last.position)

variable {tables : CanonicalTables} {source : Cg5ProjectionSource}

theorem window_readRows
    (distinct : ((tables.rowsOf source).map ProjectionRow.id).Nodup) (reader : Reader)
    (cursor : Cg5ProjectionCursor) (range : Option Cg5ProjectionRange) :
    Window (tables.rowsOf source) (whereAfter cursor range)
      (reader.readRows tables source cursor range) where
  apart := Pages.nodup_page (distinct.of_map _)
  within := fun _ mem => Pages.mem_of_page mem
  upTo := fun _ ends _ mem ahead =>
    ⟨Pages.le_last ends, Pages.page_covers (position_apart distinct) ends mem ahead⟩

variable {table rows : List ProjectionRow} {ahead : ProjectionRow → Bool}

theorem Window.inserted {new : ProjectionRow} (window : Window table ahead rows)
    (later : ahead new = true → ∀ row ∈ rows, row.position < new.position) :
    Window (table ++ [new]) ahead rows where
  apart := window.apart
  within := fun row mem =>
    ⟨mem_append_left _ (window.within row mem).1, (window.within row mem).2⟩
  upTo := by
    intro last ends row mem isAhead
    rcases mem_snoc.mp mem with known | rfl
    · exact window.upTo last ends row known isAhead
    · have beyond := later isAhead last (mem_of_getLast? ends)
      constructor
      · intro here
        exact absurd (later isAhead row here) (lt_irrefl _)
      · intro before
        exact absurd beyond (not_lt.mpr before)

/-- The sources that a rebuild has left behind lie behind their cursors inside its range. -/
def Finished (store : ProjectionStore δ) (range : Cg5ProjectionRange)
    (rest : List Cg5ProjectionSource) : Prop :=
  ∀ source, source ∉ rest → ∀ row ∈ store.tables.rowsOf source,
    range.contains row.occurredAt = true → (store.passed source).after row = false

/-- A rebuild is at one of the sources that it has not left behind. -/
structure RebuildTask.Standing (task : RebuildTask) (store : ProjectionStore δ) : Prop where
  batchSize : 0 < task.reader.batchSize
  pending : (task.source :: task.rest).Nodup
  finished : Finished store task.range (task.source :: task.rest)

def RebuildTask.Reached (task : RebuildTask) (store : ProjectionStore δ) (last : ProjectionRow) :
    Prop :=
  ∀ row ∈ store.tables.rowsOf task.source, task.range.contains row.occurredAt = true →
    row.position ≤ last.position

/-- A cursor that was read, and may have moved on since. -/
structure Known (store : ProjectionStore δ) (source : Cg5ProjectionSource)
    (existing : Option Cg5ProjectionCursor) : Prop where
  whole : (existing.getD .start).Whole
  forward : ∀ row, (existing.getD .start).after row = false → (store.passed source).after row = false

def RebuildTask.Kept (task : RebuildTask) : Prop :=
  (task.cursor = .start ∧ task.lastProcessed = none) ∨
    ∃ last, task.cursor = .behind last ∧ task.lastProcessed = some last

variable {task : RebuildTask}

theorem RebuildTask.Kept.whole (kept : task.Kept) : task.cursor.Whole := by
  rcases kept with ⟨same, -⟩ | ⟨last, same, -⟩
  · exact .inl same
  · exact .inr ⟨last, same⟩

/-- What a rebuild has read is complete if it is less than it asked for. -/
structure RebuildTask.Reads (task : RebuildTask) (store : ProjectionStore δ)
    (rows : List ProjectionRow) : Prop where
  window : Window (store.tables.rowsOf task.source) (whereAfter task.cursor (some task.range)) rows
  short : rows.length < task.reader.batchSize → ∀ row ∈ store.tables.rowsOf task.source,
    whereAfter task.cursor (some task.range) row = true → row ∈ rows

variable {row : ProjectionRow} {work : ProjectionWork}

namespace ProjectionWork

/-- What a transaction in flight knows of the store. -/
def Sound (store : ProjectionStore δ) : ProjectionWork → Prop
  | .projecting task (.bounded boundary) => boundary = store.passed task.source
  | .projecting task (.read rows) =>
      Window (store.tables.rowsOf task.source) (store.passed task.source).after rows
  | .projecting _ _ => True
  | .rebuilding task stage => task.Standing store ∧ task.Kept ∧ match stage with
      | .read rows => task.Reads store rows
      | _ => True
  | .advancing task last => task.Standing store ∧ task.Reached store last
  | .overtaking task last existing =>
      task.Standing store ∧ task.Reached store last ∧ Known store task.source existing
  | .clearing _ _ | .ended _ => True

/-- What a rebuild has counted again, among the rows of its range. -/
def recounted : ProjectionWork → Cg5ProjectionSource → ProjectionRow → Bool
  | .rebuilding task _, source, row =>
      if source = task.source then !task.cursor.after row else decide (source ∉ task.rest)
  | .advancing task _, source, _ | .overtaking task _ _, source, _ => decide (source ∉ task.rest)
  | _, _, _ => false

def covers (work : ProjectionWork) (row : ProjectionRow) : Bool :=
  work.rebuilds.any fun range => range.contains row.occurredAt

theorem covers_iff : work.covers row = true ↔
      ∃ range, work.rebuilds = some range ∧ range.contains row.occurredAt = true := by
  unfold covers
  cases work.rebuilds <;> simp

theorem covers_eq_false : work.covers row = false ↔
    ∀ range, work.rebuilds = some range → range.contains row.occurredAt = false := by
  unfold covers
  cases work.rebuilds <;> simp

end ProjectionWork

/-! ## The invariant -/

/-- A row has been counted when its source has passed it, or when its rebuild has counted it. -/
structure Describes (state : Projection δ)
    (counted : Cg5ProjectionSource → ProjectionRow → Bool) : Prop where
  rebuilt : ∀ session ∈ state.sessions, ∀ source, ∀ row ∈ state.store.tables.rowsOf source,
    session.work.covers row = true → counted source row = session.work.recounted source row
  passed : ∀ source, ∀ row ∈ state.store.tables.rowsOf source,
    (∀ session ∈ state.sessions, session.work.covers row = false) →
    counted source row = !(state.store.passed source).after row

/-- Two calls in flight do not get into each other's way. -/
structure Beside (left right : ProjectionWork) : Prop where
  locks : ∀ source, left.lock = some source → right.lock ≠ some source
  ranges : ∀ range other, left.rebuilds = some range → right.rebuilds = some other →
    ∀ bucketStart, (fiveMinuteRange range).contains bucketStart = true →
      (fiveMinuteRange other).contains bucketStart = false
  reads : ∀ row ∈ left.unwritten, right.covers row = false

structure ProjectionInv (dimensionKey : Cg5MetricDimensions → δ) (state : Projection δ) : Prop where
  distinct : ∀ source, ((state.store.tables.rowsOf source).map ProjectionRow.id).Nodup
  whole : ∀ source, (state.store.passed source).Whole
  single : ∀ left ∈ state.sessions, ∀ right ∈ state.sessions, left.pid = right.pid →
    left.work = right.work
  beside : ∀ left ∈ state.sessions, ∀ right ∈ state.sessions, left.pid ≠ right.pid →
    Beside left.work right.work
  sound : ∀ session ∈ state.sessions, session.work.Sound state.store
  counted : ∃ counted, Describes state counted ∧ Tallied dimensionKey counted state.store

/-! ## A step of a call -/

variable {range : Cg5ProjectionRange} {rest : List Cg5ProjectionSource}
  {store store' : ProjectionStore δ}

omit [DecidableEq δ] in
theorem Finished.moved (finished : Finished store range rest)
    (tables : store'.tables = store.tables)
    (forward : ∀ source row, (store.passed source).after row = false →
      (store'.passed source).after row = false) : Finished store' range rest := by
  intro source done row mem inside
  rw [tables] at mem
  exact forward source row (finished source done row mem inside)

omit [DecidableEq δ] in
theorem Finished.left (finished : Finished store range (source :: rest))
    (own : ∀ row ∈ store.tables.rowsOf source, range.contains row.occurredAt = true →
      (store.passed source).after row = false) : Finished store range rest := by
  intro other done
  by_cases same : other = source
  · exact same ▸ own
  · exact finished other (by simp [same, done])

omit [DecidableEq δ] in
theorem RebuildTask.Standing.moved (standing : task.Standing store)
    (tables : store'.tables = store.tables)
    (forward : ∀ source row, (store.passed source).after row = false →
      (store'.passed source).after row = false) : task.Standing store' :=
  ⟨standing.batchSize, standing.pending, standing.finished.moved tables forward⟩

omit [DecidableEq δ] in
/-- What a transaction knows stands while cursors move on, but for the one that it has read. -/
theorem ProjectionWork.Sound.moved (sound : work.Sound store)
    (tables : store'.tables = store.tables)
    (forward : ∀ source row, (store.passed source).after row = false →
      (store'.passed source).after row = false)
    (bounds : ∀ source, work.bounds = some source → store'.passed source = store.passed source) :
    work.Sound store' := by
  cases work with
  | projecting task stage =>
      cases stage with
      | waiting => exact trivial
      | locked => exact trivial
      | bounded boundary => exact sound.trans (bounds task.source rfl).symm
      | read rows =>
          rw [ProjectionWork.Sound] at sound ⊢
          rwa [tables, bounds task.source rfl]
  | clearing reader range => exact trivial
  | rebuilding task stage =>
      obtain ⟨standing, kept, reads⟩ := sound
      refine ⟨standing.moved tables forward, kept, ?_⟩
      cases stage with
      | read rows => exact ⟨tables ▸ reads.window, tables ▸ reads.short⟩
      | _ => exact trivial
  | advancing task last =>
      obtain ⟨standing, reached⟩ := sound
      refine ⟨standing.moved tables forward, ?_⟩
      unfold RebuildTask.Reached
      rwa [tables]
  | overtaking task last existing =>
      obtain ⟨standing, reached, known⟩ := sound
      refine ⟨standing.moved tables forward, ?_, known.whole, fun row passed => ?_⟩
      · unfold RebuildTask.Reached
        rwa [tables]
      · exact forward task.source row (known.forward row passed)
  | ended result => exact trivial

/-- A transaction that goes on with less than it had. -/
structure Quieter (before after : ProjectionWork) : Prop where
  lock : ∀ source, after.lock = some source → before.lock = some source
  rebuilds : ∀ range, after.rebuilds = some range → before.rebuilds = some range
  unwritten : ∀ row ∈ after.unwritten, row ∈ before.unwritten

variable {before after : ProjectionWork}

theorem Quieter.covers (quieter : Quieter before after)
    (outside : before.covers row = false) : after.covers row = false :=
  covers_eq_false.mpr fun range rebuilt =>
    covers_eq_false.mp outside range (quieter.rebuilds range rebuilt)

variable {other : ProjectionWork}

theorem Quieter.left (quieter : Quieter before after) (beside : Beside before other) :
    Beside after other where
  locks := fun source held => beside.locks source (quieter.lock source held)
  ranges := fun range ranged rebuilt => beside.ranges range ranged (quieter.rebuilds range rebuilt)
  reads := fun row mem => beside.reads row (quieter.unwritten row mem)

theorem Quieter.right (quieter : Quieter before after) (beside : Beside other before) :
    Beside other after where
  locks := fun source held heldToo => beside.locks source held (quieter.lock source heldToo)
  ranges := fun range ranged rebuilt rebuiltToo =>
    beside.ranges range ranged rebuilt (quieter.rebuilds ranged rebuiltToo)
  reads := fun row mem => quieter.covers (beside.reads row mem)

/-! ## The writes of a batch -/

omit [DecidableEq δ] in
theorem passed_moveCursor (store : ProjectionStore δ) (source other : Cg5ProjectionSource)
    (last : ProjectionRow) : (store.moveCursor source last).passed other =
      if other = source then .behind last else store.passed other := by
  unfold passed moveCursor
  dsimp only
  split <;> rfl

theorem passed_recountRows (dimensionKey : Cg5MetricDimensions → δ)
    (source other : Cg5ProjectionSource) (rows : List ProjectionRow) (store : ProjectionStore δ) :
    (store.recountRows dimensionKey source rows).passed other = store.passed other := by
  unfold passed
  rw [(recountRows_tables dimensionKey source rows store).2]

/-- A call between two transactions of a run, or one that has ended. -/
structure ProjectionWork.Idle (work : ProjectionWork) : Prop where
  lock : work.lock = none
  rebuilds : work.rebuilds = none
  unwritten : work.unwritten = []
  sound : ∀ {δ : Type} (store : ProjectionStore δ), work.Sound store

theorem ProjectionWork.Idle.covers (idle : work.Idle)
    (row : ProjectionRow) : work.covers row = false := by
  rw [ProjectionWork.covers, idle.rebuilds]
  rfl

theorem ProjectionWork.Idle.quieter (idle : work.Idle)
    (before : ProjectionWork) : Quieter before work := by
  refine ⟨?_, ?_, ?_⟩
  · rw [idle.lock]
    nofun
  · rw [idle.rebuilds]
    nofun
  · rw [idle.unwritten]
    nofun

theorem ProjectionWork.Idle.besideLeft (idle : work.Idle)
    (other : ProjectionWork) : Beside work other := by
  refine ⟨?_, ?_, ?_⟩
  · rw [idle.lock]
    nofun
  · rw [idle.rebuilds]
    nofun
  · rw [idle.unwritten]
    nofun

theorem ProjectionWork.Idle.besideRight (idle : work.Idle)
    (other : ProjectionWork) : Beside other work := by
  refine ⟨?_, ?_, fun row _ => idle.covers row⟩
  · rw [idle.lock]
    nofun
  · rw [idle.rebuilds]
    nofun

theorem idle_project (reader : Reader) (counts : ProcessedCounts)
    (rest : List Cg5ProjectionSource) : (project reader counts rest).Idle := by
  cases rest with
  | nil | cons source rest => exact ⟨rfl, rfl, rfl, fun _ => trivial⟩

theorem idle_next (task : ProjectionTask) (count : Nat) : (task.next count).Idle := by
  unfold ProjectionTask.next
  dsimp only
  split
  · exact idle_project ..
  · exact ⟨rfl, rfl, rfl, fun _ => trivial⟩

theorem ProjectionWork.lock_of_bounds
    (bounded : work.bounds = some source) : work.lock = some source := by
  cases work with
  | projecting task stage =>
      cases stage with
      | waiting => cases bounded
      | locked => cases bounded
      | bounded boundary => exact bounded
      | read rows => exact bounded
  | _ => cases bounded

theorem tables_projectRows (dimensionKey : Cg5MetricDimensions → δ) (source : Cg5ProjectionSource)
    (rows : List ProjectionRow) (store : ProjectionStore δ) :
    (store.projectRows dimensionKey source rows).tables = store.tables := by
  unfold projectRows
  dsimp only
  split <;> exact (recountRows_tables dimensionKey source rows store).1

theorem passed_projectRows (dimensionKey : Cg5MetricDimensions → δ)
    (source other : Cg5ProjectionSource) (rows : List ProjectionRow) (store : ProjectionStore δ) : (store.projectRows dimensionKey source rows).passed other =
      if other = source then (rows.getLast?.map .behind).getD (store.passed source)
      else store.passed other := by
  unfold projectRows
  dsimp only
  split
  next none_ =>
    have same := passed_recountRows dimensionKey source other rows store
    refine same.trans ?_
    rw [none_]
    split
    next own => rw [own]; rfl
    next => rfl
  next last ends =>
    rw [passed_moveCursor, ends]
    refine if_congr Iff.rfl rfl ?_
    exact passed_recountRows dimensionKey source other rows store

variable {counted : Cg5ProjectionSource → ProjectionRow → Bool}

theorem tallied_projectRows
    (tallied : Tallied dimensionKey counted (store.recountRows dimensionKey source rows)) :
    Tallied dimensionKey counted (store.projectRows dimensionKey source rows) := by
  unfold projectRows
  dsimp only
  split
  · exact tallied
  · exact ⟨tallied.metrics, tallied.impacts⟩

variable {cursor : Cg5ProjectionCursor}

/-- The cursor that a batch leaves has passed what was passed, and what the batch has read. -/
theorem Window.moved (window : Window table ahead rows) (whole : cursor.Whole)
    (beyond : ∀ row, ahead row = true → cursor.after row = true) (mem : row ∈ table)
    (same : ahead row = cursor.after row) :
    ((rows.getLast?.map behind).getD cursor).after row =
      (cursor.after row && !decide (row ∈ rows)) := by
  cases ends : rows.getLast? with
  | none => simp [getLast?_eq_none_iff.mp ends]
  | some last =>
      change (behind last).after row = _
      cases isAhead : cursor.after row with
      | false =>
          exact whole.moved (beyond last (window.within last (mem_of_getLast? ends)).2) isAhead
      | true =>
          have inside := window.upTo last ends row mem (same.trans isAhead)
          rw [after_behind, Bool.true_and, ← decide_not]
          exact decide_eq_decide.mpr (not_le.symm.trans (not_congr inside.symm))

theorem Window.whole (_ : Window table cursor.after rows) (whole : cursor.Whole) :
    ((rows.getLast?.map behind).getD cursor).Whole := by
  cases rows.getLast? with
  | none => exact whole
  | some last => exact .inr ⟨last, rfl⟩

/-- A batch keeps behind the cursors what was behind them. -/
theorem Window.forward
    (window : Window (store.tables.rowsOf source) (store.passed source).after rows)
    (dimensionKey : Cg5MetricDimensions → δ) (whole : ∀ source, (store.passed source).Whole)
    (other : Cg5ProjectionSource) (row : ProjectionRow)
    (passed : (store.passed other).after row = false) :
    ((store.projectRows dimensionKey source rows).passed other).after row = false := by
  rw [passed_projectRows]
  split
  next own =>
    subst own
    cases ends : rows.getLast? with
    | none => exact passed
    | some last =>
        exact (whole other).moved (window.within last (mem_of_getLast? ends)).2 passed
  next => exact passed

variable {session : Session ProjectionWork} {reader : Reader}

namespace ProjectionInv

variable {state : Projection δ} {pid : Nat} {work' : ProjectionWork} {store' : ProjectionStore δ}

section
variable (inv : ProjectionInv dimensionKey state)
  (found : Session.find state.sessions pid = some work)
include inv found

theorem soundOf : work.Sound state.store :=
  inv.sound _ (find_mem found)

theorem besideOf (mem : session ∈ state.sessions) (other : session.pid ≠ pid) :
    Beside work session.work ∧ Beside session.work work :=
  ⟨inv.beside _ (find_mem found) session mem (Ne.symm other),
    inv.beside session mem _ (find_mem found) other⟩

theorem workOf (mem : session ∈ state.sessions) (own : session.pid = pid) : session.work = work :=
  inv.single session mem _ (find_mem found) own

theorem uncovered_of_others (own : work.covers row = false)
    (others : ∀ session ∈ state.sessions, session.pid ≠ pid → session.work.covers row = false) :
    ∀ session ∈ state.sessions, session.work.covers row = false := by
  intro session mem
  by_cases same : session.pid = pid
  · rwa [inv.workOf found mem same]
  · exact others session mem same

end

/-- A call goes on, and the store may change with it. -/
theorem committed (inv : ProjectionInv dimensionKey state)
    (tables : store'.tables = state.store.tables) (whole : ∀ source, (store'.passed source).Whole)
    (sound : work'.Sound store')
    (others : ∀ session ∈ state.sessions, session.pid ≠ pid → session.work.Sound store')
    (beside : ∀ session ∈ state.sessions, session.pid ≠ pid →
      Beside work' session.work ∧ Beside session.work work')
    {counted : Cg5ProjectionSource → ProjectionRow → Bool}
    (describes : Describes (state.commit pid store' work') counted)
    (tallied : Tallied dimensionKey counted store') :
    ProjectionInv dimensionKey (state.commit pid store' work') where
  distinct := by
    intro source
    change ((store'.tables.rowsOf source).map ProjectionRow.id).Nodup
    rw [tables]
    exact inv.distinct source
  whole := whole
  single := pairs_replace inv.single (fun _ => rfl) fun _ _ other =>
    ⟨fun same => absurd same.symm other, fun same => absurd same other⟩
  beside := pairs_replace inv.beside (fun apart => absurd rfl apart) fun session mem other =>
    ⟨fun _ => (beside session mem other).1, fun _ => (beside session mem other).2⟩
  sound := by
    intro session mem
    rcases mem_replace.mp mem with rfl | ⟨present, other⟩
    · exact sound
    · exact others session present other
  counted := ⟨counted, describes, tallied⟩

variable {counted' : Cg5ProjectionSource → ProjectionRow → Bool}

omit [DecidableEq δ] in
/-- What has been counted is described anew where the step makes a difference. -/
theorem describes_commit (describes : Describes state counted)
    (tables : store'.tables = state.store.tables)
    (own : ∀ source, ∀ row ∈ state.store.tables.rowsOf source, work'.covers row = true →
      counted' source row = work'.recounted source row)
    (others : ∀ session ∈ state.sessions, session.pid ≠ pid → ∀ source,
      ∀ row ∈ state.store.tables.rowsOf source, session.work.covers row = true →
      counted' source row = counted source row)
    (rest : ∀ source, ∀ row ∈ state.store.tables.rowsOf source, work'.covers row = false →
      (∀ session ∈ state.sessions, session.pid ≠ pid → session.work.covers row = false) →
      counted' source row = !(store'.passed source).after row) :
    Describes (state.commit pid store' work') counted' where
  rebuilt := by
    intro session mem source row present covered
    change row ∈ store'.tables.rowsOf source at present
    rw [tables] at present
    rcases mem_replace.mp mem with rfl | ⟨known, other⟩
    · exact own source row present covered
    · rw [others session known other source row present covered]
      exact describes.rebuilt session known source row present covered
  passed := by
    intro source row present uncovered
    change row ∈ store'.tables.rowsOf source at present
    rw [tables] at present
    refine rest source row present ?_ fun session known other => ?_
    · exact uncovered ⟨pid, work'⟩ (mem_replace.mpr (.inl rfl))
    · exact uncovered session (mem_replace.mpr (.inr ⟨known, other⟩))

theorem beside_quieter (inv : ProjectionInv dimensionKey state)
    (found : Session.find state.sessions pid = some work) (quieter : Quieter work work') :
    ∀ session ∈ state.sessions, session.pid ≠ pid →
      Beside work' session.work ∧ Beside session.work work' := by
  intro session mem other
  obtain ⟨left, right⟩ := inv.besideOf found mem other
  exact ⟨quieter.left left, quieter.right right⟩

/-- A call goes on without a change to the store or to what it has counted again. -/
theorem steps (inv : ProjectionInv dimensionKey state)
    (found : Session.find state.sessions pid = some work) (sound : work'.Sound state.store)
    (beside : ∀ session ∈ state.sessions, session.pid ≠ pid →
      Beside work' session.work ∧ Beside session.work work')
    (covers : ∀ row, work'.covers row = work.covers row)
    (recounted : ∀ source row, work'.recounted source row = work.recounted source row) :
    ProjectionInv dimensionKey (state.moveTo pid work') := by
  obtain ⟨counted, describes, tallied⟩ := inv.counted
  have known := find_mem found
  refine inv.committed rfl inv.whole sound (fun session mem _ => inv.sound session mem) beside
    (describes_commit describes rfl ?_ (fun _ _ _ _ _ _ _ => rfl) ?_) tallied
  · intro source row mem covered
    rw [recounted]
    exact describes.rebuilt _ known source row mem (covers row ▸ covered)
  · intro source row mem uncovered others
    exact describes.passed source row mem
      (inv.uncovered_of_others found (covers row ▸ uncovered) others)

omit [DecidableEq δ] in
theorem free_iff : state.free pid source = true ↔
    ∀ session ∈ state.sessions, session.pid ≠ pid → session.work.lock ≠ some source := by
  rw [Projection.free, not_eq_true', others_eq_false]
  simp only [decide_eq_false_iff_not]

/-- A transaction takes the advisory lock of its source. -/
theorem beside_locking (inv : ProjectionInv dimensionKey state)
    (found : Session.find state.sessions pid = some work)
    (free : state.free pid source = true) (lock : ∀ held, work'.lock = some held → held = source)
    (rebuilds : work'.rebuilds = work.rebuilds) (unwritten : work'.unwritten = []) :
    ∀ session ∈ state.sessions, session.pid ≠ pid →
      Beside work' session.work ∧ Beside session.work work' := by
  intro session mem other
  obtain ⟨left, right⟩ := inv.besideOf found mem other
  have unlocked := free_iff.mp free session mem other
  refine ⟨⟨?_, rebuilds ▸ left.ranges, ?_⟩, ⟨?_, rebuilds ▸ right.ranges, ?_⟩⟩
  · intro held holds
    exact lock held holds ▸ unlocked
  · rw [unwritten]
    nofun
  · intro held holds holdsToo
    exact unlocked (lock held holdsToo ▸ holds)
  · intro row present
    rw [covers, rebuilds]
    exact right.reads row present

/-! ### The batch of a run -/

section
variable (inv : ProjectionInv dimensionKey state)
include inv

theorem projecting_locked {task : ProjectionTask}
    (found : Session.find state.sessions pid = some (.projecting task .waiting))
    (free : state.free pid task.source = true) :
    ProjectionInv dimensionKey (state.moveTo pid (.projecting task .locked)) :=
  inv.steps found trivial
    (inv.beside_locking found free (fun _ held => (Option.some.inj held).symm) rfl rfl)
    (fun _ => rfl) fun _ _ => rfl

theorem projecting_bounded {task : ProjectionTask}
    (found : Session.find state.sessions pid = some (.projecting task .locked)) :
    ProjectionInv dimensionKey (state.moveTo pid
      (.projecting task (.bounded (state.store.passed task.source)))) :=
  inv.steps found rfl (inv.beside_quieter found ⟨fun _ held => held, nofun, nofun⟩) (fun _ => rfl)
    fun _ _ => rfl

theorem projecting_read {task : ProjectionTask} {boundary : Cg5ProjectionCursor}
    (found : Session.find state.sessions pid = some (.projecting task (.bounded boundary)))
    (apart : state.ReadsApart
      (task.reader.readRows state.store.tables task.source boundary none)) :
    ProjectionInv dimensionKey (state.moveTo pid (.projecting task
      (.read (task.reader.readRows state.store.tables task.source boundary none)))) := by
  have known : boundary = state.store.passed task.source := inv.soundOf found
  refine inv.steps found ?_ ?_ (fun _ => rfl) fun _ _ => rfl
  · subst known
    exact window_readRows (inv.distinct task.source) task.reader _ none
  · intro session mem other
    obtain ⟨left, right⟩ := inv.besideOf found mem other
    refine ⟨⟨left.locks, nofun, fun row read => ?_⟩, ⟨right.locks, nofun, right.reads⟩⟩
    exact covers_eq_false.mpr fun range rebuilt =>
      apart session mem range rebuilt row read

/-- A batch of a run counts what it has read, and its cursor passes it. -/
theorem projecting_committed {task : ProjectionTask}
    (found : Session.find state.sessions pid = some (.projecting task (.read rows))) :
    ProjectionInv dimensionKey (state.commit pid
      (state.store.projectRows dimensionKey task.source rows) (task.next rows.length)) := by
  have window : Window (state.store.tables.rowsOf task.source)
      (state.store.passed task.source).after rows := inv.soundOf found
  have tables := tables_projectRows dimensionKey task.source rows state.store
  have idle : (task.next rows.length).Idle := idle_next task rows.length
  have quieter := idle.quieter (.projecting task (.read rows))
  have unread : ∀ session ∈ state.sessions, session.pid ≠ pid →
      session.work.bounds ≠ some task.source := by
    intro session mem other bounded
    exact (inv.besideOf found mem other).1.locks task.source rfl
      (lock_of_bounds bounded)
  have outside : ∀ row ∈ rows, ∀ session ∈ state.sessions, session.work.covers row = false :=
    fun row read => inv.uncovered_of_others found rfl fun session mem other =>
      (inv.besideOf found mem other).1.reads row read
  obtain ⟨counted, describes, tallied⟩ := inv.counted
  have ahead : ∀ row ∈ rows, counted task.source row = false := by
    intro row read
    obtain ⟨mem, isAhead⟩ := window.within row read
    rw [describes.passed task.source row mem (outside row read), isAhead]
    rfl
  let counted' : Cg5ProjectionSource → ProjectionRow → Bool := fun source row =>
    counted source row || (decide (source = task.source) && decide (row ∈ rows))
  have uncounted : ∀ source row, row ∉ rows → counted' source row = counted source row := by
    intro source row unread
    simp [counted', unread]
  have describes' : Describes (state.commit pid
      (state.store.projectRows dimensionKey task.source rows) (task.next rows.length)) counted' := by
    refine describes_commit describes tables ?_ ?_ ?_
    · intro source row mem covered
      rw [idle.covers] at covered
      cases covered
    · intro session mem _ source row _ covered
      refine uncounted source row fun read => ?_
      rw [outside row read session mem] at covered
      cases covered
    · intro source row mem _ uncovered
      have before := describes.passed source row mem
        (inv.uncovered_of_others found rfl uncovered)
      rw [passed_projectRows]
      split
      next own =>
        subst own
        rw [window.moved (inv.whole _) (fun _ isAhead => isAhead) mem rfl]
        simp only [counted', before, decide_true, Bool.true_and, Bool.not_and, Bool.not_not]
      next other => simp only [counted', before, other, decide_false, Bool.false_and, Bool.or_false]
  refine inv.committed tables ?_ (idle.sound _) ?_ (inv.beside_quieter found quieter) describes' ?_
  · intro source
    rw [passed_projectRows]
    split
    · exact window.whole (inv.whole task.source)
    · exact inv.whole source
  · intro session mem other
    refine (inv.sound session mem).moved tables (window.forward dimensionKey inv.whole) fun source bounded => ?_
    rw [passed_projectRows, if_neg]
    rintro rfl
    exact unread session mem other bounded
  · exact tallied_projectRows (tallied.joining ((inv.distinct task.source).of_map _) window.apart
      (fun row read => (window.within row read).1) ahead fun _ _ _ => rfl)

end

/-! ### Rebuilds -/

omit [DecidableEq δ] in
/-- A rebuild goes on with the sources that are left. -/
theorem sound_rebuild (batchSize : 0 < reader.batchSize) (pending : rest.Nodup)
    (finished : Finished store range rest) :
    (rebuild reader range rest).Sound store := by
  cases rest with
  | nil => exact trivial
  | cons source rest => exact ⟨⟨batchSize, pending, finished⟩, .inl ⟨rfl, rfl⟩, trivial⟩

theorem rebuilds_rebuild {other : Cg5ProjectionRange}
    (rebuilt : (rebuild reader range rest).rebuilds = some other) : range = other := by
  cases rest with
  | nil => cases rebuilt
  | cons source rest => exact Option.some.inj rebuilt

theorem quieter_rebuild
    (rebuilds : before.rebuilds = some range) (rest : List Cg5ProjectionSource) :
    Quieter before (.rebuild reader range rest) where
  lock := by
    intro source held
    cases rest <;> cases held
  rebuilds := fun other rebuilt => rebuilds_rebuild rebuilt ▸ rebuilds
  unwritten := by
    intro row mem
    cases rest <;> cases mem

theorem recounted_rebuild (source : Cg5ProjectionSource)
    (covered : (rebuild reader range rest).covers row = true) :
    (rebuild reader range rest).recounted source row = decide (source ∉ rest) := by
  cases rest with
  | nil => cases covered
  | cons next rest =>
      change (if source = next then false else decide (source ∉ rest)) = _
      by_cases own : source = next <;> simp [own]

theorem covers_rebuild : (rebuild reader range rest).covers row = true ↔
      rest ≠ [] ∧ range.contains row.occurredAt = true := by
  cases rest with
  | nil | cons next rest =>
      simp [rebuild, covers, rebuilds]

omit [DecidableEq δ] in
theorem describes_rebuild (describes : Describes state counted)
    (tables : store'.tables = state.store.tables) (finished : Finished store' range rest)
    (inside : ∀ source, ∀ row ∈ state.store.tables.rowsOf source,
      range.contains row.occurredAt = true → counted' source row = decide (source ∉ rest))
    (others : ∀ session ∈ state.sessions, session.pid ≠ pid → ∀ source,
      ∀ row ∈ state.store.tables.rowsOf source, session.work.covers row = true →
      counted' source row = counted source row)
    (outside : ∀ source, ∀ row ∈ state.store.tables.rowsOf source,
      range.contains row.occurredAt = false →
      (∀ session ∈ state.sessions, session.pid ≠ pid → session.work.covers row = false) →
      counted' source row = !(store'.passed source).after row) :
    Describes (state.commit pid store' (.rebuild reader range rest)) counted' := by
  refine describes_commit describes tables ?_ others ?_
  · intro source row mem covered
    rw [recounted_rebuild source covered]
    exact inside source row mem (covers_rebuild.mp covered).2
  · intro source row mem uncovered elsewhere
    cases within : range.contains row.occurredAt with
    | false => exact outside source row mem within elsewhere
    | true =>
        obtain rfl : rest = [] := by
          by_contra left
          rw [covers_rebuild.mpr ⟨left, within⟩] at uncovered
          cases uncovered
        have passed := finished source not_mem_nil row (tables ▸ mem) within
        rw [inside source row mem within, passed]
        rfl

theorem eq_false_of_apart {first second : Bool} (apart : first = true → second = false)
    (held : second = true) : first = false :=
  eq_false_iff.mpr fun both => Bool.noConfusion ((apart both).symm.trans held)

theorem bucketStart_mono {first second : Instant} (before : first ≤ second) :
    cg5BucketStart first ≤ cg5BucketStart second :=
  Int.mul_le_mul_of_nonneg_right (Int.ediv_le_ediv (by decide) before) (by decide)

variable {date : Instant}

/-- The bucket of an instant in a range is one of those which a rebuild drops. -/
theorem bucket_contained (inside : range.contains date = true) :
    (fiveMinuteRange range).contains (cg5BucketStart date) = true := by
  obtain ⟨opened, closing⟩ := (and_eq_true _ _).mp inside
  have before : date ≤ range.closes - 1 := Int.le_sub_one_of_lt (of_decide_eq_true closing)
  have last := bucketStart_mono before
  refine (and_eq_true _ _).mpr ⟨decide_eq_true (bucketStart_mono (of_decide_eq_true opened)), ?_⟩
  exact decide_eq_true (Int.lt_of_le_of_lt last (Int.lt_add_of_pos_right _ (by decide)))

omit [DecidableEq δ] in
theorem metric_clearRange (store : ProjectionStore δ) (range : Cg5ProjectionRange)
    (metricKey : Cg5MetricKey) (bucketStart : Instant) (key : δ) :
    (store.clearRange range).metric metricKey bucketStart key =
      if volumeMetrics.contains metricKey &&
        (fiveMinuteRange range).contains bucketStart then (0, 0)
      else store.metric metricKey bucketStart key := by
  unfold metric clearRange
  dsimp only
  cases volumeMetrics.contains metricKey &&
    (fiveMinuteRange range).contains bucketStart <;> rfl

omit [DecidableEq δ] in
theorem policyImpact_clearRange (store : ProjectionStore δ) (range : Cg5ProjectionRange)
    (bucketStart : Instant) (policyVersion : Int) (decision : String) :
    (store.clearRange range).policyImpact bucketStart policyVersion decision =
      if (fiveMinuteRange range).contains bucketStart then 0
      else store.policyImpact bucketStart policyVersion decision := by
  unfold policyImpact clearRange
  dsimp only
  split <;> rfl

def uncleared (range : Cg5ProjectionRange)
    (counted : Cg5ProjectionSource → ProjectionRow → Bool) (source : Cg5ProjectionSource)
    (row : ProjectionRow) : Bool :=
  counted source row && !(fiveMinuteRange range).contains (cg5BucketStart row.occurredAt)

theorem tally_uncleared (tables : CanonicalTables) (range : Cg5ProjectionRange)
    (counted : Cg5ProjectionSource → ProjectionRow → Bool) (kind : ProjectionRow → Bool)
    {bucketStart : Instant}
    (started : ∀ row, kind row = true → cg5BucketStart row.occurredAt = bucketStart)
    (source : Cg5ProjectionSource) :
    tables.tally (uncleared range counted) kind source =
      if (fiveMinuteRange range).contains bucketStart then 0 else tables.tally counted kind source := by
  split
  next inside =>
    refine countP_eq_zero.mpr fun row _ both => ?_
    obtain ⟨counts, wanted⟩ := (and_eq_true _ _).mp both
    rw [uncleared, started row wanted, inside, Bool.not_true, Bool.and_false] at counts
    cases counts
  next outside =>
    refine countP_congr fun row _ => ?_
    cases wanted : kind row with
    | false => simp
    | true =>
        have away : (fiveMinuteRange range).contains bucketStart = false := by simpa using outside
        rw [uncleared, started row wanted, away, Bool.not_false, Bool.and_true]

theorem volumeOf_zero (metricKey : Cg5MetricKey) :
    CanonicalTables.volumeOf (fun _ => 0) metricKey = 0 := by
  simp [CanonicalTables.volumeOf]

theorem volumeOf_other {metricKey : Cg5MetricKey}
    (other : volumeMetrics.contains metricKey = false)
    (tally : Cg5ProjectionSource → Nat) : CanonicalTables.volumeOf tally metricKey = 0 := by
  cases metricKey <;> first | (cases other; done) | rfl

theorem tallied_clearRange (tallied : Tallied dimensionKey counted store)
    (range : Cg5ProjectionRange) :
    Tallied dimensionKey (uncleared range counted) (store.clearRange range) := by
  refine ⟨fun metricKey bucketStart key => ?_, fun bucketStart policyVersion decision => ?_⟩
  · have tallies := tally_uncleared store.tables range counted
      (inBucket dimensionKey bucketStart key) fun row wanted => (of_decide_eq_true wanted).1
    rw [metric_clearRange, tallied.metrics,
      show (store.clearRange range).tables = store.tables from rfl, volumeOf_congr tallies]
    cases inside : (fiveMinuteRange range).contains bucketStart with
    | false => simp
    | true =>
        cases volume : volumeMetrics.contains metricKey with
        | true => simp [volumeOf_zero]
        | false => simp [volumeOf_other volume]
  · have tallies := tally_uncleared store.tables range counted
      (inImpact bucketStart policyVersion decision)
      (fun row wanted => (of_decide_eq_true wanted).1) .decision
    rw [policyImpact_clearRange, tallied.impacts,
      show (store.clearRange range).tables = store.tables from rfl, tallies]

section
variable (inv : ProjectionInv dimensionKey state)
include inv

theorem clearing_committed (found : Session.find state.sessions pid = some (.clearing reader range))
    (alone : state.ClearsAlone reader range) :
    ProjectionInv dimensionKey (state.commit pid (state.store.clearRange range)
      (.rebuild reader range cg5ProjectionSources)) := by
  obtain ⟨counted, describes, tallied⟩ := inv.counted
  have everySource : ∀ source, source ∈ cg5ProjectionSources := by
    intro source
    cases source <;> decide
  have finished : Finished (state.store.clearRange range) range cg5ProjectionSources :=
    fun source unlisted => absurd (everySource source) unlisted
  have dropped : ∀ source row, (fiveMinuteRange range).contains (cg5BucketStart row.occurredAt) = true →
      uncleared range counted source row = false := by
    intro source row inside
    rw [uncleared, inside, Bool.not_true, Bool.and_false]
  have kept : ∀ source row, (fiveMinuteRange range).contains (cg5BucketStart row.occurredAt) = false →
      uncleared range counted source row = counted source row := by
    intro source row outside
    rw [uncleared, outside, Bool.not_false, Bool.and_true]
  refine inv.committed rfl inv.whole (sound_rebuild alone.batchSize (by decide) finished)
    (fun session mem _ => (inv.sound session mem).moved rfl (fun _ _ same => same)
      fun _ _ => rfl) ?_ (describes_rebuild describes rfl finished ?_ ?_ ?_)
    (tallied_clearRange tallied range)
  · intro session mem other
    refine ⟨⟨nofun, ?_, nofun⟩, ⟨nofun, ?_, fun row read => alone.batches session mem row read⟩⟩
    · intro cleared ranged own rebuilt bucketStart inside
      exact alone.rebuilds session mem ranged rebuilt bucketStart (rebuilds_rebuild own ▸ inside)
    · intro ranged cleared rebuilt own bucketStart inside
      exact rebuilds_rebuild own ▸
        eq_false_of_apart (alone.rebuilds session mem ranged rebuilt bucketStart) inside
  · intro source row mem inside
    rw [dropped source row (bucket_contained inside)]
    exact (decide_eq_false (not_not.mpr (everySource source))).symm
  · intro session mem other source row present covered
    obtain ⟨ranged, rebuilt, within⟩ := covers_iff.mp covered
    exact kept source row (eq_false_of_apart (alone.rebuilds session mem ranged rebuilt _)
      (bucket_contained within))
  · intro source row mem outside elsewhere
    cases inside : (fiveMinuteRange range).contains (cg5BucketStart row.occurredAt) with
    | false =>
        rw [kept source row inside]
        exact describes.passed source row mem (inv.uncovered_of_others found rfl elsewhere)
    | true =>
        have ahead := alone.whole source row mem inside outside
        change _ = !(state.store.passed source).after row
        rw [dropped source row inside, ahead]
        rfl

theorem apart_of_covers (found : Session.find state.sessions pid = some work)
    (rebuilds : work.rebuilds = some range) (mem : session ∈ state.sessions)
    (other : session.pid ≠ pid) (covered : session.work.covers row = true) :
    range.contains row.occurredAt = false := by
  obtain ⟨ranged, rebuilt, within⟩ := covers_iff.mp covered
  have apart := (inv.besideOf found mem other).1.ranges range ranged rebuilds rebuilt
    (cg5BucketStart row.occurredAt)
  exact eq_false_of_apart (fun inside => apart (bucket_contained inside)) (bucket_contained within)

/-- Outside of every rebuild the cursor says what has been counted. -/
theorem uncovered (describes : Describes state counted)
    (found : Session.find state.sessions pid = some work) (rebuilds : work.rebuilds = some range)
    (mem : row ∈ state.store.tables.rowsOf source) (away : range.contains row.occurredAt = false)
    (elsewhere : ∀ session ∈ state.sessions, session.pid ≠ pid → session.work.covers row = false) :
    counted source row = !(state.store.passed source).after row := by
  refine describes.passed source row mem (inv.uncovered_of_others found ?_ elsewhere)
  rw [covers, rebuilds]
  exact away

theorem rebuilding_locked
    (found : Session.find state.sessions pid = some (.rebuilding task .waiting))
    (free : state.free pid task.source = true) :
    ProjectionInv dimensionKey (state.moveTo pid (.rebuilding task .locked)) := by
  obtain ⟨standing, kept, -⟩ := inv.soundOf found
  exact inv.steps found ⟨standing, kept, trivial⟩
    (inv.beside_locking found free (fun _ held => (Option.some.inj held).symm) rfl rfl)
    (fun _ => rfl) fun _ _ => rfl

theorem rebuilding_read (found : Session.find state.sessions pid = some (.rebuilding task .locked)) :
    ProjectionInv dimensionKey (state.moveTo pid (.rebuilding task (.read
      (task.reader.readRows state.store.tables task.source task.cursor (some task.range))))) := by
  obtain ⟨standing, kept, -⟩ := inv.soundOf found
  refine inv.steps found ⟨standing, kept, ?_, fun short row => Pages.page_short short⟩ ?_
    (fun _ => rfl) fun _ _ => rfl
  · exact window_readRows (inv.distinct task.source) task.reader _ _
  · exact inv.beside_quieter found ⟨fun _ held => held, fun _ rebuilt => rebuilt, nofun⟩

end

def nextCursor (task : RebuildTask) (rows : List ProjectionRow) : Cg5ProjectionCursor :=
  (rows.getLast?.map Cg5ProjectionCursor.behind).getD task.cursor

structure Recounted (state : Projection δ) (task : RebuildTask) (rows : List ProjectionRow)
    (counted counted' : Cg5ProjectionSource → ProjectionRow → Bool) : Prop where
  outside : ∀ source, ∀ row ∈ state.store.tables.rowsOf source,
    task.range.contains row.occurredAt = false → counted' source row = counted source row
  others : ∀ source, ∀ row ∈ state.store.tables.rowsOf source,
    task.range.contains row.occurredAt = true → source ≠ task.source →
    counted' source row = decide (source ∉ task.rest)
  own : ∀ row ∈ state.store.tables.rowsOf task.source,
    task.range.contains row.occurredAt = true →
    counted' task.source row = !(nextCursor task rows).after row

theorem recountedOf (inv : ProjectionInv dimensionKey state)
    (found : Session.find state.sessions pid = some (.rebuilding task (.read rows))) :
    ∃ counted counted', Describes state counted ∧ Recounted state task rows counted counted' ∧
      Tallied dimensionKey counted' (state.store.recountRows dimensionKey task.source rows) := by
  obtain ⟨standing, kept, reads⟩ := inv.soundOf found
  obtain ⟨counted, describes, tallied⟩ := inv.counted
  have rebuilt : ∀ source, ∀ row ∈ state.store.tables.rowsOf source,
      task.range.contains row.occurredAt = true →
      counted source row = (rebuilding task (.read rows)).recounted source row :=
    fun source row mem inside => describes.rebuilt _ (find_mem found) source row mem inside
  have ranged : ∀ row ∈ rows, task.range.contains row.occurredAt = true ∧
      task.cursor.after row = true := by
    intro row read
    have ahead := (reads.window.within row read).2
    simpa [whereAfter] using ahead
  refine ⟨counted, fun source row => counted source row ||
    (decide (source = task.source) && decide (row ∈ rows)), describes, ⟨?_, ?_, ?_⟩, ?_⟩
  · intro source row _ outside
    have unread : row ∉ rows := by
      intro read
      rw [(ranged row read).1] at outside
      cases outside
    simp [unread]
  · intro source row mem inside other
    rw [rebuilt source row mem inside]
    simp [recounted, other]
  · intro row mem inside
    have same : whereAfter task.cursor (some task.range) row = task.cursor.after row := by
      simp [whereAfter, inside]
    have moved := reads.window.moved kept.whole
      (fun other ahead => (by simpa [whereAfter] using ahead : _ ∧ _).2) mem same
    rw [rebuilt task.source row mem inside, nextCursor, moved]
    simp [recounted]
  · refine tallied.joining ((inv.distinct task.source).of_map _) reads.window.apart
      (fun row read => (reads.window.within row read).1) (fun row read => ?_) fun _ _ _ => rfl
    rw [rebuilt task.source row (reads.window.within row read).1 (ranged row read).1]
    simp [recounted, (ranged row read).2]

omit [DecidableEq δ] in
/-- A rebuild that has read less than it asked for has counted all of its range. -/
theorem nextCursor_passed (kept : task.Kept) (reads : task.Reads store rows)
    (short : rows.length < task.reader.batchSize) (mem : row ∈ store.tables.rowsOf task.source)
    (inside : task.range.contains row.occurredAt = true) :
    (nextCursor task rows).after row = false := by
  have same : whereAfter task.cursor (some task.range) row = task.cursor.after row := by
    simp [whereAfter, inside]
  have moved := reads.window.moved kept.whole
    (fun other ahead => (by simpa [whereAfter] using ahead : _ ∧ _).2) mem same
  rw [nextCursor, moved]
  cases ahead : task.cursor.after row with
  | false => rfl
  | true => simp [reads.short short row mem (same.trans ahead)]

inductive RebuildNext (task : RebuildTask) (rows : List ProjectionRow) : ProjectionWork → Prop
  | more {last : ProjectionRow} (moved : nextCursor task rows = .behind last) :
      RebuildNext task rows
        (.rebuilding { task with cursor := .behind last, lastProcessed := some last } .waiting)
  | reached {last : ProjectionRow} (short : rows.length < task.reader.batchSize)
      (moved : nextCursor task rows = .behind last) : RebuildNext task rows (.advancing task last)
  | empty (short : rows.length < task.reader.batchSize) (unmoved : nextCursor task rows = .start) :
      RebuildNext task rows (.rebuild task.reader task.range task.rest)

theorem rebuildNext (rows : List ProjectionRow) (kept : task.Kept)
    (batchSize : 0 < task.reader.batchSize) : RebuildNext task rows (task.next rows) := by
  unfold RebuildTask.next
  split
  next none_ =>
    have nothing : rows = [] := getLast?_eq_none_iff.mp none_
    have short : rows.length < task.reader.batchSize := by rwa [nothing]
    have same : nextCursor task rows = task.cursor := by rw [nextCursor, none_]; rfl
    rcases kept with ⟨start, unset⟩ | ⟨last, behind, set⟩
    · rw [unset]
      exact .empty short (same.trans start)
    · rw [set]
      exact .reached short (same.trans behind)
  next last ends =>
    have moved : nextCursor task rows = .behind last := by rw [nextCursor, ends]; rfl
    split
    next short => exact .reached short moved
    next => exact .more moved

theorem rebuilding_committed (inv : ProjectionInv dimensionKey state)
    (found : Session.find state.sessions pid = some (.rebuilding task (.read rows))) :
    ProjectionInv dimensionKey (state.commit pid
      (state.store.recountRows dimensionKey task.source rows) (task.next rows)) := by
  obtain ⟨counted, counted', describes, recounted, tallied⟩ := inv.recountedOf found
  obtain ⟨standing, kept, reads⟩ := inv.soundOf found
  have known := find_mem found
  have tables := (recountRows_tables dimensionKey task.source rows state.store).1
  have passed := fun source =>
    passed_recountRows dimensionKey task.source source rows state.store
  have forward : ∀ source row, (state.store.passed source).after row = false →
      ((state.store.recountRows dimensionKey task.source rows).passed source).after row = false := by
    intro source row behind
    rw [passed]
    exact behind
  have standing' := standing.moved tables forward
  have elsewhere : ∀ session ∈ state.sessions, session.pid ≠ pid →
      session.work.Sound (state.store.recountRows dimensionKey task.source rows) :=
    fun session mem _ => (inv.sound session mem).moved tables forward fun source _ => passed source
  have whole : ∀ source,
      ((state.store.recountRows dimensionKey task.source rows).passed source).Whole := by
    intro source
    rw [passed]
    exact inv.whole source
  have others : ∀ session ∈ state.sessions, session.pid ≠ pid → ∀ source,
      ∀ row ∈ state.store.tables.rowsOf source, session.work.covers row = true →
      counted' source row = counted source row :=
    fun session mem other source row present covered => recounted.outside source row present
      (inv.apart_of_covers found rfl mem other covered)
  have outside : ∀ source, ∀ row ∈ state.store.tables.rowsOf source,
      task.range.contains row.occurredAt = false →
      (∀ session ∈ state.sessions, session.pid ≠ pid → session.work.covers row = false) →
      counted' source row =
        !((state.store.recountRows dimensionKey task.source rows).passed source).after row := by
    intro source row mem away elsewhere
    rw [recounted.outside source row mem away, passed]
    exact inv.uncovered describes found rfl mem away elsewhere
  have own : ∀ row ∈ state.store.tables.rowsOf task.source,
      rows.length < task.reader.batchSize → task.range.contains row.occurredAt = true →
      counted' task.source row = true := by
    intro row mem short inside
    rw [recounted.own row mem inside, nextCursor_passed kept reads short mem inside]
    rfl
  have finishedOwn : ∀ source, ∀ row ∈ state.store.tables.rowsOf source,
      rows.length < task.reader.batchSize → task.range.contains row.occurredAt = true →
      counted' source row = decide (source ∉ task.rest) := by
    intro source row mem short inside
    by_cases same : source = task.source
    · subst same
      rw [own row mem short inside]
      exact (decide_eq_true (nodup_cons.mp standing.pending).1).symm
    · exact recounted.others source row mem inside same
  have next := rebuildNext rows kept standing.batchSize
  generalize task.next rows = after at next ⊢
  cases next with
  | more moved =>
      refine inv.committed tables whole ⟨⟨standing'.batchSize, standing'.pending, standing'.finished⟩,
        .inr ⟨_, rfl, rfl⟩, trivial⟩ elsewhere
        (inv.beside_quieter found ⟨nofun, fun _ rebuilt => rebuilt, nofun⟩)
        (describes_commit describes tables ?_ others ?_) tallied
      · intro source row mem covered
        obtain ⟨range, same, inside⟩ := covers_iff.mp covered
        cases same
        by_cases own : source = task.source
        · subst own
          rw [recounted.own row mem inside, moved]
          exact (if_pos rfl).symm
        · rw [recounted.others source row mem inside own]
          exact (if_neg own).symm
      · intro source row mem uncovered
        exact outside source row mem uncovered
  | reached short moved =>
      refine inv.committed tables whole ⟨standing', ?_⟩ elsewhere
        (inv.beside_quieter found ⟨nofun, fun _ rebuilt => rebuilt, nofun⟩)
        (describes_commit describes tables ?_ others ?_) tallied
      · intro row mem inside
        rw [tables] at mem
        have behind := nextCursor_passed kept reads short mem inside
        rw [moved, after_behind, decide_eq_false_iff_not] at behind
        exact not_lt.mp behind
      · intro source row mem covered
        obtain ⟨range, same, inside⟩ := covers_iff.mp covered
        cases same
        exact finishedOwn source row mem short inside
      · intro source row mem uncovered
        exact outside source row mem uncovered
  | empty short unmoved =>
      have finished := standing'.finished.left fun row mem inside => by
        have behind := nextCursor_passed kept reads short (tables ▸ mem) inside
        rw [unmoved] at behind
        cases behind
      exact inv.committed tables whole
        (sound_rebuild standing.batchSize (nodup_cons.mp standing.pending).2 finished) elsewhere
        (inv.beside_quieter found (quieter_rebuild rfl task.rest))
        (describes_rebuild describes tables finished
          (fun source row mem inside => finishedOwn source row mem short inside) others outside)
        tallied

theorem advancing_read (inv : ProjectionInv dimensionKey state) {last : ProjectionRow}
    (found : Session.find state.sessions pid = some (.advancing task last)) :
    ProjectionInv dimensionKey (state.moveTo pid
      (.overtaking task last (state.store.cursors task.source))) := by
  obtain ⟨standing, reached⟩ := inv.soundOf found
  exact inv.steps found ⟨standing, reached, inv.whole task.source, fun _ behind => behind⟩
    (inv.beside_quieter found ⟨nofun, fun _ rebuilt => rebuilt, nofun⟩) (fun _ => rfl) fun _ _ => rfl

/-- The cursor that a rebuild leaves behind a source has passed all that was counted of it. -/
theorem overtaking_committed (inv : ProjectionInv dimensionKey state)
    {last : ProjectionRow} {existing : Option Cg5ProjectionCursor}
    (found : Session.find state.sessions pid = some (.overtaking task last existing))
    (alone : isNewer existing last = true → state.Overtakes task last existing) :
    ProjectionInv dimensionKey (state.commit pid
      (if isNewer existing last then state.store.moveCursor task.source last else state.store)
      (.rebuild task.reader task.range task.rest)) := by
  obtain ⟨standing, reached, known⟩ := inv.soundOf found
  obtain ⟨counted, describes, tallied⟩ := inv.counted
  have pending := nodup_cons.mp standing.pending
  have inside : ∀ source, ∀ row ∈ state.store.tables.rowsOf source,
      task.range.contains row.occurredAt = true → counted source row = decide (source ∉ task.rest) :=
    fun source row mem within => describes.rebuilt _ (find_mem found) source row mem
      (covers_iff.mpr ⟨task.range, rfl, within⟩)
  have newer := isNewer_iff known.whole last
  cases moves : isNewer existing last with
  | false =>
      rw [if_neg Bool.false_ne_true]
      have finished := standing.finished.left fun row mem within =>
        known.forward row (known.whole.upTo (newer.symm.trans moves) (reached row mem within))
      exact inv.committed rfl inv.whole (sound_rebuild standing.batchSize pending.2 finished)
        (fun session mem _ => inv.sound session mem)
        (inv.beside_quieter found (quieter_rebuild rfl task.rest))
        (describes_rebuild describes rfl finished inside (fun _ _ _ _ _ _ _ => rfl)
          fun source row mem away elsewhere => inv.uncovered describes found rfl mem away elsewhere)
        tallied
  | true =>
      rw [if_pos rfl]
      obtain ⟨current, batches, covered⟩ := alone moves
      have ahead : (state.store.passed task.source).after last = true := by
        rw [passed, ← current, ← newer, moves]
      have forward : ∀ source row, (state.store.passed source).after row = false →
          ((state.store.moveCursor task.source last).passed source).after row = false := by
        intro source row behind
        rw [passed_moveCursor]
        split
        next same =>
          subst same
          exact (inv.whole _).moved ahead behind
        next => exact behind
      have standing' : task.Standing (state.store.moveCursor task.source last) :=
        standing.moved rfl forward
      have finished := standing'.finished.left fun row mem within => by
        rw [passed_moveCursor, if_pos rfl, after_behind, decide_eq_false_iff_not]
        exact not_lt.mpr (reached row mem within)
      refine inv.committed rfl ?_ (sound_rebuild standing.batchSize pending.2 finished) ?_
        (inv.beside_quieter found (quieter_rebuild rfl task.rest))
        (describes_rebuild describes rfl finished inside (fun _ _ _ _ _ _ _ => rfl) ?_)
        ⟨tallied.metrics, tallied.impacts⟩
      · intro source
        rw [passed_moveCursor]
        split
        · exact .inr ⟨last, rfl⟩
        · exact inv.whole source
      · intro session mem _
        refine (inv.sound session mem).moved rfl forward fun source bounded => ?_
        rw [passed_moveCursor, if_neg]
        rintro rfl
        exact batches session mem bounded
      · intro source row mem away elsewhere
        rw [inv.uncovered describes found rfl mem away elsewhere, passed_moveCursor]
        split
        next same =>
          subst same
          congr 1
          cases isAhead : (state.store.passed task.source).after row with
          | false => exact ((inv.whole _).moved ahead isAhead).symm
          | true =>
              rw [after_behind]
              refine (decide_eq_true (not_le.mp fun before => ?_)).symm
              rw [covered row mem isAhead before] at away
              cases away
        next => rfl

/-! ### Starts, crashes and inserts -/

theorem idle_ofCall (call : ProjectionCall) : (ofCall call).Idle := by
  cases call with
  | run reader => exact idle_project reader [] cg5ProjectionSources
  | rebuildRange reader range =>
      rw [ofCall]
      by_cases empty : range.closes ≤ range.opens
      · rw [if_pos empty]
        exact ⟨rfl, rfl, rfl, fun _ => trivial⟩
      · rw [if_neg empty]
        exact ⟨rfl, rfl, rfl, fun _ => trivial⟩

theorem started (inv : ProjectionInv dimensionKey state)
    (unused : Session.find state.sessions pid = none) (idle : work'.Idle) :
    ProjectionInv dimensionKey (state.moveTo pid work') := by
  obtain ⟨counted, describes, tallied⟩ := inv.counted
  refine inv.committed rfl inv.whole (idle.sound _) (fun session mem _ => inv.sound session mem)
    (fun session _ _ => ⟨idle.besideLeft _, idle.besideRight _⟩)
    (describes_commit describes rfl ?_ (fun _ _ _ _ _ _ _ => rfl) ?_) tallied
  · intro source row mem covered
    rw [idle.covers] at covered
    cases covered
  · intro source row mem _ elsewhere
    refine describes.passed source row mem fun session present => ?_
    refine elsewhere session present ?_
    rintro rfl
    have missing := find?_eq_none.mp (Option.map_eq_none_iff.mp unused) session present
    simp at missing

theorem crashed (inv : ProjectionInv dimensionKey state)
    (found : Session.find state.sessions pid = some work) (rebuilds : work.rebuilds = none) :
    ProjectionInv dimensionKey { state with sessions := Session.drop state.sessions pid } := by
  obtain ⟨counted, describes, tallied⟩ := inv.counted
  have kept : ∀ session ∈ Session.drop state.sessions pid, session ∈ state.sessions :=
    fun session mem => (mem_drop.mp mem).1
  refine ⟨inv.distinct, inv.whole, fun left leftMember right rightMember =>
    inv.single left (kept left leftMember) right (kept right rightMember),
    fun left leftMember right rightMember => inv.beside left (kept left leftMember) right
      (kept right rightMember), fun session mem => inv.sound session (kept session mem),
    counted, ⟨fun session mem => describes.rebuilt session (kept session mem), ?_⟩, tallied⟩
  intro source row mem elsewhere
  refine describes.passed source row mem (inv.uncovered_of_others found ?_
    fun session present other => elsewhere session (mem_drop.mpr ⟨present, other⟩))
  rw [covers, rebuilds]
  rfl

theorem mem_rowsOf_insert {row : CanonicalRow} {other : ProjectionRow} :
    other ∈ (tables.insert row).rowsOf source ↔
      other ∈ tables.rowsOf source ∨ source = row.source ∧ other = row.projected := by
  rw [rowsOf_insert]
  split
  next same => simp [same]
  next differs => simp [differs]

theorem not_contains (beyond : range.closes ≤ date) : range.contains date = false := by
  rw [Cg5ProjectionRange.contains, decide_eq_false (not_lt.mpr beyond), Bool.and_false]

theorem mem_of_inside {row : CanonicalRow} {other : ProjectionRow}
    (beyond : range.closes ≤ row.projected.occurredAt)
    (mem : other ∈ (tables.insert row).rowsOf source)
    (inside : range.contains other.occurredAt = true) : other ∈ tables.rowsOf source := by
  rcases mem_rowsOf_insert.mp mem with known | ⟨-, rfl⟩
  · exact known
  · rw [not_contains beyond] at inside
    cases inside

theorem window_insert {row : CanonicalRow} (window : Window (tables.rowsOf source) ahead rows)
    (later : source = row.source → ahead row.projected = true →
      ∀ other ∈ rows, other.position < row.projected.position) :
    Window ((tables.insert row).rowsOf source) ahead rows := by
  rw [rowsOf_insert]
  split
  next same => exact window.inserted (later same)
  next => exact window

omit [DecidableEq δ] in
/-- What a transaction knows stands when a row appears ahead of everything. -/
theorem sound_insert {row : CanonicalRow} (sound : work.Sound store)
    (batches : work.bounds = some row.source →
      ∀ other ∈ work.unwritten, other.position < row.projected.position)
    (rebuilds : ∀ range, work.rebuilds = some range → range.closes ≤ row.projected.occurredAt) :
    work.Sound { store with tables := store.tables.insert row } := by
  have standing : ∀ task : RebuildTask, work.rebuilds = some task.range → task.Standing store →
      task.Standing { store with tables := store.tables.insert row } := by
    intro task ranged standing
    exact ⟨standing.batchSize, standing.pending, fun source left other mem inside =>
      standing.finished source left other (mem_of_inside (rebuilds _ ranged) mem inside) inside⟩
  have reached : ∀ (task : RebuildTask) (last : ProjectionRow), work.rebuilds = some task.range →
      task.Reached store last →
      task.Reached { store with tables := store.tables.insert row } last := by
    intro task last ranged reached other mem inside
    exact reached other (mem_of_inside (rebuilds _ ranged) mem inside) inside
  cases work with
  | projecting task stage =>
      cases stage with
      | waiting => exact trivial
      | locked => exact trivial
      | bounded boundary => exact sound
      | read rows => exact window_insert sound fun same _ => batches (same ▸ rfl)
  | clearing reader range => exact trivial
  | rebuilding task stage =>
      obtain ⟨stands, kept, reads⟩ := sound
      refine ⟨standing task rfl stands, kept, ?_⟩
      cases stage with
      | read rows =>
          have away : whereAfter task.cursor (some task.range) row.projected = false := by
            simp [whereAfter, not_contains (rebuilds _ rfl)]
          refine ⟨window_insert reads.window fun _ ahead => ?_, fun short other mem ahead => ?_⟩
          · rw [away] at ahead
            cases ahead
          · rcases mem_rowsOf_insert.mp mem with known | ⟨-, rfl⟩
            · exact reads.short short other known ahead
            · rw [away] at ahead
              cases ahead
      | _ => exact trivial
  | advancing task last => exact ⟨standing task rfl sound.1, reached task last rfl sound.2⟩
  | overtaking task last existing =>
      exact ⟨standing task rfl sound.1, reached task last rfl sound.2.1, sound.2.2.whole,
        sound.2.2.forward⟩
  | ended result => exact trivial

theorem inserted (inv : ProjectionInv dimensionKey state) {row : CanonicalRow}
    (fresh : ∀ other ∈ state.store.tables.rowsOf row.source, other.id ≠ row.projected.id)
    (ahead : state.InsertsAhead row.source row.projected) :
    ProjectionInv dimensionKey
      { state with store := { state.store with tables := state.store.tables.insert row } } := by
  obtain ⟨counted, describes, tallied⟩ := inv.counted
  let counted' : Cg5ProjectionSource → ProjectionRow → Bool := fun source other =>
    counted source other && !(decide (source = row.source) && decide (other = row.projected))
  have old : ∀ source, ∀ other ∈ state.store.tables.rowsOf source,
      counted' source other = counted source other := by
    intro source other mem
    have differs : ¬ (source = row.source ∧ other = row.projected) := by
      rintro ⟨rfl, rfl⟩
      exact fresh _ mem rfl
    simp only [counted', ← Bool.decide_and, decide_eq_false differs, Bool.not_false, Bool.and_true]
  have new : counted' row.source row.projected = false := by simp [counted']
  have tally : ∀ kind source, (state.store.tables.insert row).tally counted' kind source =
      state.store.tables.tally counted kind source := by
    intro kind source
    have kept : (state.store.tables.rowsOf source).countP
        (fun other => counted' source other && kind other) =
        state.store.tables.tally counted kind source :=
      countP_congr fun other mem => by rw [old source other mem]
    rw [CanonicalTables.tally, rowsOf_insert]
    split
    next same =>
      subst same
      rw [countP_append, kept, countP_singleton, new]
      rfl
    next => exact kept
  refine ⟨?_, inv.whole, inv.single, inv.beside, ?_, counted', ⟨?_, ?_⟩, ?_, ?_⟩
  · intro source
    change (((state.store.tables.insert row).rowsOf source).map ProjectionRow.id).Nodup
    rw [rowsOf_insert]
    split
    next same =>
      subst same
      rw [map_append, map_singleton]
      refine nodup_append.mpr ⟨inv.distinct _, nodup_singleton _, ?_⟩
      intro id known other only same
      obtain ⟨present, mem, rfl⟩ := mem_map.mp known
      exact fresh present mem (same.trans (mem_singleton.mp only))
    next => exact inv.distinct source
  · intro session mem
    exact sound_insert (inv.sound session mem) (ahead.batches session mem)
      (ahead.rebuilds session mem)
  · intro session mem source other present covered
    rcases mem_rowsOf_insert.mp present with known | ⟨rfl, rfl⟩
    · rw [old source other known]
      exact describes.rebuilt session mem source other known covered
    · rw [covers_eq_false.mpr fun range rebuilt =>
        not_contains (ahead.rebuilds session mem range rebuilt)] at covered
      cases covered
  · intro source other present uncovered
    rcases mem_rowsOf_insert.mp present with known | ⟨rfl, rfl⟩
    · rw [old source other known]
      exact describes.passed source other known uncovered
    · change _ = !(state.store.passed row.source).after row.projected
      rw [new, ahead.cursor]
      rfl
  · intro metricKey bucketStart key
    change state.store.metric metricKey bucketStart key = _
    rw [tallied.metrics, volumeOf_congr (tally _)]
  · intro bucketStart policyVersion decision
    change state.store.policyImpact bucketStart policyVersion decision = _
    rw [tallied.impacts, tally]

/-! ### Every step -/

theorem next (inv : ProjectionInv dimensionKey state) {step : ProjectionStep} {after : Projection δ}
    (orderly : state.Orderly step) (taken : state.next dimensionKey step = some after) :
    ProjectionInv dimensionKey after := by
  cases step with
  | insert row =>
      simp only [Projection.next] at taken
      split at taken
      next => cases taken
      next fresh =>
        cases taken
        refine inv.inserted (fun other mem same => fresh ?_) orderly
        exact any_eq_true.mpr ⟨other, mem, decide_eq_true same⟩
  | start pid call =>
      simp only [Projection.next] at taken
      split at taken
      next => cases taken
      next unused =>
        cases taken
        exact inv.started (by simpa using unused) (idle_ofCall call)
  | advance pid =>
      obtain ⟨work, found, moved⟩ := Option.bind_eq_some_iff.mp taken
      have undisturbed := orderly work found
      cases work with
      | projecting task stage =>
          cases stage with
          | waiting =>
              simp only [Projection.advance] at moved
              split at moved
              next free =>
                cases moved
                exact inv.projecting_locked found free
              next => cases moved
          | locked =>
              cases moved
              exact inv.projecting_bounded found
          | bounded boundary =>
              cases moved
              exact inv.projecting_read found undisturbed
          | read rows =>
              cases moved
              exact inv.projecting_committed found
      | clearing reader range =>
          cases moved
          exact inv.clearing_committed found undisturbed
      | rebuilding task stage =>
          cases stage with
          | waiting =>
              simp only [Projection.advance] at moved
              split at moved
              next free =>
                cases moved
                exact inv.rebuilding_locked found free
              next => cases moved
          | locked =>
              cases moved
              exact inv.rebuilding_read found
          | bounded boundary => cases moved
          | read rows =>
              cases moved
              exact inv.rebuilding_committed found
      | advancing task last =>
          cases moved
          exact inv.advancing_read found
      | overtaking task last existing =>
          cases moved
          exact inv.overtaking_committed found undisturbed
      | ended result => cases moved
  | crash pid =>
      have stopped := orderly
      simp only [Projection.next] at taken
      split at taken
      next => cases taken
      next => cases taken
      next work unended found =>
        cases taken
        exact inv.crashed found (orderly work found)

end ProjectionInv

/-- Nothing has been counted yet. -/
theorem projectionInv_of_fresh {state : Projection δ} (fresh : state.Fresh) :
    ProjectionInv dimensionKey state := by
  have unpassed : ∀ source, state.store.passed source = .start := by
    intro source
    rw [passed, fresh.cursors]
    rfl
  have nobody : ∀ session, session ∉ state.sessions := by
    intro session
    rw [fresh.sessions]
    exact not_mem_nil
  have nothing : ∀ kind source, state.store.tables.tally (fun _ _ => false) kind source = 0 :=
    fun kind source => countP_eq_zero.mpr (by simp)
  refine ⟨fresh.distinct, fun source => .inl (unpassed source),
    fun left mem => absurd mem (nobody left), fun left mem => absurd mem (nobody left),
    fun session mem => absurd mem (nobody session), fun _ _ => false,
    ⟨fun session mem => absurd mem (nobody session), fun source row _ _ => ?_⟩,
    fun metricKey bucketStart key => ?_, fun bucketStart policyVersion decision => ?_⟩
  · rw [unpassed]
    rfl
  · rw [metric, fresh.metricBuckets, volumeOf_congr (nothing _)]
    simp [CanonicalTables.volumeOf]
  · rw [policyImpact, fresh.policyImpactBuckets, nothing]
    rfl

end DContact.Governance

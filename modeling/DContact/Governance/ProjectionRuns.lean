import DContact.Governance.ProjectionExactness

/-!
# Runs of the incremental projection

In an orderly history the cursors never go back, so a run without a bound on its batches has passed,
when it ends, every row that was there when it started. If nothing else was inserted the buckets are
exact, and a run that nobody else holds up does end.
-/

namespace DContact.Governance

open Lib Session Projection ProjectionWork

variable {δ : Type} [DecidableEq δ] {dimensionKey : Cg5MetricDimensions → δ}
  {state after : Projection δ} {pid : Nat}

def orderlyProjection (dimensionKey : Cg5MetricDimensions → δ) : System (Projection δ) ProjectionStep :=
  (projection dimensionKey).restrict Projection.Orderly

theorem projectionInv_of_reachable (reachable : (orderlyProjection dimensionKey).Reachable state) :
    ProjectionInv dimensionKey state := by
  refine reachable.invariant ?_ ?_
  · exact fun _ fresh => projectionInv_of_fresh fresh
  · exact fun _ _ _ inv taken => inv.next taken.1 taken.2

/-! ## Nothing goes back -/

structure Onward (state after : Projection δ) : Prop where
  rows : ∀ source, state.store.tables.rowsOf source ⊆ after.store.tables.rowsOf source
  passed : ∀ source row, (state.store.passed source).after row = false →
    (after.store.passed source).after row = false

omit [DecidableEq δ] in
theorem Onward.same (tables : after.store.tables = state.store.tables)
    (cursors : after.store.cursors = state.store.cursors) : Onward state after := by
  refine ⟨fun source row mem => tables ▸ mem, fun source row behind => ?_⟩
  rw [ProjectionStore.passed, cursors]
  exact behind

variable {work : ProjectionWork}

theorem onward_advance (inv : ProjectionInv dimensionKey state)
    (found : Session.find state.sessions pid = some work) (undisturbed : state.Undisturbed work)
    (moved : state.advance dimensionKey pid work = some after) : Onward state after := by
  cases work with
  | projecting task stage =>
      cases stage with
      | waiting =>
          simp only [advance] at moved
          split at moved
          next =>
            cases moved
            exact .same rfl rfl
          next => cases moved
      | locked | bounded boundary =>
          cases moved
          exact .same rfl rfl
      | read rows =>
          cases moved
          have window : Window (state.store.tables.rowsOf task.source)
              (state.store.passed task.source).after rows := inv.soundOf found
          refine ⟨fun source row mem => ?_, window.forward dimensionKey inv.whole⟩
          change row ∈ (state.store.projectRows dimensionKey task.source rows).tables.rowsOf source
          rwa [tables_projectRows]
  | clearing reader range =>
      cases moved
      exact .same rfl rfl
  | rebuilding task stage =>
      cases stage with
      | waiting =>
          simp only [advance] at moved
          split at moved
          next =>
            cases moved
            exact .same rfl rfl
          next => cases moved
      | locked =>
          cases moved
          exact .same rfl rfl
      | bounded boundary => cases moved
      | read rows =>
          cases moved
          obtain ⟨tables, cursors⟩ := recountRows_tables dimensionKey task.source rows state.store
          exact .same tables cursors
  | advancing task last =>
      cases moved
      exact .same rfl rfl
  | overtaking task last existing =>
      cases moved
      obtain ⟨-, -, known⟩ := inv.soundOf found
      have newer := Cg5ProjectionCursor.isNewer_iff known.whole last
      cases moves : isNewer existing last with
      | false => exact .same rfl rfl
      | true =>
          have current := (undisturbed moves).current
          refine ⟨fun _ _ mem => mem, fun source row behind => ?_⟩
          change ((state.store.moveCursor task.source last).passed source).after row = false
          rw [passed_moveCursor]
          split
          next same =>
            subst same
            refine (inv.whole _).moved ?_ behind
            rw [ProjectionStore.passed, ← current, ← newer, moves]
          next => exact behind
  | ended result => cases moved

theorem onward_next (inv : ProjectionInv dimensionKey state) {step : ProjectionStep}
    (orderly : state.Orderly step) (taken : state.next dimensionKey step = some after) :
    Onward state after := by
  cases step with
  | insert row =>
      simp only [next] at taken
      split at taken
      next => cases taken
      cases taken
      exact ⟨fun source other mem => ProjectionInv.mem_rowsOf_insert.mpr (.inl mem),
        fun _ _ same => same⟩
  | start pid call =>
      simp only [next] at taken
      split at taken
      next => cases taken
      cases taken
      exact .same rfl rfl
  | advance pid =>
      obtain ⟨work, found, moved⟩ := Option.bind_eq_some_iff.mp taken
      exact onward_advance inv found (orderly work found) moved
  | crash pid =>
      simp only [next] at taken
      split at taken
      next => cases taken
      next => cases taken
      cases taken
      exact .same rfl rfl

/-! ## What a run has passed -/

def PassedAll (tables : CanonicalTables) (store : ProjectionStore δ) (source : Cg5ProjectionSource) :
    Prop :=
  ∀ row ∈ tables.rowsOf source, (store.passed source).after row = false

/-- A run without a bound has passed the sources that it has left, and a batch that is not full has
read the rest of its source. -/
def ProjectionWork.Drained (tables : CanonicalTables) (store : ProjectionStore δ) :
    ProjectionWork → Prop
  | .projecting task stage => task.reader.maxBatchesPerSource = none →
      (∀ source, source ∉ task.source :: task.rest → PassedAll tables store source) ∧
        match stage with
        | .read rows => rows.length < task.reader.batchSize → ∀ row ∈ tables.rowsOf task.source,
            (store.passed task.source).after row = true → row ∈ rows
        | _ => True
  | .ended (.processed reader _) => reader.maxBatchesPerSource = none →
      ∀ source, PassedAll tables store source
  | _ => True

variable {tables : CanonicalTables}

omit [DecidableEq δ] in
theorem drained_project {store : ProjectionStore δ} {reader : Reader}
    {counts : ProcessedCounts} {rest : List Cg5ProjectionSource}
    (passed : reader.maxBatchesPerSource = none →
      ∀ source, source ∉ rest → PassedAll tables store source) :
    (project reader counts rest).Drained tables store := by
  cases rest with
  | nil => exact fun unbounded source => passed unbounded source List.not_mem_nil
  | cons source rest => exact fun unbounded => ⟨passed unbounded, trivial⟩

omit [DecidableEq δ] in
theorem drained_rebuild (tables : CanonicalTables) (store : ProjectionStore δ) (reader : Reader)
    (range : Cg5ProjectionRange) (rest : List Cg5ProjectionSource) :
    (rebuild reader range rest).Drained tables store := by
  cases rest with
  | nil => exact trivial
  | cons source rest => exact trivial

omit [DecidableEq δ] in
theorem drained_rebuildNext (tables : CanonicalTables) (store : ProjectionStore δ)
    (task : RebuildTask) (rows : List ProjectionRow) : (task.next rows).Drained tables store := by
  have finished : ∀ last, (task.finish last).Drained tables store := by
    intro last
    cases last with
    | none => exact drained_rebuild ..
    | some last => exact trivial
  unfold RebuildTask.next
  split
  next => exact finished _
  split
  · exact finished _
  · exact trivial

omit [DecidableEq δ] in
theorem drained_ofCall (tables : CanonicalTables) (store : ProjectionStore δ)
    (call : ProjectionCall) : (ofCall call).Drained tables store := by
  cases call with
  | run reader =>
      have left : (project reader [] cg5ProjectionSources).Drained tables store := by
        refine drained_project fun _ source unlisted => absurd ?_ unlisted
        cases source <;> decide
      exact left
  | rebuildRange reader range =>
      rw [ofCall]
      by_cases empty : range.closes ≤ range.opens
      · rw [if_pos empty]
        exact trivial
      · rw [if_neg empty]
        exact trivial

omit [DecidableEq δ] in
theorem ProjectionWork.Drained.onward
    (drained : work.Drained tables state.store) (onward : Onward state after) :
    work.Drained tables after.store := by
  have passedAll : ∀ source, PassedAll tables state.store source →
      PassedAll tables after.store source :=
    fun source passed row mem => onward.passed source row (passed row mem)
  cases work with
  | projecting task stage =>
      intro unbounded
      obtain ⟨left, reads⟩ := drained unbounded
      refine ⟨fun source unlisted => passedAll source (left source unlisted), ?_⟩
      cases stage with
      | read rows =>
          intro short row mem ahead
          refine reads short row mem ?_
          by_contra behind
          rw [onward.passed task.source row (by simpa using behind)] at ahead
          cases ahead
      | _ => exact trivial
  | ended result =>
      cases result with
      | processed reader counts =>
          exact fun unbounded source => passedAll source (drained unbounded source)
      | rebuilt => exact trivial
      | failed message => exact trivial
  | _ => exact trivial

variable {task : ProjectionTask} {rows : List ProjectionRow}

section
variable (inv : ProjectionInv dimensionKey state)
  (within : ∀ source, tables.rowsOf source ⊆ state.store.tables.rowsOf source)
include inv within

/-- A batch that is not full leaves nothing ahead in its source. -/
theorem drained_next
    (found : Session.find state.sessions pid = some (.projecting task (.read rows)))
    (drained : (projecting task (.read rows)).Drained tables state.store) :
    (task.next rows.length).Drained tables
      (state.store.projectRows dimensionKey task.source rows) := by
  have window : Window (state.store.tables.rowsOf task.source)
      (state.store.passed task.source).after rows := inv.soundOf found
  have forward := window.forward dimensionKey inv.whole
  unfold ProjectionTask.next
  dsimp only
  split
  next stops =>
    refine drained_project fun unbounded source unlisted row mem => ?_
    obtain ⟨left, reads⟩ := drained unbounded
    have short : rows.length < task.reader.batchSize := by simpa [unbounded] using stops
    by_cases own : source = task.source
    · subst own
      rw [passed_projectRows, if_pos rfl,
        window.moved (inv.whole _) (fun _ isAhead => isAhead) (within _ mem) rfl]
      cases ahead : (state.store.passed task.source).after row with
      | false => rfl
      | true => simp [reads short row mem ahead]
    · exact forward source row (left source (by simp [own, unlisted]) row mem)
  next =>
    intro unbounded
    exact ⟨fun source unlisted row mem =>
      forward source row ((drained unbounded).1 source unlisted row mem), trivial⟩

theorem drained_advance (found : Session.find state.sessions pid = some work)
    (drained : work.Drained tables state.store)
    (moved : state.advance dimensionKey pid work = some after) :
    ∃ work', Session.find after.sessions pid = some work' ∧ work'.Drained tables after.store := by
  cases work with
  | projecting task stage =>
      cases stage with
      | waiting =>
          simp only [advance] at moved
          split at moved
          next =>
            cases moved
            exact ⟨_, find_replace .., drained⟩
          next => cases moved
      | locked =>
          cases moved
          exact ⟨_, find_replace .., drained⟩
      | bounded boundary =>
          cases moved
          have known : boundary = state.store.passed task.source := inv.soundOf found
          subst known
          refine ⟨_, find_replace .., fun unbounded => ⟨(drained unbounded).1, ?_⟩⟩
          intro short row mem ahead
          exact Pages.page_short short (within _ mem) ahead
      | read rows =>
          cases moved
          exact ⟨_, find_replace .., drained_next inv within found drained⟩
  | rebuilding task stage =>
      cases stage with
      | waiting =>
          simp only [advance] at moved
          split at moved
          next =>
            cases moved
            exact ⟨_, find_replace .., trivial⟩
          next => cases moved
      | locked =>
          cases moved
          exact ⟨_, find_replace .., trivial⟩
      | bounded boundary => cases moved
      | read rows =>
          cases moved
          exact ⟨_, find_replace .., drained_rebuildNext ..⟩
  | advancing task last =>
      cases moved
      exact ⟨_, find_replace .., trivial⟩
  | ended result => cases moved
  | _ =>
      cases moved
      exact ⟨_, find_replace .., drained_rebuild ..⟩

end

/-- A call that goes on leaves the others where they are. -/
theorem find_advance {other : Nat} (differs : pid ≠ other)
    (moved : state.advance dimensionKey other work = some after) :
    Session.find after.sessions pid = Session.find state.sessions pid := by
  have replaced : ∀ (store : ProjectionStore δ) (work' : ProjectionWork),
      Session.find (state.commit other store work').sessions pid = Session.find state.sessions pid :=
    fun store work' => find_replace_of_ne differs
  unfold advance at moved
  split at moved
  all_goals first
    | cases moved; done
    | (cases moved; exact replaced _ _)
    | (split at moved; · cases moved; exact replaced _ _
       cases moved)

/-- What is known of a run since some time, of the rows of that time. -/
structure Since (tables : CanonicalTables) (pid : Nat) (state : Projection δ) : Prop where
  within : ∀ source, tables.rowsOf source ⊆ state.store.tables.rowsOf source
  drained : ∀ work, Session.find state.sessions pid = some work → work.Drained tables state.store

theorem Since.next (since : Since tables pid state)
    (inv : ProjectionInv dimensionKey state) {step : ProjectionStep} (orderly : state.Orderly step)
    (taken : state.next dimensionKey step = some after) : Since tables pid after := by
  have onward := onward_next inv orderly taken
  refine ⟨fun source row mem => onward.rows source (since.within source mem), ?_⟩
  have elsewhere : Session.find after.sessions pid = Session.find state.sessions pid →
      ∀ work, Session.find after.sessions pid = some work → work.Drained tables after.store := by
    intro same work found
    exact (since.drained work (same ▸ found)).onward onward
  cases step with
  | insert row =>
      simp only [Projection.next] at taken
      split at taken
      next => cases taken
      cases taken
      exact elsewhere rfl
  | start other call =>
      simp only [Projection.next] at taken
      split at taken
      next => cases taken
      cases taken
      by_cases own : pid = other
      · subst own
        intro work found
        rw [moveTo, find_replace] at found
        cases found
        exact drained_ofCall ..
      · exact elsewhere (find_replace_of_ne own)
  | advance other =>
      obtain ⟨work, found, moved⟩ := Option.bind_eq_some_iff.mp taken
      by_cases own : pid = other
      · subst own
        obtain ⟨work', found', drained⟩ :=
          drained_advance inv since.within found (since.drained work found) moved
        intro work'' found''
        rw [found'] at found''
        cases found''
        exact drained
      · exact elsewhere (find_advance own moved)
  | crash other =>
      simp only [Projection.next] at taken
      split at taken
      next => cases taken
      next => cases taken
      cases taken
      by_cases own : pid = other
      · subst own
        intro work found
        rw [find_drop] at found
        cases found
      · exact elsewhere (find_drop_of_ne own)

theorem since_of_reaches {before : Projection δ}
    (reachable : (orderlyProjection dimensionKey).Reachable before)
    (unused : Session.find before.sessions pid = none)
    (run : (orderlyProjection dimensionKey).Reaches before after) :
    ProjectionInv dimensionKey after ∧ Since before.store.tables pid after := by
  induction run with
  | refl =>
      refine ⟨projectionInv_of_reachable reachable, fun _ _ mem => mem, fun work found => ?_⟩
      rw [unused] at found
      cases found
  | tail _ step ih =>
      obtain ⟨label, orderly, taken⟩ := step
      exact ⟨ih.1.next orderly taken, ih.2.next ih.1 orderly taken⟩

/-- A run that was computed reaches where it ends. -/
theorem reaches_of_run {labels : List ProjectionStep}
    (runs : System.run (next dimensionKey) state labels = some after) :
    (projection dimensionKey).Reaches state after := by
  induction labels generalizing state with
  | nil =>
      cases runs
      exact .refl
  | cons label rest ih =>
      unfold System.run at runs
      split at runs
      next => cases runs
      next middle first => exact .head ⟨label, first⟩ (ih runs)

/-! ## Exact buckets -/

/-- Where everything has been passed and nothing is being rebuilt, the buckets are exact. -/
theorem exact_of_passed (inv : ProjectionInv dimensionKey state)
    (distinguishes : Function.Injective dimensionKey)
    (passed : ∀ source, PassedAll state.store.tables state.store source)
    (settled : ∀ session ∈ state.sessions, session.work.rebuilds = none) :
    state.store.Exact dimensionKey := by
  obtain ⟨counted, describes, tallied⟩ := inv.counted
  have every : ∀ source, ∀ row ∈ state.store.tables.rowsOf source, counted source row = true := by
    intro source row mem
    rw [describes.passed source row mem fun session present => ?_, passed source row mem]
    · rfl
    · rw [covers, settled session present]
      rfl
  have tally : ∀ kind source, state.store.tables.tally counted kind source =
      (state.store.tables.rowsOf source).countP kind := by
    intro kind source
    refine List.countP_congr fun row mem => ?_
    rw [every source row mem, Bool.true_and]
  refine ⟨fun metricKey bucketStart dimensions => ?_, fun bucketStart policyVersion decision => ?_⟩
  · have volume : CanonicalTables.volumeOf (state.store.tables.tally counted
        (inBucket dimensionKey bucketStart (dimensionKey dimensions))) metricKey =
        state.store.tables.volume metricKey bucketStart dimensions := by
      refine volumeOf_congr (fun source => (tally _ source).trans ?_) metricKey
      refine List.countP_congr fun row _ => ?_
      rw [inBucket, decide_eq_true_iff, decide_eq_true_iff, distinguishes.eq_iff]
    rw [tallied.metrics, volume]
  · rw [tallied.impacts, tally, CanonicalTables.rowsOf, List.countP_map, CanonicalTables.impact]
    refine List.countP_congr fun row _ => ?_
    simp [inImpact, CgDecisionLog.projected]

/-! ## A run by itself -/

/-- Nobody else is in flight. -/
def Alone (pid : Nat) (state : Projection δ) : Prop :=
  ∀ session ∈ state.sessions, session.pid ≠ pid → session.work.isEnded = true

omit [DecidableEq δ] in
theorem Alone.commit (alone : Alone pid state) (store : ProjectionStore δ) (work : ProjectionWork) :
    Alone pid (state.commit pid store work) := by
  intro session mem other
  rcases mem_replace.mp mem with rfl | ⟨present, -⟩
  · exact absurd rfl other
  · exact alone session present other

theorem ended_quiet (ended : work.isEnded = true) : work.lock = none ∧ work.rebuilds = none := by
  cases work with
  | ended result => exact ⟨rfl, rfl⟩
  | _ => cases ended

theorem advances (found : Session.find state.sessions pid = some work)
    (undisturbed : state.Undisturbed work)
    (moved : state.advance dimensionKey pid work = some after) :
    (orderlyProjection dimensionKey).Next state after := by
  refine ⟨.advance pid, fun other same => ?_, ?_⟩
  · rw [found] at same
    cases same
    exact undisturbed
  · change (Session.find state.sessions pid).bind (state.advance dimensionKey pid) = some after
    rw [found]
    exact moved

omit [DecidableEq δ] in
theorem moveTo_commit (state : Projection δ) (pid : Nat) (store : ProjectionStore δ)
    (first second : ProjectionWork) :
    (state.moveTo pid first).commit pid store second = state.commit pid store second := by
  rw [moveTo, commit, commit, replace_replace]

omit [DecidableEq δ] in
theorem moveTo_moveTo (state : Projection δ) (pid : Nat) (first second : ProjectionWork) :
    (state.moveTo pid first).moveTo pid second = state.moveTo pid second :=
  moveTo_commit state pid state.store first second

/-- The four statements of a batch. -/
theorem batch_reaches (alone : Alone pid state)
    (found : Session.find state.sessions pid = some (.projecting task .waiting))
    (same : rows = task.reader.readRows state.store.tables task.source
      (state.store.passed task.source) none) :
    (orderlyProjection dimensionKey).Reaches state
      (state.commit pid (state.store.projectRows dimensionKey task.source rows)
        (task.next rows.length)) := by
  subst same
  have free : state.free pid task.source = true := by
    refine ProjectionInv.free_iff.mpr fun session mem other => ?_
    rw [(ended_quiet (alone session mem other)).1]
    nofun
  have locks : (orderlyProjection dimensionKey).Next state (state.moveTo pid (.projecting task .locked)) :=
    advances found trivial (by simp only [advance, free, if_true])
  have bounds : (orderlyProjection dimensionKey).Next (state.moveTo pid (.projecting task .locked))
      (state.moveTo pid (.projecting task (.bounded (state.store.passed task.source)))) := by
    refine advances (find_replace ..) trivial ?_
    exact congrArg some (moveTo_moveTo ..)
  have reads : (orderlyProjection dimensionKey).Next
      (state.moveTo pid (.projecting task (.bounded (state.store.passed task.source))))
      (state.moveTo pid (.projecting task (.read (task.reader.readRows state.store.tables task.source
        (state.store.passed task.source) none)))) := by
    refine advances (find_replace ..) ?_ ?_
    · intro session mem range rebuilt
      rcases mem_replace.mp mem with rfl | ⟨present, other⟩
      · cases rebuilt
      · rw [(ended_quiet (alone session present other)).2] at rebuilt
        cases rebuilt
    · exact congrArg some (moveTo_moveTo ..)
  refine (((Relation.ReflTransGen.single locks).tail bounds).tail reads).tail ?_
  exact advances (find_replace ..) trivial (congrArg some (moveTo_commit ..))

/-- What a batch has read is no longer ahead. -/
theorem ahead_after (dimensionKey : Cg5MetricDimensions → δ) (inv : ProjectionInv dimensionKey state) {source : Cg5ProjectionSource}
    (window : Window (state.store.tables.rowsOf source) (state.store.passed source).after rows) :
    (state.store.tables.rowsOf source).countP (state.store.passed source).after =
      (state.store.tables.rowsOf source).countP
        ((state.store.projectRows dimensionKey source rows).passed source).after + rows.length := by
  have moved : ∀ row ∈ state.store.tables.rowsOf source,
      ((state.store.projectRows dimensionKey source rows).passed source).after row =
        ((state.store.passed source).after row && !decide (row ∈ rows)) := by
    intro row mem
    rw [passed_projectRows, if_pos rfl]
    exact window.moved (inv.whole source) (fun _ isAhead => isAhead) mem rfl
  have fresh : ∀ row ∈ rows,
      ((state.store.projectRows dimensionKey source rows).passed source).after row = false := by
    intro row read
    rw [moved row (window.within row read).1]
    simp [read]
  have joined : ∀ row ∈ state.store.tables.rowsOf source, (state.store.passed source).after row =
      (((state.store.projectRows dimensionKey source rows).passed source).after row ||
        decide (row ∈ rows)) := by
    intro row mem
    rw [moved row mem]
    by_cases read : row ∈ rows
    · simp [read, (window.within row read).2]
    · simp [read]
  have counts := Pages.countP_joining ((inv.distinct source).of_map _) window.apart
    (fun row read => (window.within row read).1) fresh joined fun _ => true
  simpa using counts

theorem short_next {count : Nat} (short : count < task.reader.batchSize) :
    task.next count = .project task.reader
      (task.counts ++ [(task.source, task.processed + count)]) task.rest :=
  if_pos (.inl short)

theorem full_next {count : Nat} (full : ¬ count < task.reader.batchSize)
    (unbounded : task.reader.maxBatchesPerSource = none) :
    task.next count = .projecting
      { task with processed := task.processed + count, batches := task.batches + 1 } .waiting := by
  refine if_neg ?_
  rintro (short | bounded)
  · exact full short
  · rw [unbounded] at bounded
    cases bounded

/-- A run finishes a source after as many batches as it needs. -/
theorem source_reaches (reachable : (orderlyProjection dimensionKey).Reachable state)
    (alone : Alone pid state)
    (found : Session.find state.sessions pid = some (.projecting task .waiting))
    (batchSize : 0 < task.reader.batchSize) (unbounded : task.reader.maxBatchesPerSource = none)
    {ahead : Nat} (left : (state.store.tables.rowsOf task.source).countP
      (state.store.passed task.source).after = ahead) :
    ∃ after counts, (orderlyProjection dimensionKey).Reaches state after ∧ Alone pid after ∧
      Session.find after.sessions pid = some (.project task.reader counts task.rest) ∧
      after.store.tables = state.store.tables := by
  induction ahead using Nat.strong_induction_on generalizing state task with
  | h ahead ih =>
      have inv := projectionInv_of_reachable reachable
      obtain ⟨rows, same⟩ : ∃ rows, rows = task.reader.readRows state.store.tables task.source
        (state.store.passed task.source) none := ⟨_, rfl⟩
      have window : Window (state.store.tables.rowsOf task.source)
          (state.store.passed task.source).after rows :=
        same ▸ window_readRows (inv.distinct task.source) task.reader _ none
      have fewer := ahead_after dimensionKey inv window
      have batch : (orderlyProjection dimensionKey).Reaches state _ := batch_reaches alone found same
      have tables := tables_projectRows dimensionKey task.source rows state.store
      by_cases short : rows.length < task.reader.batchSize
      · rw [short_next short] at batch
        refine ⟨_, task.counts ++ [(task.source, task.processed + rows.length)], batch,
          alone.commit _ _, find_replace .., tables⟩
      · rw [full_next short unbounded] at batch
        have decreases : ((state.store.projectRows dimensionKey task.source rows).tables.rowsOf
            task.source).countP
            ((state.store.projectRows dimensionKey task.source rows).passed task.source).after < ahead := by
          rw [tables]
          omega
        obtain ⟨after, counts, run, alone', found', tables'⟩ := ih _ decreases (reachable.reaches batch)
          (alone.commit _ _) (find_replace ..) batchSize unbounded rfl
        exact ⟨after, counts, batch.trans run, alone', found', tables'.trans tables⟩

/-- A run finishes the sources one after another. -/
theorem sources_reach (reachable : (orderlyProjection dimensionKey).Reachable state)
    (alone : Alone pid state) {reader : Reader} {counts : ProcessedCounts}
    {rest : List Cg5ProjectionSource}
    (found : Session.find state.sessions pid = some (.project reader counts rest))
    (batchSize : 0 < reader.batchSize) (unbounded : reader.maxBatchesPerSource = none) :
    ∃ after counts, (orderlyProjection dimensionKey).Reaches state after ∧
      Session.find after.sessions pid = some (.ended (.processed reader counts)) ∧
      after.store.tables = state.store.tables := by
  induction rest generalizing state counts with
  | nil => exact ⟨state, counts, .refl, found, rfl⟩
  | cons source rest ih =>
      obtain ⟨middle, counts', run, alone', found', tables⟩ :=
        source_reaches reachable alone found batchSize unbounded rfl
      obtain ⟨after, last, more, ended, tables'⟩ := ih (reachable.reaches run) alone' found'
      exact ⟨after, last, run.trans more, ended, tables'.trans tables⟩

/-- In an orderly history a run leaves the projection exact. -/
theorem orderly_projection_counts_once (distinguishes : Function.Injective dimensionKey) :
    CountsOnce dimensionKey (orderlyProjection dimensionKey) where
  counts := by
    intro before after pid reader counts reachable run unused ended unbounded tables settled
    have kept := since_of_reaches reachable unused run
    refine exact_of_passed kept.1 distinguishes ?_ settled
    rw [tables]
    exact kept.2.drained _ ended unbounded
  ends := by
    intro before pid reader reachable unused quiet batchSize unbounded
    have starts : (orderlyProjection dimensionKey).Next before
        (before.moveTo pid (.ofCall (.run reader))) := by
      refine ⟨.start pid (.run reader), trivial, ?_⟩
      change (if (Session.find before.sessions pid).isSome then none else _) = _
      rw [unused]
      rfl
    have alone : Alone pid (before.moveTo pid (.ofCall (.run reader))) :=
      Alone.commit (fun session mem _ => quiet session mem) before.store _
    have begun : Session.find (before.moveTo pid (.ofCall (.run reader))).sessions pid =
        some (.project reader [] cg5ProjectionSources) := find_replace ..
    obtain ⟨after, counts, run, ended, tables⟩ := sources_reach
      (reachable.reaches (.single starts)) alone begun batchSize unbounded
    exact ⟨after, counts, .head starts run, ended, tables⟩

def plainKey : Cg5MetricDimensions → Cg5MetricDimensions := id

theorem orderly_projection_counts_for_plain_keys : CountsOnce plainKey (orderlyProjection plainKey) :=
  orderly_projection_counts_once Function.injective_id

/-! ## A late row -/

def emptyProjection : Projection Cg5MetricDimensions :=
  ⟨⟨⟨[], [], [], []⟩, fun _ _ _ => none, fun _ _ _ => none, fun _ => none⟩, []⟩

theorem emptyProjection_fresh : emptyProjection.Fresh :=
  ⟨fun source => by cases source <;> exact List.nodup_nil, fun _ _ _ => rfl, fun _ _ _ => rfl,
    fun _ => rfl, rfl⟩

def sampleAttempt (id : Nat) (occurredAt : Instant) : CgFactRow := ⟨id, occurredAt, "VOICE", "SUPPORT"⟩

/-- A run that nobody holds up: four statements for each source. -/
def runAlone (pid : Nat) : List ProjectionStep :=
  .start pid (.run ⟨250, none⟩) :: List.replicate 16 (.advance pid)

/-- The second attempt happened before the first one, and is inserted after a run has passed it. -/
def lateInsert : List ProjectionStep :=
  .insert (.attempt (sampleAttempt 1 600000)) :: runAlone 0 ++
    [.insert (.attempt (sampleAttempt 2 0))]

/-- What the run after the late row leaves. -/
def lateRun (holds : Projection Cg5MetricDimensions → Projection Cg5MetricDimensions → Bool) : Bool :=
  match System.run (Projection.next plainKey) emptyProjection lateInsert with
  | none => false
  | some before =>
      match System.run (Projection.next plainKey) before (runAlone 1) with
      | none => false
      | some after => holds before after

theorem reaches_of_lateRun
    (holds : Projection Cg5MetricDimensions → Projection Cg5MetricDimensions → Bool) (ends : lateRun holds = true) :
    ∃ before after, (projection plainKey).Reachable before ∧ (projection plainKey).Reaches before after ∧
      holds before after = true := by
  unfold lateRun at ends
  split at ends
  next => cases ends
  next before first =>
    split at ends
    next => cases ends
    next after second =>
      exact ⟨before, after, .run (.of_init emptyProjection_fresh) first, reaches_of_run second, ends⟩

def lateBucket : Cg5MetricDimensions := dimensionsFor ((sampleAttempt 2 0).projected "ATTEMPT")

/-- The run after a late row ends and leaves the row's bucket empty. -/
theorem late_row_is_never_counted : ¬ CountsOnce plainKey (projection plainKey) := by
  intro exact_
  obtain ⟨before, after, reachable, run, found⟩ := reaches_of_lateRun
    (fun before after => decide (Session.find before.sessions 1 = none ∧
      Session.find after.sessions 1 = some (.ended (.processed ⟨250, none⟩
        [(.decision, 0), (.attempt, 0), (.touch, 0), (.reservation, 0)])) ∧
      after.store.tables = before.store.tables ∧
      (∀ session ∈ after.sessions, session.work.rebuilds = none) ∧
      after.store.metric .frequency 0 lateBucket = (0, 0) ∧
      after.store.tables.volume .frequency 0 lateBucket = 1)) (by decide +kernel)
  obtain ⟨unused, ended, tables, settled, empty, late⟩ := of_decide_eq_true found
  have counts := (exact_.counts before after 1 _ _ reachable run unused ended rfl tables
    settled).metrics .frequency 0 lateBucket
  rw [late] at counts
  cases empty.symm.trans counts

end DContact.Governance

import DContact.Governance.PolicyStudio

/-!
# What a step of the studio may change

Every step is one of six changes of the store: it leaves policies, heads and jobs
alone, it rewrites one job, it adds a draft, it edits a version that is not yet
approved, it schedules an approved version, or it activates one. The commands are
inverted here once; the invariants of later modules only read the changes.
-/

namespace DContact.Governance

open Lib List PolicyStudio

/-! ## The parts of a version -/

/-- What a version keeps from its submission on: everything but its place in the
lifecycle. -/
def PolicyRow.core (row : PolicyRow) : PolicyRow :=
  { row with
    status := .draft
    effectiveTo := none
    submittedAt := none
    approvedAt := none
    publishedAt := none
    supersedesId := none
    approvalDigest := none
    activateAt := none }

section Core

variable {row after : PolicyRow} (same : after.core = row.core)

include same

theorem core_id : after.id = row.id := (congrArg PolicyRow.id same :)

theorem core_policyId : after.policyId = row.policyId := (congrArg PolicyRow.policyId same :)

theorem core_version : after.version = row.version := (congrArg PolicyRow.version same :)

theorem core_scopeKey : after.scopeKey = row.scopeKey := (congrArg PolicyRow.scopeKey same :)

theorem core_content : after.content = row.content := (congrArg PolicyRow.content same :)

theorem core_diffClass : after.diffClass = row.diffClass := (congrArg PolicyRow.diffClass same :)

theorem core_baseHeadVersion : after.baseHeadVersion = row.baseHeadVersion :=
  (congrArg PolicyRow.baseHeadVersion same :)

theorem core_baseHeadDigest : after.baseHeadDigest = row.baseHeadDigest :=
  (congrArg PolicyRow.baseHeadDigest same :)

theorem compileRow_core (engine : PolicyEngine) : compileRow engine after = compileRow engine row := by
  have schema : after.schemaVersion = row.schemaVersion := (congrArg PolicyRow.schemaVersion same :)
  have registry : after.registryVersion = row.registryVersion :=
    (congrArg PolicyRow.registryVersion same :)
  have evaluator : after.evaluatorVersion = row.evaluatorVersion :=
    (congrArg PolicyRow.evaluatorVersion same :)
  rw [compileRow, compileRow, schema, registry, evaluator, core_content same, core_version same]

end Core

/-! ## Writes -/

/-- What an `updateMany` does to one row. -/
def rewriteWhere (rowId : String) (holds : PolicyRow → Bool) (rewrite : PolicyRow → PolicyRow)
    (row : PolicyRow) : PolicyRow :=
  if row.id = rowId then if holds row then rewrite row else row else row

variable {store : PolicyStore} {rowId : String} {after : PolicyStore} {holds : PolicyRow → Bool}
  {rewrite : PolicyRow → PolicyRow}

theorem updateMany_ok (ok : updateMany store rowId holds rewrite = .ok after) :
    after = { store with policies := store.policies.map (rewriteWhere rowId holds rewrite) } := by
  replace ok := rest_ok ok
  cases ok
  rfl

variable {failure : LifecycleError}

theorem updatePolicy_ok (ok : updatePolicy store rowId holds rewrite failure = .ok after) :
    (∃ row ∈ store.policies, row.id = rowId ∧ holds row = true) ∧
      after = { store with policies := store.policies.map (rewriteWhere rowId holds rewrite) } := by
  obtain ⟨_, found, ok⟩ := bind_ok ok
  obtain ⟨row, mem, here⟩ := any_eq_true.mp (ensure_ok.mp found)
  exact ⟨⟨row, mem, by simpa using here⟩, updateMany_ok ok⟩

def HeadWritten (before : List HeadRow) (expectedVersion : Nat) (head : HeadRow)
    (after : List HeadRow) : Prop :=
  (expectedVersion = 0 ∧ head.scopeKey ∉ before.map HeadRow.scopeKey ∧ after = before ++ [head]) ∨
    (expectedVersion ≠ 0 ∧
      (∃ current ∈ before, current.scopeKey = head.scopeKey ∧
        current.headVersion = expectedVersion) ∧
      after = Table.update HeadRow.scopeKey head.scopeKey
        (fun current => if current.headVersion = expectedVersion then head else current) before)

variable {expectedVersion : Nat} {head : HeadRow}

theorem writeHead_ok (ok : writeHead store expectedVersion head = .ok after) :
    HeadWritten store.heads expectedVersion head after.heads ∧
      after = { store with heads := after.heads } := by
  unfold writeHead at ok
  split at ok
  next new =>
    obtain ⟨_, fresh, ok⟩ := bind_ok ok
    cases ok
    exact ⟨.inl ⟨new, ensure_ok.mp fresh, rfl⟩, rfl⟩
  next old =>
    obtain ⟨_, found, ok⟩ := bind_ok ok
    cases ok
    obtain ⟨current, mem, here⟩ := any_eq_true.mp (ensure_ok.mp found)
    exact ⟨.inr ⟨old, ⟨current, mem, by simpa using here⟩, rfl⟩, rfl⟩

def headOf (heads : List HeadRow) (scopeKey : String) : Option HeadRow :=
  heads.find? fun head => head.scopeKey == scopeKey

variable {heads : List HeadRow} {scopeKey : String}

theorem headOf_key (found : headOf heads scopeKey = some head) : head.scopeKey = scopeKey := by
  simpa using find?_some found

theorem headOf_member (distinct : (heads.map HeadRow.scopeKey).Nodup) (mem : head ∈ heads) :
    headOf heads head.scopeKey = some head :=
  Table.find?_of_member distinct mem rfl

variable {before : List HeadRow}

theorem HeadWritten.nodup {after : List HeadRow}
    (written : HeadWritten before expectedVersion head after)
    (distinct : (before.map HeadRow.scopeKey).Nodup) : (after.map HeadRow.scopeKey).Nodup := by
  rcases written with ⟨-, fresh, rfl⟩ | ⟨-, -, rfl⟩
  · exact Table.nodup_append distinct fresh
  · have keys : (Table.update HeadRow.scopeKey head.scopeKey
        (fun current => if current.headVersion = expectedVersion then head else current) before).map
          HeadRow.scopeKey = before.map HeadRow.scopeKey := by
      rw [Table.update, map_map]
      apply map_congr_left
      intro current _
      simp only [Function.comp_apply]
      split
      next same => split <;> simp [same]
      next => rfl
    rw [keys]
    exact distinct

theorem HeadWritten.mem {after : List HeadRow} {other : HeadRow}
    (written : HeadWritten before expectedVersion head after)
    (distinct : (before.map HeadRow.scopeKey).Nodup) :
    other ∈ after ↔ other = head ∨ (other ∈ before ∧ other.scopeKey ≠ head.scopeKey) := by
  rcases written with ⟨-, fresh, rfl⟩ | ⟨-, ⟨current, mem, key, version⟩, rfl⟩
  · have apart : ∀ row ∈ before, row.scopeKey ≠ head.scopeKey := fun row mem same =>
      fresh (same ▸ mem_map_of_mem mem)
    simp only [mem_append, mem_singleton]
    constructor
    · rintro (mem | rfl)
      · exact .inr ⟨mem, apart other mem⟩
      · exact .inl rfl
    · rintro (rfl | ⟨mem, -⟩)
      · exact .inr rfl
      · exact .inl mem
  · rw [Table.mem_update]
    constructor
    · rintro ⟨row, present, rfl⟩
      by_cases same : row.scopeKey = head.scopeKey
      · have found : row = current := Table.eq_of_key_eq distinct present mem (same.trans key.symm)
        left
        rw [if_pos same, found, if_pos version]
      · exact .inr ⟨by rwa [if_neg same], by rwa [if_neg same]⟩
    · rintro (rfl | ⟨present, apart⟩)
      · exact ⟨current, mem, by rw [if_pos key, if_pos version]⟩
      · exact ⟨other, present, by rw [if_neg apart]⟩

theorem HeadWritten.headOf_after {after : List HeadRow}
    (written : HeadWritten before expectedVersion head after)
    (distinct : (before.map HeadRow.scopeKey).Nodup) (scopeKey : String) :
    headOf after scopeKey =
      if scopeKey = head.scopeKey then some head else headOf before scopeKey := by
  have unique := written.nodup distinct
  split
  next same =>
    rw [same]
    exact headOf_member unique ((written.mem distinct).mpr (.inl rfl))
  next apart =>
    cases found : headOf before scopeKey with
    | none =>
        apply find?_eq_none.mpr
        intro other mem here
        have key : other.scopeKey = scopeKey := by simpa using here
        rcases (written.mem distinct).mp mem with rfl | ⟨present, -⟩
        · exact apart key.symm
        · have kept := headOf_member distinct present
          rw [key, found] at kept
          cases kept
    | some other =>
        have key := headOf_key found
        have present : other ∈ after := (written.mem distinct).mpr
          (.inr ⟨mem_of_find?_eq_some found, fun same => apart (key ▸ same)⟩)
        rw [← key]
        exact headOf_member unique present

theorem HeadWritten.expected {after : List HeadRow}
    (written : HeadWritten before expectedVersion head after)
    (distinct : (before.map HeadRow.scopeKey).Nodup) :
    (expectedVersion = 0 ∧ headOf before head.scopeKey = none) ∨
      ∃ current, headOf before head.scopeKey = some current ∧
        current.headVersion = expectedVersion := by
  rcases written with ⟨zero, fresh, -⟩ | ⟨-, ⟨current, mem, key, version⟩, -⟩
  · refine .inl ⟨zero, find?_eq_none.mpr ?_⟩
    intro other mem here
    have key : other.scopeKey = head.scopeKey := by simpa using here
    exact fresh (key ▸ mem_map_of_mem mem)
  · exact .inr ⟨current, key ▸ headOf_member distinct mem, version⟩

/-! ## Moves of the head -/

/-- A row after the version that a head points at has given way. -/
def supersededBy (head : HeadSnapshot) (activateAt : Instant) (row : PolicyRow) : PolicyRow :=
  match head.current with
  | none => row
  | some current =>
      rewriteWhere current.revisionId (fun row => decide (row.status = .active))
        (fun row => { row with status := .superseded, effectiveTo := some activateAt }) row

/-- A row after an activation. -/
def moved (move : HeadMove) (row : PolicyRow) : PolicyRow :=
  rewriteWhere move.row.id
    (fun row => decide (row.status = .approved) || decide (row.status = .scheduled))
    (activateRow move) (supersededBy move.head move.activateAt row)

variable {activateAt : Instant}

theorem supersedeHead_ok {head : HeadSnapshot}
    (ok : supersedeHead store head activateAt = .ok after) :
    after = { store with policies := store.policies.map (supersededBy head activateAt) } := by
  unfold supersedeHead at ok
  cases present : head.current with
  | none =>
      rw [present] at ok
      cases ok
      have same : supersededBy head activateAt = id := by
        funext row
        simp [supersededBy, present]
      rw [same, map_id]
  | some current =>
      rw [present] at ok
      have same : supersededBy head activateAt = rewriteWhere current.revisionId
          (fun row => decide (row.status = .active))
          (fun row => { row with status := .superseded, effectiveTo := some activateAt }) := by
        funext row
        simp [supersededBy, present]
      rw [same]
      exact (updatePolicy_ok ok).2

variable {row : PolicyRow}

/-- A version that still waits is not the one that gives way. -/
theorem supersededBy_waiting {head : HeadSnapshot} (inactive : row.status ≠ .active) :
    supersededBy head activateAt row = row := by
  unfold supersededBy
  cases head.current with
  | none => rfl
  | some current => simp [rewriteWhere, inactive]

theorem supersededBy_core (head : HeadSnapshot) (activateAt : Instant) (row : PolicyRow) :
    (supersededBy head activateAt row).core = row.core ∧
      (supersededBy head activateAt row).activateAt = row.activateAt := by
  unfold supersededBy
  cases head.current with
  | none => exact ⟨rfl, rfl⟩
  | some current =>
      simp only [rewriteWhere]
      split
      next => split <;> exact ⟨rfl, rfl⟩
      next => exact ⟨rfl, rfl⟩

theorem supersededBy_status (head : HeadSnapshot) (activateAt : Instant) (row : PolicyRow) :
    (supersededBy head activateAt row).status = row.status ∨
      (row.status = .active ∧ (supersededBy head activateAt row).status = .superseded) := by
  by_cases active : row.status = .active
  · unfold supersededBy
    cases head.current with
    | none => exact .inl rfl
    | some current =>
        simp only [rewriteWhere]
        split
        next => exact .inr ⟨active, by simp [active]⟩
        next => exact .inl rfl
  · exact .inl (by rw [supersededBy_waiting active])

theorem moved_core (move : HeadMove) (row : PolicyRow) :
    (moved move row).core = row.core ∧ (moved move row).activateAt = row.activateAt := by
  obtain ⟨core, time⟩ := supersededBy_core move.head move.activateAt row
  unfold moved rewriteWhere
  split
  next =>
    split
    next => exact ⟨core, time⟩
    next => exact ⟨core, time⟩
  next => exact ⟨core, time⟩

variable {move : HeadMove}

theorem moved_active (active : (moved move row).status = .active) :
    row.status = .active ∨ row.id = move.row.id := by
  by_cases here : row.id = move.row.id
  · exact .inr here
  · have apart : (supersededBy move.head move.activateAt row).id ≠ move.row.id :=
      (core_id (supersededBy_core _ _ row).1).symm ▸ here
    rw [moved, rewriteWhere, if_neg apart] at active
    rcases supersededBy_status move.head move.activateAt row with same | ⟨before, -⟩
    · exact .inl (same ▸ active)
    · exact .inl before

theorem moved_candidate (here : row.id = move.row.id)
    (waiting : row.status = .approved ∨ row.status = .scheduled) :
    (moved move row).status = .active := by
  have inactive : row.status ≠ .active := by
    rcases waiting with same | same <;> simp [same]
  rw [moved, supersededBy_waiting inactive, rewriteWhere, if_pos here]
  rcases waiting with same | same <;> simp [same, activateRow]

/-- A version that is neither on the move nor what the head pointed at stays where it is. -/
theorem moved_other (apart : row.id ≠ move.row.id)
    (away : ∀ current, move.head.current = some current → row.id ≠ current.revisionId) :
    moved move row = row := by
  have kept : supersededBy move.head move.activateAt row = row := by
    unfold supersededBy
    cases present : move.head.current with
    | none => rfl
    | some current => simp [rewriteWhere, away current present]
  rw [moved, kept, rewriteWhere, if_neg apart]

/-- What an activation writes. -/
structure Activated (engine : PolicyEngine) (before : PolicyStore) (move : HeadMove)
    (after : PolicyStore) : Prop where
  policies : after.policies = before.policies.map (moved move)
  jobs : after.jobs =
    cancelSchedules move.row.scopeKey move.row.version move.occurredAt before.jobs
  heads : HeadWritten before.heads move.head.headVersion (activatedHead engine move) after.heads
  candidate : ∃ row ∈ before.policies, row.id = move.row.id ∧
    (row.status = .approved ∨ row.status = .scheduled)

variable {engine : PolicyEngine}

theorem activateHead_ok
    (ok : activateHead engine store move = .ok after) : Activated engine store move after := by
  replace ok := rest_ok ok
  obtain ⟨superseded, gave, ok⟩ := bind_ok ok
  obtain ⟨activated, took, ok⟩ := bind_ok ok
  obtain ⟨heads, same⟩ := writeHead_ok ok
  obtain ⟨⟨candidate, mem, here, waiting⟩, rfl⟩ := updatePolicy_ok took
  cases supersedeHead_ok gave
  refine ⟨?_, ?_, heads, ?_⟩
  · rw [same, map_map]
    rfl
  · rw [same]
  · obtain ⟨row, present, rfl⟩ := mem_map.mp mem
    have waits : (supersededBy move.head move.activateAt row).status = .approved ∨
        (supersededBy move.head move.activateAt row).status = .scheduled := by
      simpa using waiting
    refine ⟨row, present, (core_id (supersededBy_core _ _ row).1).symm.trans here, ?_⟩
    rcases supersededBy_status move.head move.activateAt row with kept | ⟨-, gone⟩
    · rwa [kept] at waits
    · simp [gone] at waits

def scheduledRow (rowId : String) (row : PolicyRow) : PolicyRow :=
  rewriteWhere rowId (fun row => decide (row.status = .approved))
    (fun row => { row with status := .scheduled }) row

/-- The head that a schedule leaves behind. -/
def markedHead (move : HeadMove) (current : HeadRef) : HeadRow where
  scopeKey := move.row.scopeKey
  policyId := current.policyId
  policyVersion := current.version
  policyRevisionId := current.revisionId
  headVersion := move.head.headVersion + 1
  headDigest := move.head.headDigest
  nextActivationAt := some move.activateAt

/-- What a schedule writes. -/
structure Scheduled (before : PolicyStore) (move : HeadMove) (jobId : String)
    (after : PolicyStore) : Prop where
  policies : after.policies = before.policies.map (scheduledRow move.row.id)
  jobs : after.jobs = before.jobs ++ [scheduledJob move jobId]
  fresh : jobId ∉ before.jobs.map JobRow.id
  free : ∀ job ∈ before.jobs, job.isOpen = true → job.scopeKey ≠ move.row.scopeKey
  marked : ∃ current, move.head.current = some current ∧
    HeadWritten before.heads move.head.headVersion (markedHead move current) after.heads

theorem markHead_ok (ok : markHead store move = .ok after) :
    after = { store with heads := after.heads } ∧
      ∃ current, move.head.current = some current ∧
        HeadWritten store.heads move.head.headVersion (markedHead move current) after.heads := by
  replace ok := rest_ok ok
  cases present : move.head.current with
  | none =>
      rw [present] at ok
      cases ok
  | some current =>
      rw [present] at ok
      obtain ⟨written, same⟩ := writeHead_ok ok
      exact ⟨same, current, rfl, written⟩

variable {jobId : String}

theorem schedule_ok (ok : schedule store move jobId = .ok after) :
    Scheduled store move jobId after := by
  obtain ⟨_, free, ok⟩ := bind_ok ok
  obtain ⟨scheduled, took, ok⟩ := bind_ok ok
  obtain ⟨queued, inserted, ok⟩ := bind_ok ok
  replace inserted := rest_ok inserted
  obtain ⟨_, fresh, inserted⟩ := bind_ok inserted
  cases updateMany_ok took
  cases inserted
  obtain ⟨same, marked⟩ := markHead_ok ok
  refine ⟨by rw [same]; rfl, by rw [same], ensure_ok.mp fresh, ?_, marked⟩
  intro job mem isOpen here
  have absent := find?_eq_none.mp (ensure_ok.mp free) job mem
  simp [here, isOpen] at absent

/-! ## Changes -/

structure Keyed (store : PolicyStore) : Prop where
  ids : (store.policies.map PolicyRow.id).Nodup
  versions : (store.policies.map fun row => (row.policyId, row.version)).Nodup
  heads : (store.heads.map HeadRow.scopeKey).Nodup
  jobs : (store.jobs.map JobRow.id).Nodup

/-- What may become of a version that is not yet approved. -/
inductive Edit (engine : PolicyEngine) (store : PolicyStore) (row : PolicyRow) : PolicyRow → Prop
  | untouched : Edit engine store row row
  | amended (content : PolicyContent) (draft : row.status = .draft) :
      Edit engine store row (amendRow engine content (row.draftRevision + 1) row)
  | stamped (preview : Preview) (base : Option PolicyContent) (compiled : PolicyContent)
      (suite : SuiteRequest) (draft : row.status = .draft)
      (loaded : loadHeadContent engine store (loadHead engine store row.scopeKey) = .ok base)
      (compiles : compileRow engine row = .ok compiled)
      (ran : previewCg4Policy engine compiled row.version base
        (loadHead engine store row.scopeKey).headVersion
        (loadHead engine store row.scopeKey).headDigest suite = some preview) :
      Edit engine store row (stampRow preview (loadHead engine store row.scopeKey) row)
  | reviewed {after : PolicyRow} (core : after.core = row.core)
      (source : row.status = .draft ∨ row.status = .inReview)
      (target : after.status = .inReview ∨ after.status = .approved ∨ after.status = .rejected) :
      Edit engine store row after

/-- A worker changes neither what a job is for nor whether it is closed. -/
structure Worked (job after : JobRow) : Prop where
  id : after.id = job.id
  policyId : after.policyId = job.policyId
  policyVersion : after.policyVersion = job.policyVersion
  scopeKey : after.scopeKey = job.scopeKey
  isOpen : after.isOpen = true → job.isOpen = true

/-- The version on the move and the head it moves against are those of the store. -/
structure Loaded (engine : PolicyEngine) (store : PolicyStore) (move : HeadMove) : Prop where
  row : move.row ∈ store.policies
  head : move.head = loadHead engine store move.row.scopeKey

/-- What a publish has checked. -/
structure Admitted (store : PolicyStore) (move : HeadMove) : Prop where
  approved : move.row.status = .approved
  baseHeadVersion : move.row.baseHeadVersion = some move.head.headVersion
  killSwitch : move.row.effectiveDiffClass = .relaxation →
    killSwitchActive store move.row.scopeKey = false

/-- What a due activation has found. -/
structure Due (store : PolicyStore) (move : HeadMove) (job : JobRow) : Prop where
  scheduled : move.row.status = .scheduled
  queued : job ∈ store.jobs
  policyId : job.policyId = move.row.policyId
  policyVersion : job.policyVersion = move.row.version
  isOpen : job.isOpen = true

def Continues (store : PolicyStore) (row : PolicyRow) : Prop :=
  row.version = 1 ∨
    ∃ other ∈ store.policies, other.policyId = row.policyId ∧ other.scopeKey = row.scopeKey

/-- The changes of a store, where one version at most is up for publishing and one at
most for a due activation. -/
inductive Change (engine : PolicyEngine) (before : PolicyStore) (published due : Option PolicyRow) :
    PolicyStore → Prop
  | side {after : PolicyStore} (policies : after.policies = before.policies)
      (heads : after.heads = before.heads) (jobs : after.jobs = before.jobs) :
      Change engine before published due after
  | worked {after : PolicyStore} (policies : after.policies = before.policies)
      (heads : after.heads = before.heads) (rewrite : JobRow → JobRow)
      (jobs : after.jobs = before.jobs.map rewrite)
      (keeps : ∀ job ∈ before.jobs, Worked job (rewrite job)) :
      Change engine before published due after
  | drafted {after : PolicyStore} (row : PolicyRow) (policies : after.policies = before.policies ++ [row])
      (heads : after.heads = before.heads) (jobs : after.jobs = before.jobs)
      (id : row.id ∉ before.policies.map PolicyRow.id)
      (version : (row.policyId, row.version) ∉
        before.policies.map fun other => (other.policyId, other.version))
      (draft : row.status = .draft) (unstamped : row.baseHeadVersion = none)
      (untested : row.testArtifactDigest = none ∧ row.diffClass = none)
      (continues : Continues before row) :
      Change engine before published due after
  | edited {after : PolicyStore} (rewrite : PolicyRow → PolicyRow)
      (policies : after.policies = before.policies.map rewrite)
      (heads : after.heads = before.heads) (jobs : after.jobs = before.jobs)
      (edits : ∀ row ∈ before.policies, Edit engine before row (rewrite row)) :
      Change engine before published due after
  | scheduled {after : PolicyStore} (move : HeadMove) (jobId : String)
      (row : published = some move.row) (loaded : Loaded engine before move)
      (admitted : Admitted before move) (time : move.row.activateAt = some move.activateAt)
      (written : Scheduled before move jobId after) :
      Change engine before published due after
  | published {after : PolicyStore} (move : HeadMove)
      (row : published = some move.row) (loaded : Loaded engine before move)
      (admitted : Admitted before move) (written : Activated engine before move after) :
      Change engine before published due after
  | activated {after : PolicyStore} (move : HeadMove) (job : JobRow) (leaseOwner : String)
      (row : due = some move.row) (loaded : Loaded engine before move) (found : Due before move job)
      (written : Activated engine
        { before with jobs := completeJob job leaseOwner move.occurredAt before.jobs } move after) :
      Change engine before published due after

/-! ## Reads -/

variable {policyId : String} {version : Nat}

theorem findPolicy_ok (ok : findPolicy store policyId version = .ok row) :
    row ∈ store.policies ∧ row.policyId = policyId ∧ row.version = version := by
  have found := orFail_ok.mp ok
  have named : row.policyId = policyId ∧ row.version = version := by
    simpa using find?_some found
  exact ⟨mem_of_find?_eq_some found, named⟩

variable {compiled : PolicyContent}

theorem recompile_ok (ok : recompile engine row = .ok compiled) :
    compileRow engine row = .ok compiled := by
  obtain ⟨content, compiles, ok⟩ := bind_ok ok
  replace ok := rest_ok ok
  cases ok
  exact compiles

variable {candidate : Candidate}

theorem loadCandidate_ok {expectedContentDigest : String}
    (ok : loadCandidate engine store policyId version expectedContentDigest = .ok candidate) :
    findPolicy store policyId version = .ok candidate.row ∧
      recompile engine candidate.row = .ok candidate.compiled ∧
      candidate.head = loadHead engine store candidate.row.scopeKey ∧
      loadHeadContent engine store candidate.head = .ok candidate.baseContent := by
  obtain ⟨row, found, ok⟩ := bind_ok ok
  replace ok := rest_ok ok
  obtain ⟨compiled, compiles, ok⟩ := bind_ok ok
  obtain ⟨base, loaded, ok⟩ := bind_ok ok
  cases ok
  exact ⟨found, compiles, rfl, loaded⟩

/-! ## Commands -/

variable {result : DraftResult} {preview : Preview}

section Commands

variable {before : PolicyStore} {published due : Option PolicyRow} {now : Instant} {ids : NewIds}

theorem insertPolicy_change (ok : insertPolicy before row = .ok after)
    (draft : row.status = .draft) (unstamped : row.baseHeadVersion = none)
    (untested : row.testArtifactDigest = none ∧ row.diffClass = none)
    (continues : Continues before row) :
    Change engine before published due after := by
  obtain ⟨_, id, ok⟩ := bind_ok ok
  obtain ⟨_, version, ok⟩ := bind_ok ok
  cases ok
  exact .drafted row rfl rfl rfl (ensure_ok.mp id) (ensure_ok.mp version) draft unstamped untested
    continues

/-- A guarded update edits the store when every row that meets its guard is edited. -/
theorem updatePolicy_change (ok : updatePolicy before rowId holds rewrite failure = .ok after)
    (edits : ∀ row, holds row = true → Edit engine before row (rewrite row)) :
    Change engine before published due after := by
  cases (updatePolicy_ok ok).2
  refine .edited _ rfl rfl rfl ?_
  intro row _
  unfold rewriteWhere
  split
  next =>
    split
    next meets => exact edits row meets
    next => exact .untouched
  next => exact .untouched

theorem latestVersion_some (found : latestVersion before policyId = some row) :
    row ∈ before.policies ∧ row.policyId = policyId := by
  let step (best : Option PolicyRow) (row : PolicyRow) : Option PolicyRow :=
    if row.policyId = policyId ∧ (best.all fun other => decide (other.version < row.version)) then
      some row
    else best
  suffices folded : ∀ (rows : List PolicyRow) (best : Option PolicyRow),
      rows.foldl step best = some row → (row ∈ rows ∧ row.policyId = policyId) ∨ best = some row by
    exact (folded before.policies none found).resolve_right (by simp)
  intro rows
  induction rows with
  | nil => exact fun best same => .inr same
  | cons first rest ih =>
      intro best same
      rcases ih (step best first) same with ⟨later, series⟩ | taken
      · exact .inl ⟨mem_cons_of_mem _ later, series⟩
      · simp only [step] at taken
        split at taken
        next meets =>
          cases taken
          exact .inl ⟨mem_cons_self, meets.1⟩
        next => exact .inr taken

theorem draftVersion_ok {policyId : Option String} {newPolicyId series : String}
    (ok : draftVersion before policyId scopeKey newPolicyId = .ok (series, version)) :
    version = 1 ∨
      ∃ other ∈ before.policies, other.policyId = series ∧ other.scopeKey = scopeKey := by
  unfold draftVersion at ok
  split at ok
  next =>
    obtain ⟨latest, found, ok⟩ := bind_ok ok
    obtain ⟨_, scope, ok⟩ := bind_ok ok
    cases ok
    obtain ⟨mem, named⟩ := latestVersion_some (orFail_ok.mp found)
    exact .inr ⟨latest, mem, named, ensure_ok.mp scope⟩
  next =>
    replace ok := rest_ok ok
    cases ok
    exact .inl rfl

theorem createDraft_change {input : CreateDraftInput}
    (ok : createDraft engine before input now ids = .ok (after, result)) :
    Change engine before published due after := by
  obtain ⟨_, -, ok⟩ := bind_ok ok
  obtain ⟨_, -, ok⟩ := bind_ok ok
  replace ok := rest_ok ok
  obtain ⟨_, numbered, ok⟩ := bind_ok ok
  obtain ⟨_, inserted, ok⟩ := bind_ok ok
  cases ok
  exact insertPolicy_change inserted rfl rfl ⟨rfl, rfl⟩ (draftVersion_ok numbered)

theorem rollback_change {input : RollbackInput}
    (ok : rollback engine before input now ids = .ok (after, result)) :
    Change engine before published due after := by
  obtain ⟨_, -, ok⟩ := bind_ok ok
  obtain ⟨source, found, ok⟩ := bind_ok ok
  replace ok := rest_ok ok
  replace ok := rest_ok ok
  obtain ⟨_, -, ok⟩ := bind_ok ok
  obtain ⟨_, inserted, ok⟩ := bind_ok ok
  cases ok
  obtain ⟨mem, series, -⟩ := findPolicy_ok found
  exact insertPolicy_change inserted rfl rfl ⟨rfl, rfl⟩ (.inr ⟨source, mem, series, rfl⟩)

theorem writeAmendment_change {content : PolicyContent} {expected : Nat}
    (ok : writeAmendment engine before row content expected = .ok after) :
    Change engine before published due after := by
  refine updatePolicy_change ok ?_
  intro row meets
  obtain ⟨current, draft⟩ : row.draftRevision = expected ∧ row.status = .draft := by
    simpa using meets
  rw [← current]
  exact .amended content draft

theorem amendDraft_change {input : AmendDraftInput}
    (ok : amendDraft engine before input now = .ok (after, result)) :
    Change engine before published due after := by
  obtain ⟨_, -, ok⟩ := bind_ok ok
  obtain ⟨_, -, ok⟩ := bind_ok ok
  replace ok := rest_ok ok
  obtain ⟨_, written, ok⟩ := bind_ok ok
  cases ok
  exact writeAmendment_change written

theorem previewCandidate_ok {input : RunTestsInput}
    (ok : previewCandidate engine input candidate now = .ok preview) :
    previewCg4Policy engine candidate.compiled candidate.row.version candidate.baseContent
      candidate.head.headVersion candidate.head.headDigest input.suite = some preview := by
  replace ok := rest_ok ok
  exact orFail_ok.mp ok

theorem runTests_change (keyed : Keyed before) {input : RunTestsInput}
    (ok : runTests engine before input now ids = .ok (after, preview)) :
    Change engine before published due after := by
  obtain ⟨candidate, loaded, ok⟩ := bind_ok ok
  obtain ⟨_, previewed, ok⟩ := bind_ok ok
  cases ok
  obtain ⟨found, compiles, head, base⟩ := loadCandidate_ok loaded
  have mem := (findPolicy_ok found).1
  have ran := previewCandidate_ok previewed
  rw [head] at ran
  unfold recordTest
  by_cases draft : candidate.row.status = .draft
  · refine .edited _ (if_pos draft) rfl rfl ?_
    intro row present
    split
    next same =>
      have this : row = candidate.row := Table.eq_of_key_eq keyed.ids present mem same
      rw [this, head]
      beta_reduce
      rw [if_pos draft]
      exact .stamped preview candidate.baseContent candidate.compiled input.suite draft
        (head ▸ base) (recompile_ok compiles) ran
    next => exact .untouched
  · exact .side (if_neg draft) rfl rfl

theorem submit_change {input : SubmitInput}
    (ok : submit engine before input now = .ok (after, result)) :
    Change engine before published due after := by
  obtain ⟨_, -, ok⟩ := bind_ok ok
  obtain ⟨_, -, ok⟩ := bind_ok ok
  replace ok := rest_ok ok
  replace ok := rest_ok ok
  replace ok := rest_ok ok
  obtain ⟨_, written, ok⟩ := bind_ok ok
  cases ok
  refine updatePolicy_change written ?_
  intro row meets
  have draft : row.status = .draft := (by simpa using meets : _ ∧ _).2
  exact .reviewed rfl (.inl draft) (.inl rfl)

theorem closeReview_change (ok : closeReview before row rewrite = .ok after)
    (core : ∀ row, (rewrite row).core = row.core)
    (target : ∀ row, (rewrite row).status = .approved ∨ (rewrite row).status = .rejected) :
    Change engine before published due after := by
  refine updatePolicy_change ok ?_
  intro row meets
  exact .reviewed (core row) (.inr (by simpa using meets)) (.inr (target row))

theorem finalizeApproval_change {input : FinalizeApprovalInput}
    (ok : finalizeApproval engine before input now = .ok (after, result)) :
    Change engine before published due after := by
  obtain ⟨_, -, ok⟩ := bind_ok ok
  obtain ⟨_, -, ok⟩ := bind_ok ok
  obtain ⟨_, -, ok⟩ := bind_ok ok
  replace ok := rest_ok ok
  replace ok := rest_ok ok
  replace ok := rest_ok ok
  replace ok := rest_ok ok
  dsimp only at ok
  split at ok
  next =>
    obtain ⟨_, written, ok⟩ := bind_ok ok
    cases ok
    exact closeReview_change written (fun _ => rfl) (fun _ => .inr rfl)
  next =>
    replace ok := rest_ok ok
    obtain ⟨_, written, ok⟩ := bind_ok ok
    cases ok
    exact closeReview_change written (fun _ => rfl) (fun _ => .inl rfl)

theorem killSwitch_change {input : KillSwitchInput} {switchId : String}
    (ok : killSwitch before input now ids = .ok (after, switchId)) :
    Change engine before published due after := by
  obtain ⟨_, -, ok⟩ := bind_ok ok
  replace ok := rest_ok ok
  split at ok
  next =>
    cases ok
    exact .side rfl rfl rfl
  next =>
    replace ok := rest_ok ok
    cases ok
    exact .side rfl rfl rfl
  next => cases ok
  next =>
    replace ok := rest_ok (rest_ok ok)
    cases ok
    exact .side rfl rfl rfl

variable {input : PublishInput}

theorem admitPublish_ok {result : Unit}
    (ok : admitPublish engine before input candidate = .ok result) :
    candidate.row.status = .approved ∧
      candidate.row.baseHeadVersion = some candidate.head.headVersion := by
  obtain ⟨_, approved, ok⟩ := bind_ok ok
  replace ok := rest_ok ok
  obtain ⟨_, based, ok⟩ := bind_ok ok
  exact ⟨ensure_ok.mp approved, (ensure_ok.mp based).2.2.1⟩

theorem publish_change {result : PublishResult}
    (ok : publish engine before input now ids = .ok (after, result)) :
    Change engine before (findPolicy before input.policyId input.version).toOption due after := by
  obtain ⟨occurredAt, -, ok⟩ := bind_ok ok
  obtain ⟨candidate, loaded, ok⟩ := bind_ok ok
  obtain ⟨_, admitted, ok⟩ := bind_ok ok
  replace ok := rest_ok ok
  obtain ⟨_, switch, ok⟩ := bind_ok ok
  obtain ⟨_, -, ok⟩ := bind_ok ok
  obtain ⟨_, written, ok⟩ := bind_ok ok
  cases ok
  obtain ⟨found, -, head, -⟩ := loadCandidate_ok loaded
  obtain ⟨approved, based⟩ := admitPublish_ok admitted
  rw [found]
  have isLoaded : Loaded engine before (publishMove engine candidate occurredAt) :=
    ⟨(findPolicy_ok found).1, head⟩
  have isAdmitted : Admitted before (publishMove engine candidate occurredAt) :=
    ⟨approved, based, ensure_ok.mp switch⟩
  unfold applyPublish at written
  split at written
  next early =>
    refine .scheduled _ ids.jobId rfl isLoaded isAdmitted ?_ (schedule_ok written)
    -- without an approved time the publish would be due at once
    cases time : candidate.row.activateAt with
    | none => simp [publishMove, time] at early
    | some activateAt => simp [publishMove, time]
  next => exact .published _ rfl isLoaded isAdmitted (activateHead_ok written)

theorem findDueJob_ok {occurredAt : Instant} {job : JobRow}
    (ok : findDueJob before row occurredAt = .ok job) :
    row.status = .scheduled ∧ job ∈ before.jobs ∧ job.policyId = row.policyId ∧
      job.policyVersion = row.version ∧ job.isOpen = true := by
  obtain ⟨_, scheduled, ok⟩ := bind_ok ok
  obtain ⟨found, first, ok⟩ := bind_ok ok
  obtain ⟨_, isOpen, ok⟩ := bind_ok ok
  replace ok := rest_ok ok
  cases ok
  have first := orFail_ok.mp first
  have named : job.policyId = row.policyId ∧ job.policyVersion = row.version := by
    simpa using find?_some first
  exact ⟨ensure_ok.mp scheduled, mem_of_find?_eq_some first, named.1, named.2, ensure_ok.mp isOpen⟩

theorem activateDue_change {input : ActivateDueInput} {result : PublishResult}
    (ok : activateDue engine before input now = .ok (after, result)) :
    Change engine before published (findPolicy before input.policyId input.version).toOption
      after := by
  obtain ⟨occurredAt, -, ok⟩ := bind_ok ok
  obtain ⟨row, found, ok⟩ := bind_ok ok
  obtain ⟨job, isDue, ok⟩ := bind_ok ok
  obtain ⟨compiled, -, ok⟩ := bind_ok ok
  replace ok := rest_ok ok
  obtain ⟨_, -, ok⟩ := bind_ok ok
  obtain ⟨_, written, ok⟩ := bind_ok ok
  cases ok
  obtain ⟨scheduled, queued, policyId, version, isOpen⟩ := findDueJob_ok isDue
  rw [found]
  exact .activated (activationMove engine row compiled (loadHead engine before row.scopeKey) job
    occurredAt) job input.leaseOwner rfl ⟨(findPolicy_ok found).1, rfl⟩
    ⟨scheduled, queued, policyId, version, isOpen⟩ (activateHead_ok written)

end Commands

/-! ## Steps -/

def publishedBy (store : PolicyStore) : LifecycleCommand → Option PolicyRow
  | .publish input => (findPolicy store input.policyId input.version).toOption
  | _ => none

def dueBy (store : PolicyStore) : LifecycleCommand → Option PolicyRow
  | .activateDue input => (findPolicy store input.policyId input.version).toOption
  | _ => none

def PolicyStudio.commandOf (studio : PolicyStudio) : StudioStep → Option LifecycleCommand
  | .command command _ _ =>
      if (findLifecycleReceipt studio command).isNone then some command else none
  | .attempt jobId leaseOwner _ now _ =>
      match studio.store.jobs.find? fun job => job.id == jobId with
      | none => none
      | some job =>
          if (findLifecycleReceipt studio (activationOf job leaseOwner now)).isNone then
            some (activationOf job leaseOwner now)
          else none
  | _ => none

def PolicyStudio.publishes (studio : PolicyStudio) (step : StudioStep) : Option PolicyRow :=
  (studio.commandOf step).bind (publishedBy studio.store)

def PolicyStudio.activates (studio : PolicyStudio) (step : StudioStep) : Option PolicyRow :=
  (studio.commandOf step).bind (dueBy studio.store)

variable {response : LifecycleResponse}

/-- A response is wrapped around the result of its handler. -/
theorem response_ok {α : Type} {result : Except LifecycleError (PolicyStore × α)}
    {wrap : α → LifecycleResponse}
    (ok : result.map (Prod.map id wrap) = .ok (after, response)) :
    ∃ value, result = .ok (after, value) ∧ response = wrap value := by
  cases result with
  | error failure => cases ok
  | ok found =>
      cases ok
      exact ⟨found.2, rfl, rfl⟩

variable {now : Instant} {command : LifecycleCommand}

theorem handle_change {before : PolicyStore} {ids : NewIds} (keyed : Keyed before)
    (ok : handle engine before command now ids = .ok (after, response)) :
    Change engine before (publishedBy before command) (dueBy before command) after := by
  cases command with
  | createDraft input =>
      obtain ⟨_, done, -⟩ := response_ok ok
      exact createDraft_change done
  | amendDraft input =>
      obtain ⟨_, done, -⟩ := response_ok ok
      exact amendDraft_change done
  | runTests input =>
      obtain ⟨_, done, -⟩ := response_ok ok
      exact runTests_change keyed done
  | submit input =>
      obtain ⟨_, done, -⟩ := response_ok ok
      exact submit_change done
  | finalizeApproval input =>
      obtain ⟨_, done, -⟩ := response_ok ok
      exact finalizeApproval_change done
  | publish input =>
      obtain ⟨_, done, -⟩ := response_ok ok
      exact publish_change done
  | activateDue input =>
      obtain ⟨_, done, -⟩ := response_ok ok
      exact activateDue_change done
  | rollback input =>
      obtain ⟨_, done, -⟩ := response_ok ok
      exact rollback_change done
  | killSwitch input =>
      obtain ⟨_, done, -⟩ := response_ok ok
      exact killSwitch_change done

variable {options : StudioOptions} {studio after : PolicyStudio}

/-- A command changes the store as its handler does, and a replay changes nothing. -/
theorem perform_change {ids : NewIds} (keyed : Keyed studio.store)
    (ok : perform options studio command now ids = .ok (after, response))
    {published due : Option PolicyRow}
    (publishes : (findLifecycleReceipt studio command).isNone = true →
      published = publishedBy studio.store command)
    (activates : (findLifecycleReceipt studio command).isNone = true →
      due = dueBy studio.store command) :
    Change options.engine studio.store published due after.store := by
  replace ok := rest_ok ok
  cases replay : findLifecycleReceipt studio command with
  | some receipt =>
      rw [replay] at ok
      replace ok := rest_ok ok
      cases ok
      exact .side rfl rfl rfl
  | none =>
      rw [replay] at ok publishes activates
      obtain ⟨⟨store, _⟩, handled, ok⟩ := bind_ok ok
      cases ok
      rw [publishes rfl, activates rfl]
      exact handle_change keyed handled

theorem claimJob_change {leaseOwner : String} {published due : Option PolicyRow}
    (keyed : Keyed studio.store)
    (taken : claimJob options studio jobId leaseOwner now = some after) :
    Change options.engine studio.store published due after.store := by
  unfold claimJob at taken
  split at taken
  next => cases taken
  next job found =>
    split at taken
    next ready =>
      cases taken
      refine .worked rfl rfl _ rfl ?_
      intro other mem
      have isOpen : job.isOpen = true := by
        rw [Bool.and_eq_true, Bool.and_eq_true] at ready
        exact ready.1.1
      split
      next same =>
        have this : other = job := Table.eq_of_key_eq keyed.jobs mem
          (mem_of_find?_eq_some found)
          (same.trans (by simpa using find?_some found : job.id = jobId).symm)
        exact ⟨rfl, rfl, rfl, rfl, fun _ => this ▸ isOpen⟩
      next => exact ⟨rfl, rfl, rfl, rfl, id⟩
    next => cases taken

theorem failJob_worked (options : StudioOptions) (attempts : Nat) (now : Instant) (job : JobRow) :
    Worked job (failJob options attempts now job) := by
  unfold failJob
  split
  next => exact ⟨rfl, rfl, rfl, rfl, id⟩
  next claimed =>
    have isOpen : job.isOpen = true := by
      have claimed : job.state = .claimed := by simpa using claimed
      simp [JobRow.isOpen, claimed]
    split
    next => exact ⟨rfl, rfl, rfl, rfl, fun _ => isOpen⟩
    next => exact ⟨rfl, rfl, rfl, rfl, fun _ => isOpen⟩

theorem next_change {step : StudioStep} (keyed : Keyed studio.store)
    (taken : studio.next options step = some after) :
    Change options.engine studio.store (studio.publishes step) (studio.activates step)
      after.store := by
  cases step with
  | command command now ids =>
      rw [PolicyStudio.next] at taken
      split at taken
      next _ ok =>
        cases taken
        apply perform_change keyed ok
        · intro new
          simp [publishes, commandOf, new]
        · intro new
          simp [activates, commandOf, new]
      next => cases taken
  | vote input diffClass now voteId =>
      rw [PolicyStudio.next, castVote] at taken
      split at taken
      next => cases taken
      cases taken
      exact .side rfl rfl rfl
  | claim jobId leaseOwner now => exact claimJob_change keyed taken
  | attempt jobId leaseOwner attempts now ids =>
      rw [PolicyStudio.next, attemptJob] at taken
      split at taken
      next => cases taken
      next job found =>
        split at taken
        next _ ok =>
          cases taken
          apply perform_change keyed ok
          · intro new
            simp [publishes, commandOf, found, new]
          · intro new
            simp [activates, commandOf, found, new]
        next =>
          cases taken
          refine .worked rfl rfl _ rfl ?_
          intro other _
          split
          next => exact failJob_worked options _ now other
          next => exact ⟨rfl, rfl, rfl, rfl, id⟩
  | freeze frozen =>
      cases taken
      exact .side rfl rfl rfl

end DContact.Governance

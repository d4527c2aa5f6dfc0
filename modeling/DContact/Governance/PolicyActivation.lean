import DContact.Governance.PolicyChange

/-!
# Activation against the reviewed head

A version is reviewed with a diff against the head of its scope. The invariant below
says that a stamp which carries the version of the present head was computed against
its content, and that every open schedule still meets the head it was reviewed with.
Publishing checks the stamp; a due activation does not, and relies on schedules being
cancelled whenever the head moves.
-/

namespace DContact.Governance

open Lib List Table JobRow

/-! ## The invariant -/

def headContent (engine : PolicyEngine) (store : PolicyStore) (scopeKey : String) :
    Except LifecycleError (Option PolicyContent) :=
  loadHeadContent engine store (loadHead engine store scopeKey)

/-- The stamps of a version were computed against the present head of its scope. -/
structure Reviewed (engine : PolicyEngine) (store : PolicyStore) (row : PolicyRow) : Prop where
  digest : row.baseHeadDigest = some (loadHead engine store row.scopeKey).headDigest
  diff : ∃ base compiled, headContent engine store row.scopeKey = .ok base ∧
    compileRow engine row = .ok compiled ∧
    row.diffClass = some (classifyCg4PolicyDiff base compiled).diffClass

/-- A version that waits for its job, against the head it was reviewed with. -/
structure Awaits (engine : PolicyEngine) (store : PolicyStore) (job : JobRow) (row : PolicyRow) :
    Prop where
  policyId : row.policyId = job.policyId
  version : row.version = job.policyVersion
  scopeKey : row.scopeKey = job.scopeKey
  scheduled : row.status = .scheduled
  reviewed : Reviewed engine store row
  mark : ∀ head, headOf store.heads row.scopeKey = some head →
    head.nextActivationAt = row.activateAt

structure Sound (engine : PolicyEngine) (store : PolicyStore) : Prop where
  keyed : Keyed store
  heads : ∀ scopeKey head, headOf store.heads scopeKey = some head →
    ∃ row ∈ store.policies, row.id = head.policyRevisionId ∧ row.scopeKey = scopeKey ∧
      row.status = .active
  stamps : ∀ row ∈ store.policies, ∀ version, row.baseHeadVersion = some version →
    version ≤ (loadHead engine store row.scopeKey).headVersion ∧
      (version = (loadHead engine store row.scopeKey).headVersion → Reviewed engine store row)
  waiting : ∀ job ∈ store.jobs, job.isOpen = true → ∃ row ∈ store.policies, Awaits engine store job row
  oneOpen : ∀ job ∈ store.jobs, ∀ other ∈ store.jobs, job.isOpen = true → other.isOpen = true →
    job.scopeKey = other.scopeKey → job.id = other.id

theorem sound_empty (engine : PolicyEngine) : Sound engine PolicyStore.empty where
  keyed := ⟨.nil, .nil, .nil, .nil⟩
  heads := by simp [PolicyStore.empty, headOf]
  stamps := by simp [PolicyStore.empty]
  waiting := by simp [PolicyStore.empty]
  oneOpen := by simp [PolicyStore.empty]

/-! ## Frames -/

variable {scopeKey : String} {store : PolicyStore} {row : PolicyRow} {engine : PolicyEngine}

section Frame

variable {engine : PolicyEngine} {before after : PolicyStore}

theorem loadHead_eq (same : headOf after.heads scopeKey = headOf before.heads scopeKey) :
    loadHead engine after scopeKey = loadHead engine before scopeKey := by
  have same : after.findHead scopeKey = before.findHead scopeKey := same
  rw [loadHead, loadHead, same]

theorem loadHead_some {head : HeadRow} (found : headOf store.heads scopeKey = some head) :
    loadHead engine store scopeKey = ⟨head.headVersion, head.headDigest,
      some ⟨head.policyId, head.policyVersion, head.policyRevisionId⟩⟩ := by
  have found : store.findHead scopeKey = some head := found
  rw [loadHead, found]

theorem loadHead_none (absent : headOf store.heads scopeKey = none) :
    loadHead engine store scopeKey = ⟨0, engine.digest .emptyHead, none⟩ := by
  have absent : store.findHead scopeKey = none := absent
  rw [loadHead, absent]

theorem Sound.current (sound : Sound engine before) {ref : HeadRef}
    (points : (loadHead engine before scopeKey).current = some ref) :
    ∃ row ∈ before.policies, row.id = ref.revisionId ∧ row.scopeKey = scopeKey ∧
      row.status = .active := by
  cases found : headOf before.heads scopeKey with
  | none => simp [loadHead_none found] at points
  | some head =>
      obtain ⟨row, mem, same, scope, active⟩ := sound.heads scopeKey head found
      rw [loadHead_some found] at points
      cases points
      exact ⟨row, mem, same, scope, active⟩

/-- The content of a head is that of an active version, so it lasts while active
versions keep theirs and the head points at the same one. -/
theorem headContent_eq (sound : Sound engine before) (keyed : Keyed after)
    (persist : ∀ row ∈ before.policies, row.status = .active →
      ∃ kept ∈ after.policies, kept.core = row.core)
    (current : (loadHead engine after scopeKey).current =
      (loadHead engine before scopeKey).current) :
    headContent engine after scopeKey = headContent engine before scopeKey := by
  unfold headContent loadHeadContent
  rw [current]
  cases points : (loadHead engine before scopeKey).current with
  | none => rfl
  | some ref =>
      obtain ⟨row, mem, same, -, active⟩ := sound.current points
      obtain ⟨kept, present, core⟩ := persist row mem active
      have foundBefore := find?_of_member sound.keyed.ids mem same
      have foundAfter := find?_of_member keyed.ids present ((core_id core).trans same)
      simp only [foundBefore, foundAfter, core_content core, core_version core]

theorem Reviewed.frame (sound : Sound engine before) (keyed : Keyed after)
    (persist : ∀ row ∈ before.policies, row.status = .active →
      ∃ kept ∈ after.policies, kept.core = row.core) {kept : PolicyRow}
    (digest : (loadHead engine after row.scopeKey).headDigest =
      (loadHead engine before row.scopeKey).headDigest)
    (current : (loadHead engine after row.scopeKey).current =
      (loadHead engine before row.scopeKey).current)
    (core : kept.core = row.core) (reviewed : Reviewed engine before row) :
    Reviewed engine after kept := by
  obtain ⟨base, compiled, content, compiles, diffed⟩ := reviewed.diff
  refine ⟨?_, base, compiled, ?_, ?_, ?_⟩
  · rw [core_baseHeadDigest core, core_scopeKey core, digest]
    exact reviewed.digest
  · rw [core_scopeKey core, headContent_eq sound keyed persist current]
    exact content
  · rw [compileRow_core core]
    exact compiles
  · rw [core_diffClass core]
    exact diffed

/-- Stamps stay right while the head of a scope is the same or its version grows. -/
theorem stamps_frame (sound : Sound engine before) (keyed : Keyed after)
    (persist : ∀ row ∈ before.policies, row.status = .active →
      ∃ kept ∈ after.policies, kept.core = row.core)
    (heads : ∀ scopeKey, loadHead engine after scopeKey = loadHead engine before scopeKey ∨
      (loadHead engine after scopeKey).headVersion =
        (loadHead engine before scopeKey).headVersion + 1)
    (rows : ∀ row ∈ after.policies, row.baseHeadVersion = none ∨
      (∃ old ∈ before.policies, row.core = old.core) ∨
      (row.baseHeadVersion = some (loadHead engine after row.scopeKey).headVersion ∧
        Reviewed engine after row)) :
    ∀ row ∈ after.policies, ∀ version, row.baseHeadVersion = some version →
      version ≤ (loadHead engine after row.scopeKey).headVersion ∧
        (version = (loadHead engine after row.scopeKey).headVersion → Reviewed engine after row) := by
  intro row mem version stamped
  rcases rows row mem with none | ⟨old, present, core⟩ | ⟨now, reviewed⟩
  · rw [none] at stamped
    cases stamped
  · obtain ⟨bound, fresh⟩ := sound.stamps old present version (core_baseHeadVersion core ▸ stamped)
    rw [core_scopeKey core]
    rcases heads old.scopeKey with same | grown
    · rw [same]
      refine ⟨bound, fun present => ?_⟩
      exact (fresh present).frame sound keyed persist (by rw [same]) (by rw [same]) core
    · rw [grown]
      exact ⟨by omega, fun present => by omega⟩
  · rw [now] at stamped
    cases stamped
    exact ⟨le_rfl, fun _ => reviewed⟩

end Frame

/-! ## Keys -/

structure SameVersion (row after : PolicyRow) : Prop where
  id : after.id = row.id
  policyId : after.policyId = row.policyId
  version : after.version = row.version
  scopeKey : after.scopeKey = row.scopeKey

theorem SameVersion.of_core {after : PolicyRow} (core : after.core = row.core) :
    SameVersion row after :=
  ⟨core_id core, core_policyId core, core_version core, core_scopeKey core⟩

theorem Edit.sameVersion {after : PolicyRow}
    (edit : Edit engine store row after) : SameVersion row after := by
  cases edit with
  | reviewed core => exact .of_core core
  | _ => exact ⟨rfl, rfl, rfl, rfl⟩

variable {jobs : List JobRow} {move : HeadMove} {jobId : String} {published due : Option PolicyRow}

section Keys

variable {before after : PolicyStore}

theorem jobIds_rewrite {rewrite : JobRow → JobRow}
    (same : ∀ job ∈ jobs, (rewrite job).id = job.id) :
    (jobs.map rewrite).map JobRow.id = jobs.map JobRow.id := by
  rw [map_map]
  exact map_congr_left same

theorem Keyed.rewrite (keyed : Keyed before) {rewrite : PolicyRow → PolicyRow}
    (policies : after.policies = before.policies.map rewrite)
    (same : ∀ row ∈ before.policies, SameVersion row (rewrite row))
    (heads : (after.heads.map HeadRow.scopeKey).Nodup) (jobs : (after.jobs.map JobRow.id).Nodup) :
    Keyed after where
  ids := by
    rw [policies, map_map, Function.comp_def, map_congr_left fun row mem => (same row mem).id]
    exact keyed.ids
  versions := by
    rw [policies, map_map, Function.comp_def, map_congr_left fun row mem =>
      congrArg₂ Prod.mk (same row mem).policyId (same row mem).version]
    exact keyed.versions
  heads := heads
  jobs := jobs

theorem cancelSchedules_ids (scopeKey : String) (version : Nat) (occurredAt : Instant)
    (jobs : List JobRow) :
    (cancelSchedules scopeKey version occurredAt jobs).map JobRow.id = jobs.map JobRow.id := by
  apply jobIds_rewrite
  intro job _
  split <;> rfl

theorem completeJob_ids (job : JobRow) (leaseOwner : String) (occurredAt : Instant)
    (jobs : List JobRow) :
    (completeJob job leaseOwner occurredAt jobs).map JobRow.id = jobs.map JobRow.id := by
  apply map_key_update
  intro current
  split <;> rfl

/-- An open job after the cancellation was there before and carries the version number. -/
theorem mem_cancelSchedules {version : Nat} {occurredAt : Instant} {job : JobRow}
    (mem : job ∈ cancelSchedules scopeKey version occurredAt jobs) (isOpen : job.isOpen = true) :
    job ∈ jobs ∧ (job.scopeKey = scopeKey → job.policyVersion = version) := by
  obtain ⟨old, present, rfl⟩ := mem_map.mp mem
  by_cases cancelled : old.scopeKey = scopeKey ∧ old.isOpen = true ∧ old.policyVersion ≠ version
  · rw [if_pos cancelled] at isOpen
    simp [JobRow.isOpen] at isOpen
  · rw [if_neg cancelled] at isOpen ⊢
    refine ⟨present, fun here => ?_⟩
    by_contra different
    exact cancelled ⟨here, isOpen, different⟩

theorem mem_completeJob {job other : JobRow} {leaseOwner : String} {occurredAt : Instant}
    (distinct : (jobs.map JobRow.id).Nodup) (queued : job ∈ jobs)
    (mem : other ∈ completeJob job leaseOwner occurredAt jobs) (isOpen : other.isOpen = true) :
    other ∈ jobs ∧ other.id ≠ job.id := by
  obtain ⟨old, present, rfl⟩ := mem_update.mp mem
  by_cases same : old.id = job.id
  · have this : old = job := eq_of_key_eq distinct present queued same
    rw [if_pos same, if_pos (congrArg JobRow.state this)] at isOpen
    simp [JobRow.isOpen] at isOpen
  · rw [if_neg same] at isOpen ⊢
    exact ⟨present, same⟩

theorem Activated.keyed (written : Activated engine { before with jobs := jobs } move after)
    (keyed : Keyed before)
    (ids : jobs.map JobRow.id = before.jobs.map JobRow.id) : Keyed after := by
  refine keyed.rewrite written.policies (fun row _ => .of_core (moved_core move row).1)
    (written.heads.nodup keyed.heads) ?_
  rw [written.jobs, cancelSchedules_ids, ids]
  exact keyed.jobs

theorem scheduledRow_core (rowId : String) (row : PolicyRow) :
    (scheduledRow rowId row).core = row.core ∧ (scheduledRow rowId row).activateAt = row.activateAt := by
  unfold scheduledRow rewriteWhere
  split
  next => split <;> exact ⟨rfl, rfl⟩
  next => exact ⟨rfl, rfl⟩

theorem Scheduled.keyed
    (written : Scheduled before move jobId after) (keyed : Keyed before) : Keyed after := by
  refine keyed.rewrite written.policies (fun row _ => .of_core (scheduledRow_core _ row).1) ?_ ?_
  · obtain ⟨_, -, marked⟩ := written.marked
    exact marked.nodup keyed.heads
  · rw [written.jobs]
    exact nodup_append keyed.jobs written.fresh

theorem Keyed.change (keyed : Keyed before)
    (change : Change engine before published due after) : Keyed after := by
  cases change with
  | side policies heads jobs =>
      exact ⟨by rw [policies]; exact keyed.ids, by rw [policies]; exact keyed.versions,
        by rw [heads]; exact keyed.heads, by rw [jobs]; exact keyed.jobs⟩
  | worked policies heads rewrite jobs keeps =>
      refine ⟨by rw [policies]; exact keyed.ids, by rw [policies]; exact keyed.versions,
        by rw [heads]; exact keyed.heads, ?_⟩
      rw [jobs, jobIds_rewrite fun job mem => (keeps job mem).id]
      exact keyed.jobs
  | drafted row policies heads jobs id version =>
      refine ⟨?_, ?_, by rw [heads]; exact keyed.heads, by rw [jobs]; exact keyed.jobs⟩
      · rw [policies]
        exact nodup_append keyed.ids id
      · rw [policies]
        exact nodup_append keyed.versions version
  | edited rewrite policies heads jobs edits =>
      exact keyed.rewrite policies (fun row mem => (edits row mem).sameVersion)
        (by rw [heads]; exact keyed.heads) (by rw [jobs]; exact keyed.jobs)
  | scheduled move jobId _ _ _ _ written => exact written.keyed keyed
  | published move _ _ _ written =>
      exact written.keyed keyed rfl
  | activated move job leaseOwner _ _ _ written =>
      exact written.keyed keyed (completeJob_ids job leaseOwner move.occurredAt before.jobs)

end Keys

/-! ## Steps that leave the heads alone -/

section Steps

variable {engine : PolicyEngine} {before after : PolicyStore}

theorem Edit.settled {edited : PolicyRow} (edit : Edit engine before row edited)
    (settled : row.status = .active ∨ row.status = .scheduled) : edited = row := by
  cases edit with
  | untouched => rfl
  | amended _ draft => simp [draft] at settled
  | stamped _ _ _ _ draft => simp [draft] at settled
  | reviewed _ source => rcases source with source | source <;> simp [source] at settled

/-- The invariant while no head moves: rows that are active or scheduled stay, every
stamp is an old one or fresh, and no job opens. -/
theorem Sound.sameHeads (sound : Sound engine before) (keyed : Keyed after)
    (heads : after.heads = before.heads)
    (settled : ∀ row ∈ before.policies, row.status = .active ∨ row.status = .scheduled →
      row ∈ after.policies)
    (rows : ∀ row ∈ after.policies, row.baseHeadVersion = none ∨
      (∃ old ∈ before.policies, row.core = old.core) ∨
      (row.baseHeadVersion = some (loadHead engine before row.scopeKey).headVersion ∧
        Reviewed engine before row))
    (jobs : ∀ job ∈ after.jobs, ∃ old ∈ before.jobs, Worked old job) : Sound engine after := by
  have same : ∀ scopeKey, loadHead engine after scopeKey = loadHead engine before scopeKey :=
    fun scopeKey => loadHead_eq (by rw [heads])
  have persist : ∀ row ∈ before.policies, row.status = .active →
      ∃ kept ∈ after.policies, kept.core = row.core :=
    fun row mem active => ⟨row, settled row mem (.inl active), rfl⟩
  have frame : ∀ row, Reviewed engine before row → Reviewed engine after row :=
    fun row reviewed => reviewed.frame sound keyed persist (by rw [same]) (by rw [same]) rfl
  refine ⟨keyed, ?_, ?_, ?_, ?_⟩
  · intro scopeKey head found
    rw [heads] at found
    obtain ⟨row, mem, id, scope, active⟩ := sound.heads scopeKey head found
    exact ⟨row, settled row mem (.inl active), id, scope, active⟩
  · apply stamps_frame sound keyed persist (fun scopeKey => .inl (same scopeKey))
    intro row mem
    rcases rows row mem with none | old | ⟨now, reviewed⟩
    · exact .inl none
    · exact .inr (.inl old)
    · exact .inr (.inr ⟨by rw [same, now], frame row reviewed⟩)
  · intro job mem isOpen
    obtain ⟨old, present, worked⟩ := jobs job mem
    obtain ⟨row, there, awaits⟩ := sound.waiting old present (worked.isOpen isOpen)
    refine ⟨row, settled row there (.inr awaits.scheduled), ?_⟩
    exact ⟨awaits.policyId.trans worked.policyId.symm,
      awaits.version.trans worked.policyVersion.symm, awaits.scopeKey.trans worked.scopeKey.symm,
      awaits.scheduled, frame row awaits.reviewed, by rw [heads]; exact awaits.mark⟩
  · intro job mem other member' isOpen isOpen' scope
    obtain ⟨old, present, worked⟩ := jobs job mem
    obtain ⟨old', present', worked'⟩ := jobs other member'
    rw [worked.id, worked'.id]
    apply sound.oneOpen old present old' present' (worked.isOpen isOpen) (worked'.isOpen isOpen')
    rw [← worked.scopeKey, ← worked'.scopeKey]
    exact scope

theorem Worked.refl (job : JobRow) : Worked job job :=
  ⟨rfl, rfl, rfl, rfl, fun isOpen => isOpen⟩

theorem Sound.worked (sound : Sound engine before) (keyed : Keyed after)
    (policies : after.policies = before.policies) (heads : after.heads = before.heads)
    (jobs : ∀ job ∈ after.jobs, ∃ old ∈ before.jobs, Worked old job) : Sound engine after := by
  refine sound.sameHeads keyed heads ?_ ?_ jobs
  · intro row mem _
    rwa [policies]
  · intro row mem
    rw [policies] at mem
    exact .inr (.inl ⟨row, mem, rfl⟩)

theorem Sound.drafted (sound : Sound engine before) (keyed : Keyed after)
    (policies : after.policies = before.policies ++ [row]) (heads : after.heads = before.heads)
    (jobs : after.jobs = before.jobs) (unstamped : row.baseHeadVersion = none) :
    Sound engine after := by
  refine sound.sameHeads keyed heads ?_ ?_ ?_
  · intro old mem _
    rw [policies]
    exact mem_append_left _ mem
  · intro old mem
    rw [policies] at mem
    rcases mem_snoc.mp mem with present | rfl
    · exact .inr (.inl ⟨old, present, rfl⟩)
    · exact .inl unstamped
  · intro job mem
    rw [jobs] at mem
    exact ⟨job, mem, .refl job⟩

theorem Sound.edited (sound : Sound engine before) (keyed : Keyed after)
    {rewrite : PolicyRow → PolicyRow}
    (policies : after.policies = before.policies.map rewrite) (heads : after.heads = before.heads)
    (jobs : after.jobs = before.jobs)
    (edits : ∀ row ∈ before.policies, Edit engine before row (rewrite row)) :
    Sound engine after := by
  refine sound.sameHeads keyed heads ?_ ?_ ?_
  · intro row mem settled
    have kept : rewrite row = row := (edits row mem).settled settled
    rw [policies]
    exact mem_map.mpr ⟨row, mem, kept⟩
  · intro row mem
    rw [policies] at mem
    obtain ⟨old, present, rfl⟩ := mem_map.mp mem
    have edit := edits old present
    generalize rewrite old = edited at edit ⊢
    cases edit with
    | untouched => exact .inr (.inl ⟨old, present, rfl⟩)
    | amended => exact .inl rfl
    | stamped preview base compiled _ _ loaded compiles ran =>
        obtain ⟨_, -, made⟩ := Option.map_eq_some_iff.mp ran
        refine .inr (.inr ⟨rfl, rfl, base, compiled, loaded, compiles, ?_⟩)
        exact congrArg some (by rw [← made])
    | reviewed core => exact .inr (.inl ⟨old, present, core⟩)
  · intro job mem
    rw [jobs] at mem
    exact ⟨job, mem, .refl job⟩

/-! ## Scheduling -/

theorem scheduledRow_settled {rowId : String} (settled : row.status ≠ .approved) :
    scheduledRow rowId row = row := by
  simp [scheduledRow, rewriteWhere, settled]

theorem scheduledRow_candidate (approved : row.status = .approved) :
    (scheduledRow row.id row).status = .scheduled := by
  simp [scheduledRow, rewriteWhere, approved]

section
variable (written : Scheduled before move jobId after) (sound : Sound engine before)
include written sound

theorem Scheduled.headOf_after :
    ∃ current, move.head.current = some current ∧ ∀ scopeKey,
      headOf after.heads scopeKey = if scopeKey = move.row.scopeKey then
        some (markedHead move current) else headOf before.heads scopeKey := by
  obtain ⟨current, points, marked⟩ := written.marked
  exact ⟨current, points, marked.headOf_after sound.keyed.heads⟩

/-- A schedule changes no head but for its version and its mark. -/
theorem Scheduled.loadHead_kept (loaded : Loaded engine before move) (scopeKey : String) :
    (loadHead engine after scopeKey).headDigest = (loadHead engine before scopeKey).headDigest ∧
      (loadHead engine after scopeKey).current = (loadHead engine before scopeKey).current ∧
      (loadHead engine after scopeKey = loadHead engine before scopeKey ∨
        (loadHead engine after scopeKey).headVersion =
          (loadHead engine before scopeKey).headVersion + 1) := by
  obtain ⟨current, points, heads⟩ := written.headOf_after sound
  have found := heads scopeKey
  by_cases here : scopeKey = move.row.scopeKey
  · rw [if_pos here] at found
    rw [loadHead_some found, here, ← loaded.head, points]
    exact ⟨rfl, rfl, .inr rfl⟩
  · rw [if_neg here] at found
    rw [loadHead_eq found]
    exact ⟨rfl, rfl, .inl rfl⟩

theorem Scheduled.headOf_other (other : scopeKey ≠ move.row.scopeKey) :
    headOf after.heads scopeKey = headOf before.heads scopeKey := by
  obtain ⟨current, -, heads⟩ := written.headOf_after sound
  rw [heads, if_neg other]

/-- The head of the scope carries the time of the schedule. -/
theorem Scheduled.mark {head : HeadRow} (found : headOf after.heads move.row.scopeKey = some head) :
    head.nextActivationAt = some move.activateAt := by
  obtain ⟨current, -, heads⟩ := written.headOf_after sound
  rw [heads, if_pos rfl] at found
  cases found
  rfl

end

theorem Sound.scheduled (sound : Sound engine before)
    (loaded : Loaded engine before move) (admitted : Admitted before move)
    (time : move.row.activateAt = some move.activateAt)
    (written : Scheduled before move jobId after) : Sound engine after := by
  have keyed : Keyed after := written.keyed sound.keyed
  have present : ∀ row ∈ before.policies, scheduledRow move.row.id row ∈ after.policies := by
    intro row mem
    rw [written.policies]
    exact mem_map_of_mem mem
  have settled : ∀ row ∈ before.policies, row.status ≠ .approved → row ∈ after.policies := by
    intro row mem apart
    have there := present row mem
    rwa [scheduledRow_settled apart] at there
  have persist : ∀ row ∈ before.policies, row.status = .active →
      ∃ kept ∈ after.policies, kept.core = row.core :=
    fun row mem _ => ⟨_, present row mem, (scheduledRow_core _ row).1⟩
  have frame : ∀ row kept : PolicyRow, kept.core = row.core → Reviewed engine before row →
      Reviewed engine after kept := by
    intro row kept core reviewed
    obtain ⟨digest, current, -⟩ := written.loadHead_kept sound loaded row.scopeKey
    exact reviewed.frame sound keyed persist digest current core
  refine ⟨keyed, ?_, ?_, ?_, ?_⟩
  · intro scopeKey head found
    have points : (loadHead engine before scopeKey).current =
        some ⟨head.policyId, head.policyVersion, head.policyRevisionId⟩ := by
      rw [← (written.loadHead_kept sound loaded scopeKey).2.1, loadHead_some found]
    obtain ⟨row, mem, id, scope, active⟩ := sound.current points
    exact ⟨row, settled row mem (by simp [active]), id, scope, active⟩
  · apply stamps_frame sound keyed persist
      (fun scopeKey => (written.loadHead_kept sound loaded scopeKey).2.2)
    intro row mem
    rw [written.policies] at mem
    obtain ⟨old, there, rfl⟩ := mem_map.mp mem
    exact .inr (.inl ⟨old, there, (scheduledRow_core _ old).1⟩)
  · intro job mem isOpen
    rw [written.jobs] at mem
    rcases mem_append.mp mem with queued | new
    · -- an open job from before is on another scope, where nothing has moved
      obtain ⟨row, there, awaits⟩ := sound.waiting job queued isOpen
      have other : row.scopeKey ≠ move.row.scopeKey := by
        rw [awaits.scopeKey]
        exact written.free job queued isOpen
      refine ⟨row, settled row there (by simp [awaits.scheduled]), awaits.policyId, awaits.version,
        awaits.scopeKey, awaits.scheduled, frame row row rfl awaits.reviewed, ?_⟩
      rw [written.headOf_other sound other]
      exact awaits.mark
    · -- the new job waits with the version that has just been checked
      rw [mem_singleton.mp new]
      obtain ⟨core, kept⟩ := scheduledRow_core move.row.id move.row
      have stamped := (sound.stamps move.row loaded.row _ admitted.baseHeadVersion).2
        (by rw [loaded.head])
      refine ⟨_, present move.row loaded.row, core_policyId core, core_version core,
        core_scopeKey core, scheduledRow_candidate admitted.approved,
        frame move.row _ core stamped, ?_⟩
      intro head found
      rw [core_scopeKey core] at found
      rw [kept, time]
      exact written.mark sound found
  · intro job mem other member' isOpen isOpen' scope
    rw [written.jobs] at mem member'
    rcases mem_append.mp mem with queued | new <;>
      rcases mem_append.mp member' with queued' | new'
    · exact sound.oneOpen job queued other queued' isOpen isOpen' scope
    · rw [mem_singleton.mp new'] at scope
      exact absurd scope (written.free job queued isOpen)
    · rw [mem_singleton.mp new] at scope
      exact absurd scope.symm (written.free other queued' isOpen')
    · rw [mem_singleton.mp new, mem_singleton.mp new']

/-! ## Activating -/

theorem Activated.headOf_after (written : Activated engine before move after)
    (distinct : (before.heads.map HeadRow.scopeKey).Nodup) (scopeKey : String) :
    headOf after.heads scopeKey = if scopeKey = move.row.scopeKey then
      some (activatedHead engine move) else headOf before.heads scopeKey :=
  written.heads.headOf_after distinct scopeKey

/-- An activation keeps the invariant when it leaves no open job on its scope. -/
theorem Sound.activated (sound : Sound engine before) (keyed : Keyed after)
    (loaded : Loaded engine before move)
    (waits : move.row.status = .approved ∨ move.row.status = .scheduled)
    (written : Activated engine { before with jobs := jobs } move after)
    (released : ∀ job ∈ after.jobs, job.isOpen = true →
      job ∈ before.jobs ∧ job.scopeKey ≠ move.row.scopeKey) : Sound engine after := by
  have moved_mem : ∀ row ∈ before.policies, moved move row ∈ after.policies := by
    intro row mem
    rw [written.policies]
    exact mem_map_of_mem mem
  have persist : ∀ row ∈ before.policies, row.status = .active →
      ∃ kept ∈ after.policies, kept.core = row.core :=
    fun row mem _ => ⟨_, moved_mem row mem, (moved_core move row).1⟩
  -- a version of another scope is neither on the move nor superseded
  have elsewhere : ∀ row ∈ before.policies, row.scopeKey ≠ move.row.scopeKey →
      row ∈ after.policies := by
    intro row mem other
    have there := moved_mem row mem
    have apart : row.id ≠ move.row.id := by
      intro same
      exact other (congrArg PolicyRow.scopeKey
        (eq_of_key_eq sound.keyed.ids mem loaded.row same))
    have away : ∀ current, move.head.current = some current → row.id ≠ current.revisionId := by
      intro current points same
      rw [loaded.head] at points
      obtain ⟨active, present, id, scope, -⟩ := sound.current points
      have this : row = active := eq_of_key_eq sound.keyed.ids mem present
        (same.trans id.symm)
      exact other (this ▸ scope)
    rwa [moved_other apart away] at there
  have head := written.headOf_after sound.keyed.heads
  refine ⟨keyed, ?_, ?_, ?_, ?_⟩
  · intro scopeKey found known
    rw [head] at known
    by_cases here : scopeKey = move.row.scopeKey
    · rw [if_pos here] at known
      cases known
      refine ⟨_, moved_mem move.row loaded.row, core_id (moved_core move move.row).1, ?_,
        moved_candidate rfl waits⟩
      rw [core_scopeKey (moved_core move move.row).1, here]
    · rw [if_neg here] at known
      obtain ⟨row, mem, id, scope, active⟩ := sound.heads scopeKey found known
      exact ⟨row, elsewhere row mem (scope ▸ here), id, scope, active⟩
  · apply stamps_frame sound keyed persist
    · intro scopeKey
      by_cases here : scopeKey = move.row.scopeKey
      · right
        have known := head scopeKey
        rw [if_pos here] at known
        rw [loadHead_some known, here, ← loaded.head]
        rfl
      · left
        exact loadHead_eq (by rw [head, if_neg here])
    · intro row mem
      rw [written.policies] at mem
      obtain ⟨old, there, rfl⟩ := mem_map.mp mem
      exact .inr (.inl ⟨old, there, (moved_core move old).1⟩)
  · intro job mem isOpen
    obtain ⟨queued, other⟩ := released job mem isOpen
    obtain ⟨row, there, awaits⟩ := sound.waiting job queued isOpen
    have scope : row.scopeKey ≠ move.row.scopeKey := awaits.scopeKey ▸ other
    have same : headOf after.heads row.scopeKey = headOf before.heads row.scopeKey := by
      rw [head, if_neg scope]
    have loads : loadHead engine after row.scopeKey = loadHead engine before row.scopeKey :=
      loadHead_eq same
    refine ⟨row, elsewhere row there scope, awaits.policyId, awaits.version, awaits.scopeKey,
      awaits.scheduled, ?_, by rw [same]; exact awaits.mark⟩
    exact awaits.reviewed.frame sound keyed persist (by rw [loads]) (by rw [loads]) rfl
  · intro job mem other member' isOpen isOpen' scope
    exact sound.oneOpen job (released job mem isOpen).1 other (released other member' isOpen').1
      isOpen isOpen' scope

/-- No schedule of another series carries the number of the version to be published. -/
def Unrivalled (store : PolicyStore) (published : Option PolicyRow) : Prop :=
  ∀ row, published = some row → ∀ job ∈ store.jobs, job.isOpen = true →
    job.scopeKey = row.scopeKey → job.policyId ≠ row.policyId → job.policyVersion ≠ row.version

theorem Sound.change (sound : Sound engine before)
    (change : Change engine before published due after) (unrivalled : Unrivalled before published) :
    Sound engine after := by
  have keyed := sound.keyed.change change
  cases change with
  | side policies heads jobs =>
      refine sound.worked keyed policies heads ?_
      rw [jobs]
      exact fun job mem => ⟨job, mem, .refl job⟩
  | worked policies heads rewrite jobs keeps =>
      refine sound.worked keyed policies heads ?_
      intro job mem
      rw [jobs] at mem
      obtain ⟨old, present, rfl⟩ := mem_map.mp mem
      exact ⟨old, present, keeps old present⟩
  | drafted row policies heads jobs _ _ _ unstamped =>
      exact sound.drafted keyed policies heads jobs unstamped
  | edited rewrite policies heads jobs edits => exact sound.edited keyed policies heads jobs edits
  | scheduled move jobId _ loaded admitted time written =>
      exact sound.scheduled loaded admitted time written
  | published move row loaded admitted written =>
      refine sound.activated keyed loaded (.inl admitted.approved) written ?_
      intro job mem isOpen
      rw [written.jobs] at mem
      obtain ⟨queued, numbered⟩ := mem_cancelSchedules mem isOpen
      refine ⟨queued, fun here => ?_⟩
      -- a job that survives has the number of the version: it would be its own job
      by_cases series : job.policyId = move.row.policyId
      · obtain ⟨waiting, present, awaits⟩ := sound.waiting job queued isOpen
        have this : waiting = move.row := eq_of_key_eq sound.keyed.versions present loaded.row
          (Prod.ext (awaits.policyId.trans series) (awaits.version.trans (numbered here)))
        have scheduled := awaits.scheduled
        rw [this, admitted.approved] at scheduled
        cases scheduled
      · exact unrivalled move.row row job queued isOpen here series (numbered here)
  | activated move job leaseOwner row loaded found written =>
      refine sound.activated keyed loaded (.inr found.scheduled) written ?_
      intro other mem isOpen
      rw [written.jobs] at mem
      obtain ⟨left, -⟩ := mem_cancelSchedules mem isOpen
      obtain ⟨queued, apart⟩ := mem_completeJob sound.keyed.jobs found.queued left isOpen
      refine ⟨queued, fun here => apart ?_⟩
      -- the completed job was the only open one of its scope
      obtain ⟨waiting, present, awaits⟩ := sound.waiting job found.queued found.isOpen
      have this : waiting = move.row := eq_of_key_eq sound.keyed.versions present loaded.row
        (Prod.ext (awaits.policyId.trans found.policyId) (awaits.version.trans found.policyVersion))
      apply sound.oneOpen other queued job found.queued isOpen found.isOpen
      rw [here, ← awaits.scopeKey, this]

theorem Change.activation (keyed : Keyed before) (change : Change engine before published due after)
    (present : row ∈ after.policies) (active : row.status = .active)
    (new : ∀ old ∈ before.policies, old.id = row.id → old.status ≠ .active) :
    ∃ move, Loaded engine before move ∧ row.core = move.row.core ∧
      ((published = some move.row ∧ Admitted before move) ∨
        (due = some move.row ∧ ∃ job, Due before move job)) := by
  have byMove : ∀ move, after.policies = before.policies.map (moved move) →
      move.row ∈ before.policies → row.core = move.row.core := by
    intro move policies loaded
    rw [policies] at present
    obtain ⟨old, there, rfl⟩ := mem_map.mp present
    have core := (moved_core move old).1
    rcases moved_active active with was | here
    · exact absurd was (new old there (core_id core).symm)
    · rw [core, eq_of_key_eq keyed.ids there loaded here]
  have notKept : row ∉ before.policies := fun kept => new row kept rfl active
  cases change with
  | side policies | worked policies => exact absurd (policies ▸ present) notKept
  | drafted draft policies _ _ _ _ isDraft =>
      rw [policies] at present
      rcases mem_snoc.mp present with old | rfl
      · exact absurd old notKept
      · rw [isDraft] at active
        cases active
  | edited rewrite policies _ _ edits =>
      rw [policies] at present
      obtain ⟨old, there, rfl⟩ := mem_map.mp present
      have inactive := new old there (edits old there).sameVersion.id.symm
      have edit := edits old there
      generalize rewrite old = edited at edit active
      cases edit with
      | reviewed _ _ target => rcases target with reached | reached | reached <;> simp [reached] at active
      | _ => exact absurd active inactive
  | scheduled move jobId _ _ _ _ written =>
      rw [written.policies] at present
      obtain ⟨old, there, rfl⟩ := mem_map.mp present
      have inactive := new old there (core_id (scheduledRow_core _ old).1).symm
      unfold scheduledRow rewriteWhere at active
      split at active
      next =>
        split at active
        next => cases active
        next => exact absurd active inactive
      next => exact absurd active inactive
  | published move isRow loaded admitted written =>
      exact ⟨move, loaded, byMove move written.policies loaded.row, .inl ⟨isRow, admitted⟩⟩
  | activated move job leaseOwner isRow loaded found written =>
      exact ⟨move, loaded, byMove move written.policies loaded.row, .inr ⟨isRow, job, found⟩⟩

theorem Sound.activation (sound : Sound engine before)
    (change : Change engine before published due after)
    (present : row ∈ after.policies) (active : row.status = .active)
    (new : ∀ old ∈ before.policies, old.id = row.id → old.status ≠ .active) :
    Reviewed engine before row := by
  obtain ⟨move, loaded, core, admitted | due⟩ :=
    change.activation sound.keyed present active new
  · have reviewed := (sound.stamps move.row loaded.row _ admitted.2.baseHeadVersion).2
      (by rw [loaded.head])
    exact reviewed.frame sound sound.keyed (fun row mem _ => ⟨row, mem, rfl⟩) rfl rfl core
  · obtain ⟨-, job, found⟩ := due
    obtain ⟨waiting, there, awaits⟩ := sound.waiting job found.queued found.isOpen
    have this : waiting = move.row := eq_of_key_eq sound.keyed.versions there loaded.row
      (Prod.ext (awaits.policyId.trans found.policyId) (awaits.version.trans found.policyVersion))
    exact awaits.reviewed.frame sound sound.keyed (fun row mem _ => ⟨row, mem, rfl⟩) rfl rfl
      (core.trans (congrArg PolicyRow.core this.symm))

end Steps

end DContact.Governance

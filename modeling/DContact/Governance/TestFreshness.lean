import DContact.Governance.PolicySafety

/-!
# Whether a passing test can be submitted

A test run is stored under the suite and the content of its version, and a second run under that
key stores nothing. The digest that the second run returns names its head and its result as well,
so it finds an artifact only when the first run had the same ones.
-/

namespace DContact.Governance

open Lib List

/-- The key under which a test run is stored. -/
def TestArtifactRow.key (artifact : TestArtifactRow) : String × Nat × String × String :=
  (artifact.policyId, artifact.policyVersion, artifact.suiteVersion, artifact.contentDigest)

/-- What the freshness check asks of an artifact that it finds for another one. -/
def TestArtifactRow.standsFor (other artifact : TestArtifactRow) : Prop :=
  other.outcomePass = true ∧ other.contentDigest = artifact.contentDigest ∧
    other.baseHeadVersion = artifact.baseHeadVersion ∧
    other.baseHeadDigest = artifact.baseHeadDigest

def findArtifact (artifacts : List TestArtifactRow) (artifact : TestArtifactRow) :
    Option TestArtifactRow :=
  artifacts.find? fun other => other.policyId == artifact.policyId &&
    other.policyVersion == artifact.policyVersion && other.artifactDigest == artifact.artifactDigest

/-- The artifact that is found under the digest of a new one stands for it; or none is found, and
none is stored under its key. -/
def Unshadowed (artifacts : List TestArtifactRow) (artifact : TestArtifactRow) : Prop :=
  match findArtifact artifacts artifact with
  | some other => other.standsFor artifact
  | none => ∀ other ∈ artifacts, other.key ≠ artifact.key

/-- After a passing test run, in whatever state comes later, the draft with the content and the
head that were tested passes the freshness check with the digest that was returned. -/
def TestsStayFresh (options : StudioOptions) (before : PolicyStore) (input : RunTestsInput)
    (now : Instant) (ids : NewIds) : Prop :=
  ∀ after preview candidate, runTests options.engine before input now ids = .ok (after, preview) →
    loadCandidate options.engine before input.policyId input.version input.expectedContentDigest =
      .ok candidate →
    preview.run.outcomePass = true →
    ∀ studio later, studio.store = after → (studioSystem options).Reaches studio later →
      assertFreshTests later.store candidate (options.engine.digest (.content candidate.compiled))
        preview.artifactDigest = .ok ()

variable {options : StudioOptions} {before after : PolicyStore}

section Runs

variable {engine : PolicyEngine} {now : Instant} {ids : NewIds} {move : HeadMove}

theorem activateHead_artifacts (ok : activateHead engine before move = .ok after) :
    after.artifacts = before.artifacts := by
  simp only [activateHead, supersedeHead, updatePolicy, updateMany, writeHead, bind_ok_iff] at ok
  grind [bind_ok_iff]

theorem schedule_artifacts {jobId : String} (ok : schedule before move jobId = .ok after) :
    after.artifacts = before.artifacts := by
  simp only [schedule, updateMany, insertJob, markHead, writeHead, bind_ok_iff] at ok
  grind [bind_ok_iff]

theorem handle_artifacts {command : LifecycleCommand} {response : LifecycleResponse}
    (ok : handle engine before command now ids = .ok (after, response)) :
    before.artifacts <+: after.artifacts := by
  suffices (∃ input, command = .runTests input) ∨ after.artifacts = before.artifacts by
    rcases this with ⟨input, rfl⟩ | same
    · obtain ⟨preview, ok, -⟩ := response_ok ok
      obtain ⟨candidate, -, ok⟩ := bind_ok ok
      obtain ⟨_, -, ok⟩ := bind_ok ok
      cases ok
      simp only [recordTest, upsertArtifact]
      split
      next => exact prefix_rfl
      next => exact prefix_append _ _
    · exact same ▸ prefix_rfl
  cases command with
  | runTests input => exact .inl ⟨input, rfl⟩
  | activateDue input =>
      obtain ⟨_, ok, -⟩ := response_ok ok
      simp only [activateDue, applyActivation, bind_ok_iff] at ok
      obtain ⟨_, -, _, -, _, -, _, -, _, -, _, -, _, written, ok⟩ := ok
      cases ok
      have kept := activateHead_artifacts written
      exact .inr kept
  | killSwitch input =>
      obtain ⟨_, ok, -⟩ := response_ok ok
      simp only [killSwitch, bind_ok_iff] at ok
      obtain ⟨_, -, _, -, ok⟩ := ok
      split at ok <;> grind [bind_ok_iff]
  | finalizeApproval input =>
      obtain ⟨_, ok, -⟩ := response_ok ok
      simp only [finalizeApproval, closeReview, updatePolicy, updateMany, bind_ok_iff] at ok
      obtain ⟨_, -, _, -, _, -, _, -, _, -, _, -, _, -, ok⟩ := ok
      split at ok <;> grind [bind_ok_iff]
  | _ =>
      obtain ⟨_, ok, -⟩ := response_ok ok
      simp only [createDraft, insertPolicy, amendDraft, submit, publish, rollback, writeAmendment,
        updatePolicy, updateMany, applyPublish, bind_ok_iff, Except.ok.injEq, Prod.mk.injEq] at ok
      grind [schedule_artifacts, activateHead_artifacts]

/-- Nothing is ever taken out of the table of artifacts. -/
theorem next_artifacts {studio later : PolicyStudio} {step : StudioStep}
    (taken : studio.next options step = some later) :
    studio.store.artifacts <+: later.store.artifacts := by
  have performs {command : LifecycleCommand} {now : Instant} {ids : NewIds}
      {response : LifecycleResponse} {later : PolicyStudio}
      (ok : perform options studio command now ids = .ok (later, response)) :
      studio.store.artifacts <+: later.store.artifacts := by
    have ok := rest_ok ok
    split at ok
    next =>
      have ok := rest_ok ok
      cases ok
      exact prefix_rfl
    next =>
      obtain ⟨⟨store, _⟩, handled, ok⟩ := bind_ok ok
      cases ok
      exact handle_artifacts handled
  cases step <;>
    simp only [PolicyStudio.next, castVote, claimJob, attemptJob, PolicyStudio.updateJob] at taken <;>
    grind

end Runs

theorem findArtifact_upsert {artifacts : List TestArtifactRow} {artifact : TestArtifactRow}
    (passes : artifact.outcomePass = true) :
    (∃ other, findArtifact (upsertArtifact artifacts artifact) artifact = some other ∧
      other.standsFor artifact) ↔ Unshadowed artifacts artifact := by
  have stored : (artifacts.any fun other =>
      other.policyId == artifact.policyId && other.policyVersion == artifact.policyVersion &&
        other.suiteVersion == artifact.suiteVersion &&
        other.contentDigest == artifact.contentDigest) = true ↔
      ¬ ∀ other ∈ artifacts, other.key ≠ artifact.key := by
    simp [TestArtifactRow.key, and_assoc]
  have later : findArtifact (artifacts ++ [artifact]) artifact =
      (findArtifact artifacts artifact).or (some artifact) := by
    simp [findArtifact, find?_append]
  unfold upsertArtifact Unshadowed
  split
  next taken =>
    cases findArtifact artifacts artifact with
    | some other => simp
    | none => simpa using stored.mp taken
  next free =>
    rw [later]
    cases findArtifact artifacts artifact with
    | some other => simp
    | none =>
        have unstored := Decidable.not_not.mp (mt stored.mpr free)
        simpa [TestArtifactRow.standsFor, passes] using unstored

variable {engine : PolicyEngine} {candidate : Candidate} {preview : Preview}

theorem assertFreshTests_ok_iff {store : PolicyStore} (artifactId : String) :
    assertFreshTests store candidate (engine.digest (.content candidate.compiled))
        preview.artifactDigest = .ok () ↔
      ∃ other, findArtifact store.artifacts (artifactOf engine candidate preview artifactId) =
        some other ∧ other.standsFor (artifactOf engine candidate preview artifactId) := by
  simp [assertFreshTests, bind_ok_iff, orFail_ok, ensure_ok, findArtifact, artifactOf,
    TestArtifactRow.standsFor]

theorem testsStayFresh_iff (options : StudioOptions) (before : PolicyStore) (input : RunTestsInput)
    (now : Instant) (ids : NewIds) :
    TestsStayFresh options before input now ids ↔
      ∀ preview candidate,
        loadCandidate options.engine before input.policyId input.version
          input.expectedContentDigest = .ok candidate →
        previewCandidate options.engine input candidate now = .ok preview →
        preview.run.outcomePass = true →
        Unshadowed before.artifacts (artifactOf options.engine candidate preview ids.rowId) := by
  constructor
  · intro fresh preview candidate loaded previewed passes
    have ran : runTests options.engine before input now ids =
        .ok (recordTest options.engine before candidate preview ids.rowId, preview) :=
      bind_ok_iff.mpr ⟨_, loaded, bind_ok_iff.mpr ⟨_, previewed, rfl⟩⟩
    have ok := fresh _ preview candidate ran loaded passes ⟨_, [], []⟩ _ rfl .refl
    exact (findArtifact_upsert passes).mp ((assertFreshTests_ok_iff ids.rowId).mp ok)
  · intro unshadowed after preview candidate ran loaded passes studio later same run
    obtain ⟨_, again, ran⟩ := bind_ok ran
    cases loaded.symm.trans again
    obtain ⟨_, previewed, ran⟩ := bind_ok ran
    cases ran
    obtain ⟨other, found, stands⟩ :=
      (findArtifact_upsert passes).mpr (unshadowed preview candidate loaded previewed passes)
    have grown : studio.store.artifacts <+: later.store.artifacts :=
      run.related (R := fun studio later => studio.store.artifacts <+: later.store.artifacts)
        (fun _ => prefix_rfl) (fun _ _ _ => IsPrefix.trans) (fun _ _ _ (holds : True) _ => holds)
        (fun _ _ _ _ => next_artifacts) trivial
    rw [same] at grown
    exact (assertFreshTests_ok_iff ids.rowId).mpr ⟨other, grown.find?_eq_some found, stands⟩

def testAgain : RunTestsInput :=
  ⟨{ lateVersion.base 0 with idempotencyKey := "again" }, "late", 1, lateVersion.contentDigest,
    ⟨.null, none, "", ""⟩⟩

/-- The late version is tested before the loose one is published and once more after that. -/
theorem moved_head_shadows_test :
    ¬ ∀ options before, (studioSystem options).Reachable before →
      ∀ input now ids, TestsStayFresh options before.store input now ids := by
  intro law
  have ends : System.endsWith (PolicyStudio.next sampleOptions) .empty
      (lateVersion.prepare.take 2 ++ looseVersion.prepare) (looseVersion.publish 1)
      (fun _ studio =>
        succeedsWith (runTests sampleOptions.engine studio.store testAgain 0 ⟨"", "", ""⟩) fun tested =>
          succeedsWith (loadCandidate sampleOptions.engine studio.store "late" 1
            lateVersion.contentDigest) fun candidate => tested.2.run.outcomePass &&
              !(assertFreshTests tested.1 candidate
                (sampleOptions.engine.digest (.content candidate.compiled))
                tested.2.artifactDigest).isOk) = true := by
    decide +kernel
  obtain ⟨before, studio, reachable, taken, shown⟩ :=
    System.Reachable.endsWith (emptyStudio_fresh sampleOptions) ends
  have fresh := law sampleOptions studio (reachable.step taken) testAgain 0 ⟨"", "", ""⟩
  obtain ⟨⟨after, preview⟩, ran, shown⟩ := of_succeedsWith shown
  obtain ⟨candidate, loaded, shown⟩ := of_succeedsWith shown
  rw [Bool.and_eq_true] at shown
  have ok := fresh after preview candidate ran loaded shown.1 ⟨after, [], []⟩ _ rfl .refl
  rw [show assertFreshTests after _ _ _ = _ from ok] at shown
  cases shown.2

end DContact.Governance

import DContact.Governance.PolicyActivation

/-!
# What becomes active

Two laws over whole runs of the studio. A version becomes active only against the
head it was reviewed with, as long as no immediate publish overtakes a schedule of
another series that carries the same version number. A relaxation becomes active
only while the kill switch of its scope is off, as long as no due activation of a
relaxation is carried out under the switch.
-/

namespace DContact.Governance

open Lib

/-- A publish overtakes an open schedule of another series with the same version
number, which the cancellation of schedules then passes over. -/
def PolicyStudio.overtakes (studio : PolicyStudio) (step : StudioStep) : Bool :=
  (studio.publishes step).any fun row =>
    studio.store.jobs.any fun job =>
      job.isOpen && job.scopeKey == row.scopeKey && job.policyId != row.policyId &&
        job.policyVersion == row.version

variable {studio : PolicyStudio}

theorem unrivalled_of_not_overtakes {step : StudioStep} (clear : studio.overtakes step = false) :
    Unrivalled studio.store (studio.publishes step) := by
  intro row publishes job mem isOpen scope series number
  rw [PolicyStudio.overtakes, publishes, Option.any_some, List.any_eq_false] at clear
  apply clear job mem
  simp [isOpen, scope, series, number]

variable {options : StudioOptions}

theorem sound_of_reachable (reachable : ((studioSystem options).restrict fun studio step =>
      !studio.overtakes step).Reachable studio) : Sound options.engine studio.store := by
  let Inv (studio : PolicyStudio) : Prop := Sound options.engine studio.store
  suffices holds : Inv studio from holds
  refine reachable.invariant ?_ ?_
  · rintro _ rfl
    exact sound_empty options.engine
  · intro source step target sound ⟨clear, taken⟩
    have clear : source.overtakes step = false := by simpa using clear
    exact Sound.change sound (next_change sound.keyed taken) (unrivalled_of_not_overtakes clear)

/-- Whenever a version becomes active, its base head and its diff class are those of
the head it replaces. -/
theorem activation_reviewed {options : StudioOptions} {before after : PolicyStudio}
    {step : StudioStep} {row : PolicyRow}
    (reachable : ((studioSystem options).restrict fun studio step =>
      !studio.overtakes step).Reachable before)
    (taken : (studioSystem options).step before step after)
    (present : row ∈ after.store.policies) (active : row.status = .active)
    (new : ∀ old ∈ before.store.policies, old.id = row.id → old.status ≠ .active) :
    Reviewed options.engine before.store row := by
  have sound := sound_of_reachable reachable
  exact sound.activation (next_change sound.keyed taken) present active new

def sampleDigest : DigestInput → String
  | .content content => "content:" ++ content.callbackMode.text
  | .head policyId version contentDigest =>
      "head:" ++ policyId ++ ":" ++ toString version ++ ":" ++ contentDigest
  | .emptyHead => "head:none"
  | .approval binding => "approval:" ++ binding.policyId ++ ":" ++ toString binding.version
  | .artifact binding =>
      "artifact:" ++ binding.policyContentDigest ++ ":" ++ toString binding.baseHeadVersion ++ ":" ++
        binding.baseHeadDigest

/-- A host without zones whose suite always passes. -/
def sampleOptions : StudioOptions where
  engine := ⟨fun _ => none, sampleDigest, fun _ _ _ =>
    some ⟨"suite", "platform", "tenant", true, 1, 0, "result"⟩⟩
  requestHash command := command.idempotencyKey
  voteHash command := command.input.idempotencyKey
  leaseSeconds := 60
  maxAttempts := 5
  backoffMs := defaultBackoffMs

def sampleScope : String := "channel=VOICE|contactKind=*|purpose=*|sourceType=*"

def sampleOfficer (name scopeKey : String) : AuthorizationSubject :=
  ⟨name, [⟨.policyDraft, scopeKey, .direct, none, none⟩, ⟨.policyPublish, scopeKey, .direct, none, none⟩,
    ⟨.policyPublishRelaxation, scopeKey, .direct, none, none⟩], true, false, 1, 1⟩

structure SampleVersion where
  policyId : String
  scopeKey : String
  mode : CallbackMode
  baseVersion : Nat
  baseDigest : String
  diffClass : DiffClass
  activateAt : Instant

namespace SampleVersion

def contentDigest (version : SampleVersion) : String := "content:" ++ version.mode.text

def headDigest (version : SampleVersion) : String :=
  "head:" ++ version.policyId ++ ":1:" ++ version.contentDigest

def artifactDigest (version : SampleVersion) : String :=
  "artifact:" ++ version.contentDigest ++ ":" ++ toString version.baseVersion ++ ":" ++
    version.baseDigest

def base (version : SampleVersion) (occurredAt : Instant) : CommandBase :=
  ⟨sampleOfficer "maker" version.scopeKey, "evidence", some occurredAt, version.policyId⟩

def vote (version : SampleVersion) (checker : String) : StudioStep :=
  .vote ⟨⟨version.policyId, 1⟩, version.contentDigest, .approve, "evidence", "maker",
    version.scopeKey, sampleOfficer checker version.scopeKey, version.policyId ++ checker⟩
    version.diffClass 0 ""

def prepare (version : SampleVersion) : List StudioStep :=
  let content := version.contentDigest
  let artifact := version.artifactDigest
  [.command (.createDraft ⟨version.base 0, none, version.scopeKey,
      .obj [("callbackMode", .str version.mode.text)], some 0⟩) 0
      ⟨version.policyId ++ "-row", version.policyId, ""⟩,
    .command (.runTests ⟨version.base 0, version.policyId, 1, content, ⟨.null, none, "", ""⟩⟩) 0
      ⟨version.policyId ++ "-artifact", "", ""⟩,
    .command (.submit ⟨version.base 0, version.policyId, 1, 1, content, artifact⟩) 0 ⟨"", "", ""⟩,
    version.vote "first", version.vote "second",
    .command (.finalizeApproval ⟨version.base 0, version.policyId, 1, content, artifact,
      version.diffClass, version.baseVersion, version.baseDigest, some version.activateAt⟩) 0
      ⟨"", "", ""⟩]

def publish (version : SampleVersion) (occurredAt : Instant) : StudioStep :=
  .command (.publish ⟨version.base occurredAt, version.policyId, 1, version.contentDigest,
    version.artifactDigest, "approval:" ++ version.policyId ++ ":1", version.baseVersion,
    version.baseDigest⟩) 0 ⟨"", "", version.policyId ++ "-job"⟩

def activate (version : SampleVersion) (occurredAt : Instant) : StudioStep :=
  .command (.activateDue ⟨version.policyId, 1, "worker", some occurredAt, "due"⟩) occurredAt
    ⟨"", "", ""⟩

end SampleVersion

theorem emptyStudio_fresh (options : StudioOptions) : (studioSystem options).init .empty := rfl

def looseVersion : SampleVersion :=
  ⟨"loose", sampleScope, .timePolicyOverride, 0, "head:none", .relaxation, 1⟩

/-- Tighter than the loose version, scheduled for time 100. -/
def lateVersion : SampleVersion :=
  ⟨"late", sampleScope, .scopedOverride, 1, looseVersion.headDigest, .tightening, 100⟩

/-- Tighter still, and published while the late version is waiting. -/
def strictVersion : SampleVersion :=
  ⟨"strict", sampleScope, .noOverride, 2, looseVersion.headDigest, .tightening, 3⟩

def lateScheduled : List StudioStep :=
  looseVersion.prepare ++ [looseVersion.publish 1] ++ lateVersion.prepare ++ [lateVersion.publish 2]

def lateOvertaken : List StudioStep :=
  lateScheduled ++ strictVersion.prepare ++ [strictVersion.publish 3]

/-- The late version is activated against the loose one it was reviewed with. -/
theorem scheduled_activation_reviewed :
    ∃ before after step row, (studioSystem sampleOptions).Reachable before ∧
      (studioSystem sampleOptions).step before step after ∧ row ∈ after.store.policies ∧
      row.policyId = "late" ∧ row.status = .active ∧
      Reviewed sampleOptions.engine before.store row := by
  have ends : System.endsWith (System.guardNext (fun studio step => !studio.overtakes step)
      (PolicyStudio.next sampleOptions)) .empty lateScheduled
      (lateVersion.activate 100) (fun before after => decide (∃ row ∈ after.store.policies,
        row.policyId = "late" ∧ row.status = .active ∧
          ∀ old ∈ before.store.policies, old.id = row.id → old.status ≠ .active)) = true := by
    decide +kernel
  obtain ⟨before, after, reachable, taken, found⟩ :=
    System.Reachable.endsWithGuarded (emptyStudio_fresh sampleOptions) ends
  obtain ⟨row, present, series, active, new⟩ := of_decide_eq_true found
  exact ⟨before, after, _, row, reachable.of_restrict, taken.2, present, series, active,
    activation_reviewed reachable taken.2 present active new⟩

/-- The strict version overtakes the schedule of the late one, which carries the same
version number and so survives: at time 200 a change that was approved as a tightening
of the loose version relaxes the strict one. -/
theorem overtaken_schedule_activated :
    ∃ before after step row, (studioSystem sampleOptions).Reachable before ∧
      (studioSystem sampleOptions).step before step after ∧ row ∈ after.store.policies ∧
      row.status = .active ∧
      (∀ old ∈ before.store.policies, old.id = row.id → old.status ≠ .active) ∧
      row.diffClass = some .tightening ∧
      (∃ base, headContent sampleOptions.engine before.store row.scopeKey = .ok base ∧
        (classifyCg4PolicyDiff base row.content).diffClass = .relaxation) ∧
      ¬ Reviewed sampleOptions.engine before.store row := by
  have ends : System.endsWith (PolicyStudio.next sampleOptions) .empty lateOvertaken
      (lateVersion.activate 200) (fun before after => decide (∃ row ∈ after.store.policies,
        row.status = .active ∧
        (∀ old ∈ before.store.policies, old.id = row.id → old.status ≠ .active) ∧
        row.diffClass = some .tightening ∧
        ((headContent sampleOptions.engine before.store row.scopeKey).toOption.any fun base =>
          decide ((classifyCg4PolicyDiff base row.content).diffClass = .relaxation)) ∧
        row.baseHeadDigest ≠ some (loadHead sampleOptions.engine before.store
          row.scopeKey).headDigest)) = true := by
    decide +kernel
  obtain ⟨before, after, reachable, taken, found⟩ :=
    System.Reachable.endsWith (emptyStudio_fresh sampleOptions) ends
  obtain ⟨row, present, active, new, tightens, relaxes, stale⟩ := of_decide_eq_true found
  refine ⟨before, after, _, row, reachable, taken, present, active, new, tightens, ?_,
    fun reviewed => stale reviewed.digest⟩
  cases content : headContent sampleOptions.engine before.store row.scopeKey with
  | error failure => simp [content, Except.toOption] at relaxes
  | ok base => exact ⟨base, rfl, by simpa [content, Except.toOption] using relaxes⟩

theorem keyed_of_reachable (reachable : (studioSystem options).Reachable studio) :
    Keyed studio.store := by
  let Inv (studio : PolicyStudio) : Prop := Keyed studio.store
  suffices holds : Inv studio from holds
  refine reachable.invariant ?_ ?_
  · rintro _ rfl
    exact (sound_empty options.engine).keyed
  · intro source step target keyed taken
    exact Keyed.change keyed (next_change keyed taken)

def firstVersion : SampleVersion :=
  ⟨"first", sampleScope, .noOverride, 0, "head:none", .neutral, 1⟩

def otherScope : String := "channel=SMS|contactKind=*|purpose=*|sourceType=*"

end DContact.Governance

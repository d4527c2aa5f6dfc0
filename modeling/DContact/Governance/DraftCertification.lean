import DContact.Governance.PolicyTransactions

/-!
# What a test artifact certifies

An amendment writes only over the draft revision that its author has seen. A test run
stamps whatever draft it finds under its identifier, although it has loaded the draft
before taking the lock. The stamp on a draft therefore belongs to the content of the
draft exactly as long as no stamp is written over an amendment that came in between.
-/

namespace DContact.Governance

open Lib

def Certified (engine : PolicyEngine) (row : PolicyRow) : Prop :=
  (row.testArtifactDigest = none ∧ row.diffClass = none) ∨
    ∃ compiled base baseHeadVersion baseHeadDigest suite preview,
      compileRow engine row = .ok compiled ∧
      previewCg4Policy engine compiled row.version base baseHeadVersion baseHeadDigest suite =
        some preview ∧
      row.testArtifactDigest = some preview.artifactDigest ∧
      row.diffClass = some preview.diffClass

def TransactionState.stampsAmended (state : TransactionState) : TransactionStep → Bool
  | .commit pid _ =>
      match Session.find state.sessions pid with
      | some (.test _ _ (.locked candidate)) =>
          state.studio.store.policies.any fun row =>
            row.id == candidate.row.id && decide (row.status = .draft) &&
              decide (candidate.row.status = .draft) &&
              row.draftRevision != candidate.row.draftRevision
      | _ => false
  | _ => false

def Loading.Compiled (engine : PolicyEngine) : Loading → Prop
  | .begun => True
  | .rowRead row compiled => compileRow engine row = .ok compiled
  | .headRead row compiled _ => compileRow engine row = .ok compiled
  | .done candidate => compileRow engine candidate.row = .ok candidate.compiled

def Transaction.Compiled (engine : PolicyEngine) : Transaction → Prop
  | .test _ _ (.loading progress) => progress.Compiled engine
  | .test _ _ (.locked candidate) => compileRow engine candidate.row = .ok candidate.compiled
  | _ => True

section Steps

variable {engine : PolicyEngine} {before after : PolicyStore}

theorem Loading.compiled_next {policyId : String} {version : Nat} {expectedContentDigest : String}
    {progress further : Loading} (compiled : progress.Compiled engine)
    (ok : progress.next engine before policyId version expectedContentDigest = .ok further) :
    further.Compiled engine := by
  cases progress with
  | begun =>
      obtain ⟨_, -, ok⟩ := bind_ok ok
      obtain ⟨_, -, ok⟩ := bind_ok ok
      obtain ⟨_, compiles, ok⟩ := bind_ok ok
      cases ok
      exact recompile_ok compiles
  | rowRead row content =>
      cases ok
      exact compiled
  | headRead row content head =>
      obtain ⟨_, -, ok⟩ := bind_ok ok
      cases ok
      exact compiled
  | done candidate =>
      cases ok
      exact compiled

theorem Transaction.compiled_advance {transaction further : Transaction}
    (compiled : transaction.Compiled engine) (ok : transaction.advance engine before = .ok further) :
    further.Compiled engine := by
  cases transaction with
  | amend input now stage =>
      cases stage with
      | begun =>
          obtain ⟨_, -, ok⟩ := bind_ok ok
          cases ok
          trivial
      | read | locked =>
          cases ok
          trivial
  | test input now stage =>
      cases stage with
      | loading progress =>
          have known : progress.Compiled engine := compiled
          cases progress with
          | done candidate =>
              cases ok
              exact compiled
          | begun | rowRead | headRead =>
              obtain ⟨next, loaded, ok⟩ := bind_ok ok
              cases ok
              exact Loading.compiled_next known loaded
      | locked candidate =>
          cases ok
          exact compiled
  | publish input now stage | activate input now stage =>
      obtain ⟨_, -, ok⟩ := bind_ok ok
      cases ok
      trivial

variable {row later : PolicyRow}

theorem Certified.core (certified : Certified engine row) (core : later.core = row.core) :
    Certified engine later := by
  have digest : later.testArtifactDigest = row.testArtifactDigest :=
    (congrArg PolicyRow.testArtifactDigest core :)
  unfold Certified
  rw [digest, core_diffClass core, compileRow_core core, core_version core]
  exact certified

theorem Certified.edit (certified : Certified engine row) (edit : Edit engine before row later) :
    Certified engine later := by
  cases edit with
  | untouched => exact certified
  | amended => exact .inl ⟨rfl, rfl⟩
  | stamped preview base compiled suite _ _ compiles ran =>
      exact .inr ⟨compiled, base, _, _, suite, preview, compiles, ran, rfl, rfl⟩
  | reviewed core => exact certified.core core

theorem certified_rewrite {rewrite : PolicyRow → PolicyRow}
    (policies : after.policies = before.policies.map rewrite)
    (certified : ∀ row ∈ before.policies, Certified engine row)
    (keeps : ∀ row ∈ before.policies, Certified engine row → Certified engine (rewrite row)) :
    ∀ row ∈ after.policies, Certified engine row := by
  intro row mem
  rw [policies] at mem
  obtain ⟨old, present, rfl⟩ := List.mem_map.mp mem
  exact keeps old present (certified old present)

theorem certified_change (certified : ∀ row ∈ before.policies, Certified engine row)
    (change : Change engine before none none after) :
    ∀ row ∈ after.policies, Certified engine row := by
  cases change with
  | side policies => rwa [policies]
  | worked policies => rwa [policies]
  | drafted draft policies _ _ _ _ _ _ untested =>
      intro row mem
      rw [policies] at mem
      rcases List.mem_append.mp mem with present | new
      · exact certified row present
      · rw [List.mem_singleton.mp new]
        exact .inl untested
  | edited rewrite policies _ _ edits =>
      exact certified_rewrite policies certified fun row mem known =>
        known.edit (edits row mem)
  | scheduled _ _ row => cases row
  | published _ row => cases row
  | activated _ _ _ row => cases row

theorem certified_testedRow {input : RunTestsInput} {now : Instant} {candidate : Candidate}
    {preview : Preview} (keyed : Keyed before) (seen : Snapshot before candidate.row)
    (compiled : compileRow engine candidate.row = .ok candidate.compiled)
    (previewed : previewCandidate engine input candidate now = .ok preview) {row : PolicyRow}
    (mem : row ∈ before.policies)
    (current : candidate.row.status = .draft → row.id = candidate.row.id → row.status = .draft →
      row.draftRevision = candidate.row.draftRevision)
    (certified : Certified engine row) : Certified engine (testedRow candidate preview row) := by
  unfold testedRow
  split
  next stamped =>
    obtain ⟨later, present, evolves⟩ := seen
    have this : later = row := Table.eq_of_key_eq keyed.ids present mem
      (evolves.same.id.trans stamped.2.1.symm)
    rw [this] at evolves
    have compiles : compileRow engine row = .ok candidate.compiled := by
      rw [evolves.content (current stamped.1 stamped.2.1 stamped.2.2), compiled]
    have ran := previewCandidate_ok previewed
    rw [← evolves.same.version] at ran
    exact .inr ⟨candidate.compiled, candidate.baseContent, _, _, input.suite, preview, compiles, ran,
      rfl, rfl⟩
  next => exact certified

end Steps

/-- Every row is certified and every test run has compiled what it has read. -/
structure CertifiedState (engine : PolicyEngine) (state : TransactionState) : Prop where
  grounded : Grounded state
  rows : ∀ row ∈ state.studio.store.policies, Certified engine row
  compiled : ∀ session ∈ state.sessions, session.work.Compiled engine

theorem CertifiedState.progress {engine : PolicyEngine} {state after : TransactionState}
    {step : TransactionStep} (certified : CertifiedState engine state)
    (current : state.stampsAmended step = false) (progress : Progress engine state step after) :
    CertifiedState engine after := by
  have grounded := certified.grounded.progress progress
  cases progress with
  | other change sessions =>
      exact ⟨grounded, certified_change certified.rows change, sessions ▸ certified.compiled⟩
  | @started _ _ command now transaction begun =>
      refine ⟨grounded, certified.rows, Session.forall_replace certified.compiled ?_⟩
      cases command <;> cases begun <;> trivial
  | advanced found ok =>
      exact ⟨grounded, certified.rows, Session.forall_replace certified.compiled
        (Transaction.compiled_advance (certified.compiled _ (Session.find_mem found)) ok)⟩
  | dropped pid => exact ⟨grounded, certified.rows, Session.forall_drop certified.compiled⟩
  | committed found commit sessions =>
      refine ⟨grounded, ?_, sessions ▸ Session.forall_drop certified.compiled⟩
      generalize after.studio.store = store at commit
      cases commit with
      | amended change => exact certified_change certified.rows change
      | @tested input now candidate preview artifactId previewed =>
          have known := Session.find_mem found
          refine certified_rewrite (recordTest_policies _ _ _) certified.rows ?_
          intro row mem sound
          refine certified_testedRow certified.grounded.keyed
            (certified.grounded.seen _ known _ _ rfl).1 (certified.compiled _ known) previewed
            mem ?_ sound
          intro loadedDraft same draft
          -- the guard rules out an amendment since the draft was loaded
          rw [TransactionState.stampsAmended, found, List.any_eq_false] at current
          have unamended := current row mem
          simpa [loadedDraft, same, draft] using unamended
      | scheduled written =>
          exact certified_rewrite written.policies certified.rows fun row _ known =>
            known.core (scheduledRow_core _ row).1
      | published _ _ written | activated _ written =>
          exact certified_rewrite written.policies certified.rows fun row _ known =>
            known.core (moved_core _ row).1

/-- In every interleaving in which no test run stamps over an amendment, the artifact
and the diff class on a row were computed from the content of that row. -/
theorem stamps_certify_content {options : StudioOptions} {state : TransactionState}
    (reachable : ((transactionSystem options).restrict fun state step =>
      !state.stampsAmended step).Reachable state) :
    ∀ row ∈ state.studio.store.policies, Certified options.engine row := by
  have certified : CertifiedState options.engine state := by
    refine System.Reachable.invariant ?_ ?_ reachable
    · intro start initial
      have initial : start = .empty := initial
      rw [initial]
      refine ⟨grounded_empty, ?_, ?_⟩ <;>
        · intro _ mem
          cases mem
    · intro source step target certified ⟨current, taken⟩
      have current : source.stampsAmended step = false := by simpa using current
      exact certified.progress current (next_progress certified.grounded.keyed taken)
  exact certified.rows

def looseDraft : TransactionStep := .other (looseVersion.prepare.headD (.freeze false))

def testLoose : LifecycleCommand :=
  .runTests ⟨looseVersion.base 0, "loose", 1, looseVersion.contentDigest, ⟨.null, none, "", ""⟩⟩

def amendLoose : LifecycleCommand :=
  .amendDraft ⟨looseVersion.base 0, "loose", 1, 1, .obj [("callbackMode", .str "NO_OVERRIDE")]⟩

/-- The test run has loaded the draft and not yet taken the lock. -/
def loadLoose : List TransactionStep :=
  [.start 1 testLoose 0, .advance 1, .advance 1, .advance 1]

/-- A whole amendment. -/
def amendInBetween : List TransactionStep :=
  [.start 2 amendLoose 0, .advance 2, .advance 2, .commit 2 ⟨"", "", ""⟩]

/-- A test run on the draft as it is certifies it. -/
theorem undisturbed_test_certifies :
    ∃ state, ((transactionSystem sampleOptions).restrict fun state step =>
        !state.stampsAmended step).Reachable state ∧
      ∃ row ∈ state.studio.store.policies, row.testArtifactDigest.isSome = true ∧
        Certified sampleOptions.engine row := by
  have ends : System.endsWith (System.guardNext (fun state step => !state.stampsAmended step)
      (TransactionState.next sampleOptions)) .empty (looseDraft :: loadLoose ++ [.advance 1])
      (.commit 1 ⟨"artifact", "", ""⟩) (fun _ after => decide (∃ row ∈ after.studio.store.policies,
        row.testArtifactDigest.isSome = true)) = true := by
    decide +kernel
  obtain ⟨before, after, reachable, taken, found⟩ :=
    System.Reachable.endsWithGuarded (emptyTransactions_fresh sampleOptions) ends
  obtain ⟨row, mem, stamped⟩ := of_decide_eq_true found
  exact ⟨after, reachable.step taken, row, mem, stamped,
    stamps_certify_content (reachable.step taken) row mem⟩

theorem artifactDigest_ne (baseHeadVersion : Nat) (baseHeadDigest : String) (diff : PolicyDiff)
    (run : SuiteRun) :
    sampleDigest (.artifact ⟨"content:NO_OVERRIDE", baseHeadVersion, baseHeadDigest, diff, run⟩) ≠
      looseVersion.artifactDigest := by
  intro same
  have same := congrArg String.toList same
  simp [sampleDigest, String.toList_append, SampleVersion.artifactDigest,
    SampleVersion.contentDigest, looseVersion, CallbackMode.text] at same

/-- The amendment commits after the test run has loaded the draft and before it takes
the lock: the draft carries an artifact of content that it no longer has. -/
theorem amended_draft_carries_old_artifact :
    ∃ state, (transactionSystem sampleOptions).Reachable state ∧
      ∃ row ∈ state.studio.store.policies, row.status = .draft ∧
        row.testArtifactDigest = some looseVersion.artifactDigest ∧
        row.content.callbackMode = .noOverride ∧ ¬ Certified sampleOptions.engine row := by
  have ends : System.endsWith (TransactionState.next sampleOptions) .empty
      (looseDraft :: loadLoose ++ amendInBetween ++ [.advance 1])
      (.commit 1 ⟨"artifact", "", ""⟩) (fun _ after => decide (∃ row ∈ after.studio.store.policies,
        row.status = .draft ∧ row.testArtifactDigest = some looseVersion.artifactDigest ∧
        row.content.callbackMode = .noOverride ∧
        (compileRow sampleOptions.engine row).toOption.map PolicyContent.callbackMode =
          some .noOverride)) = true := by
    decide +kernel
  obtain ⟨before, after, reachable, taken, found⟩ :=
    System.Reachable.endsWith (emptyTransactions_fresh sampleOptions) ends
  obtain ⟨row, mem, draft, stamped, amended, compiles⟩ := of_decide_eq_true found
  refine ⟨after, reachable.step taken, row, mem, draft, stamped, amended, ?_⟩
  rintro (⟨unstamped, -⟩ | ⟨compiled, base, version, digest, suite, preview, same, ran, artifact, -⟩)
  · simp [stamped] at unstamped
  · rw [same] at compiles
    have mode : compiled.callbackMode = .noOverride := by simpa [Except.toOption] using compiles
    obtain ⟨run, -, made⟩ := Option.map_eq_some_iff.mp ran
    have content : sampleDigest (.content compiled) = "content:NO_OVERRIDE" := by
      rw [sampleDigest, mode]
      rfl
    rw [stamped, ← made] at artifact
    have artifact := (Option.some.inj artifact).symm
    dsimp only [sampleOptions] at artifact
    rw [content] at artifact
    exact artifactDigest_ne _ _ _ _ artifact

end DContact.Governance

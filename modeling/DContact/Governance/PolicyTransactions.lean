import DContact.Governance.PolicyReader
import DContact.Lib.Sessions

/-!
# Interleaved transactions of the studio

Amendments, test runs, publishes and due activations as transactions that read the
committed store one statement at a time and write when they commit. The lock of a
scope is taken after the first reads, held until the end, and keeps out only the
transactions on the same scope. Everything else that happens in the studio happens at
once and in between.
-/

namespace DContact.Governance

open Lib

/-! ## Stages -/

/-- How far `loadCandidate` has come. -/
inductive Loading where
  | begun
  | rowRead (row : PolicyRow) (compiled : PolicyContent)
  | headRead (row : PolicyRow) (compiled : PolicyContent) (head : HeadSnapshot)
  | done (candidate : Candidate)

/-- The next read of `loadCandidate`. -/
def Loading.next (engine : PolicyEngine) (store : PolicyStore) (policyId : String) (version : Nat)
    (expectedContentDigest : String) : Loading → Except LifecycleError Loading
  | .begun => do
      let row ← findPolicy store policyId version
      ensure (row.contentDigest = expectedContentDigest) (.versionConflict version row.version)
      let compiled ← recompile engine row
      .ok (.rowRead row compiled)
  | .rowRead row compiled => .ok (.headRead row compiled (loadHead engine store row.scopeKey))
  | .headRead row compiled head => do
      let baseContent ← loadHeadContent engine store head
      .ok (.done ⟨row, compiled, head, baseContent⟩)
  | .done candidate => .ok (.done candidate)

/-- On a store that does not change, the reads make up `loadCandidate`. -/
theorem loading_eq_loadCandidate (engine : PolicyEngine) (store : PolicyStore) (policyId : String)
    (version : Nat) (expectedContentDigest : String) :
    let next := Loading.next engine store policyId version expectedContentDigest
    (next .begun >>= fun first => next first >>= fun second => next second) =
      (loadCandidate engine store policyId version expectedContentDigest).map .done := by
  intro next
  simp only [next, Loading.next, loadCandidate, bind, Except.bind, Except.map]
  cases findPolicy store policyId version with
  | error failure => rfl
  | ok row =>
      dsimp only
      cases ensure (row.contentDigest = expectedContentDigest)
          (LifecycleError.versionConflict version row.version) with
      | error failure => rfl
      | ok _ =>
          dsimp only
          cases recompile engine row with
          | error failure => rfl
          | ok compiled =>
              dsimp only
              cases loadHeadContent engine store (loadHead engine store row.scopeKey) with
              | error failure => rfl
              | ok base => rfl

inductive AmendStage where
  | begun
  | read (row : PolicyRow)
  | locked (row : PolicyRow)

inductive TestStage where
  | loading (progress : Loading)
  | locked (candidate : Candidate)

inductive PublishStage where
  | loading (progress : Loading)
  | locked (candidate : Candidate)
  | admitted (candidate : Candidate)
  | unambiguous (candidate : Candidate)
  | unlatched (candidate : Candidate)
  | counted (candidate : Candidate) (quorum : QuorumEvaluation)

/-- What a due activation has read about its version. -/
structure DueReads where
  row : PolicyRow
  job : JobRow
  compiled : PolicyContent

inductive ActivateStage where
  | begun
  | read (row : PolicyRow)
  | locked (row : PolicyRow)
  | found (reads : DueReads)
  | headed (reads : DueReads) (head : HeadSnapshot)
  | unambiguous (reads : DueReads) (head : HeadSnapshot)
  | counted (reads : DueReads) (head : HeadSnapshot) (quorum : QuorumEvaluation)

/-- A transaction with the time of its clock. -/
inductive Transaction where
  | amend (input : AmendDraftInput) (now : Instant) (stage : AmendStage)
  | test (input : RunTestsInput) (now : Instant) (stage : TestStage)
  | publish (input : PublishInput) (now : Instant) (stage : PublishStage)
  | activate (input : ActivateDueInput) (now : Instant) (stage : ActivateStage)

def Transaction.ofCommand (now : Instant) : LifecycleCommand → Option Transaction
  | .amendDraft input => some (.amend input now .begun)
  | .runTests input => some (.test input now (.loading .begun))
  | .publish input => some (.publish input now (.loading .begun))
  | .activateDue input => some (.activate input now .begun)
  | _ => none

def Transaction.command : Transaction → LifecycleCommand
  | .amend input _ _ => .amendDraft input
  | .test input _ _ => .runTests input
  | .publish input _ _ => .publish input
  | .activate input _ _ => .activateDue input

/-! ## Statements -/

def PublishStage.next (engine : PolicyEngine) (store : PolicyStore) (input : PublishInput)
    (now : Instant) : PublishStage → Except LifecycleError PublishStage
  | .loading (.done candidate) => .ok (.locked candidate)
  | .loading progress => do
      let further ← progress.next engine store input.policyId input.version
        input.expectedContentDigest
      .ok (.loading further)
  | .locked candidate => do
      admitPublish engine store input candidate
      .ok (.admitted candidate)
  | .admitted candidate => do
      assertScopeUnambiguous store candidate.row.scopeKey
      .ok (.unambiguous candidate)
  | .unambiguous candidate => do
      assertKillSwitch store candidate.row
      .ok (.unlatched candidate)
  | .unlatched candidate => do
      let quorum ← recountQuorum store candidate.row now
      .ok (.counted candidate quorum)
  | .counted candidate quorum => .ok (.counted candidate quorum)

def ActivateStage.next (engine : PolicyEngine) (store : PolicyStore) (input : ActivateDueInput)
    (now : Instant) : ActivateStage → Except LifecycleError ActivateStage
  | .begun => do
      let row ← findPolicy store input.policyId input.version
      .ok (.read row)
  | .read row => .ok (.locked row)
  | .locked row => do
      let occurredAt ← orFail input.occurredAt (.timestampInvalid "occurredAt")
      let job ← findDueJob store row occurredAt
      let compiled ← recompile engine row
      .ok (.found ⟨row, job, compiled⟩)
  | .found reads => .ok (.headed reads (loadHead engine store reads.row.scopeKey))
  | .headed reads head => do
      assertScopeUnambiguous store reads.row.scopeKey
      .ok (.unambiguous reads head)
  | .unambiguous reads head => do
      let quorum ← recountQuorum store reads.row now
      .ok (.counted reads head quorum)
  | .counted reads head quorum => .ok (.counted reads head quorum)

def Transaction.advance (engine : PolicyEngine) (store : PolicyStore) :
    Transaction → Except LifecycleError Transaction
  | .amend input now .begun => do
      let row ← findPolicy store input.policyId input.version
      .ok (.amend input now (.read row))
  | .amend input now (.read row) => .ok (.amend input now (.locked row))
  | .amend input now (.locked row) => .ok (.amend input now (.locked row))
  | .test input now (.loading (.done candidate)) => .ok (.test input now (.locked candidate))
  | .test input now (.loading progress) => do
      let further ← progress.next engine store input.policyId input.version
        input.expectedContentDigest
      .ok (.test input now (.loading further))
  | .test input now (.locked candidate) => .ok (.test input now (.locked candidate))
  | .publish input now stage => do
      let further ← stage.next engine store input now
      .ok (.publish input now further)
  | .activate input now stage => do
      let further ← stage.next engine store input now
      .ok (.activate input now further)

/-- The scope that the next statement locks. -/
def Transaction.wants : Transaction → Option String
  | .amend _ _ (.read row) => some row.scopeKey
  | .test _ _ (.loading (.done candidate)) => some candidate.row.scopeKey
  | .publish _ _ (.loading (.done candidate)) => some candidate.row.scopeKey
  | .activate _ _ (.read row) => some row.scopeKey
  | _ => none

def Transaction.holds : Transaction → Option String
  | .amend _ _ (.locked row) => some row.scopeKey
  | .test _ _ (.locked candidate) => some candidate.row.scopeKey
  | .publish _ _ stage =>
      match stage with
      | .loading _ => none
      | .locked candidate | .admitted candidate | .unambiguous candidate | .unlatched candidate
      | .counted candidate _ => some candidate.row.scopeKey
  | .activate _ _ stage =>
      match stage with
      | .begun | .read _ => none
      | .locked row => some row.scopeKey
      | .found reads | .headed reads _ | .unambiguous reads _ | .counted reads _ _ =>
          some reads.row.scopeKey
  | _ => none

/-- The writes of a transaction that has made its last check. -/
def Transaction.write (engine : PolicyEngine) (store : PolicyStore) (ids : NewIds) :
    Transaction → Option (Except LifecycleError (PolicyStore × LifecycleResponse))
  | .amend input now (.locked row) => some do
      let compiled ← onContent (compileCg4Policy engine.zones input.content input.version)
      admitAmendment input row now
      let written ← writeAmendment engine store row compiled input.expectedDraftRevision
      .ok (written,
        .draft (draftResult (amendRow engine compiled (input.expectedDraftRevision + 1) row)))
  | .test input now (.locked candidate) => some do
      let preview ← previewCandidate engine input candidate now
      .ok (recordTest engine store candidate preview ids.rowId,
        .test ids.rowId preview.artifactDigest preview.diffClass)
  | .publish input _ (.counted candidate quorum) => some do
      let occurredAt ← orFail input.occurredAt (.timestampInvalid "occurredAt")
      let move := publishMove engine candidate occurredAt
      let written ← applyPublish engine store move ids.jobId
      .ok (written, .publish (publishResult engine written move
        (if move.occurredAt < move.activateAt then .scheduled else .active) quorum))
  | .activate input _ (.counted reads head quorum) => some do
      let occurredAt ← orFail input.occurredAt (.timestampInvalid "occurredAt")
      let move := activationMove engine reads.row reads.compiled head reads.job occurredAt
      let written ← applyActivation engine store move reads.job input.leaseOwner
      .ok (written, .publish (publishResult engine written move .active quorum))
  | _ => none

/-! ## Runs -/

structure TransactionState where
  studio : PolicyStudio
  sessions : List (Session Transaction)

inductive TransactionStep where
  | other (step : StudioStep)
  | fail (jobId : String) (attempts : Nat) (now : Instant)
  | start (pid : Nat) (command : LifecycleCommand) (now : Instant)
  | advance (pid : Nat)
  | commit (pid : Nat) (ids : NewIds)
  | abort (pid : Nat)

/-- A step that moves no head. -/
def StudioStep.quiet : StudioStep → Bool
  | .command (.publish _) _ _ => false
  | .command (.activateDue _) _ _ => false
  | .attempt .. => false
  | _ => true

def TransactionState.blocked (state : TransactionState) (pid : Nat) (transaction : Transaction) :
    Bool :=
  transaction.wants.any fun scopeKey =>
    Session.others state.sessions pid fun other => decide (other.holds = some scopeKey)

def TransactionState.drop (state : TransactionState) (pid : Nat) : TransactionState :=
  { state with sessions := Session.drop state.sessions pid }

/-- A command begins unless it is answered from its receipt. -/
def TransactionState.start (options : StudioOptions) (state : TransactionState) (pid : Nat)
    (command : LifecycleCommand) (now : Instant) : Option TransactionState :=
  match Transaction.ofCommand now command, validate options.engine command with
  | some transaction, .ok _ =>
      if (Session.find state.sessions pid).isNone &&
          (findLifecycleReceipt state.studio command).isNone then
        some { state with sessions := Session.replace state.sessions pid transaction }
      else none
  | _, _ => none

/-- One statement; a transaction whose statement fails is rolled back. -/
def TransactionState.advance (options : StudioOptions) (state : TransactionState) (pid : Nat) :
    Option TransactionState :=
  match Session.find state.sessions pid with
  | none => none
  | some transaction =>
      if state.blocked pid transaction then none
      else
        match transaction.advance options.engine state.studio.store with
        | .error _ => some (state.drop pid)
        | .ok further =>
            some { state with sessions := Session.replace state.sessions pid further }

/-- The writes and the receipt; a transaction that cannot write is rolled back. -/
def TransactionState.commit (options : StudioOptions) (state : TransactionState) (pid : Nat)
    (ids : NewIds) : Option TransactionState :=
  match Session.find state.sessions pid with
  | none => none
  | some transaction =>
      match transaction.write options.engine state.studio.store ids with
      | none => none
      | some (.error _) => some (state.drop pid)
      | some (.ok (store, response)) =>
          if (findLifecycleReceipt state.studio transaction.command).isNone then
            some {
              studio := { state.studio with
                store := store
                receipts := state.studio.receipts ++
                  [⟨transaction.command.operation, transaction.command.idempotencyKey,
                    options.requestHash transaction.command, response⟩] }
              sessions := Session.drop state.sessions pid }
          else some (state.drop pid)

def TransactionState.next (options : StudioOptions) (state : TransactionState) :
    TransactionStep → Option TransactionState
  | .other step =>
      if step.quiet then
        (state.studio.next options step).map fun studio => { state with studio := studio }
      else none
  | .fail jobId attempts now =>
      some { state with studio := state.studio.updateJob jobId (failJob options attempts now) }
  | .start pid command now => state.start options pid command now
  | .advance pid => state.advance options pid
  | .commit pid ids => state.commit options pid ids
  | .abort pid => some (state.drop pid)

def TransactionState.empty : TransactionState := ⟨.empty, []⟩

def transactionSystem (options : StudioOptions) : System TransactionState TransactionStep :=
  System.ofNext (fun state => state = .empty) (TransactionState.next options)

/-! ## What a step may do -/

inductive Commit (engine : PolicyEngine) (before : PolicyStore) : Transaction → PolicyStore → Prop
  | amended {input : AmendDraftInput} {now : Instant} {stage : AmendStage} {after : PolicyStore}
      (change : Change engine before none none after) :
      Commit engine before (.amend input now stage) after
  | tested {input : RunTestsInput} {now : Instant} {candidate : Candidate} {preview : Preview}
      (artifactId : String) (previewed : previewCandidate engine input candidate now = .ok preview) :
      Commit engine before (.test input now (.locked candidate))
        (recordTest engine before candidate preview artifactId)
  | scheduled {input : PublishInput} {now occurredAt : Instant} {candidate : Candidate}
      {quorum : QuorumEvaluation} {jobId : String} {after : PolicyStore}
      (written : Scheduled before (publishMove engine candidate occurredAt) jobId after) :
      Commit engine before (.publish input now (.counted candidate quorum)) after
  | published {input : PublishInput} {now occurredAt : Instant} {candidate : Candidate}
      {quorum : QuorumEvaluation} {after : PolicyStore} (time : input.occurredAt = some occurredAt)
      (arrived : ¬ occurredAt < candidate.row.activateAt.getD occurredAt)
      (written : Activated engine before (publishMove engine candidate occurredAt) after) :
      Commit engine before (.publish input now (.counted candidate quorum)) after
  | activated {input : ActivateDueInput} {now occurredAt : Instant} {reads : DueReads}
      {head : HeadSnapshot} {quorum : QuorumEvaluation} {after : PolicyStore} (leaseOwner : String)
      (written : Activated engine
        { before with jobs := completeJob reads.job leaseOwner occurredAt before.jobs }
        (activationMove engine reads.row reads.compiled head reads.job occurredAt) after) :
      Commit engine before (.activate input now (.counted reads head quorum)) after

variable {transaction : Transaction} {engine : PolicyEngine} {before after : PolicyStore}

theorem write_commit {ids : NewIds} {response : LifecycleResponse}
    (wrote : transaction.write engine before ids = some (.ok (after, response))) :
    Commit engine before transaction after := by
  unfold Transaction.write at wrote
  split at wrote
  next =>
    have ok := Option.some.inj wrote
    obtain ⟨_, -, ok⟩ := bind_ok ok
    replace ok := rest_ok ok
    obtain ⟨_, written, ok⟩ := bind_ok ok
    cases ok
    exact .amended (writeAmendment_change written)
  next =>
    have ok := Option.some.inj wrote
    obtain ⟨_, previewed, ok⟩ := bind_ok ok
    cases ok
    exact .tested ids.rowId previewed
  next =>
    have ok := Option.some.inj wrote
    obtain ⟨occurredAt, time, ok⟩ := bind_ok ok
    obtain ⟨_, written, ok⟩ := bind_ok ok
    cases ok
    unfold applyPublish at written
    split at written
    next => exact .scheduled (schedule_ok written)
    next arrived => exact .published (orFail_ok.mp time) arrived (activateHead_ok written)
  next =>
    have ok := Option.some.inj wrote
    obtain ⟨occurredAt, -, ok⟩ := bind_ok ok
    obtain ⟨_, written, ok⟩ := bind_ok ok
    cases ok
    exact .activated _ (activateHead_ok written)
  next => cases wrote

inductive Progress (engine : PolicyEngine) (state : TransactionState) :
    TransactionStep → TransactionState → Prop
  | other {step : TransactionStep} {after : TransactionState}
      (change : Change engine state.studio.store none none after.studio.store)
      (sessions : after.sessions = state.sessions) : Progress engine state step after
  | started {step : TransactionStep} {pid : Nat} {command : LifecycleCommand} {now : Instant}
      {transaction : Transaction} (begun : Transaction.ofCommand now command = some transaction) :
      Progress engine state step
        { state with sessions := Session.replace state.sessions pid transaction }
  | advanced {pid : Nat} {transaction further : Transaction}
      (found : Session.find state.sessions pid = some transaction)
      (ok : transaction.advance engine state.studio.store = .ok further) :
      Progress engine state (.advance pid)
        { state with sessions := Session.replace state.sessions pid further }
  | dropped {step : TransactionStep} (pid : Nat) : Progress engine state step (state.drop pid)
  | committed {pid : Nat} {ids : NewIds} {transaction : Transaction} {after : TransactionState}
      (found : Session.find state.sessions pid = some transaction)
      (commit : Commit engine state.studio.store transaction after.studio.store)
      (sessions : after.sessions = Session.drop state.sessions pid) :
      Progress engine state (.commit pid ids) after

variable {options : StudioOptions}

/-- A quiet step neither publishes nor activates. -/
theorem quiet_change {studio after : PolicyStudio} {step : StudioStep}
    (quiet : step.quiet = true) (keyed : Keyed studio.store)
    (taken : studio.next options step = some after) :
    Change options.engine studio.store none none after.store := by
  have change := next_change keyed taken
  have still : studio.publishes step = none ∧ studio.activates step = none := by
    cases step with
    | command command now ids =>
        have neither : publishedBy studio.store command = none ∧ dueBy studio.store command = none := by
          cases command <;> first | exact ⟨rfl, rfl⟩ | cases quiet
        simp only [PolicyStudio.publishes, PolicyStudio.activates, PolicyStudio.commandOf]
        split
        next => exact neither
        next => exact ⟨rfl, rfl⟩
    | attempt => cases quiet
    | _ => exact ⟨rfl, rfl⟩
  rw [still.1, still.2] at change
  exact change

variable {state : TransactionState} {step : TransactionStep}

theorem next_progress {after : TransactionState} (keyed : Keyed state.studio.store)
    (taken : state.next options step = some after) : Progress options.engine state step after := by
  cases step with
  | other step =>
      rw [TransactionState.next] at taken
      split at taken
      next quiet =>
        obtain ⟨studio, moved, rfl⟩ := Option.map_eq_some_iff.mp taken
        exact .other (quiet_change quiet keyed moved) rfl
      next => cases taken
  | fail jobId attempts now =>
      cases taken
      refine .other (.worked rfl rfl _ rfl ?_) rfl
      intro job _
      split
      next => exact failJob_worked options attempts now job
      next => exact ⟨rfl, rfl, rfl, rfl, id⟩
  | start pid command now =>
      rw [TransactionState.next, TransactionState.start] at taken
      split at taken
      next begun _ =>
        split at taken
        next =>
          cases taken
          exact .started begun
        next => cases taken
      next => cases taken
  | advance pid =>
      rw [TransactionState.next, TransactionState.advance] at taken
      split at taken
      next => cases taken
      next found =>
        split at taken
        next => cases taken
        split at taken
        next =>
          cases taken
          exact .dropped pid
        next ok =>
          cases taken
          exact .advanced found ok
  | commit pid ids =>
      rw [TransactionState.next, TransactionState.commit] at taken
      split at taken
      next => cases taken
      next found =>
        split at taken
        next => cases taken
        next =>
          cases taken
          exact .dropped pid
        next wrote =>
          split at taken
          next =>
            cases taken
            exact .committed found (write_commit wrote) rfl
          next =>
            cases taken
            exact .dropped pid
  | abort pid =>
      cases taken
      exact .dropped pid

/-! ## What a transaction has read lasts -/

/-- A version later on: the same version with a draft revision that has not gone back,
and with the same content as long as the revision is the same. -/
structure Evolves (row later : PolicyRow) : Prop where
  same : SameVersion row later
  revision : row.draftRevision ≤ later.draftRevision
  content : later.draftRevision = row.draftRevision →
    ∀ engine, compileRow engine later = compileRow engine row

variable {row later : PolicyRow}

theorem Evolves.of_core (core : later.core = row.core) : Evolves row later where
  same := .of_core core
  revision := (congrArg PolicyRow.draftRevision core :).ge
  content _ := compileRow_core core

theorem Evolves.refl (row : PolicyRow) : Evolves row row := .of_core rfl

theorem Evolves.trans {last : PolicyRow} (first : Evolves row later)
    (second : Evolves later last) : Evolves row last where
  same := ⟨second.same.id.trans first.same.id, second.same.policyId.trans first.same.policyId,
    second.same.version.trans first.same.version, second.same.scopeKey.trans first.same.scopeKey⟩
  revision := first.revision.trans second.revision
  content unmoved := by
    have ahead := first.revision
    have further := second.revision
    intro engine
    rw [second.content (by omega), first.content (by omega)]

/-- A version later on: once it is no draft any more, what was reviewed of it is fixed. -/
structure Endures (row later : PolicyRow) : Prop where
  evolves : Evolves row later
  status : row.status ≠ .draft → later.status ≠ .draft
  core : row.status ≠ .draft → later.core = row.core

theorem Endures.of_core (core : later.core = row.core)
    (status : row.status ≠ .draft → later.status ≠ .draft) : Endures row later :=
  ⟨.of_core core, status, fun _ => core⟩

theorem Endures.refl (row : PolicyRow) : Endures row row := .of_core rfl id

theorem Endures.trans {last : PolicyRow} (first : Endures row later) (second : Endures later last) :
    Endures row last where
  evolves := first.evolves.trans second.evolves
  status settled := second.status (first.status settled)
  core settled := (second.core (first.status settled)).trans (first.core settled)

theorem Edit.endures {store : PolicyStore} (edit : Edit engine store row later) :
    Endures row later := by
  cases edit with
  | untouched => exact .refl row
  | amended content draft =>
      refine ⟨⟨⟨rfl, rfl, rfl, rfl⟩, Nat.le_succ _, ?_⟩, absurd draft, absurd draft⟩
      intro unmoved
      exact absurd unmoved (Nat.succ_ne_self _)
  | stamped _ _ _ _ draft =>
      exact ⟨⟨⟨rfl, rfl, rfl, rfl⟩, le_rfl, fun _ _ => rfl⟩, absurd draft, absurd draft⟩
  | reviewed core _ target =>
      refine .of_core core fun _ draft => ?_
      rcases target with inReview | approved | rejected <;> simp_all

theorem rewriteWhere_status (status : PolicyStatus) {rowId : String} {holds : PolicyRow → Bool}
    {rewrite : PolicyRow → PolicyRow} (sets : ∀ row, (rewrite row).status = status)
    (leaves : status ≠ .draft) (settled : row.status ≠ .draft) :
    (rewriteWhere rowId holds rewrite row).status ≠ .draft := by
  unfold rewriteWhere
  split
  next =>
    split
    next => rwa [sets]
    next => exact settled
  next => exact settled

theorem moved_endures (move : HeadMove) (row : PolicyRow) : Endures row (moved move row) := by
  refine .of_core (moved_core move row).1 fun settled => ?_
  refine rewriteWhere_status .active (fun _ => rfl) nofun ?_
  unfold supersededBy
  split
  next => exact settled
  next => exact rewriteWhere_status .superseded (fun _ => rfl) nofun settled

theorem scheduledRow_endures (rowId : String) (row : PolicyRow) :
    Endures row (scheduledRow rowId row) :=
  .of_core (scheduledRow_core rowId row).1 (rewriteWhere_status .scheduled (fun _ => rfl) nofun)

section Lasting

/-- Every version of the first store is in the second, as it has evolved. -/
def Lasts (before after : PolicyStore) : Prop :=
  ∀ row ∈ before.policies, ∃ later ∈ after.policies, Evolves row later

def AllEndure (before after : PolicyStore) : Prop :=
  ∀ row ∈ before.policies, ∃ later ∈ after.policies, Endures row later

theorem AllEndure.lasts (endure : AllEndure before after) : Lasts before after := by
  intro row mem
  obtain ⟨later, present, endures⟩ := endure row mem
  exact ⟨later, present, endures.evolves⟩

theorem endure_rewrite {rewrite : PolicyRow → PolicyRow}
    (policies : after.policies = before.policies.map rewrite)
    (endures : ∀ row ∈ before.policies, Endures row (rewrite row)) : AllEndure before after := by
  intro row mem
  rw [policies]
  exact ⟨rewrite row, List.mem_map_of_mem mem, endures row mem⟩

theorem endure_same (policies : after.policies = before.policies) : AllEndure before after := by
  intro row mem
  exact ⟨row, policies ▸ mem, .refl row⟩

theorem Change.endures {published due : Option PolicyRow}
    (change : Change engine before published due after) : AllEndure before after := by
  cases change with
  | side policies | worked policies => exact endure_same policies
  | drafted row policies =>
      intro old mem
      rw [policies]
      exact ⟨old, List.mem_append_left _ mem, .refl old⟩
  | edited rewrite policies _ _ edits =>
      exact endure_rewrite policies fun row mem => (edits row mem).endures
  | scheduled move jobId _ _ _ _ written =>
      exact endure_rewrite written.policies fun row _ => scheduledRow_endures _ row
  | published move _ _ _ written | activated move job leaseOwner _ _ _ written =>
      exact endure_rewrite written.policies fun row _ => moved_endures move row

def testedRow (candidate : Candidate) (preview : Preview) (row : PolicyRow) : PolicyRow :=
  if candidate.row.status = .draft ∧ row.id = candidate.row.id ∧ row.status = .draft then
    stampRow preview candidate.head row
  else row

theorem recordTest_policies (candidate : Candidate) (preview : Preview) (artifactId : String) :
    (recordTest engine before candidate preview artifactId).policies =
      before.policies.map (testedRow candidate preview) := by
  unfold recordTest testedRow
  by_cases draft : candidate.row.status = .draft
  · simp only [draft, if_true, true_and, Table.update]
    apply List.map_congr_left
    intro row _
    split
    next same => simp [same]
    next other => simp [other]
  · simp [draft]

theorem testedRow_endures (candidate : Candidate) (preview : Preview) (row : PolicyRow) :
    Endures row (testedRow candidate preview row) := by
  unfold testedRow
  split
  next guarded =>
    exact ⟨⟨⟨rfl, rfl, rfl, rfl⟩, le_rfl, fun _ _ => rfl⟩, absurd guarded.2.2, absurd guarded.2.2⟩
  next => exact .refl row

theorem Commit.endures (commit : Commit engine before transaction after) :
    AllEndure before after := by
  cases commit with
  | amended change => exact change.endures
  | tested artifactId _ =>
      exact endure_rewrite (recordTest_policies _ _ _) fun row _ => testedRow_endures _ _ row
  | scheduled written =>
      exact endure_rewrite written.policies fun row _ => scheduledRow_endures _ row
  | published _ _ written | activated _ written =>
      exact endure_rewrite written.policies fun row _ => moved_endures _ row

theorem Commit.keyed (commit : Commit engine before transaction after)
    (keyed : Keyed before) : Keyed after := by
  cases commit with
  | amended change => exact keyed.change change
  | tested artifactId _ =>
      exact keyed.rewrite (recordTest_policies _ _ _)
        (fun row _ => (testedRow_endures _ _ row).evolves.same)
        keyed.heads keyed.jobs
  | scheduled written => exact written.keyed keyed
  | published _ _ written => exact written.keyed keyed rfl
  | activated _ written => exact written.keyed keyed (completeJob_ids _ _ _ _)

end Lasting

theorem Progress.endures {after : TransactionState} (progress : Progress engine state step after) :
    AllEndure state.studio.store after.studio.store := by
  cases progress with
  | other change => exact change.endures
  | committed _ commit => exact commit.endures
  | _ => exact endure_same rfl

/-! ## Grounded states -/

def Snapshot (store : PolicyStore) (row : PolicyRow) : Prop :=
  ∃ later ∈ store.policies, Evolves row later

def HeadSeen (store : PolicyStore) (scopeKey : String) (head : HeadSnapshot) : Prop :=
  ∀ ref, head.current = some ref → head.headVersion ≠ 0 ∧
    ∃ row ∈ store.policies, row.id = ref.revisionId ∧ row.scopeKey = scopeKey

theorem Snapshot.lasts (seen : Snapshot before row)
    (lasts : Lasts before after) : Snapshot after row := by
  obtain ⟨later, mem, evolves⟩ := seen
  obtain ⟨last, present, further⟩ := lasts later mem
  exact ⟨last, present, evolves.trans further⟩

theorem HeadSeen.lasts {scopeKey : String} {head : HeadSnapshot}
    (seen : HeadSeen before scopeKey head) (lasts : Lasts before after) :
    HeadSeen after scopeKey head := by
  intro ref points
  obtain ⟨positive, row, mem, id, scope⟩ := seen ref points
  obtain ⟨later, present, evolves⟩ := lasts row mem
  exact ⟨positive, later, present, evolves.same.id.trans id, evolves.same.scopeKey.trans scope⟩

def Loading.reads : Loading → Option (PolicyRow × Option HeadSnapshot)
  | .begun => none
  | .rowRead row _ => some (row, none)
  | .headRead row _ head => some (row, some head)
  | .done candidate => some (candidate.row, some candidate.head)

def Transaction.reads : Transaction → Option (PolicyRow × Option HeadSnapshot)
  | .amend _ _ .begun => none
  | .amend _ _ (.read row) => some (row, none)
  | .amend _ _ (.locked row) => some (row, none)
  | .test _ _ (.loading progress) => progress.reads
  | .test _ _ (.locked candidate) => some (candidate.row, some candidate.head)
  | .publish _ _ stage =>
      match stage with
      | .loading progress => progress.reads
      | .locked candidate | .admitted candidate | .unambiguous candidate | .unlatched candidate
      | .counted candidate _ => some (candidate.row, some candidate.head)
  | .activate _ _ stage =>
      match stage with
      | .begun => none
      | .read row | .locked row => some (row, none)
      | .found reads => some (reads.row, none)
      | .headed reads head | .unambiguous reads head | .counted reads head _ =>
          some (reads.row, some head)

def Seen (store : PolicyStore) (reads : Option (PolicyRow × Option HeadSnapshot)) : Prop :=
  ∀ row head, reads = some (row, head) → Snapshot store row ∧
    ∀ known, head = some known → HeadSeen store row.scopeKey known

def HeadsPoint (store : PolicyStore) : Prop :=
  ∀ head ∈ store.heads, head.headVersion ≠ 0 ∧
    ∃ row ∈ store.policies, row.id = head.policyRevisionId ∧ row.scopeKey = head.scopeKey

structure Grounded (state : TransactionState) : Prop where
  keyed : Keyed state.studio.store
  heads : HeadsPoint state.studio.store
  seen : ∀ session ∈ state.sessions, Seen state.studio.store session.work.reads

variable {now : Instant}

section Grounding

variable {reads : Option (PolicyRow × Option HeadSnapshot)}

theorem Seen.lasts (seen : Seen before reads) (lasts : Lasts before after) : Seen after reads := by
  intro row head read
  obtain ⟨snapshot, headSeen⟩ := seen row head read
  exact ⟨snapshot.lasts lasts, fun known this => (headSeen known this).lasts lasts⟩

theorem snapshot_read (mem : row ∈ before.policies) : Snapshot before row :=
  ⟨row, mem, .refl row⟩

theorem headSeen_read (heads : HeadsPoint before) (scopeKey : String) :
    HeadSeen before scopeKey (loadHead engine before scopeKey) := by
  intro ref points
  cases found : headOf before.heads scopeKey with
  | none => simp [loadHead_none found] at points
  | some head =>
      obtain ⟨positive, row, mem, id, scope⟩ := heads head (List.mem_of_find?_eq_some found)
      rw [loadHead_some found] at points ⊢
      cases points
      exact ⟨positive, row, mem, id, scope.trans (headOf_key found)⟩

inductive ReadsOn (engine : PolicyEngine) (store : PolicyStore)
    (reads : Option (PolicyRow × Option HeadSnapshot)) :
    Option (PolicyRow × Option HeadSnapshot) → Prop
  | same : ReadsOn engine store reads reads
  | row {row : PolicyRow} (mem : row ∈ store.policies) :
      ReadsOn engine store reads (some (row, none))
  | head {row : PolicyRow} (read : reads = some (row, none)) :
      ReadsOn engine store reads (some (row, some (loadHead engine store row.scopeKey)))

theorem Seen.readsOn {further : Option (PolicyRow × Option HeadSnapshot)}
    (heads : HeadsPoint before) (seen : Seen before reads)
    (readsOn : ReadsOn engine before reads further) : Seen before further := by
  cases readsOn with
  | same => exact seen
  | row mem =>
      intro row head read
      cases read
      refine ⟨snapshot_read mem, ?_⟩
      intro known this
      cases this
  | head read =>
      intro row head this
      cases this
      refine ⟨(seen _ _ read).1, ?_⟩
      intro known this
      cases this
      exact headSeen_read heads _

theorem Loading.readsOn {policyId : String} {version : Nat} {expectedContentDigest : String}
    {progress further : Loading}
    (ok : progress.next engine before policyId version expectedContentDigest = .ok further) :
    ReadsOn engine before progress.reads further.reads := by
  cases progress with
  | begun =>
      obtain ⟨row, found, ok⟩ := bind_ok ok
      replace ok := rest_ok ok
      obtain ⟨_, -, ok⟩ := bind_ok ok
      cases ok
      exact .row (findPolicy_ok found).1
  | rowRead row compiled =>
      cases ok
      exact .head rfl
  | headRead row compiled head =>
      obtain ⟨_, -, ok⟩ := bind_ok ok
      cases ok
      exact .same
  | done candidate =>
      cases ok
      exact .same

theorem PublishStage.readsOn {input : PublishInput} {stage further : PublishStage}
    (ok : stage.next engine before input now = .ok further) :
    ReadsOn engine before (Transaction.publish input now stage).reads
      (Transaction.publish input now further).reads := by
  cases stage with
  | loading progress =>
      cases progress with
      | done candidate =>
          cases ok
          exact .same
      | begun | rowRead | headRead =>
          obtain ⟨next, loaded, ok⟩ := bind_ok ok
          cases ok
          exact Loading.readsOn loaded
  | locked | admitted | unambiguous | unlatched =>
      obtain ⟨_, -, ok⟩ := bind_ok ok
      cases ok
      exact .same
  | counted =>
      cases ok
      exact .same

theorem ActivateStage.readsOn {input : ActivateDueInput}
    {stage further : ActivateStage} (ok : stage.next engine before input now = .ok further) :
    ReadsOn engine before (Transaction.activate input now stage).reads
      (Transaction.activate input now further).reads := by
  cases stage with
  | begun =>
      obtain ⟨row, found, ok⟩ := bind_ok ok
      cases ok
      exact .row (findPolicy_ok found).1
  | read row =>
      cases ok
      exact .same
  | locked row =>
      obtain ⟨_, -, ok⟩ := bind_ok ok
      obtain ⟨_, -, ok⟩ := bind_ok ok
      obtain ⟨_, -, ok⟩ := bind_ok ok
      cases ok
      exact .same
  | found reads =>
      cases ok
      exact .head rfl
  | headed | unambiguous =>
      obtain ⟨_, -, ok⟩ := bind_ok ok
      cases ok
      exact .same
  | counted =>
      cases ok
      exact .same

theorem Transaction.readsOn {further : Transaction}
    (ok : transaction.advance engine before = .ok further) :
    ReadsOn engine before transaction.reads further.reads := by
  cases transaction with
  | amend input now stage =>
      cases stage with
      | begun =>
          obtain ⟨row, found, ok⟩ := bind_ok ok
          cases ok
          exact .row (findPolicy_ok found).1
      | read | locked =>
          cases ok
          exact .same
  | test input now stage =>
      cases stage with
      | loading progress =>
          cases progress with
          | done candidate =>
              cases ok
              exact .same
          | begun | rowRead | headRead =>
              obtain ⟨next, loaded, ok⟩ := bind_ok ok
              cases ok
              exact Loading.readsOn loaded
      | locked candidate =>
          cases ok
          exact .same
  | publish input now stage =>
      obtain ⟨next, advanced, ok⟩ := bind_ok ok
      cases ok
      exact PublishStage.readsOn advanced
  | activate input now stage =>
      obtain ⟨next, advanced, ok⟩ := bind_ok ok
      cases ok
      exact ActivateStage.readsOn advanced

theorem HeadsPoint.same (heads : HeadsPoint before) (same : after.heads = before.heads)
    (lasts : Lasts before after) : HeadsPoint after := by
  intro head mem
  rw [same] at mem
  obtain ⟨positive, row, present, id, scope⟩ := heads head mem
  obtain ⟨later, there, evolves⟩ := lasts row present
  exact ⟨positive, later, there, evolves.same.id.trans id, evolves.same.scopeKey.trans scope⟩

theorem HeadsPoint.written {expectedVersion : Nat} {head : HeadRow} (heads : HeadsPoint before)
    (keyed : Keyed before) (written : HeadWritten before.heads expectedVersion head after.heads)
    (lasts : Lasts before after) (positive : head.headVersion ≠ 0)
    (points : ∃ row ∈ before.policies, row.id = head.policyRevisionId ∧
      row.scopeKey = head.scopeKey) : HeadsPoint after := by
  intro other mem
  have known : other.headVersion ≠ 0 ∧ ∃ row ∈ before.policies,
      row.id = other.policyRevisionId ∧ row.scopeKey = other.scopeKey := by
    rcases (written.mem keyed.heads).mp mem with rfl | ⟨present, -⟩
    · exact ⟨positive, points⟩
    · exact heads other present
  obtain ⟨moved, row, present, id, scope⟩ := known
  obtain ⟨later, there, evolves⟩ := lasts row present
  exact ⟨moved, later, there, evolves.same.id.trans id, evolves.same.scopeKey.trans scope⟩

theorem Snapshot.version (seen : Snapshot before row) :
    ∃ later ∈ before.policies, later.id = row.id ∧ later.scopeKey = row.scopeKey := by
  obtain ⟨later, mem, evolves⟩ := seen
  exact ⟨later, mem, evolves.same.id, evolves.same.scopeKey⟩

/-- A change by which nothing is published or activated leaves the heads alone. -/
theorem Change.heads_quiet (change : Change engine before none none after) :
    after.heads = before.heads := by
  cases change with
  | side _ same => exact same
  | worked _ same => exact same
  | drafted _ _ same => exact same
  | edited _ _ same => exact same
  | scheduled _ _ row => cases row
  | published _ row => cases row
  | activated _ _ _ row => cases row

theorem HeadsPoint.commit (heads : HeadsPoint before)
    (keyed : Keyed before) (seen : Seen before transaction.reads)
    (commit : Commit engine before transaction after) : HeadsPoint after := by
  have lasts := commit.endures.lasts
  cases commit with
  | amended change => exact heads.same change.heads_quiet lasts
  | tested artifactId _ => exact heads.same rfl lasts
  | @scheduled _ _ occurredAt candidate _ _ _ written =>
      obtain ⟨ref, points, marked⟩ := written.marked
      exact heads.written keyed marked lasts (Nat.succ_ne_zero _)
        ((seen _ _ rfl).2 _ rfl ref points).2
  | published _ _ written | activated _ written =>
      exact heads.written keyed written.heads lasts (Nat.succ_ne_zero _) (seen _ _ rfl).1.version

end Grounding

theorem grounded_empty : Grounded TransactionState.empty where
  keyed := ⟨.nil, .nil, .nil, .nil⟩
  heads := List.forall_mem_nil _
  seen := List.forall_mem_nil _

theorem ofCommand_reads {command : LifecycleCommand}
    (begun : Transaction.ofCommand now command = some transaction) : transaction.reads = none := by
  cases command <;> cases begun <;> rfl

theorem Grounded.progress {after : TransactionState} (grounded : Grounded state)
    (progress : Progress engine state step after) : Grounded after := by
  cases progress with
  | other change sessions =>
      refine ⟨grounded.keyed.change change,
        grounded.heads.same change.heads_quiet change.endures.lasts, ?_⟩
      rw [sessions]
      exact fun session mem => (grounded.seen session mem).lasts change.endures.lasts
  | started begun =>
      refine ⟨grounded.keyed, grounded.heads, Session.forall_replace grounded.seen ?_⟩
      intro row head read
      rw [ofCommand_reads begun] at read
      cases read
  | advanced found ok =>
      have seen := grounded.seen _ (Session.find_mem found)
      exact ⟨grounded.keyed, grounded.heads, Session.forall_replace grounded.seen
        (seen.readsOn grounded.heads (Transaction.readsOn ok))⟩
  | dropped pid => exact ⟨grounded.keyed, grounded.heads, Session.forall_drop grounded.seen⟩
  | committed found commit sessions =>
      have seen := grounded.seen _ (Session.find_mem found)
      refine ⟨commit.keyed grounded.keyed, grounded.heads.commit grounded.keyed seen commit, ?_⟩
      rw [sessions]
      exact Session.forall_drop fun session mem =>
        (grounded.seen session mem).lasts commit.endures.lasts

theorem emptyTransactions_fresh (options : StudioOptions) :
    (transactionSystem options).init .empty := rfl

/-! ## Versions in later stores -/

def publishCommand (version : SampleVersion) : LifecycleCommand :=
  .publish ⟨version.base 1, version.policyId, 1, version.contentDigest, version.artifactDigest,
    "approval:" ++ version.policyId ++ ":1", 0, "head:none"⟩

end DContact.Governance

import DContact.Governance.ComplianceExport

/-!
# Exports that are complete or unavailable

A job has one worker that got it started, and only that worker puts objects. As long as every
transition still finds the row in a state that it may leave, a terminal state is final, the objects
of a ready export are the ones its manifest records, and every object of a revoked export is known
to a call that will delete it.
-/

namespace DContact.Governance

open Lib Session

/-- The states that are never left. -/
def Cg5ExportState.isFinal : Cg5ExportState → Bool
  | .failed | .expired | .revoked => true
  | .queued | .running | .ready => false

/-- The recorded files are in the storage with the recorded digests. -/
def FilesStored (host : Cg5ExportHost) (objects : List Cg5Object)
    (fileDigests : List (Cg5ExportDataset × String)) : Prop :=
  ∀ entry ∈ fileDigests, ∃ object, storedObject objects (host.fileKey entry.1) = some object ∧
    host.digest object.body = entry.2

/-- The manifest and every dataset are in the storage, as the manifest and the row record them. -/
structure CompleteExport (host : Cg5ExportHost) (objects : List Cg5Object)
    (manifestDigest : String) (rowCounts : List (Cg5ExportDataset × Nat)) : Prop where
  stored : ∃ manifest : Cg5ExportManifest, ∃ object,
    storedObject objects host.manifestKey = some object ∧ object.body = host.manifestText manifest ∧
      host.digest object.body = manifestDigest ∧ manifest.rowCounts = rowCounts ∧
      (∀ dataset ∈ host.request.datasets, dataset ∈ manifest.fileDigests.map Prod.fst) ∧
      FilesStored host objects manifest.fileDigests

/-- A transition of `expireDue` under way; every other call belongs to a worker or to a revoke, or
deletes objects. -/
def Cg5ExportStage.isRetention : Cg5ExportStage → Bool
  | .deciding (.expire _) | .updating (.expire _) _ => true
  | _ => false

structure ExportsSafe (host : Cg5ExportHost) (system : System Cg5ExportWorld Cg5ExportStep) :
    Prop where
  final : ∀ world later, system.Reachable world → system.Reaches world later →
    world.job.state.isFinal = true → later.job.state = world.job.state
  erased : ∀ world, system.Reachable world → world.job.state = .revoked →
    (∀ session ∈ world.calls, session.work.isRetention = true) → world.objects = []
  complete : ∀ world, system.Reachable world → world.job.state = .ready →
    ∃ manifestDigest rowCounts, world.job.manifestDigest = some manifestDigest ∧
      world.job.rowCounts = some rowCounts ∧ CompleteExport host world.objects manifestDigest rowCounts

/-- The objects that a call still knows to delete if the export does not become ready. -/
def Cg5ExportStage.pending : Cg5ExportStage → List Cg5ObjectKey
  | .deciding (.finish details) | .updating (.finish details) _ => details.written
  | .uploading _ progress | .sealing progress => progress.written
  | .removing keys _ => keys
  | .deciding _ | .updating _ _ | .collecting => []

def Doomed (world : Cg5ExportWorld) (key : Cg5ObjectKey) : Prop :=
  ∃ call stage, Session.find world.calls call = some stage ∧ key ∈ stage.pending

/-- The steps that keep an export complete or unavailable. -/
def carefulExport (host : Cg5ExportHost) (world : Cg5ExportWorld) : Cg5ExportStep → Prop
  | .commit call _ => ∀ purpose seen,
      Session.find world.calls call = some (.updating purpose seen) →
        world.job.state.allows purpose.target = true ∧
          ∀ keys, purpose = .revoke keys → ∀ object ∈ world.objects,
            object.key ∈ keys ∨ Doomed world object.key
  | .commitUnanswered call _ => ∀ purpose seen,
      Session.find world.calls call = some (.updating purpose seen) →
        world.job.state.allows purpose.target = true ∧
          purpose.target ≠ .ready ∧ purpose.target ≠ .revoked
  | .collect _ (some files) => ∀ dataset ∈ host.request.datasets,
      dataset ∈ files.map Cg5ExportFile.dataset
  | .put _ .unanswered _ | .delete _ false => world.job.state ≠ .revoked
  | .crash call => world.job.state = .revoked → ∀ stage,
      Session.find world.calls call = some stage → stage.pending = []
  | _ => True

def carefulExports (host : Cg5ExportHost) : System Cg5ExportWorld Cg5ExportStep :=
  (complianceExport host).restrict (carefulExport host)

/-- The call belongs to a worker that has started the job. -/
def Cg5ExportStage.started : Cg5ExportStage → Bool
  | .deciding (.finish _) | .updating (.finish _) _ | .deciding .fail | .updating .fail _
  | .collecting | .uploading _ _ | .sealing _ | .removing _ true => true
  | _ => false

/-- What a worker has put while the job runs. -/
def Cg5ExportStage.Sound (host : Cg5ExportHost) (objects : List Cg5Object) : Cg5ExportStage → Prop
  | .uploading files progress => FilesStored host objects progress.fileDigests ∧
      ∀ dataset ∈ host.request.datasets,
        dataset ∈ progress.seen ∨ dataset ∈ files.map Cg5ExportFile.dataset
  | .sealing progress => FilesStored host objects progress.fileDigests ∧
      ∀ dataset ∈ host.request.datasets, dataset ∈ progress.seen
  | .deciding (.finish details) | .updating (.finish details) _ =>
      CompleteExport host objects details.manifestDigest details.rowCounts
  | _ => True

structure ExportInv (host : Cg5ExportHost) (world : Cg5ExportWorld) : Prop where
  once : ∀ left ∈ world.calls, ∀ right ∈ world.calls, left.work.started = true →
    right.work.started = true → left.pid = right.pid
  running : ∀ session ∈ world.calls, session.work.started = true →
    world.job.state = .running ∨ world.job.state = .revoked
  removing : ∀ session ∈ world.calls, ∀ keys, session.work = .removing keys false →
    world.job.state.isFinal = true
  untouched : world.job.state = .queued → world.objects = []
  sound : world.job.state = .running → ∀ session ∈ world.calls, session.work.Sound host world.objects
  pending : world.job.state = .revoked → ∀ object ∈ world.objects, Doomed world object.key
  complete : world.job.state = .ready → ∃ manifestDigest rowCounts,
    world.job.manifestDigest = some manifestDigest ∧ world.job.rowCounts = some rowCounts ∧
      CompleteExport host world.objects manifestDigest rowCounts

structure StageFits (host : Cg5ExportHost) (world : Cg5ExportWorld) (call : Nat)
    (stage : Cg5ExportStage) : Prop where
  running : stage.started = true → world.job.state = .running ∨ world.job.state = .revoked
  alone : stage.started = true → ∀ session ∈ world.calls, session.pid ≠ call →
    session.work.started = false
  removing : ∀ keys, stage = .removing keys false → world.job.state.isFinal = true
  sound : world.job.state = .running → stage.Sound host world.objects

namespace ExportInv

variable {host : Cg5ExportHost} {world : Cg5ExportWorld} {call : Nat} {stage next : Cg5ExportStage}

theorem initial (fresh : world.Fresh) : ExportInv host world := by
  obtain ⟨queued, -, empty, idle⟩ := fresh
  constructor
  · simp [idle]
  · simp [idle]
  · simp [idle]
  · exact fun _ => empty
  · simp [queued]
  · simp [queued]
  · simp [queued]

/-- The worker that has started the job is the only one. -/
theorem alone (inv : ExportInv host world) (found : Session.find world.calls call = some stage)
    (started : stage.started = true) : ∀ session ∈ world.calls, session.pid ≠ call →
      session.work.started = false := by
  intro session mem other
  by_contra also
  rw [Bool.not_eq_false] at also
  exact other (inv.once session mem ⟨call, stage⟩ (find_mem found) also started)

variable {key : Cg5ObjectKey}

/-- A pending object stays pending when its call is replaced by one that knows it too. -/
theorem pending_goOn (pending : Doomed world key)
    (kept : ∀ old, Session.find world.calls call = some old → key ∈ old.pending →
      key ∈ next.pending) : Doomed (world.goOn call next) key := by
  obtain ⟨holder, held, found, mem⟩ := pending
  by_cases mine : holder = call
  · subst mine
    exact ⟨holder, next, find_replace .., kept held found mem⟩
  · exact ⟨holder, held, (find_replace_of_ne mine).trans found, mem⟩

theorem pending_stop (pending : Doomed world key)
    (unknown : ∀ old, Session.find world.calls call = some old → key ∉ old.pending) :
    Doomed (world.stop call) key := by
  obtain ⟨holder, held, found, mem⟩ := pending
  by_cases mine : holder = call
  · subst mine
    exact absurd mem (unknown held found)
  · exact ⟨holder, held, (find_drop_of_ne mine).trans found, mem⟩

theorem once_replace (inv : ExportInv host world)
    (alone : next.started = true → ∀ session ∈ world.calls, session.pid ≠ call →
      session.work.started = false) :
    ∀ left ∈ Session.replace world.calls call next, ∀ right ∈ Session.replace world.calls call next,
      left.work.started = true → right.work.started = true → left.pid = right.pid := by
  refine pairs_replace inv.once (fun _ _ => rfl) fun session mem other => ?_
  have idle : next.started = true → session.work.started = true → False := by
    intro started twice
    rw [alone started session mem other] at twice
    cases twice
  exact ⟨fun started twice => (idle started twice).elim,
    fun twice started => (idle started twice).elim⟩

/-- A call goes on while the row and the objects stay as they are. -/
theorem goOn (inv : ExportInv host world) (fits : StageFits host world call next)
    (kept : ∀ old, Session.find world.calls call = some old → ∀ key ∈ old.pending,
      key ∈ next.pending) : ExportInv host (world.goOn call next) where
  once := inv.once_replace fits.alone
  running := forall_replace inv.running fits.running
  removing := forall_replace inv.removing fits.removing
  untouched := inv.untouched
  sound isRunning := forall_replace (inv.sound isRunning) (fits.sound isRunning)
  pending revoked object mem :=
    pending_goOn (inv.pending revoked object mem) fun old found => kept old found _
  complete := inv.complete

/-- A call ends while the row and the objects stay as they are. -/
theorem stop (inv : ExportInv host world)
    (unknown : world.job.state = .revoked → ∀ old, Session.find world.calls call = some old →
      old.pending = []) : ExportInv host (world.stop call) where
  once left leftMember right rightMember :=
    inv.once left (mem_drop.mp leftMember).1 right (mem_drop.mp rightMember).1
  running := forall_drop inv.running
  removing := forall_drop inv.removing
  untouched := inv.untouched
  sound isRunning := forall_drop (inv.sound isRunning)
  pending revoked object mem :=
    pending_stop (inv.pending revoked object mem) fun old found => by
      rw [unknown revoked old found]
      exact List.not_mem_nil
  complete := inv.complete

theorem sound_of_not_started {objects : List Cg5Object} (idle : stage.started = false) :
    stage.Sound host objects := by
  cases stage with
  | deciding purpose | updating purpose seen => cases purpose <;> trivial
  | collecting => trivial
  | uploading files progress => cases idle
  | sealing progress => cases idle
  | removing keys failing => trivial

theorem rewrite (inv : ExportInv host world) {objects : List Cg5Object}
    (fits : StageFits host { world with objects } call next)
    (busy : world.job.state = .running ∨ world.job.state.isFinal = true)
    (alone : world.job.state = .running → ∀ session ∈ world.calls, session.pid ≠ call →
      session.work.started = false)
    (pending : world.job.state = .revoked → ∀ object ∈ objects,
      Doomed (world.goOn call next) object.key) :
    ExportInv host { world.goOn call next with objects } where
  once := inv.once_replace fits.alone
  running := forall_replace inv.running fits.running
  removing := forall_replace inv.removing fits.removing
  untouched queued := by
    rcases busy with running | final
    · exact absurd (running.symm.trans queued) nofun
    · rw [show world.job.state = .queued from queued] at final
      cases final
  sound isRunning := by
    intro session mem
    rcases mem_replace.mp mem with rfl | ⟨old, other⟩
    · exact fits.sound isRunning
    · exact sound_of_not_started (alone isRunning session old other)
  pending := pending
  complete ready := by
    rcases busy with running | final
    · exact absurd (running.symm.trans ready) nofun
    · rw [show world.job.state = .ready from ready] at final
      cases final

theorem move (inv : ExportInv host world) {job : Cg5ExportJob} {audit : List Cg5ExportAudit}
    (idle : ∀ session ∈ world.calls, session.work.started = false)
    (calm : world.job.state.isFinal = true → job.state.isFinal = true)
    (moved : job.state ≠ .queued) (unrevoked : job.state ≠ .revoked)
    (complete : job.state = .ready → ∃ manifestDigest rowCounts,
      job.manifestDigest = some manifestDigest ∧ job.rowCounts = some rowCounts ∧
        CompleteExport host world.objects manifestDigest rowCounts) :
    ExportInv host { world with job, audit } where
  once := inv.once
  running session mem started := by
    rw [idle session mem] at started
    cases started
  removing session mem keys stage := calm (inv.removing session mem keys stage)
  untouched queued := absurd queued moved
  sound _ session mem := sound_of_not_started (idle session mem)
  pending revoked := absurd revoked unrevoked
  complete := complete

theorem idle (inv : ExportInv host world) (waiting : world.job.state ≠ .running)
    (unrevoked : world.job.state ≠ .revoked) :
    ∀ session ∈ world.calls, session.work.started = false := by
  intro session mem
  by_contra started
  rw [Bool.not_eq_false] at started
  rcases inv.running session mem started with running | revoked
  · exact waiting running
  · exact unrevoked revoked

/-- Once the only worker has stopped, no other one has started. -/
theorem idle_stop (inv : ExportInv host world) (found : Session.find world.calls call = some stage)
    (started : stage.started = true) :
    ∀ session ∈ (world.stop call).calls, session.work.started = false := by
  intro session mem
  obtain ⟨old, other⟩ := mem_drop.mp mem
  exact inv.alone found started session old other

end ExportInv

variable {state : Cg5ExportState}

theorem allows_running (allowed : state.allows .running = true) : state = .queued := by
  cases state <;> simp_all [Cg5ExportState.allows]

theorem allows_ready (allowed : state.allows .ready = true) : state = .running := by
  cases state <;> simp_all [Cg5ExportState.allows]

theorem allows_expired (allowed : state.allows .expired = true) : state = .ready := by
  cases state <;> simp_all [Cg5ExportState.allows]

theorem allows_not_final {target : Cg5ExportState} (allowed : state.allows target = true) :
    state.isFinal = false := by
  cases state <;> simp_all [Cg5ExportState.allows, Cg5ExportState.isFinal]

end DContact.Governance

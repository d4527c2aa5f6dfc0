import DContact.Governance.ExportSafety

/-!
# Runs of a compliance export

What every step keeps, the guarantee for all careful runs, and a run of two workers in which the
second commit overwrites what the first one had made of the job.
-/

namespace DContact.Governance

open Lib List Session Cg5ExportWorld

variable {stage : Cg5ExportStage} {purpose : Cg5ExportPurpose} {seen : Cg5ExportJob} {now : Instant}
  {objects : List Cg5Object} {key : Cg5ObjectKey} {body : String} {after : Cg5ExportWorld}
  {step : Cg5ExportStep}

namespace ExportInv

variable {host : Cg5ExportHost} {world : Cg5ExportWorld} {call : Nat}

/-! ## Transitions -/

/-- A transition that is refused or fails leaves the row alone. -/
theorem failed (inv : ExportInv host world) (found : Session.find world.calls call = some stage)
    (deciding : stage = .deciding purpose ∨ ∃ seen, stage = .updating purpose seen) :
    ExportInv host (world.afterFailure call purpose) := by
  have started : stage.started = (Cg5ExportStage.deciding purpose).started := by
    rcases deciding with rfl | ⟨seen, rfl⟩
    · rfl
    · cases purpose <;> rfl
  have pending : stage.pending = (Cg5ExportStage.deciding purpose).pending := by
    rcases deciding with rfl | ⟨seen, rfl⟩
    · rfl
    · cases purpose <;> rfl
  have forget : (Cg5ExportStage.deciding purpose).pending = [] →
      ExportInv host (world.stop call) := by
    intro nothing
    refine inv.stop fun _ old same => ?_
    cases found.symm.trans same
    exact pending.trans nothing
  cases purpose with
  | finish details =>
      refine inv.goOn ⟨fun _ => inv.running _ (find_mem found) started, fun _ =>
        inv.alone found started, fun keys same => (by cases same), fun _ => trivial⟩ ?_
      intro old same key mem
      cases found.symm.trans same
      rw [pending] at mem
      exact mem
  | _ => exact forget rfl

/-- A transition has found the row in a state that it may leave. -/
theorem looked (inv : ExportInv host world)
    (found : Session.find world.calls call = some (.deciding purpose)) :
    ExportInv host (world.goOn call (.updating purpose seen)) := by
  have mine := find_mem found
  have same : (Cg5ExportStage.updating purpose seen).started =
      (Cg5ExportStage.deciding purpose).started := by cases purpose <;> rfl
  refine inv.goOn ⟨fun started => inv.running _ mine (same ▸ started), fun started =>
    inv.alone found (same ▸ started), fun keys equal => (by cases equal), fun running => ?_⟩ ?_
  · have sound := inv.sound running _ mine
    cases purpose <;> exact sound
  · intro old equal key mem
    cases found.symm.trans equal
    cases purpose <;> exact mem

/-- A commit of anything but a revoke, after which the call is over. -/
theorem committed_over (inv : ExportInv host world)
    (found : Session.find world.calls call = some (.updating purpose seen))
    (allowed : world.job.state.allows purpose.target = true)
    (unrevoked : purpose.target ≠ .revoked) :
    ExportInv host ((world.update purpose seen host.prefixOf now).stop call) := by
  have calm : world.job.state.isFinal = false := allows_not_final allowed
  have stopped : ExportInv host (world.stop call) := by
    refine inv.stop fun revoked => ?_
    rw [revoked] at calm
    cases calm
  have mine := find_mem found
  cases purpose with
  | start =>
      have queued := allows_running allowed
      refine stopped.move ?_ (fun final => absurd (calm.symm.trans final) nofun) nofun nofun nofun
      exact stopped.idle (by simp [Cg5ExportWorld.stop, queued]) (by simp [Cg5ExportWorld.stop, queued])
  | finish details =>
      refine stopped.move (inv.idle_stop found rfl)
        (fun final => absurd (calm.symm.trans final) nofun) nofun nofun fun _ => ?_
      exact ⟨details.manifestDigest, details.rowCounts, rfl, rfl,
        inv.sound (allows_ready allowed) _ mine⟩
  | fail =>
      exact stopped.move (inv.idle_stop found rfl) (fun _ => rfl) nofun nofun nofun
  | revoke keys => exact absurd rfl unrevoked
  | expire keys =>
      have ready := allows_expired allowed
      refine stopped.move ?_ (fun _ => rfl) nofun nofun nofun
      exact stopped.idle (by simp [Cg5ExportWorld.stop, ready]) (by simp [Cg5ExportWorld.stop, ready])

theorem goOn_stop (world : Cg5ExportWorld) (call : Nat) (stage : Cg5ExportStage) :
    (world.stop call).goOn call stage = world.goOn call stage := by
  simp [Cg5ExportWorld.stop, Cg5ExportWorld.goOn, Session.replace, Session.drop, filter_filter]

theorem revoked (inv : ExportInv host world) {keys : List Cg5ObjectKey}
    (found : Session.find world.calls call = some (.updating (.revoke keys) seen))
    (known : ∀ object ∈ world.objects, object.key ∈ keys ∨ Doomed world object.key) :
    ExportInv host ((world.update (.revoke keys) seen host.prefixOf now).goOn call
      (.removing keys false)) where
  once := pairs_replace inv.once nofun fun _ _ _ => ⟨nofun, nofun⟩
  running _ _ _ := .inr rfl
  removing _ _ _ _ := rfl
  untouched := nofun
  sound := nofun
  pending _ object mem := by
    rcases known object mem with mine | ⟨holder, stage, held, inside⟩
    · exact ⟨call, .removing keys false, find_replace .., mine⟩
    · have other : holder ≠ call := by
        rintro rfl
        cases found.symm.trans held
        exact absurd inside not_mem_nil
      exact ⟨holder, stage, (find_replace_of_ne other).trans held, inside⟩
  complete := nofun

theorem committed (inv : ExportInv host world)
    (found : Session.find world.calls call = some (.updating purpose seen))
    (allowed : world.job.state.allows purpose.target = true)
    (known : ∀ keys, purpose = .revoke keys → ∀ object ∈ world.objects,
      object.key ∈ keys ∨ Doomed world object.key) :
    ExportInv host ((world.update purpose seen host.prefixOf now).afterSuccess call purpose) := by
  cases purpose with
  | start =>
      have isOver : ExportInv host ((world.update .start seen host.prefixOf now).stop call) :=
        inv.committed_over found allowed nofun
      have queued := allows_running allowed
      have alone : ∀ session ∈ ((world.update .start seen host.prefixOf now).stop call).calls,
          session.work.started = false := by
        intro session mem
        exact inv.idle (by simp [queued]) (by simp [queued]) session (mem_drop.mp mem).1
      have gone : ExportInv host
          (((world.update .start seen host.prefixOf now).stop call).goOn call .collecting) := isOver.goOn
        ⟨fun _ => .inl rfl, fun _ session mem _ => alone session mem, nofun, fun _ => trivial⟩
        (fun old same => by cases (find_drop ..).symm.trans same)
      rwa [goOn_stop] at gone
  | finish details | fail => exact inv.committed_over found allowed nofun
  | revoke keys => exact inv.revoked found (known keys rfl)
  | expire keys =>
      have isOver : ExportInv host ((world.update (.expire keys) seen host.prefixOf now).stop call) :=
        inv.committed_over found allowed nofun
      have gone : ExportInv host (((world.update (.expire keys) seen host.prefixOf now).stop call).goOn
          call (.removing keys false)) := isOver.goOn
        ⟨nofun, nofun, fun _ _ => rfl, nofun⟩
        (fun old same => by cases (find_drop ..).symm.trans same)
      rwa [goOn_stop] at gone

/-! ## Objects -/

theorem mem_storedObject {other : Cg5ObjectKey} :
    storedObject (Table.put Cg5Object.key objects ⟨key, body⟩) other =
      if key = other then some ⟨key, body⟩ else storedObject objects other :=
  Table.lookup_put

theorem filesStored_put
    {fileDigests : List (Cg5ExportDataset × String)} (stored : FilesStored host objects fileDigests)
    (apart : ∀ entry ∈ fileDigests, key ≠ host.fileKey entry.1) :
    FilesStored host (Table.put Cg5Object.key objects ⟨key, body⟩) fileDigests := by
  intro entry mem
  rw [mem_storedObject, if_neg (apart entry mem)]
  exact stored entry mem

theorem filesStored_add {progress : Cg5ExportProgress}
    {file : Cg5ExportFile} (stored : FilesStored host objects progress.fileDigests)
    (fresh : file.dataset ∉ progress.seen) :
    FilesStored host (Table.put Cg5Object.key objects ⟨host.fileKey file.dataset, file.body⟩)
      (progress.add host file).fileDigests := by
  intro entry mem
  rcases mem_append.mp mem with old | new
  · refine filesStored_put stored ?_ entry old
    intro other inside same
    refine fresh (mem_map.mpr ⟨other, inside, ?_⟩)
    injection same with _ names
    injection names with equal
    exact equal.symm
  · rw [mem_singleton] at new
    subst new
    exact ⟨⟨host.fileKey file.dataset, file.body⟩, by rw [mem_storedObject, if_pos rfl], rfl⟩

section
variable (inv : ExportInv host world)
include inv

variable {next : Cg5ExportStage}

/-- The worker that has started the job goes on without touching an object. -/
theorem works (found : Session.find world.calls call = some stage) (started : stage.started = true)
    (again : next.started = true)
    (sound : world.job.state = .running → next.Sound host world.objects)
    (kept : stage.pending ⊆ next.pending) : ExportInv host (world.goOn call next) := by
  refine inv.goOn ⟨fun _ => inv.running _ (find_mem found) started, fun _ =>
    inv.alone found started, fun keys same => ?_, sound⟩ fun old same key mem => ?_
  · rw [same] at again
    cases again
  · cases found.symm.trans same
    exact kept mem

theorem puts (found : Session.find world.calls call = some stage) (started : stage.started = true)
    (again : next.started = true) (sound : world.job.state = .running →
      next.Sound host (Table.put Cg5Object.key world.objects ⟨key, body⟩))
    (kept : world.job.state = .revoked → stage.pending ⊆ next.pending ∧ key ∈ next.pending) :
    ExportInv host ((world.put key body).goOn call next) := by
  have held := inv.running _ (find_mem found) started
  refine inv.rewrite ⟨fun _ => held, fun _ => inv.alone found started, fun keys same => ?_, sound⟩ ?_
    (fun _ => inv.alone found started) ?_
  · rw [same] at again
    cases again
  · rcases held with running | revoked
    · exact .inl running
    · exact .inr (revoked ▸ rfl)
  · intro revoked object mem
    rcases Table.mem_put mem with rfl | ⟨old, -⟩
    · exact ⟨call, next, find_replace .., (kept revoked).2⟩
    · refine pending_goOn (inv.pending revoked object old) fun stage' same inside => ?_
      cases found.symm.trans same
      exact (kept revoked).1 inside

theorem deletes {rest : List Cg5ObjectKey} {failing deleted : Bool}
    (found : Session.find world.calls call = some (.removing (key :: rest) failing))
    (careful : deleted = false → world.job.state ≠ .revoked) :
    ExportInv host ((if deleted then world.delete key else world).goOn call (.removing rest failing)) := by
  have mine := find_mem found
  have held : world.job.state = .running ∨ world.job.state.isFinal = true := by
    cases failing with
    | true =>
        rcases inv.running _ mine rfl with running | revoked
        · exact .inl running
        · exact .inr (revoked ▸ rfl)
    | false => exact .inr (inv.removing _ mine _ rfl)
  have alone : world.job.state = .running → ∀ session ∈ world.calls, session.pid ≠ call →
      session.work.started = false := by
    intro running
    cases failing with
    | true => exact inv.alone found rfl
    | false =>
        have final := inv.removing _ mine _ rfl
        rw [running] at final
        cases final
  have fits : ∀ objects, StageFits host { world with objects } call (.removing rest failing) := by
    intro objects
    cases failing with
    | true => exact ⟨fun _ => inv.running _ mine rfl, fun _ => inv.alone found rfl, nofun, fun _ => trivial⟩
    | false => exact ⟨nofun, nofun, fun _ _ => inv.removing _ mine _ rfl, fun _ => trivial⟩
  cases deleted with
  | true =>
      refine inv.rewrite (fits _) held alone ?_
      intro revoked object mem
      rw [if_pos rfl, delete, mem_filter, decide_eq_true_eq] at mem
      refine pending_goOn (inv.pending revoked object mem.1) fun old same inside => ?_
      cases found.symm.trans same
      rcases mem_cons.mp inside with equal | later
      · exact absurd equal mem.2
      · exact later
  | false =>
      exact inv.rewrite (fits world.objects) held alone fun revoked => absurd revoked (careful rfl)

/-- A worker puts its next file or the manifest. -/
theorem uploaded {answer : Cg5StorageAnswer} (found : Session.find world.calls call = some stage)
    (careful : answer = .unanswered → world.job.state ≠ .revoked)
    (taken : exportProceed host world call stage (.put call answer now) = some after) :
    ExportInv host after := by
  have mine := find_mem found
  cases stage with
  | uploading files progress =>
      have failing : ExportInv host (world.goOn call (.removing progress.written true)) :=
        inv.works found rfl rfl (fun _ => trivial) fun _ mem => mem
      cases files with
      | nil =>
          cases taken
          refine inv.works found rfl rfl (fun running => ?_) fun _ mem => mem
          obtain ⟨stored, covered⟩ := inv.sound running _ mine
          refine ⟨stored, fun dataset requested => ?_⟩
          rcases covered dataset requested with seen | left
          · exact seen
          · exact absurd left not_mem_nil
      | cons file rest =>
          simp only [exportProceed] at taken
          split at taken
          next fresh =>
            cases answer with
            | done =>
                cases taken
                refine inv.puts found rfl rfl (fun running => ?_) fun _ => ⟨?_, ?_⟩
                · obtain ⟨stored, covered⟩ := inv.sound running _ mine
                  refine ⟨filesStored_add stored fresh.2, fun dataset requested => ?_⟩
                  simp only [Cg5ExportProgress.seen, Cg5ExportProgress.add, map_append,
                    mem_append, map_cons, map_nil, mem_singleton]
                  rcases covered dataset requested with seen | left
                  · exact .inl (.inl seen)
                  · rcases mem_cons.mp left with this | later
                    · exact .inl (.inr this)
                    · exact .inr later
                · exact fun _ mem => mem_append_left _ mem
                · exact mem_append_right _ mem_cons_self
            | refused =>
                cases taken
                exact failing
            | unanswered =>
                cases taken
                exact inv.puts found rfl rfl (fun _ => trivial) fun revoked =>
                  absurd revoked (careful rfl)
          next =>
            cases taken
            exact failing
  | sealing progress =>
      simp only [exportProceed] at taken
      cases answer with
      | done =>
          cases taken
          refine inv.puts found rfl rfl (fun running => ?_) fun _ => ⟨?_, ?_⟩
          · obtain ⟨stored, covered⟩ := inv.sound running _ mine
            refine ⟨manifestOf host progress now, _, by rw [mem_storedObject, if_pos rfl], rfl, rfl, rfl,
              covered, filesStored_put stored fun entry _ same => ?_⟩
            injection same with _ names
            cases names
          · exact fun _ mem => mem_append_left _ mem
          · exact mem_append_right _ mem_cons_self
      | refused =>
          cases taken
          exact inv.works found rfl rfl (fun _ => trivial) fun _ mem => mem
      | unanswered =>
          cases taken
          exact inv.puts found rfl rfl (fun _ => trivial) fun revoked => absurd revoked (careful rfl)
  | _ => cases taken

/-- A call that begins before it has anything to do with the objects of a running job. -/
theorem begins (absent : Session.find world.calls call = none) (idle : stage.started = false)
    (removing : ∀ keys, stage = .removing keys false → world.job.state.isFinal = true) :
    ExportInv host (world.goOn call stage) := by
  refine inv.goOn ⟨fun started => ?_, fun started => ?_, removing, fun _ => sound_of_not_started idle⟩
    fun old same => ?_
  · rw [idle] at started
    cases started
  · rw [idle] at started
    cases started
  · rw [absent] at same
    cases same

theorem proceeded (mine : step.call? = some call)
    (found : Session.find world.calls call = some stage) (careful : carefulExport host world step)
    (taken : exportProceed host world call stage step = some after) : ExportInv host after := by
  cases step with
  | look _ =>
      cases mine
      cases stage with
      | deciding purpose =>
          simp only [exportProceed] at taken
          split at taken
          next =>
            cases taken
            exact inv.looked found
          next =>
            cases taken
            exact inv.failed found (.inl rfl)
      | _ => cases taken
  | commit _ now =>
      cases mine
      cases stage with
      | updating purpose seen =>
          cases taken
          obtain ⟨allowed, known⟩ := careful purpose seen found
          exact inv.committed found allowed known
      | _ => cases taken
  | commitUnanswered _ now =>
      cases mine
      cases stage with
      | updating purpose seen =>
          cases taken
          obtain ⟨allowed, unready, unrevoked⟩ := careful purpose seen found
          have isOver : ExportInv host ((world.update purpose seen host.prefixOf now).stop call) :=
            inv.committed_over found allowed unrevoked
          cases purpose with
          | finish details => exact absurd rfl unready
          | _ => exact isOver
      | _ => cases taken
  | abort _ =>
      cases mine
      cases stage with
      | deciding purpose =>
          cases taken
          exact inv.failed found (.inl rfl)
      | updating purpose seen =>
          cases taken
          exact inv.failed found (.inr ⟨seen, rfl⟩)
      | _ => cases taken
  | collect _ files =>
      cases mine
      cases stage with
      | collecting =>
          cases files with
          | none =>
              cases taken
              exact inv.works found rfl rfl (fun _ => trivial) fun _ mem => mem
          | some files =>
              cases taken
              exact inv.works found rfl rfl
                (fun _ => ⟨nofun, fun dataset requested => .inr (careful dataset requested)⟩)
                fun _ mem => mem
      | _ => cases taken
  | put _ answer now =>
      cases mine
      refine inv.uploaded found (fun lost => ?_) taken
      subst lost
      exact careful
  | delete _ deleted =>
      cases mine
      cases stage with
      | removing keys failing =>
          cases keys with
          | nil => cases taken
          | cons key rest =>
              cases taken
              refine inv.deletes found fun kept => ?_
              subst kept
              exact careful
      | _ => cases taken
  | settle _ =>
      cases mine
      cases stage with
      | removing keys failing =>
          cases keys with
          | cons key rest => cases failing <;> cases taken
          | nil =>
              cases failing with
              | true =>
                  cases taken
                  exact inv.works found rfl rfl (fun _ => trivial) fun _ mem => mem
              | false =>
                  cases taken
                  refine inv.stop fun _ old same => ?_
                  cases found.symm.trans same
                  rfl
      | _ => cases taken
  | crash _ =>
      cases mine
      cases taken
      exact inv.stop fun revoked old same => careful revoked old same
  | _ => cases mine

end

theorem next (inv : ExportInv host world) (careful : carefulExport host world step)
    (taken : (complianceExport host).step world step after) : ExportInv host after := by
  replace taken : exportNext host world step = some after := taken
  cases step with
  | run call =>
      simp only [exportNext] at taken
      split at taken
      · cases taken
      next absent =>
        split at taken
        · cases taken
          exact inv.begins absent rfl nofun
        · cases taken
          exact inv
  | revoke call =>
      simp only [exportNext] at taken
      split at taken
      · cases taken
      next absent =>
        split at taken
        next => cases taken; exact inv.begins absent rfl nofun
        next => cases taken; exact inv.begins absent rfl nofun
        next => cases taken; exact inv.begins absent rfl nofun
        next state => cases taken; exact inv.begins absent rfl fun _ _ => state ▸ rfl
        next state => cases taken; exact inv.begins absent rfl fun _ _ => state ▸ rfl
        next state => cases taken; exact inv.begins absent rfl fun _ _ => state ▸ rfl
  | expireDue call now =>
      simp only [exportNext] at taken
      split at taken
      · cases taken
      next absent =>
        split at taken
        · cases taken
          exact inv.begins absent rfl nofun
        · cases taken
          exact inv
  | download actorRef now =>
      simp only [exportNext] at taken
      split at taken
      · cases taken
        exact ⟨inv.once, inv.running, inv.removing, inv.untouched, inv.sound, inv.pending, inv.complete⟩
      · cases taken
        exact inv
  | _ =>
      simp only [exportNext, Cg5ExportStep.call?] at taken
      split at taken
      · cases taken
      next stage found => exact inv.proceeded rfl found careful taken

end ExportInv

variable {host : Cg5ExportHost} {world : Cg5ExportWorld}

theorem exportInv (reachable : (carefulExports host).Reachable world) : ExportInv host world :=
  have initially : ∀ start, (carefulExports host).init start → ExportInv host start :=
    fun _ fresh => ExportInv.initial fresh
  have preserved : ∀ source label target, ExportInv host source →
      (carefulExports host).step source label target → ExportInv host target :=
    fun _ _ _ inv taken => inv.next taken.1 taken.2
  reachable.invariant initially preserved

/-! ## Final states -/

theorem afterFailure_job (world : Cg5ExportWorld) (call : Nat) (purpose : Cg5ExportPurpose) :
    (world.afterFailure call purpose).job = world.job := by
  cases purpose <;> rfl

theorem state_of_proceed {call : Nat}
    (taken : exportProceed host world call stage step = some after) :
    after.job.state = world.job.state ∨ ∃ purpose seen, stage = .updating purpose seen ∧
      ((∃ other now, step = .commit other now) ∨ ∃ other now, step = .commitUnanswered other now) := by
  cases step with
  | commit other now =>
      cases stage with
      | updating purpose seen => exact .inr ⟨purpose, seen, rfl, .inl ⟨other, now, rfl⟩⟩
      | _ => cases taken
  | commitUnanswered other now =>
      cases stage with
      | updating purpose seen => exact .inr ⟨purpose, seen, rfl, .inr ⟨other, now, rfl⟩⟩
      | _ => cases taken
  | delete _ deleted =>
      refine .inl ?_
      simp only [exportProceed] at taken
      split at taken <;> cases taken
      cases deleted <;> rfl
  | _ =>
      -- only the update of the row changes the job
      refine .inl ?_
      simp only [exportProceed] at taken
      repeat' split at taken
      all_goals cases taken
      all_goals first
        | rfl
        | exact congrArg Cg5ExportJob.state (afterFailure_job world call _)

theorem final_kept
    (taken : (carefulExports host).step world step after) (final : world.job.state.isFinal = true) :
    after.job.state = world.job.state := by
  obtain ⟨careful, taken⟩ := taken
  replace taken : exportNext host world step = some after := taken
  cases step with
  | run _ | revoke _ | expireDue _ _ | download _ _ =>
      simp only [exportNext] at taken
      repeat' split at taken
      all_goals cases taken
      all_goals rfl
  | _ =>
      simp only [exportNext, Cg5ExportStep.call?] at taken
      split at taken
      · cases taken
      next stage found =>
        rcases state_of_proceed taken with same | ⟨purpose, seen, rfl, ⟨_, _, equal⟩ | ⟨_, _, equal⟩⟩
        · exact same
        all_goals
          first
          | cases equal; done
          | cases equal
            have unfinal := allows_not_final (careful purpose seen found).1
            exact absurd (unfinal.symm.trans final) nofun

/-- In every run of careful steps an export is complete or unavailable. -/
theorem exports_complete_or_unavailable (host : Cg5ExportHost) :
    ExportsSafe host (carefulExports host) where
  final world later _ run isFinal := by
    induction run with
    | refl => rfl
    | tail _ step ih =>
        obtain ⟨label, taken⟩ := step
        exact (final_kept taken (ih ▸ isFinal)).trans ih
  erased world reachable revoked ended := by
    refine eq_nil_iff_forall_not_mem.mpr fun object mem => ?_
    obtain ⟨call, stage, found, known⟩ := (exportInv reachable).pending revoked object mem
    have retention := ended _ (find_mem found)
    cases stage with
    | deciding purpose | updating purpose seen =>
        cases purpose with
        | expire keys => exact absurd known not_mem_nil
        | start | finish _ | fail | revoke _ => cases retention
    | collecting | uploading _ _ | sealing _ | removing _ _ => cases retention
  complete world reachable ready := (exportInv reachable).complete ready

/-! ## Two workers claim one job -/

def pilotExportHost : Cg5ExportHost where
  request := ⟨"t1", "x1", [.auditLog], 0, 1000, .summary, "officer-1"⟩
  digest body := "sha256:" ++ body
  refDigest ref := "ref:" ++ ref
  manifestText manifest := String.join (manifest.fileDigests.map Prod.snd)

def pilotExport : Cg5ExportWorld where
  job := ⟨.queued, 1, none, none, none, none, 0⟩
  objects := []
  calls := []
  audit := []

/-- Both workers read `QUEUED`; the first one finishes, and the second one fails at its manifest
and deletes the file that the first one has recorded. -/
def rivalWorkers : List Cg5ExportStep :=
  [.run 1, .run 2, .look 1, .look 2, .commit 1 10, .commit 2 10,
    .collect 1 (some [⟨.auditLog, "rows", 1⟩]), .collect 2 (some [⟨.auditLog, "rows", 1⟩]),
    .put 1 .done 20, .put 1 .done 20, .put 1 .done 20, .put 2 .done 20, .put 2 .done 20,
    .look 1, .commit 1 30, .put 2 .refused 40]

theorem ready_export_loses_its_file :
    ¬ ExportsSafe pilotExportHost (complianceExport pilotExportHost) := by
  intro safe
  have ends : System.endsWith (exportNext pilotExportHost) pilotExport rivalWorkers (.delete 2 true)
      (fun _ world => decide (world.job.state = .ready ∧
        storedObject world.objects (pilotExportHost.fileKey .auditLog) = none)) = true := by
    decide +kernel
  have fresh : pilotExport.Fresh := ⟨rfl, rfl, rfl, rfl⟩
  obtain ⟨before, world, reachable, taken, holds⟩ := System.Reachable.endsWith fresh ends
  obtain ⟨ready, missing⟩ := of_decide_eq_true holds
  obtain ⟨_, _, _, _, complete⟩ := safe.complete world (reachable.step taken) ready
  obtain ⟨manifest, _, _, _, _, _, covered, stored⟩ := complete.stored
  obtain ⟨entry, inside, same⟩ := mem_map.mp (covered .auditLog mem_cons_self)
  obtain ⟨object, found, -⟩ := stored entry inside
  rw [same, missing] at found
  cases found

end DContact.Governance

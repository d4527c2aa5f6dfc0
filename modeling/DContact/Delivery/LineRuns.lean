import DContact.Delivery.LineExactKey

/-!
# Runs are used once

Operators propose, approve and close runs while the calls of the adapter consume them, and any of
them may stop between two requests. A run goes to one delivery and a delivery has one run, and a run
that is consumed stays as it is.
-/

namespace DContact.Delivery

open Lib List LineControlStore

/-- No two runs were consumed for one delivery. -/
structure UsedOnce (runs : List DlLineRunAuthorization) : Prop where
  ids : (runs.map (·.id)).Nodup
  once : Table.UniqueBy (·.id) (·.consumedDeliveryId) runs

/-- What was consumed stays consumed, by the same delivery. -/
def Outlasts (before after : LineControlStore) : Prop :=
  ∀ id run, before.findRun id = some run → run.state = .consumed → after.findRun id = some run

variable {runs later : List DlLineRunAuthorization} {run : DlLineRunAuthorization}
  {id : String} {rewrite : DlLineRunAuthorization → DlLineRunAuthorization}
  {request : LineControlRequest}

theorem approve_consumed (role : LineRunApprovalRole) (actor : String) :
    (approve role actor run).consumedDeliveryId = run.consumedDeliveryId := by
  cases role <;>
    · simp only [approve]
      split <;> rfl

/-- A run is rewritten, but for no delivery that another one was consumed for. -/
theorem UsedOnce.update (used : UsedOnce runs) (keeps : ∀ row, (rewrite row).id = row.id)
    (taken : ∀ row, (rewrite row).consumedDeliveryId = row.consumedDeliveryId ∨
      ∀ other ∈ runs, other.consumedDeliveryId ≠ (rewrite row).consumedDeliveryId) :
    UsedOnce (Table.update (·.id) id rewrite runs) where
  ids := by
    rw [Table.map_key_update keeps]
    exact used.ids
  once := by
    refine used.once.update keeps fun row _ _ => ?_
    refine (taken row).imp_right fun fresh other present _ deliveryId carries same => ?_
    exact fresh other present (carries.trans same.symm)

theorem UsedOnce.written (used : UsedOnce runs) (writes : RunsWritten runs request later) :
    UsedOnce later := by
  cases writes with
  | same => exact used
  | @proposed run fresh =>
      refine ⟨Table.nodup_append used.ids ?_, ?_⟩
      · intro known
        obtain ⟨other, mem, same⟩ := mem_map.mp known
        exact fresh other mem same
      · intro left leftMember right rightMember deliveryId carries carriesToo
        rcases mem_snoc.mp leftMember with leftOld | rfl
        · rcases mem_snoc.mp rightMember with rightOld | rfl
          · exact used.once left leftOld right rightOld deliveryId carries carriesToo
          · cases carriesToo
        · cases carries
  | @approved id actor role =>
      exact used.update (approve_id role actor) fun _ => .inl (approve_consumed role actor)
  | consumed found approved counts once =>
      exact used.update (fun _ => rfl) fun _ => .inr once
  | closed => exact used.update (fun _ => rfl) fun _ => .inl rfl

theorem RunsWritten.outlasts (writes : RunsWritten runs request later)
    (known : Table.lookup (·.id) id runs = some run) (consumed : run.state = .consumed) :
    Table.lookup (·.id) id later = some run := by
  have untouched : ∀ {target : String} {other : DlLineRunAuthorization}
      {rewrite : DlLineRunAuthorization → DlLineRunAuthorization},
      Table.lookup (·.id) target runs = some other → other.state ≠ .consumed →
      (∀ row, (rewrite row).id = row.id) →
      Table.lookup (·.id) id (Table.update (·.id) target rewrite runs) = some run := by
    intro target other rewrite found differs keeps
    rw [Table.lookup_update keeps, known, Option.map_some, if_neg]
    intro named
    have same : run.id = id := Table.lookup_key known
    rw [← named, same, known] at found
    cases found
    exact differs consumed
  cases writes with
  | same => exact known
  | proposed => exact Table.lookup_append known
  | approved found waits =>
      refine untouched found ?_ (approve_id _ _)
      simp only [approvable, Bool.and_eq_true, decide_eq_true_eq] at waits
      simp [waits.1]
  | consumed found approved => exact untouched found (by simp [approved]) fun _ => rfl
  | closed found isOpen =>
      refine untouched found ?_ fun _ => rfl
      rcases isOpen with state | state <;> simp [state]

section Runs

variable {host : LineHost} {digest : LineRunProposalDigestInput → String}
  {workers after : LineWorkers} {step : LineStep}

/-- What a step does to the control plane: nothing, or what one of its requests does. -/
theorem control_stepped (taken : workers.next (lineMachine host digest) step = some after) :
    after.world.store.control = workers.world.store.control ∨
      ∃ request : LineControlRequest, ∃ reply : request.Reply,
        workers.world.store.control.perform request = .ok (reply, after.world.store.control) := by
  rcases Workers.next_store taken with same | ⟨pid, tick, request, reply, performed⟩ | ⟨label, moved⟩
  · exact .inl (by rw [same])
  · have done : LineDone host workers.world.store request reply after.world.store :=
      performLine_done (show performLine host pid tick request _ = _ from performed)
    generalize after.world.store = store at done
    cases done with
    | controlled ok => exact .inr ⟨_, _, ok⟩
    | _ => exact .inl rfl
  · rcases elsewhere_cases moved with ⟨_, same⟩ | ⟨_, -, same⟩ <;> exact .inl (by rw [same])

def RunsUsedOnce (workers : LineWorkers) : Prop := UsedOnce workers.world.store.control.runs

/-- In every interleaving each delivery has consumed at most one run, and no row of the control plane
goes back: what was proposed and approved stays, and a run that is consumed is not touched again. -/
theorem line_runs_are_used_once (host : LineHost) (digest : LineRunProposalDigestInput → String)
    {workers later : LineWorkers} (reachable : (lineDeliveries host digest).Reachable workers)
    (run : (lineDeliveries host digest).Reaches workers later) :
    RunsUsedOnce later ∧
      ControlLater workers.world.store.control later.world.store.control ∧
      Outlasts workers.world.store.control later.world.store.control := by
  constructor
  · refine (reachable.reaches run).invariant ?_ ?_
    · rintro _ ⟨store, fresh, rfl⟩
      simp only [RunsUsedOnce, Workers.idle, fresh.2.2.2.1]
      exact ⟨nodup_nil, forall_mem_nil _⟩
    · intro workers step after used taken
      rcases control_stepped taken with same | ⟨request, reply, ok⟩
      · rw [RunsUsedOnce, same]
        exact used
      · exact UsedOnce.written used (runs_written ok)
  · induction run with
    | refl => exact ⟨.refl _, fun _ _ known _ => known⟩
    | tail _ taken ih =>
        obtain ⟨step, taken⟩ := taken
        obtain ⟨later, outlasts⟩ := ih
        rcases control_stepped taken with same | ⟨request, reply, ok⟩
        · exact same ▸ ⟨later, outlasts⟩
        · refine ⟨later.trans (perform_later ok), fun id run known consumed => ?_⟩
          exact (runs_written ok).outlasts (outlasts id run known consumed) consumed

end Runs

open Pilot in
theorem consumed_run_is_used_once : ∃ workers later : LineWorkers,
    (workers.world.store.control.runs.any fun run => run.state = .consumed) = true ∧
      RunsUsedOnce later ∧
      ControlLater workers.world.store.control later.world.store.control ∧
      Outlasts workers.world.store.control later.world.store.control := by
  have ends : System.endsWith (Workers.next (lineMachine host digest)) (Workers.idle store)
      (beforePush 1 "recipient") (.perform 11 (tick "c"))
      (fun before _ => before.world.store.control.runs.any fun run => run.state = .consumed) =
        true := by
    decide +kernel
  obtain ⟨workers, later, reachable, last, consumed⟩ := Workers.endsWith store_fresh ends
  exact ⟨workers, later, consumed,
    line_runs_are_used_once host digest reachable (.single ⟨_, last⟩)⟩

end DContact.Delivery

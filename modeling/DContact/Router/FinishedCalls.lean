import DContact.Router.FinishedPrograms

/-!
# A finished call stays finished

In every run whose updates find what was read, a call that is over keeps its state, a hang-up is not
missed, and nobody stays reserved for a call that was abandoned. Without that condition an input of
the caller that is under way brings back a call that was hung up.
-/

namespace DContact.Router

open Lib
open Governance (Instant)

/-- A call that is over keeps its state; the hang-up of a call that waited, was in the IVR or was
offered has left it abandoned; and nobody's latest state is that such a call was offered. -/
structure FinishedStays (system : System RouterWorkers RouterWorkerStep) : Prop where
  final : ∀ workers later, system.Reachable workers → system.Reaches workers later →
    ∀ row ∈ workers.world.store.interactions, row.state.isFinal = true →
    (∃ kept ∈ later.world.store.interactions, kept.id = row.id) ∧
    ∀ kept ∈ later.world.store.interactions, kept.id = row.id → kept.state = row.state
  hungUp : ∀ workers, system.Reachable workers → ∀ pid event result,
    workers.world.calls pid = .ended (.handle event) (.ok (.routed result)) →
    event.type = .hangup →
    result.status = .queued ∨ result.status = .assigned ∨ result.status = .abandoned →
    ∃ row ∈ workers.world.store.interactions, row.id = result.interactionId ∧
      row.externalId = event.callUuid ∧ row.state = .abandoned
  released : ∀ workers, system.Reachable workers →
    ∀ row ∈ workers.world.store.interactions, row.state = .abandoned → ∀ agent entry,
    latestState workers.world.store.states agent = some entry → entry.about = some row.id →
    entry.state ≠ .reserved

def asReadRuns (host : RouterHost) : System RouterWorkers RouterWorkerStep :=
  callsDesk.runs host (routerProgram host) RouterStore.Fresh

theorem RouterStore.Fresh.orderly {store : RouterStore} (fresh : store.Fresh) : Orderly store := by
  have empty : ∀ row, row ∉ store.interactions := fun row mem =>
    absurd (fresh.calls ▸ mem) List.not_mem_nil
  have idle : ∀ pid, store.inside pid = none := fun pid => by
    unfold RouterStore.inside
    rw [fresh.idle]
    rfl
  refine ⟨?_, fun row mem => (empty row mem).elim, fresh.below, ?_,
    fun row mem => (empty row mem).elim, ?_, ?_⟩
  · rw [fresh.calls]
    exact List.nodup_nil
  · intro entry mem id about
    rw [fresh.before entry mem] at about
    cases about
  · intro pid work mine
    rw [idle] at mine
    cases mine
  · intro pid other work otherWork _ mine
    rw [idle] at mine
    cases mine

theorem router_answers (host : RouterHost) : Desk.Answers callsDesk host (routerProgram host) := by
  intro call pid world
  have rules : (callsWalk host (routerProgram host) pid).Rules := callsWalk_rules
  cases call with
  | handle event =>
      exact (rules.handle (SaysGone event.callUuid) fun _ => handleHangup_keeps).bind
        fun result _ gone => Discipline.ensures_pure gone
  | processDue => exact rules.processDue.bind fun _ _ _ => Discipline.ensures_pure trivial
  | declineOffer command =>
      exact rules.declineOffer.bind fun _ _ _ => Discipline.ensures_pure trivial
  | completeWrapUp command =>
      exact rules.completeWrapUp.bind fun _ _ _ => Discipline.ensures_pure trivial

theorem orderly_of_reachable {host : RouterHost} {workers : RouterWorkers}
    (reachable : (asReadRuns host).Reachable workers) : Orderly workers.world.store :=
  (Desk.inv_of_reachable (router_answers host) (fun _ fresh => fresh.orderly) reachable).1

/-- In every run whose updates find what was read, a finished call stays finished. -/
theorem finished_call_stays_finished (host : RouterHost) : FinishedStays (asReadRuns host) where
  final := by
    intro workers later reachable reaches row mem final
    have traced : CallsTraced workers.world.store later.world.store :=
      Desk.kept_of_reaches (router_answers host) (fun _ fresh => fresh.orderly) CallsTraced
        CallsTraced.refl (fun _ _ _ => CallsTraced.trans) (fun _ _ _ kept => kept.rows) reachable
        reaches
    obtain ⟨version, inside, traces⟩ := traced row mem
    refine ⟨⟨version, inside, traces.id⟩, fun kept found same => ?_⟩
    have keyed := (orderly_of_reachable (reachable.reaches reaches)).keyed
    rw [List.inj_on_of_nodup_map keyed found inside (same.trans traces.id.symm)]
    exact traces.final final
  hungUp := by
    intro workers reachable pid event result ended hangup status
    exact (Desk.inv_of_reachable (router_answers host) (fun _ fresh => fresh.orderly) reachable).2 pid
      (.handle event) (.routed result) ended hangup status
  released := by
    intro workers reachable row mem abandoned agent entry latest about reserved
    have offered := offered_of_latest latest about reserved
    exact ((orderly_of_reachable reachable).offers row mem agent offered).lives abandoned

def pilotInput (callUuid value : String) : TelephonyCallEvent :=
  ⟨.input, callUuid, callUuid, "1600", some .dtmf, some value⟩

/-- The caller has chosen a queue. While the input is under way the call is hung up; then the input
offers the call to Ann. -/
def lateInput : List RouterWorkerStep :=
  [.start (.handle (pilotEvent .created "x" "1600"))] ++ pilotRequests 0 6 (pilotTick 10 "i1") ++
  [.finish 0, .start (.handle (pilotInput "x" "1"))] ++ pilotRequests 1 7 (pilotTick 1000 "") ++
  [.start (.handle (pilotEvent .hangup "x" "1600"))] ++ pilotRequests 2 6 (pilotTick 2000 "") ++
  [.finish 2] ++ pilotRequests 1 3 (pilotTick 3000 "")

theorem late_input_brings_a_call_back : ¬ FinishedStays (routerRuns pilotHost) := by
  intro stays
  have ends : System.endsWith (Workers.next (routerMachine pilotHost)) (Workers.idle pilotStore)
      lateInput (.perform 1 (pilotTick 3000 ""))
      (fun before after => decide (∃ row ∈ before.world.store.interactions,
        row.state.isFinal = true ∧ ∃ later ∈ after.world.store.interactions,
          later.id = row.id ∧ later.state ≠ row.state)) = true := by
    decide +kernel
  have fresh : pilotStore.Fresh := by decide
  obtain ⟨before, after, reachable, taken, holds⟩ := Workers.endsWith fresh ends
  obtain ⟨row, mem, final, later, inside, same, differs⟩ := of_decide_eq_true holds
  have reaches : (routerRuns pilotHost).Reaches before after := .single ⟨_, taken⟩
  exact differs ((stays.final before after reachable reaches row mem final).2 later inside same)

end DContact.Router

import DContact.Router.OneCallPrograms

/-!
# One agent, one call

In every run whose requests act on what still holds, no agent has two calls, and nobody is available
who has one. Without that condition a hang-up that acts on an offer which has moved on frees an agent
who has got another call in the meantime.
-/

namespace DContact.Router

open Lib
open Governance (Instant)

structure OneCallPerAgent (system : System RouterWorkers RouterWorkerStep) : Prop where
  apart : ∀ workers, system.Reachable workers → ∀ left ∈ workers.world.store.interactions,
    ∀ right ∈ workers.world.store.interactions, ∀ agent, left.occupant = some agent →
    right.occupant = some agent → left = right
  available : ∀ workers, system.Reachable workers → ∀ agent,
    stateIn workers.world.store.states agent = some .available →
    ∀ row ∈ workers.world.store.interactions, row.occupant ≠ some agent

/-- Every request acts on what still holds. -/
def upToDateCondition : Condition RouterStore RouterTick RouterRequest RouterRequest.Reply RouterCall
    Empty RouterError RouterAnswer where
  asks world pid tick request := upToDateRequest world.store pid tick request
  elsewhere _ label := nomatch label

def upToDateRuns (host : RouterHost) : System RouterWorkers RouterWorkerStep :=
  Workers.runs (routerMachine host) RouterStore.Fresh upToDateCondition

variable {store : RouterStore}

theorem inside_of_idle (idle : store.sessions = []) (pid : Nat) : store.inside pid = none := by
  unfold RouterStore.inside
  rw [idle]
  rfl

theorem RouterStore.Fresh.seats (fresh : store.Fresh) : Seats store := by
  have empty : ∀ row, row ∉ store.interactions := fun row mem =>
    absurd (fresh.calls ▸ mem) List.not_mem_nil
  refine ⟨?_, fun row mem => (empty row mem).elim, fun row mem => (empty row mem).elim,
    fresh.below, ?_, fun row mem => (empty row mem).elim,
    fun _ _ row mem => (empty row mem).elim, ?_, ?_, ?_⟩
  · rw [fresh.calls]
    exact List.nodup_nil
  · exact fun entry mem other inside same =>
      List.inj_on_of_nodup_map fresh.distinct mem inside same
  · intro pid work mine
    rw [inside_of_idle fresh.idle] at mine
    cases mine
  · intro pid other work otherWork _ mine
    rw [inside_of_idle fresh.idle] at mine
    cases mine
  · intro pid other work otherWork _ mine
    rw [inside_of_idle fresh.idle] at mine
    cases mine

theorem hands_answer (host : RouterHost) : Desk.Answers hands host (routerProgram host) := by
  intro call pid world
  have rules : (handsWalk host (routerProgram host) pid).Rules := handsWalk_rules
  cases call with
  | handle event =>
      exact (rules.handle (fun _ _ => True) handleHangup_hands).bind
        fun _ _ _ => Discipline.ensures_pure trivial
  | processDue => exact rules.processDue.bind fun _ _ _ => Discipline.ensures_pure trivial
  | declineOffer command =>
      exact rules.declineOffer.bind fun _ _ _ => Discipline.ensures_pure trivial
  | completeWrapUp command =>
      exact rules.completeWrapUp.bind fun _ _ _ => Discipline.ensures_pure trivial

theorem seats_of_reachable {host : RouterHost} {workers : RouterWorkers}
    (reachable : (upToDateRuns host).Reachable workers) : Seats workers.world.store :=
  (Desk.inv_of_reachable (hands_answer host) (fun _ fresh => fresh.seats) reachable).1

/-- In every run whose requests act on what still holds, no agent has two calls, and nobody is
available who has one. -/
theorem one_call_per_agent (host : RouterHost) : OneCallPerAgent (upToDateRuns host) where
  apart := by
    intro workers reachable left leftMember right rightMember agent leftOf rightOf
    have seats := seats_of_reachable reachable
    have same := seats.apart left leftMember right rightMember agent leftOf rightOf
    exact List.inj_on_of_nodup_map seats.keyed leftMember rightMember same
  available := by
    intro workers reachable agent available
    obtain ⟨entry, latest, same, state⟩ := available_latest available
    exact (seats_of_reachable reachable).vacant agent
      ⟨entry, latest, same, AgentStateLog.frees_of_available state⟩

/-- Ann is offered the first call. While its hang-up is under way the offer goes to Bob, and Ann gets
the second call; then the hang-up frees Ann. -/
def lateHangup : List RouterWorkerStep :=
  [.start (.handle (pilotEvent .created "x" "1500"))] ++ pilotRequests 0 11 (pilotTick 10 "i1") ++
  [.finish 0, .start (.handle (pilotEvent .hangup "x" "1500"))] ++
  pilotRequests 1 4 (pilotTick 1000 "") ++
  [.start .processDue] ++ pilotRequests 2 16 (pilotTick 2000 "") ++
  [.finish 2, .start (.handle (pilotEvent .created "y" "1500"))] ++
  pilotRequests 3 11 (pilotTick 2100 "i2") ++ [.finish 3] ++ pilotRequests 1 2 (pilotTick 2200 "")

theorem late_hangup_frees_a_busy_agent : ¬ OneCallPerAgent (routerRuns pilotHost) := by
  intro one
  have ends : System.endsWith (Workers.next (routerMachine pilotHost)) (Workers.idle pilotStore)
      lateHangup (.perform 1 (pilotTick 2300 ""))
      (fun _ workers => decide (stateIn workers.world.store.states "ann" = some .available ∧
        ∃ row ∈ workers.world.store.interactions, row.occupant = some "ann")) = true := by
    decide +kernel
  have fresh : pilotStore.Fresh := by decide
  obtain ⟨before, workers, reachable, taken, holds⟩ := Workers.endsWith fresh ends
  obtain ⟨available, row, mem, occupied⟩ := of_decide_eq_true holds
  exact one.available workers (reachable.step taken) "ann" available row mem occupied

end DContact.Router

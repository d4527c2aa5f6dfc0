import DContact.Lib.Histories
import DContact.Router.RouterMachine

/-!
# Desks

What has to be said for a property of the router's tables to hold in every run: the invariant, what a
worker relies on while the others are at work, the condition on the requests, and what is known of
the answer of a call for good. The facts that a transaction works with are about its own rows and
what it relies on.
-/

namespace DContact.Router

open Lib
open Governance (Instant)

abbrev RouterWorld (κ α : Type) := World RouterStore RouterRequest RouterRequest.Reply κ RouterError α

structure Desk (κ α : Type) where
  Inv : RouterStore → Prop
  Kept : Nat → RouterStore → RouterStore → Prop
  asks : RouterStore → Nat → RouterTick → RouterRequest → Bool
  Done : κ → α → RouterStore → Prop
  kept_refl : ∀ pid store, Kept pid store store
  kept_trans : ∀ pid first second third, Kept pid first second → Kept pid second third →
    Kept pid first third
  kept_inside : ∀ pid before after, Kept pid before after → after.inside pid = before.inside pid
  kept_done : ∀ pid before after call result, Kept pid before after → Done call result before →
    Done call result after
  begun : ∀ pid store, Inv store → Inv (store.working pid .empty) ∧
    ∀ other, other ≠ pid → Kept other store (store.working pid .empty)
  rolledBack : ∀ pid store, Inv store → Inv (store.rollback pid) ∧
    ∀ other, other ≠ pid → Kept other store (store.rollback pid)

namespace Desk

variable {κ α : Type} (desk : Desk κ α)

/-- A step of one worker. -/
structure Moves (pid : Nat) (before after : RouterStore) : Prop where
  inv : desk.Inv after
  others : ∀ other, other ≠ pid → desk.Kept other before after

def discipline (host : RouterHost) (program : κ → RouterProgram α) :
    Discipline (machineOf host program) where
  inv world := desk.Inv world.store ∧ ∀ pid call result, world.calls pid = .ended call (.ok result) →
    desk.Done call result world.store
  relies pid before after := desk.Kept pid before.store after.store
  allows world pid tick request := desk.asks world.store pid tick request = true
  relies_refl pid world := desk.kept_refl pid world.store
  relies_trans pid first second third := desk.kept_trans pid first.store second.store third.store

/-- A fact of a transaction that the others cannot make false. -/
def Stable (fact : RouterStore → RouterTransaction → Prop) : Prop :=
  ∀ pid before after work, desk.Kept pid before after → before.inside pid = some work →
    fact before work → fact after work

def Inside (pid : Nat) (fact : RouterStore → RouterTransaction → Prop) (store : RouterStore) : Prop :=
  ∃ work, store.inside pid = some work ∧ fact store work

variable {desk} {host : RouterHost} {program : κ → RouterProgram α} {pid : Nat}
  {world : RouterWorld κ α} {fact weaker : RouterStore → RouterTransaction → Prop}
  {store : RouterStore}

theorem Inside.mono (inside : Inside pid fact store)
    (implies : ∀ work, fact store work → weaker store work) : Inside pid weaker store :=
  inside.imp fun work known => ⟨known.1, implies work known.2⟩

theorem Stable.and (first : desk.Stable fact) (second : desk.Stable weaker) :
    desk.Stable fun store work => fact store work ∧ weaker store work :=
  fun pid before after work kept mine known =>
    ⟨first pid before after work kept mine known.1, second pid before after work kept mine known.2⟩

theorem stable_const {holds : Prop} : desk.Stable fun _ _ => holds :=
  fun _ _ _ _ _ _ known => known

theorem Moves.refl (inv : desk.Inv store) : desk.Moves pid store store :=
  ⟨inv, fun other _ => desk.kept_refl other store⟩

theorem Moves.rollback (inv : desk.Inv store) : desk.Moves pid store (store.rollback pid) :=
  ⟨(desk.rolledBack pid store inv).1, (desk.rolledBack pid store inv).2⟩

variable {request : RouterRequest}

theorem Moves.takes {before : RouterWorld κ α} {reply : Except RouterError request.Reply}
    (inv : (desk.discipline host program).inv before) (moves : desk.Moves pid before.store store) :
    (desk.discipline host program).Takes pid before (before.performing pid request reply store) := by
  refine ⟨⟨moves.inv, fun other call result ended => ?_⟩, moves.others⟩
  exact desk.kept_done (pid + 1) before.store store call result
    (moves.others (pid + 1) (Nat.succ_ne_self pid)) (inv.2 other call result ended)

/-- The rule for a request, wherever it is made. -/
theorem ensures_perform (request : RouterRequest) (before : RouterStore → Prop)
    (post : request.Reply → RouterStore → Prop)
    (stable : ∀ first second, desk.Kept pid first second → before first → before second)
    (holds : before world.store)
    (each : ∀ store tick reply after, desk.Inv store → before store →
      desk.asks store pid tick request = true → tick.fails = false →
      performRouter host pid tick request store = some (reply, after) →
      desk.Moves pid store after ∧ ∀ value, reply = .ok value → post value after) :
    (desk.discipline host program).Ensures pid (fun value after => post value after.store)
      (ask request) world := by
  intro now keeps inv tick reply store allows performed
  replace performed : performRouter host pid tick request now.store = some (reply, store) := performed
  cases fails : tick.fails with
  | true =>
      simp only [performRouter, fails, if_true] at performed
      cases performed
      refine ⟨Moves.takes inv (.rollback inv.1), ?_⟩
      intro value same
      cases same
  | false =>
      obtain ⟨moves, meets⟩ := each now.store tick reply store inv.1
        (stable _ _ keeps.relied holds) allows fails performed
      exact ⟨moves.takes inv, meets⟩

/-- The rule for a request of a transaction. -/
theorem ensures_ask (request : RouterRequest) (post : request.Reply → RouterStore → Prop)
    (stable : desk.Stable fact) (inside : Inside pid fact world.store)
    (each : ∀ store work tick reply after, desk.Inv store → store.inside pid = some work →
      fact store work → desk.asks store pid tick request = true →
      answer host pid tick work request store = some (reply, after) →
      desk.Moves pid store after ∧ ∀ value, reply = .ok value → post value after) :
    (desk.discipline host program).Ensures pid (fun value after => post value after.store)
      (ask request) world := by
  have persists : ∀ first second, desk.Kept pid first second → Inside pid fact first →
      Inside pid fact second := by
    rintro first second kept ⟨work, mine, known⟩
    exact ⟨work, (desk.kept_inside pid first second kept).trans mine,
      stable pid first second work kept mine known⟩
  refine ensures_perform request (Inside pid fact) post persists inside ?_
  rintro store tick reply after inv ⟨work, mine, known⟩ asked fails performed
  rw [performRouter_inside mine, fails] at performed
  exact each store work tick reply after inv mine known asked performed

theorem ensures_begin : (desk.discipline host program).Ensures pid
    (fun _ after => Inside pid (fun _ work => work = .empty) after.store) (ask .begin_) world := by
  refine ensures_perform .begin_ (fun _ => True)
    (fun _ store => Inside pid (fun _ work => work = .empty) store) (fun _ _ _ _ => trivial) trivial ?_
  intro store tick reply after inv _ _ fails performed
  simp only [performRouter, fails] at performed
  cases performed
  obtain ⟨kept, others⟩ := desk.begun pid store inv
  refine ⟨⟨kept, others⟩, fun _ _ => ⟨.empty, ?_, rfl⟩⟩
  exact inside_working

/-- Requests that change nothing leave a worker with what it knows. -/
theorem ensures_look (stable : desk.Stable fact) (looks : request.looks = true)
    (inside : Inside pid fact world.store) :
    (desk.discipline host program).Ensures pid (fun _ after => Inside pid fact after.store)
      (ask request) world := by
  refine ensures_ask request (fun _ => Inside pid fact) stable inside ?_
  intro store work tick reply after inv mine known _ answered
  cases answer_of_looks looks answered
  exact ⟨.refl inv, fun _ _ => ⟨work, mine, known⟩⟩

theorem ensures_now : (desk.discipline host program).Ensures pid (fun _ _ => True) readClock
    world := by
  refine ensures_perform .now (fun _ => True) (fun _ _ => True) (fun _ _ _ _ => trivial) trivial ?_
  intro store tick reply after inv _ _ fails performed
  simp only [performRouter, fails] at performed
  cases performed
  exact ⟨.refl inv, fun _ _ => trivial⟩

theorem ensures_rollback (stable : desk.Stable fact) (inside : Inside pid fact world.store) :
    (desk.discipline host program).Ensures pid (fun _ _ => True) (ask .rollback) world := by
  refine ensures_ask .rollback (fun _ _ => True) stable inside ?_
  intro store work tick reply after inv mine _ _ answered
  cases answered
  exact ⟨.rollback inv, fun _ _ => trivial⟩

/-- The rule for a new call, which waits with nobody. -/
theorem ensures_create {draft : CallDraft} (post : Interaction → RouterStore → Prop)
    (stable : desk.Stable fact) (inside : Inside pid fact world.store)
    (each : ∀ store work row, desk.Inv store → store.inside pid = some work → fact store work →
      row.id ∉ store.minted → row.state = .queued → row.agentId = none →
      ∀ after, after = { store.working pid { work with written := work.written ++ [row] } with
        minted := row.id :: store.minted } → desk.Moves pid store after ∧ post row after) :
    (desk.discipline host program).Ensures pid
      (fun created after => ∀ row, created = .ok row → post row after.store) (attemptCreate draft)
      world := by
  intro now keeps inv tick reply store _ performed
  obtain ⟨work, mine, known⟩ := inside
  have still : now.store.inside pid = some work :=
    (desk.kept_inside _ _ _ keeps.relied).trans mine
  replace performed : performRouter host pid tick (.createCall draft) now.store =
    some (reply, store) := performed
  rw [performRouter_inside still] at performed
  split at performed
  next =>
    cases performed
    exact ⟨Moves.takes inv (.rollback inv.1), by rintro _ ⟨⟩ row ⟨⟩⟩
  next =>
    rcases create_cases performed with ⟨row, rfl, fresh, state, nobody, -, -, -, created⟩ | ⟨rfl, rfl⟩
    · obtain ⟨moves, meets⟩ := each now.store work row inv.1 still
        (stable _ _ _ work keeps.relied mine known) fresh state nobody store created
      refine ⟨moves.takes inv, ?_⟩
      rintro _ ⟨⟩ _ ⟨⟩
      exact meets
    · exact ⟨Moves.takes inv (.rollback inv.1), by rintro _ ⟨⟩ row ⟨⟩⟩

def condition (desk : Desk κ α) :
    Condition RouterStore RouterTick RouterRequest RouterRequest.Reply κ Empty RouterError α where
  asks world pid tick request := desk.asks world.store pid tick request
  elsewhere _ label := nomatch label

def runs (desk : Desk κ α) (host : RouterHost) (program : κ → RouterProgram α)
    (init : RouterStore → Prop) :
    System (Workers RouterStore RouterRequest RouterRequest.Reply κ RouterError α)
      (WorkerStep RouterTick κ Empty) :=
  Workers.runs (machineOf host program) init desk.condition

def Answers (desk : Desk κ α) (host : RouterHost) (program : κ → RouterProgram α) : Prop :=
  ∀ call pid world, (desk.discipline host program).Ensures pid
    (fun value after => desk.Done call value after.store) (program call) world

theorem status_inv {after : RouterWorld κ α} {status : CallStatus κ RouterError α}
    (inv : (desk.discipline host program).inv world) (store : after.store = world.store)
    (calls : after.calls = Function.update world.calls pid status)
    (done : ∀ call result, status = .ended call (.ok result) → desk.Done call result world.store) :
    (desk.discipline host program).Takes pid world after := by
  refine ⟨⟨store ▸ inv.1, fun other call result ended => ?_⟩, fun other _ => ?_⟩
  · rw [store]
    rw [calls] at ended
    by_cases own : other = pid
    · subst own
      rw [Function.update_self] at ended
      exact done call result ended
    · rw [Function.update_of_ne own] at ended
      exact inv.2 other call result ended
  · show desk.Kept other world.store after.store
    rw [store]
    exact desk.kept_refl other world.store

theorem starts {call : κ} (inv : (desk.discipline host program).inv world)
    (answers : Answers desk host program) : (desk.discipline host program).Starts world call where
  takes := status_inv inv rfl rfl nofun
  sound := by
    refine Discipline.Sound.mono (answers call world.started (world.starting call)) ?_
    intro result after done now keeps inv
    refine status_inv inv rfl rfl ?_
    rintro _ value ⟨⟩
    exact desk.kept_done _ _ _ _ _ keeps.relied (done value rfl)

variable {init : RouterStore → Prop}
  {workers later : Workers RouterStore RouterRequest RouterRequest.Reply κ RouterError α}

section
variable (answers : Answers desk host program) (initially : ∀ store, init store → desk.Inv store)
include answers initially

theorem governs :
    Discipline.Governs (desk.discipline host program) init
      (fun workers step => desk.condition.meets workers step = true) where
  initially store holds := ⟨initially store holds, nofun⟩
  starts _ _ supervised _ := starts supervised.inv answers
  allowed := by
    intro workers pid tick request _ asked met
    simp only [Workers.requestOf] at asked
    simp only [Condition.meets] at met
    cases running : workers.programs pid with
    | none => simp [running] at asked
    | some program =>
        cases program with
        | done result => simp [running] at asked
        | call own rest =>
            simp only [running, Option.some.injEq, Prod.mk.injEq, true_and] at asked met
            subst asked
            exact met
  crashes _ _ _ supervised _ _ := status_inv supervised.inv rfl rfl nofun
  elsewhere _ label := nomatch label

theorem inv_of_reachable (reachable : (desk.runs host program init).Reachable workers) :
    (desk.discipline host program).inv workers.world :=
  (Discipline.Governs.supervised (governs answers initially) reachable).inv

/-- What those who wait see of a run. -/
theorem kept_of_reaches (kept : RouterStore → RouterStore → Prop)
    (reflexive : ∀ store, kept store store)
    (transitive : ∀ first second third, kept first second → kept second third → kept first third)
    (implies : ∀ pid before after, desk.Kept pid before after → kept before after)
    (reachable : (desk.runs host program init).Reachable workers)
    (reaches : (desk.runs host program init).Reaches workers later) :
    kept workers.world.store later.world.store := by
  have governed : Discipline.Governs (desk.discipline host program) init _ :=
    governs answers initially
  let related : Workers RouterStore RouterRequest RouterRequest.Reply κ RouterError α →
      Workers RouterStore RouterRequest RouterRequest.Reply κ RouterError α → Prop :=
    fun before after => kept before.world.store after.world.store
  refine System.Reaches.related (R := related) (fun workers => reflexive _)
    (fun first second third left right => transitive _ _ _ left right) ?_ ?_
    (Discipline.Governs.supervised governed reachable) reaches
  · exact fun source step target supervised taken =>
      (supervised.stepped governed taken.1 taken.2).supervised
  · intro source step target supervised taken
    obtain ⟨pid, relied⟩ := (supervised.stepped governed taken.1 taken.2).relied
    exact implies _ _ _ (relied (pid + 1) (Nat.succ_ne_self pid))

end

end Desk

end DContact.Router

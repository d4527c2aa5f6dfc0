import DContact.Lib.Workers
import Mathlib.Control.Monad.Basic

/-!
# Histories of workers

The history of a worker is what it has asked so far, with the answers. A program conforms to a
protocol when every request that it makes is permitted by the history before it; this is a property
of the program alone, without a store. A run of workers then keeps an invariant as soon as every
permitted request keeps it.
-/

namespace DContact.Lib

open Workers

open List

structure Exchange (ι : Type) (ρ : ι → Type) (ε : Type) where
  request : ι
  reply : Except ε (ρ request)

/-- What a worker has asked, the first request first. -/
abbrev History (ι : Type) (ρ : ι → Type) (ε : Type) := List (Exchange ι ρ ε)

/-! ## Programs that conform -/

namespace Program

variable {ι : Type} {ρ : ι → Type} {ε α β : Type}

/-- Every request is permitted by what was asked before it, and so is the result. -/
def Conforms (permits : History ι ρ ε → ι → Prop) (post : Except ε α → History ι ρ ε → Prop) :
    Program ι ρ ε α → History ι ρ ε → Prop
  | .done result, history => post result history
  | .call request rest, history => permits history request ∧
      ∀ reply, Conforms permits post (rest reply) (history ++ [⟨request, reply⟩])

def Yields (permits : History ι ρ ε → ι → Prop) (post : α → History ι ρ ε → Prop)
    (program : Program ι ρ ε α) (history : History ι ρ ε) : Prop :=
  program.Conforms permits (fun result later => ∀ value, result = .ok value → post value later)
    history

variable {permits : History ι ρ ε → ι → Prop} {history : History ι ρ ε} {program : Program ι ρ ε α}

theorem Conforms.mono {post weaker : Except ε α → History ι ρ ε → Prop}
    (conforms : program.Conforms permits post history)
    (implies : ∀ result later, post result later → weaker result later) :
    program.Conforms permits weaker history := by
  induction program generalizing history with
  | done result => exact implies result history conforms
  | call request rest ih => exact ⟨conforms.1, fun reply => ih reply (conforms.2 reply)⟩

variable {post : α → History ι ρ ε → Prop}

theorem yields_pure {value : α} (holds : post value history) :
    (pure value : Program ι ρ ε α).Yields permits post history := by
  rintro _ ⟨⟩
  exact holds

theorem yields_throw {failure : ε} :
    (throw failure : Program ι ρ ε α).Yields permits post history :=
  fun _ same => by cases same

theorem Yields.mono {weaker : α → History ι ρ ε → Prop}
    (yields : program.Yields permits post history)
    (implies : ∀ value later, post value later → weaker value later) :
    program.Yields permits weaker history :=
  Conforms.mono yields fun _ later holds value same => implies value later (holds value same)

theorem Yields.bind {post : β → History ι ρ ε → Prop} {last : α → History ι ρ ε → Prop}
    {program : Program ι ρ ε β} {next : β → Program ι ρ ε α}
    (yields : program.Yields permits post history)
    (rest : ∀ value later, post value later → (next value).Yields permits last later) :
    (program >>= next).Yields permits last history := by
  induction program generalizing history with
  | done result =>
      cases result with
      | ok value => exact rest value history (yields value rfl)
      | error failure => exact fun _ same => by cases same
  | call request continue_ ih =>
      exact ⟨yields.1, fun reply => ih reply (yields.2 reply)⟩

theorem yields_attempt {asked : ι} {next : Except ε (ρ asked) → Program ι ρ ε α}
    (permitted : permits history asked)
    (rest : ∀ reply, (next reply).Yields permits post (history ++ [⟨asked, reply⟩])) :
    (attempt asked >>= next).Yields permits post history :=
  ⟨permitted, rest⟩

theorem yields_forEach {fact : History ι ρ ε → Prop} {items : List β}
    {body : β → Program ι ρ ε α} (holds : fact history)
    (each : ∀ item ∈ items, ∀ history, fact history →
      (body item).Yields permits (fun _ => fact) history) :
    (forEach items body).Yields permits (fun _ => fact) history := by
  induction items generalizing history with
  | nil => exact yields_pure holds
  | cons item rest ih =>
      refine (each item mem_cons_self history holds).bind fun first later kept => ?_
      refine (ih kept fun other mem => each other (mem_cons_of_mem _ mem)).bind ?_
      exact fun others last kept' => yields_pure kept'

end Program

/-! ## Workers that conform -/

variable {σ τ ι : Type} {ρ : ι → Type} {κ β ε α : Type}

deriving instance DecidableEq for CallStatus

/-- What a worker has asked in a run. -/
def World.history (world : World σ ι ρ κ ε α) (pid : Nat) : History ι ρ ε :=
  (world.mine pid).map fun entry => ⟨entry.request, entry.reply⟩

section
variable (world : World σ ι ρ κ ε α)
include world

theorem World.history_performing (pid other : Nat) (request : ι) (reply : Except ε (ρ request))
    (store : σ) :
    (world.performing pid request reply store).history other =
      if other = pid then world.history pid ++ [⟨request, reply⟩] else world.history other := by
  by_cases own : other = pid
  · subst own
    simp [World.history, World.mine, World.performing]
  · have away : (pid == other) = false := by simpa using Ne.symm own
    simp [World.history, World.mine, World.performing, own, away]

@[simp] theorem World.history_starting (call : κ) (pid : Nat) :
    (world.starting call).history pid = world.history pid := rfl

theorem World.calls_starting (call : κ) (pid : Nat) :
    (world.starting call).calls pid =
      if pid = world.started then .running call else world.calls pid :=
  Function.update_apply ..

theorem World.calls_ending (ended : Nat) (status : CallStatus κ ε α) (pid : Nat) :
    (world.ending ended status).calls pid = if pid = ended then status else world.calls pid :=
  Function.update_apply ..

@[simp] theorem World.calls_performing (pid other : Nat) (request : ι)
    (reply : Except ε (ρ request)) (store : σ) :
    (world.performing pid request reply store).calls other = world.calls other := rfl

end

/-- What the requests of each call are permitted by, and what its result rests on. -/
structure Protocol (ι : Type) (ρ : ι → Type) (κ ε α : Type) where
  permits : κ → History ι ρ ε → ι → Prop
  post : κ → Except ε α → History ι ρ ε → Prop

/-- A condition on the steps of a run: on the requests, and on what others do. -/
structure Condition (σ τ ι : Type) (ρ : ι → Type) (κ β ε α : Type) where
  asks : World σ ι ρ κ ε α → Nat → τ → ι → Bool
  elsewhere : World σ ι ρ κ ε α → β → Bool

def Condition.meets (condition : Condition σ τ ι ρ κ β ε α) (workers : Workers σ ι ρ κ ε α)
    (step : WorkerStep τ κ β) : Bool :=
  match step with
  | .perform pid tick =>
      match workers.programs pid with
      | some (.call request _) => condition.asks workers.world pid tick request
      | _ => true
  | .elsewhere label => condition.elsewhere workers.world label
  | _ => true

def Workers.runs (machine : Machine σ τ ι ρ κ β ε α) (init : σ → Prop)
    (condition : Condition σ τ ι ρ κ β ε α) : System (Workers σ ι ρ κ ε α) (WorkerStep τ κ β) :=
  (Workers.system machine init).restrict fun workers step => condition.meets workers step = true

structure Conforming (protocol : Protocol ι ρ κ ε α) (workers : Workers σ ι ρ κ ε α) : Prop where
  running : ∀ pid program, workers.programs pid = some program →
    ∃ call, workers.world.calls pid = .running call ∧
      program.Conforms (protocol.permits call) (protocol.post call) (workers.world.history pid)
  counted : ∀ pid, workers.world.started ≤ pid → workers.programs pid = none
  unused : ∀ pid, workers.world.started ≤ pid → workers.world.calls pid = .unused
  journaled : ∀ entry ∈ workers.world.journal, entry.pid < workers.world.started

/-- A conforming run in which an invariant of the world holds. -/
structure Kept (protocol : Protocol ι ρ κ ε α) (Inv : World σ ι ρ κ ε α → Prop)
    (workers : Workers σ ι ρ κ ε α) : Prop where
  inv : Inv workers.world
  conforming : Conforming protocol workers

/-- What each kind of step must keep for an invariant of the world. -/
structure Preserves (machine : Machine σ τ ι ρ κ β ε α)
    (condition : Condition σ τ ι ρ κ β ε α) (protocol : Protocol ι ρ κ ε α)
    (Inv : World σ ι ρ κ ε α → Prop) : Prop where
  starts : ∀ world call, Inv world → world.calls world.started = .unused →
    world.history world.started = [] → Inv (world.starting call)
  performs : ∀ world pid call tick request reply store, Inv world →
    world.calls pid = .running call → protocol.permits call (world.history pid) request →
    condition.asks world pid tick request = true →
    machine.perform pid tick request world.store = some (reply, store) →
    Inv (world.performing pid request reply store)
  ends : ∀ world pid call result, Inv world → world.calls pid = .running call →
    protocol.post call result (world.history pid) → Inv (world.ending pid (.ended call result))
  crashes : ∀ world pid call, Inv world → world.calls pid = .running call →
    Inv (world.ending pid (.crashed call))
  elsewhere : ∀ world label store, Inv world → condition.elsewhere world label = true →
    machine.others label world.store = some store → Inv { world with store := store }

/-- What each kind of step must keep for an invariant that stands beside another one. -/
structure PreservesBeside (machine : Machine σ τ ι ρ κ β ε α)
    (condition : Condition σ τ ι ρ κ β ε α) (protocol : Protocol ι ρ κ ε α)
    (Base Inv : World σ ι ρ κ ε α → Prop) : Prop where
  starts : ∀ world call, Base world → Inv world → world.calls world.started = .unused →
    world.history world.started = [] → Inv (world.starting call)
  performs : ∀ world pid call tick request reply store, Base world → Inv world →
    world.calls pid = .running call → protocol.permits call (world.history pid) request →
    condition.asks world pid tick request = true →
    machine.perform pid tick request world.store = some (reply, store) →
    Inv (world.performing pid request reply store)
  ends : ∀ world pid call result, Base world → Inv world → world.calls pid = .running call →
    protocol.post call result (world.history pid) → Inv (world.ending pid (.ended call result))
  crashes : ∀ world pid call, Base world → Inv world → world.calls pid = .running call →
    Inv (world.ending pid (.crashed call))
  elsewhere : ∀ world label store, Base world → Inv world → condition.elsewhere world label = true →
    machine.others label world.store = some store → Inv { world with store := store }

variable {Base : World σ ι ρ κ ε α → Prop} {status : CallStatus κ ε α}

/-- Two invariants side by side. -/
theorem Preserves.and {machine : Machine σ τ ι ρ κ β ε α} {condition : Condition σ τ ι ρ κ β ε α}
    {protocol : Protocol ι ρ κ ε α} {Inv : World σ ι ρ κ ε α → Prop}
    (base : Preserves machine condition protocol Base)
    (beside : PreservesBeside machine condition protocol Base Inv) :
    Preserves machine condition protocol fun world => Base world ∧ Inv world where
  starts := fun world call both unused unheard =>
    ⟨base.starts world call both.1 unused unheard,
      beside.starts world call both.1 both.2 unused unheard⟩
  performs := fun world pid call tick request reply store both called permitted met performed =>
    ⟨base.performs world pid call tick request reply store both.1 called permitted met performed,
      beside.performs world pid call tick request reply store both.1 both.2 called permitted met
        performed⟩
  ends := fun world pid call result both called post =>
    ⟨base.ends world pid call result both.1 called post,
      beside.ends world pid call result both.1 both.2 called post⟩
  crashes := fun world pid call both called =>
    ⟨base.crashes world pid call both.1 called, beside.crashes world pid call both.1 both.2 called⟩
  elsewhere := fun world label store both met moved =>
    ⟨base.elsewhere world label store both.1 met moved,
      beside.elsewhere world label store both.1 both.2 met moved⟩

section Runs

variable {machine : Machine σ τ ι ρ κ β ε α} {init : σ → Prop}
  {condition : Condition σ τ ι ρ κ β ε α} {protocol : Protocol ι ρ κ ε α}
  {Inv : World σ ι ρ κ ε α → Prop} {workers after : Workers σ ι ρ κ ε α}

section
variable (conforming : Conforming protocol workers)
include conforming

theorem Conforming.unheard : workers.world.history workers.world.started = [] := by
  rw [World.history, map_eq_nil_iff, World.mine, filter_eq_nil_iff]
  intro entry mem
  have before := conforming.journaled entry mem
  simp only [beq_iff_eq]
  omega

variable {pid : Nat}

theorem Conforming.counted_lt {program : Program ι ρ ε α}
    (running : workers.programs pid = some program) : pid < workers.world.started := by
  by_contra beyond
  rw [conforming.counted pid (Nat.le_of_not_lt beyond)] at running
  cases running

theorem Conforming.starting {call : κ}
    (conforms : (machine.program call).Conforms (protocol.permits call) (protocol.post call) []) :
    Conforming protocol (workers.put (workers.world.starting call) workers.world.started
      (some (machine.program call))) where
  running := by
    intro pid program present
    by_cases own : pid = workers.world.started
    · subst own
      rw [put_self] at present
      cases present
      refine ⟨call, Function.update_self .., ?_⟩
      rw [put_world, World.history_starting, conforming.unheard]
      exact conforms
    · rw [put_of_ne own] at present
      obtain ⟨other, called, holds⟩ := conforming.running pid program present
      exact ⟨other, (Function.update_of_ne own ..).trans called, holds⟩
  counted := by
    intro pid beyond
    have above : workers.world.started + 1 ≤ pid := beyond
    rw [put_of_ne (by omega)]
    exact conforming.counted pid (by omega)
  unused := by
    intro pid beyond
    have above : workers.world.started + 1 ≤ pid := beyond
    exact (Function.update_of_ne (by omega) ..).trans (conforming.unused pid (by omega))
  journaled := fun entry mem => Nat.lt_succ_of_lt (conforming.journaled entry mem)

theorem Conforming.performing {request : ι} {rest : Except ε (ρ request) → Program ι ρ ε α}
    {reply : Except ε (ρ request)} {store : σ}
    (running : workers.programs pid = some (.call request rest)) :
    Conforming protocol (workers.put (workers.world.performing pid request reply store) pid
      (some (rest reply))) where
  running := by
    intro other program present
    rw [put_world, World.history_performing]
    by_cases own : other = pid
    · subst own
      rw [put_self] at present
      cases present
      obtain ⟨call, called, -, continues⟩ := conforming.running other _ running
      rw [if_pos rfl]
      exact ⟨call, called, continues reply⟩
    · rw [put_of_ne own] at present
      rw [if_neg own]
      exact conforming.running other program present
  counted := by
    intro other beyond
    have counted := conforming.counted_lt running
    have above : workers.world.started ≤ other := beyond
    rw [put_of_ne (by omega)]
    exact conforming.counted other above
  unused := conforming.unused
  journaled := by
    intro entry mem
    rcases mem_snoc.mp mem with old | rfl
    · exact conforming.journaled entry old
    · exact conforming.counted_lt running

theorem Conforming.leaving {program : Program ι ρ ε α}
    (running : workers.programs pid = some program) :
    Conforming protocol (workers.put (workers.world.ending pid status) pid none) where
  running := by
    intro other rest present
    by_cases own : other = pid
    · subst own
      rw [put_self] at present
      cases present
    · rw [put_of_ne own] at present
      obtain ⟨call, called, holds⟩ := conforming.running other rest present
      exact ⟨call, (Function.update_of_ne own ..).trans called, holds⟩
  counted := by
    intro other beyond
    have counted := conforming.counted_lt running
    have above : workers.world.started ≤ other := beyond
    rw [put_of_ne (by omega)]
    exact conforming.counted other above
  unused := by
    intro other beyond
    have counted := conforming.counted_lt running
    have above : workers.world.started ≤ other := beyond
    exact (Function.update_of_ne (by omega) ..).trans (conforming.unused other above)
  journaled := conforming.journaled

end

section
variable (preserves : Preserves machine condition protocol Inv)
  (conforms : ∀ call, (machine.program call).Conforms (protocol.permits call) (protocol.post call) [])
include preserves conforms

/-- One step of a run keeps an invariant that every kind of step keeps. -/
theorem Preserves.next {step : WorkerStep τ κ β} (kept : Kept protocol Inv workers)
    (met : condition.meets workers step = true) (taken : workers.next machine step = some after) :
    Kept protocol Inv after := by
  obtain ⟨inv, conforming⟩ := kept
  cases step with
  | start call =>
      cases taken
      exact ⟨preserves.starts workers.world call inv
        (conforming.unused _ (Nat.le_refl _)) conforming.unheard,
        conforming.starting (conforms call)⟩
  | perform pid tick =>
      simp only [Workers.next] at taken
      split at taken
      next request rest running =>
        obtain ⟨⟨reply, store⟩, performed, rfl⟩ := Option.map_eq_some_iff.mp taken
        obtain ⟨call, called, permitted, -⟩ := conforming.running pid _ running
        simp only [Condition.meets, running] at met
        exact ⟨preserves.performs workers.world pid call tick request reply store inv called
          permitted met performed, conforming.performing running⟩
      next => cases taken
  | finish pid =>
      simp only [Workers.next] at taken
      split at taken
      next result call running called =>
        cases taken
        obtain ⟨called', status, post⟩ := conforming.running pid _ running
        rw [status] at called
        cases called
        exact ⟨preserves.ends workers.world pid _ result inv status post,
          conforming.leaving running⟩
      next => cases taken
  | crash pid =>
      simp only [Workers.next] at taken
      split at taken
      next program call running called =>
        cases taken
        obtain ⟨called', status, -⟩ := conforming.running pid _ running
        rw [status] at called
        cases called
        exact ⟨preserves.crashes workers.world pid _ inv status, conforming.leaving running⟩
      next => cases taken
  | elsewhere label =>
      obtain ⟨store, moved, rfl⟩ := Option.map_eq_some_iff.mp taken
      exact ⟨preserves.elsewhere workers.world label store inv met moved, conforming.running,
        conforming.counted, conforming.unused, conforming.journaled⟩

theorem Preserves.keeps (kept : Kept protocol Inv workers)
    (run : (runs machine init condition).Reaches workers after) :
    Kept protocol Inv after := by
  induction run with
  | refl => exact kept
  | tail _ taken ih =>
      obtain ⟨label, met, taken⟩ := taken
      exact preserves.next conforms ih met taken

/-- In every run whose steps meet the condition, the invariant holds. -/
theorem Preserves.kept
    (initially : ∀ store, init store → Inv (idle store : Workers σ ι ρ κ ε α).world)
    (reachable : (runs machine init condition).Reachable workers) :
    Kept protocol Inv workers := by
  obtain ⟨_, ⟨store, initial, rfl⟩, run⟩ := reachable
  refine preserves.keeps conforms ?_ run
  exact ⟨initially store initial, nofun, fun _ _ => rfl, fun _ _ => rfl, nofun⟩

end

end Runs

/-! ## Followed protocols -/

/-- The call of a worker that was started, whatever has become of it. -/
def CallStatus.made? : CallStatus κ ε α → Option κ
  | .unused => none
  | .running call | .ended call _ | .crashed call => some call

/-- Every request of a run was permitted when it was made, and every result rests on what its
protocol names. -/
structure Followed (protocol : Protocol ι ρ κ ε α) (world : World σ ι ρ κ ε α) : Prop where
  permitted : ∀ pid earlier exchange later,
    world.history pid = earlier ++ exchange :: later →
      ∃ call, (world.calls pid).made? = some call ∧
        protocol.permits call earlier exchange.request
  answered : ∀ pid call result, world.calls pid = .ended call result →
    protocol.post call result (world.history pid)

section Followed

variable {protocol : Protocol ι ρ κ ε α} {world : World σ ι ρ κ ε α}

theorem followed_idle (store : σ) :
    Followed protocol (idle store : Workers σ ι ρ κ ε α).world where
  permitted := by
    intro pid earlier exchange later shape
    exact absurd (show earlier ++ exchange :: later = [] from shape.symm) (by simp)
  answered := fun _ _ _ ended => by cases ended

theorem made_starting (world : World σ ι ρ κ ε α) (call : κ) (pid : Nat) :
    ((world.starting call).calls pid).made? =
      if pid = world.started then some call else (world.calls pid).made? := by
  rw [World.calls_starting]
  split <;> rfl

theorem made_ending {ended : Nat} {call : κ} (running : world.calls ended = .running call)
    (same : status.made? = some call) (pid : Nat) :
    ((world.ending ended status).calls pid).made? = (world.calls pid).made? := by
  rw [World.calls_ending]
  split
  next own => rw [own, running, same, CallStatus.made?]
  next => rfl

theorem Followed.ending (inv : Followed protocol world) {pid : Nat} {call : κ}
    (called : world.calls pid = .running call)
    (same : status.made? = some call)
    (post : ∀ made result, status = .ended made result →
      protocol.post made result (world.history pid)) :
    Followed protocol (world.ending pid status) := by
  refine ⟨fun other earlier exchange later shape => ?_, fun other made result ended => ?_⟩
  · obtain ⟨made, before, permitted⟩ := inv.permitted other earlier exchange later shape
    exact ⟨made, (made_ending called same other).trans before, permitted⟩
  · rw [World.calls_ending] at ended
    split at ended
    next own => exact own ▸ post made result ended
    next => exact inv.answered other made result ended

theorem followed (machine : Machine σ τ ι ρ κ β ε α) (condition : Condition σ τ ι ρ κ β ε α)
    (protocol : Protocol ι ρ κ ε α) : Preserves machine condition protocol (Followed protocol) where
  starts := by
    intro world call inv unused unheard
    refine ⟨fun pid earlier exchange later shape => ?_, fun pid other result ended => ?_⟩
    · obtain ⟨made, called, permitted⟩ := inv.permitted pid earlier exchange later shape
      refine ⟨made, ?_, permitted⟩
      rw [made_starting]
      split
      next own =>
        rw [own, unused] at called
        cases called
      next => exact called
    · rw [World.calls_starting] at ended
      split at ended
      next => cases ended
      next => exact inv.answered pid other result ended
  performs := by
    intro world pid call tick request reply store inv called permitted met performed
    refine ⟨fun other earlier exchange later shape => ?_, fun other made result ended => ?_⟩
    · rw [World.history_performing] at shape
      split at shape
      next own =>
        subst own
        rcases eq_nil_or_concat later with rfl | ⟨before, last, rfl⟩
        · obtain ⟨rfl, same⟩ := append_inj' shape rfl
          cases same
          exact ⟨call, by rw [World.calls_performing, called]; rfl, permitted⟩
        · rw [concat_eq_append, ← cons_append, ← append_assoc] at shape
          exact inv.permitted other earlier exchange before (append_inj' shape rfl).1
      next => exact inv.permitted other earlier exchange later shape
    · rw [World.calls_performing] at ended
      rw [World.history_performing]
      split
      next own =>
        rw [own, called] at ended
        cases ended
      next => exact inv.answered other made result ended
  ends := by
    intro world pid call result inv called post
    refine inv.ending called rfl fun made answer ended => ?_
    cases ended
    exact post
  crashes := by
    intro world pid call inv called
    refine inv.ending called rfl fun made answer ended => ?_
    cases ended
  elsewhere := fun _ _ _ inv _ _ => ⟨inv.permitted, inv.answered⟩

/-- An invariant of the store, of what was asked and of what was called: how the calls end does not
matter to it. -/
theorem preservesBeside_made {machine : Machine σ τ ι ρ κ β ε α}
    {condition : Condition σ τ ι ρ κ β ε α}
    (Inv : σ → (Nat → History ι ρ ε) → (Nat → Option κ) → Prop)
    (starts : ∀ store history made pid call, Inv store history made → made pid = none →
      history pid = [] → Inv store history fun other => if other = pid then some call else made other)
    (performs : ∀ (world : World σ ι ρ κ ε α) pid call tick request reply store, Base world →
      Inv world.store world.history (fun other => (world.calls other).made?) →
      world.calls pid = .running call → protocol.permits call (world.history pid) request →
      condition.asks world pid tick request = true →
      machine.perform pid tick request world.store = some (reply, store) →
      Inv store (world.performing pid request reply store).history
        fun other => (world.calls other).made?)
    (elsewhere : ∀ (world : World σ ι ρ κ ε α) label store, Base world →
      Inv world.store world.history (fun other => (world.calls other).made?) →
      condition.elsewhere world label = true → machine.others label world.store = some store →
      Inv store world.history fun other => (world.calls other).made?) :
    PreservesBeside machine condition protocol Base
      fun world => Inv world.store world.history fun other => (world.calls other).made? where
  starts := by
    intro world call base inv unused unheard
    have started := starts _ _ _ world.started call inv (by rw [unused]; rfl) unheard
    change Inv world.store world.history _
    simpa only [made_starting] using started
  performs := performs
  ends := by
    intro world pid call result base inv called post
    have same := funext (made_ending called (show (CallStatus.ended call result).made? = some call
      from rfl))
    change Inv world.store world.history _
    rw [same]
    exact inv
  crashes := by
    intro world pid call base inv called
    have same := funext (made_ending called (show (CallStatus.crashed call :
      CallStatus κ ε α).made? = some call from rfl))
    change Inv world.store world.history _
    rw [same]
    exact inv
  elsewhere := elsewhere

end Followed

end DContact.Lib

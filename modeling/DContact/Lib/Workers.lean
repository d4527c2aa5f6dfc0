import DContact.Lib.Transition
import Mathlib.Logic.Function.Basic

/-!
# Workers on one store

A program makes requests of a store that it shares with others, one after another, and goes on with
what each of them answers. A request is atomic; between two requests the other workers make theirs,
and a worker may stop for good. `Sound` is what a program needs at a store so that it keeps an
invariant whatever the others do, as long as they keep to what this worker relies on.
-/

namespace DContact.Lib

open List

/-- A computation that makes requests and may fail. A request that fails answers with its failure. -/
inductive Program (ι : Type) (ρ : ι → Type) (ε α : Type) where
  | done (result : Except ε α)
  | call (request : ι) (rest : Except ε (ρ request) → Program ι ρ ε α)

namespace Program

variable {ι : Type} {ρ : ι → Type} {ε α β : Type}

/-- Go on with a result; a failure ends the program. -/
def bind : Program ι ρ ε α → (α → Program ι ρ ε β) → Program ι ρ ε β
  | .done (.ok value), next => next value
  | .done (.error failure), _ => .done (.error failure)
  | .call request rest, next => .call request fun reply => bind (rest reply) next

instance : Monad (Program ι ρ ε) where
  pure value := .done (.ok value)
  bind := bind

def request (request : ι) : Program ι ρ ε (ρ request) := .call request .done

/-- Make a request and go on with its failure as well. -/
def attempt (request : ι) : Program ι ρ ε (Except ε (ρ request)) :=
  .call request fun reply => .done (.ok reply)

def throw (failure : ε) : Program ι ρ ε α := .done (.error failure)

/-- Make the requests of a list one after another. -/
def forEach (items : List β) (body : β → Program ι ρ ε α) : Program ι ρ ε (List α) :=
  match items with
  | [] => pure []
  | item :: rest => do
      let first ← body item
      let others ← forEach rest body
      pure (first :: others)

/-- Every request that the program may make meets a condition. -/
def Only (allowed : ι → Prop) : Program ι ρ ε α → Prop
  | .done _ => True
  | .call request rest => allowed request ∧ ∀ reply, Only allowed (rest reply)

variable {allowed : ι → Prop}

theorem only_pure {value : α} : Only allowed (pure value : Program ι ρ ε α) :=
  trivial

theorem only_throw {failure : ε} : Only allowed (throw failure : Program ι ρ ε α) :=
  trivial

theorem Only.bind {program : Program ι ρ ε β} {next : β → Program ι ρ ε α}
    (only : program.Only allowed) (rest : ∀ value, (next value).Only allowed) :
    (program >>= next).Only allowed := by
  induction program with
  | done result =>
      cases result with
      | ok value => exact rest value
      | error failure => exact trivial
  | call asked continue_ ih => exact ⟨only.1, fun reply => ih reply (only.2 reply)⟩

theorem only_request {asked : ι} {next : ρ asked → Program ι ρ ε α} (permitted : allowed asked)
    (rest : ∀ value, (next value).Only allowed) : (request asked >>= next).Only allowed := by
  refine ⟨permitted, fun reply => ?_⟩
  cases reply with
  | ok value => exact rest value
  | error failure => exact trivial

theorem only_forEach {items : List β} {body : β → Program ι ρ ε α}
    (each : ∀ item ∈ items, (body item).Only allowed) : (forEach items body).Only allowed := by
  induction items with
  | nil => exact only_pure
  | cons item rest ih =>
      refine (each item mem_cons_self).bind fun first => ?_
      refine (ih fun other mem => each other (mem_cons_of_mem _ mem)).bind fun _ => ?_
      exact only_pure

end Program

/-- A request that was made, and what it answered. -/
structure Performed (ι : Type) (ρ : ι → Type) (ε : Type) where
  pid : Nat
  request : ι
  reply : Except ε (ρ request)

inductive CallStatus (κ ε α : Type) where
  | unused
  | running (call : κ)
  | ended (call : κ) (result : Except ε α)
  | crashed (call : κ)

/-- The store, the requests that were made of it, and the calls that made them. -/
structure World (σ ι : Type) (ρ : ι → Type) (κ ε α : Type) where
  store : σ
  journal : List (Performed ι ρ ε)
  calls : Nat → CallStatus κ ε α
  started : Nat

namespace World

variable {σ ι : Type} {ρ : ι → Type} {κ ε α : Type}

/-- The requests of one worker. -/
def mine (world : World σ ι ρ κ ε α) (pid : Nat) : List (Performed ι ρ ε) :=
  world.journal.filter fun entry => entry.pid == pid

def starting (world : World σ ι ρ κ ε α) (call : κ) : World σ ι ρ κ ε α :=
  { world with
    calls := Function.update world.calls world.started (.running call)
    started := world.started + 1 }

def performing (world : World σ ι ρ κ ε α) (pid : Nat) (request : ι) (reply : Except ε (ρ request))
    (store : σ) : World σ ι ρ κ ε α :=
  { world with store := store, journal := world.journal ++ [⟨pid, request, reply⟩] }

def ending (world : World σ ι ρ κ ε α) (pid : Nat) (status : CallStatus κ ε α) :
    World σ ι ρ κ ε α :=
  { world with calls := Function.update world.calls pid status }

end World

/-- What a store answers to a request, what the others do to it, and the program of each call. -/
structure Machine (σ τ ι : Type) (ρ : ι → Type) (κ β ε α : Type) where
  perform : Nat → τ → (request : ι) → σ → Option (Except ε (ρ request) × σ)
  others : β → σ → Option σ
  program : κ → Program ι ρ ε α

structure Workers (σ ι : Type) (ρ : ι → Type) (κ ε α : Type) where
  world : World σ ι ρ κ ε α
  programs : Nat → Option (Program ι ρ ε α)

inductive WorkerStep (τ κ β : Type) where
  | start (call : κ)
  | perform (pid : Nat) (tick : τ)
  | finish (pid : Nat)
  | crash (pid : Nat)
  | elsewhere (label : β)

variable {σ τ ι : Type} {ρ : ι → Type} {κ β ε α : Type} {pid : Nat}

def CallStatus.call? : CallStatus κ ε α → Option κ
  | .running call => some call
  | _ => none

namespace Workers

def idle (store : σ) : Workers σ ι ρ κ ε α :=
  ⟨⟨store, [], fun _ => .unused, 0⟩, fun _ => none⟩

def put (workers : Workers σ ι ρ κ ε α) (world : World σ ι ρ κ ε α) (pid : Nat)
    (program : Option (Program ι ρ ε α)) : Workers σ ι ρ κ ε α :=
  ⟨world, Function.update workers.programs pid program⟩

@[simp] theorem put_world (workers : Workers σ ι ρ κ ε α) (world : World σ ι ρ κ ε α) (pid : Nat)
    (program : Option (Program ι ρ ε α)) : (workers.put world pid program).world = world := rfl

@[simp] theorem put_self (workers : Workers σ ι ρ κ ε α) (world : World σ ι ρ κ ε α) (pid : Nat)
    (program : Option (Program ι ρ ε α)) : (workers.put world pid program).programs pid = program :=
  Function.update_self ..

theorem put_of_ne {other : Nat} (differs : other ≠ pid) (workers : Workers σ ι ρ κ ε α)
    (world : World σ ι ρ κ ε α) (program : Option (Program ι ρ ε α)) :
    (workers.put world pid program).programs other = workers.programs other :=
  Function.update_of_ne differs ..

def next (machine : Machine σ τ ι ρ κ β ε α) (workers : Workers σ ι ρ κ ε α) :
    WorkerStep τ κ β → Option (Workers σ ι ρ κ ε α)
  | .start call =>
      some (workers.put (workers.world.starting call) workers.world.started
        (some (machine.program call)))
  | .perform pid tick =>
      match workers.programs pid with
      | some (.call request rest) =>
          (machine.perform pid tick request workers.world.store).map fun answer =>
            workers.put (workers.world.performing pid request answer.1 answer.2) pid
              (some (rest answer.1))
      | _ => none
  | .finish pid =>
      match workers.programs pid, (workers.world.calls pid).call? with
      | some (.done result), some call =>
          some (workers.put (workers.world.ending pid (.ended call result)) pid none)
      | _, _ => none
  | .crash pid =>
      match workers.programs pid, (workers.world.calls pid).call? with
      | some _, some call =>
          some (workers.put (workers.world.ending pid (.crashed call)) pid none)
      | _, _ => none
  | .elsewhere label =>
      (machine.others label workers.world.store).map fun store =>
        { workers with world := { workers.world with store := store } }

variable {machine : Machine σ τ ι ρ κ β ε α} {workers after : Workers σ ι ρ κ ε α}

/-- A step leaves the store as it is, or as a request or somebody else has made it. -/
theorem next_store {step : WorkerStep τ κ β} (taken : workers.next machine step = some after) :
    after.world.store = workers.world.store ∨
      (∃ pid tick request reply, machine.perform pid tick request workers.world.store =
        some (reply, after.world.store)) ∨
      ∃ label, machine.others label workers.world.store = some after.world.store := by
  cases step with
  | start call =>
      cases taken
      exact .inl rfl
  | perform pid tick =>
      simp only [next] at taken
      split at taken
      next request rest running =>
        obtain ⟨⟨reply, store⟩, performed, rfl⟩ := Option.map_eq_some_iff.mp taken
        exact .inr (.inl ⟨pid, tick, request, reply, performed⟩)
      next => cases taken
  | elsewhere label =>
      obtain ⟨store, moved, rfl⟩ := Option.map_eq_some_iff.mp taken
      exact .inr (.inr ⟨label, moved⟩)
  | _ =>
      simp only [next] at taken
      split at taken <;> cases taken
      exact .inl rfl

def requestOf (workers : Workers σ ι ρ κ ε α) : WorkerStep τ κ β → Option (Nat × ι)
  | .perform pid _ =>
      match workers.programs pid with
      | some (.call request _) => some (pid, request)
      | _ => none
  | _ => none

def system (machine : Machine σ τ ι ρ κ β ε α) (init : σ → Prop) :
    System (Workers σ ι ρ κ ε α) (WorkerStep τ κ β) :=
  System.ofNext (fun workers => ∃ store, init store ∧ workers = idle store) (next machine)

end Workers

variable {init : σ → Prop} {labels : List (WorkerStep τ κ β)} {label : WorkerStep τ κ β}
  {holds : Workers σ ι ρ κ ε α → Workers σ ι ρ κ ε α → Bool} {store : σ}

/-- A run that was computed from a store is one of the system's. -/
theorem Workers.endsWith {machine : Machine σ τ ι ρ κ β ε α} (initial : init store)
    (ends : System.endsWith (Workers.next machine) (idle store) labels label holds = true) :
    ∃ before after, (system machine init).Reachable before ∧
      (system machine init).step before label after ∧ holds before after = true :=
  System.Reachable.endsWith ⟨store, initial, rfl⟩ ends

theorem Workers.endsWithGuarded {machine : Machine σ τ ι ρ κ β ε α}
    {guard : Workers σ ι ρ κ ε α → WorkerStep τ κ β → Bool} (initial : init store)
    (ends : System.endsWith (System.guardNext guard (Workers.next machine)) (idle store) labels label
      holds = true) :
    ∃ before after,
      ((system machine init).restrict fun workers step => guard workers step = true).Reachable
        before ∧
      ((system machine init).restrict fun workers step => guard workers step = true).step before
        label after ∧ holds before after = true :=
  System.Reachable.endsWithGuarded ⟨store, initial, rfl⟩ ends

section Journal

variable {γ : Type} {fact : List γ → γ → Prop} {journal : List γ} {step : γ}

/-- Everything in a journal fits what stands before it. -/
def Follows (fact : List γ → γ → Prop) (journal : List γ) : Prop :=
  ∀ earlier step later, journal = earlier ++ step :: later → fact earlier step

theorem follows_nil : Follows fact [] := by
  intro earlier step later split
  simp at split

theorem Follows.append (follows : Follows fact journal) (fits : fact journal step) :
    Follows fact (journal ++ [step]) := by
  intro earlier other later split
  rcases eq_nil_or_concat later with rfl | ⟨rest, last, rfl⟩
  · obtain ⟨rfl, same⟩ := append_inj' split rfl
    cases same
    exact fits
  · rw [concat_eq_append, ← cons_append, ← append_assoc] at split
    exact follows earlier other rest (append_inj' split rfl).1

theorem Follows.mono {weaker : List γ → γ → Prop} (follows : Follows fact journal)
    (implies : ∀ earlier step, fact earlier step → weaker earlier step) : Follows weaker journal :=
  fun earlier step later split => implies earlier step (follows earlier step later split)

end Journal

/-- What holds between any two requests, what a worker may rely on while it waits, and which
requests are made at all. -/
structure Discipline (machine : Machine σ τ ι ρ κ β ε α) where
  inv : World σ ι ρ κ ε α → Prop
  relies : Nat → World σ ι ρ κ ε α → World σ ι ρ κ ε α → Prop
  allows : World σ ι ρ κ ε α → Nat → τ → ι → Prop
  relies_refl : ∀ pid world, relies pid world world
  relies_trans : ∀ pid first second third, relies pid first second → relies pid second third →
    relies pid first third

namespace Discipline

variable {machine : Machine σ τ ι ρ κ β ε α} (discipline : Discipline machine)

/-- A step of the others. It leaves the requests and the status of this worker as they are. -/
structure Keeps (pid : Nat) (before after : World σ ι ρ κ ε α) : Prop where
  relied : discipline.relies pid before after
  mine : after.mine pid = before.mine pid
  status : after.calls pid = before.calls pid

/-- A step of this worker, or of nobody in particular. -/
structure Takes (pid : Nat) (before after : World σ ι ρ κ ε α) : Prop where
  inv : discipline.inv after
  relied : ∀ other, other ≠ pid → discipline.relies other before after

/-- The program keeps the invariant from here on, and its result meets the postcondition. -/
def Sound {γ : Type} (pid : Nat) (post : Except ε γ → World σ ι ρ κ ε α → Prop) :
    Program ι ρ ε γ → World σ ι ρ κ ε α → Prop
  | .done result, world => post result world
  | .call request rest, world =>
      ∀ now, discipline.Keeps pid world now → discipline.inv now → ∀ tick reply store,
        discipline.allows now pid tick request →
        machine.perform pid tick request now.store = some (reply, store) →
        discipline.Takes pid now (now.performing pid request reply store) ∧
          Sound pid post (rest reply) (now.performing pid request reply store)

/-- The rest of a program is sound after a result, and a failure meets the postcondition. -/
def Continues {γ δ : Type} (pid : Nat) (post : Except ε δ → World σ ι ρ κ ε α → Prop)
    (next : γ → Program ι ρ ε δ) : Except ε γ → World σ ι ρ κ ε α → Prop
  | .ok value, world => discipline.Sound pid post (next value) world
  | .error failure, world => post (.error failure) world

/-- A call may end with a result whatever the others have done in the meantime. -/
def Ends (pid : Nat) (call : κ) (result : Except ε α) (world : World σ ι ρ κ ε α) : Prop :=
  ∀ now, discipline.Keeps pid world now → discipline.inv now →
    discipline.Takes pid now (now.ending pid (.ended call result))

variable {discipline}

theorem Keeps.refl (pid : Nat) (world : World σ ι ρ κ ε α) : discipline.Keeps pid world world :=
  ⟨discipline.relies_refl pid world, rfl, rfl⟩

theorem Keeps.trans {first second third : World σ ι ρ κ ε α}
    (left : discipline.Keeps pid first second) (right : discipline.Keeps pid second third) :
    discipline.Keeps pid first third :=
  ⟨discipline.relies_trans pid first second third left.relied right.relied,
    right.mine.trans left.mine, right.status.trans left.status⟩

section Programs

variable {γ δ : Type} {pid : Nat} {program : Program ι ρ ε γ} {world : World σ ι ρ κ ε α}

theorem Sound.mono {post weaker : Except ε γ → World σ ι ρ κ ε α → Prop}
    (sound : discipline.Sound pid post program world)
    (implies : ∀ result world, post result world → weaker result world) :
    discipline.Sound pid weaker program world := by
  induction program generalizing world with
  | done result => exact implies result world sound
  | call request rest ih =>
      intro now keeps invariant tick reply store allowed performed
      obtain ⟨takes, continues⟩ := sound now keeps invariant tick reply store allowed performed
      exact ⟨takes, ih reply continues⟩

/-- A program that waits for its next request is as sound after the others have moved. -/
theorem Sound.keeps {post : Except ε γ → World σ ι ρ κ ε α → Prop}
    {before after : World σ ι ρ κ ε α} (sound : discipline.Sound pid post program before)
    (keeps : discipline.Keeps pid before after)
    (stable : ∀ result, post result before → post result after) :
    discipline.Sound pid post program after := by
  cases program with
  | done result => exact stable result sound
  | call request rest =>
      intro now later
      exact sound now (keeps.trans later)

variable {post : Except ε δ → World σ ι ρ κ ε α → Prop}

theorem sound_bind {next : γ → Program ι ρ ε δ} :
    discipline.Sound pid post (program >>= next) world ↔
      discipline.Sound pid (discipline.Continues pid post next) program world := by
  induction program generalizing world with
  | done result => cases result <;> exact Iff.rfl
  | call request rest ih =>
      constructor
      · intro sound now keeps invariant tick reply store allowed performed
        obtain ⟨takes, continues⟩ := sound now keeps invariant tick reply store allowed performed
        exact ⟨takes, (ih reply).mp continues⟩
      · intro sound now keeps invariant tick reply store allowed performed
        obtain ⟨takes, continues⟩ := sound now keeps invariant tick reply store allowed performed
        exact ⟨takes, (ih reply).mpr continues⟩

end Programs

/-- The program keeps the invariant, and a value that it returns meets the postcondition. -/
def Ensures {γ : Type} (discipline : Discipline machine) (pid : Nat)
    (post : γ → World σ ι ρ κ ε α → Prop) : Program ι ρ ε γ → World σ ι ρ κ ε α → Prop :=
  discipline.Sound pid fun result world => ∀ value, result = .ok value → post value world

section Values

variable {γ δ : Type} {pid : Nat} {discipline : Discipline machine}
  {post : γ → World σ ι ρ κ ε α → Prop} {world : World σ ι ρ κ ε α}

theorem ensures_pure {value : γ} (holds : post value world) :
    discipline.Ensures pid post (pure value) world := by
  rintro _ ⟨⟩
  exact holds

theorem ensures_throw {failure : ε} : discipline.Ensures pid post (.throw failure) world := nofun

variable {program : Program ι ρ ε γ}

theorem Ensures.mono {weaker : γ → World σ ι ρ κ ε α → Prop}
    (ensures : discipline.Ensures pid post program world)
    (implies : ∀ value world, post value world → weaker value world) :
    discipline.Ensures pid weaker program world :=
  Sound.mono ensures fun _ _ holds value same => implies value _ (holds value same)

theorem Ensures.bind {last : δ → World σ ι ρ κ ε α → Prop} {next : γ → Program ι ρ ε δ}
    (ensures : discipline.Ensures pid post program world)
    (rest : ∀ value after, post value after → discipline.Ensures pid last (next value) after) :
    discipline.Ensures pid last (program >>= next) world := by
  refine sound_bind.mpr (Sound.mono ensures ?_)
  intro result after holds
  cases result with
  | ok value => exact rest value after (holds value rfl)
  | error failure => exact nofun

/-- A list of bodies that all keep a fact of the worker. -/
theorem ensures_forEach {fact : World σ ι ρ κ ε α → Prop} {items : List γ}
    {body : γ → Program ι ρ ε δ} (holds : fact world) (each : ∀ item ∈ items, ∀ world, fact world →
      discipline.Ensures pid (fun _ => fact) (body item) world) :
    discipline.Ensures pid (fun _ => fact) (Program.forEach items body) world := by
  induction items generalizing world with
  | nil => exact ensures_pure holds
  | cons item rest ih =>
      refine (each item mem_cons_self world holds).bind fun first later kept => ?_
      refine (ih kept fun other mem => each other (mem_cons_of_mem _ mem)).bind ?_
      exact fun others last kept' => ensures_pure kept'

theorem ensures_only {allowed : ι → Prop} {moves : World σ ι ρ κ ε α → World σ ι ρ κ ε α → Prop}
    (reflexive : ∀ world, moves world world)
    (transitive : ∀ first second third, moves first second → moves second third →
      moves first third)
    (relied : ∀ before after, discipline.Keeps pid before after → moves before after)
    (each : ∀ request, allowed request → ∀ now tick reply store, discipline.inv now →
      discipline.allows now pid tick request →
      machine.perform pid tick request now.store = some (reply, store) →
      discipline.Takes pid now (now.performing pid request reply store) ∧
        moves now (now.performing pid request reply store)) (only : program.Only allowed) :
    discipline.Ensures pid (fun _ after => moves world after) program world := by
  induction program generalizing world with
  | done result => exact fun _ _ => reflexive world
  | call request rest ih =>
      intro now keeps inv tick reply store allows performed
      obtain ⟨takes, moved⟩ := each request only.1 now tick reply store inv allows performed
      refine ⟨takes, (ih reply (only.2 reply)).mono fun _ after later => ?_⟩
      exact transitive _ _ _ (transitive _ _ _ (relied _ _ keeps) moved) later

end Values

structure Starts (discipline : Discipline machine) (world : World σ ι ρ κ ε α) (call : κ) : Prop where
  takes : discipline.Takes world.started world (world.starting call)
  sound : discipline.Sound world.started (discipline.Ends world.started call)
    (machine.program call) (world.starting call)

structure Supervised (discipline : Discipline machine) (workers : Workers σ ι ρ κ ε α) : Prop where
  inv : discipline.inv workers.world
  running : ∀ pid program, workers.programs pid = some program →
    ∃ call, workers.world.calls pid = .running call ∧
      discipline.Sound pid (discipline.Ends pid call) program workers.world
  stopped : ∀ pid, workers.programs pid = none → (workers.world.calls pid).call? = none
  counted : ∀ pid, workers.world.started ≤ pid → workers.programs pid = none
  journaled : ∀ entry ∈ workers.world.journal, entry.pid < workers.world.started

/-- What a step leaves, and what it is to those who wait. -/
structure Stepped (discipline : Discipline machine) (workers after : Workers σ ι ρ κ ε α) : Prop where
  supervised : Supervised discipline after
  relied : ∃ pid, ∀ other, other ≠ pid → discipline.relies other workers.world after.world

variable {discipline : Discipline machine} {workers after : Workers σ ι ρ κ ε α}
  {program : Program ι ρ ε α}

section
variable (supervised : Supervised discipline workers)
include supervised

theorem Supervised.unheard : workers.world.mine workers.world.started = [] := by
  refine filter_eq_nil_iff.mpr fun entry mem => ?_
  have before := supervised.journaled entry mem
  simp only [beq_iff_eq]
  omega

theorem Supervised.others {other : Nat} {after : World σ ι ρ κ ε α} (differs : other ≠ pid)
    (running : workers.programs other = some program)
    (takes : discipline.Takes pid workers.world after)
    (mine : after.mine other = workers.world.mine other)
    (status : after.calls other = workers.world.calls other) :
    ∃ call, after.calls other = .running call ∧
      discipline.Sound other (discipline.Ends other call) program after := by
  obtain ⟨call, called, sound⟩ := supervised.running other program running
  have keeps : discipline.Keeps other workers.world after :=
    ⟨takes.relied other differs, mine, status⟩
  refine ⟨call, status.trans called, sound.keeps keeps ?_⟩
  intro result ends now later
  exact ends now (keeps.trans later)

theorem Supervised.put {program : Option (Program ι ρ ε α)} {after : World σ ι ρ κ ε α}
    (takes : discipline.Takes pid workers.world after)
    (mine : ∀ other, other ≠ pid → after.mine other = workers.world.mine other)
    (statuses : ∀ other, other ≠ pid → after.calls other = workers.world.calls other)
    (running : ∀ rest, program = some rest → ∃ call, after.calls pid = .running call ∧
      discipline.Sound pid (discipline.Ends pid call) rest after)
    (stopped : program = none → (after.calls pid).call? = none) (counted : pid < after.started)
    (grows : workers.world.started ≤ after.started)
    (journaled : ∀ entry ∈ after.journal, entry.pid < after.started) :
    Stepped discipline workers (workers.put after pid program) := by
  refine ⟨⟨takes.inv, ?running, ?stopped, ?counted, journaled⟩, pid, takes.relied⟩
  case running =>
    intro other rest present
    by_cases own : other = pid
    · subst own
      rw [Workers.put_self] at present
      exact running rest present
    · rw [Workers.put_of_ne own] at present
      exact supervised.others own present takes (mine other own) (statuses other own)
  case stopped =>
    intro other absent
    by_cases own : other = pid
    · subst own
      rw [Workers.put_self] at absent
      exact stopped absent
    · rw [Workers.put_of_ne own] at absent
      rw [Workers.put_world, statuses other own]
      exact supervised.stopped other absent
  case counted =>
    intro other beyond
    rw [Workers.put_world] at beyond
    rw [Workers.put_of_ne (by omega)]
    exact supervised.counted other (by omega)

theorem Supervised.counted_lt
    (running : workers.programs pid = some program) : pid < workers.world.started := by
  by_contra beyond
  rw [supervised.counted pid (Nat.le_of_not_lt beyond)] at running
  cases running

theorem Supervised.starting {call : κ} (starts : discipline.Starts workers.world call) :
    Stepped discipline workers (workers.put (workers.world.starting call) workers.world.started
      (some (machine.program call))) := by
  refine supervised.put starts.takes (fun _ _ => rfl)
    (fun other differs => Function.update_of_ne differs ..) ?_ nofun (Nat.lt_succ_self _)
    (Nat.le_succ _) ?_
  · rintro rest ⟨⟩
    exact ⟨call, Function.update_self .., starts.sound⟩
  · intro entry mem
    exact Nat.lt_succ_of_lt (supervised.journaled entry mem)

theorem Supervised.performing {tick : τ} {request : ι}
    {rest : Except ε (ρ request) → Program ι ρ ε α} {reply : Except ε (ρ request)}
    (running : workers.programs pid = some (.call request rest))
    (allowed : discipline.allows workers.world pid tick request)
    (performed : machine.perform pid tick request workers.world.store = some (reply, store)) :
    Stepped discipline workers (workers.put (workers.world.performing pid request reply store) pid
      (some (rest reply))) := by
  obtain ⟨call, called, sound⟩ := supervised.running pid _ running
  obtain ⟨takes, continues⟩ := sound workers.world (.refl pid workers.world) supervised.inv tick
    reply store allowed performed
  have counted := supervised.counted_lt running
  refine supervised.put takes ?_ (fun _ _ => rfl) ?_ nofun counted (Nat.le_refl _) ?_
  · intro other differs
    simp [World.mine, World.performing, Ne.symm differs]
  · rintro later ⟨⟩
    exact ⟨call, called, continues⟩
  · intro entry mem
    rcases mem_snoc.mp mem with old | rfl
    · exact supervised.journaled entry old
    · exact counted

theorem Supervised.leaving {status : CallStatus κ ε α}
    (running : workers.programs pid = some program) (isOver : status.call? = none)
    (takes : discipline.Takes pid workers.world (workers.world.ending pid status)) :
    Stepped discipline workers (workers.put (workers.world.ending pid status) pid none) := by
  refine supervised.put takes (fun _ _ => rfl) (fun other differs => Function.update_of_ne differs ..)
    nofun ?_ (supervised.counted_lt running) (Nat.le_refl _) supervised.journaled
  intro _
  rw [show (workers.world.ending pid status).calls pid = status from Function.update_self ..]
  exact isOver

end

/-- What the steps of a system must meet for its programs to be sound in every run. -/
structure Governs (discipline : Discipline machine) (init : σ → Prop)
    (guard : Workers σ ι ρ κ ε α → WorkerStep τ κ β → Prop) : Prop where
  initially : ∀ store, init store →
    discipline.inv (Workers.idle store : Workers σ ι ρ κ ε α).world
  starts : ∀ workers call, Supervised discipline workers → guard workers (.start call) →
    discipline.Starts workers.world call
  allowed : ∀ workers pid tick request, Supervised discipline workers →
    workers.requestOf (.perform pid tick : WorkerStep τ κ β) = some (pid, request) →
    guard workers (.perform pid tick) → discipline.allows workers.world pid tick request
  crashes : ∀ workers pid call, Supervised discipline workers →
    workers.world.calls pid = .running call → guard workers (.crash pid) →
    discipline.Takes pid workers.world (workers.world.ending pid (.crashed call))
  elsewhere : ∀ workers label store, Supervised discipline workers →
    guard workers (.elsewhere label) → machine.others label workers.world.store = some store →
    discipline.inv { workers.world with store := store } ∧
      ∀ pid, discipline.relies pid workers.world { workers.world with store := store }

variable {guard : Workers σ ι ρ κ ε α → WorkerStep τ κ β → Prop}

theorem Supervised.stepped (governs : Governs discipline init guard) {step : WorkerStep τ κ β}
    (supervised : Supervised discipline workers) (guarded : guard workers step)
    (taken : workers.next machine step = some after) : Stepped discipline workers after := by
  cases step with
  | start call =>
      cases taken
      exact supervised.starting (governs.starts workers call supervised guarded)
  | perform pid tick =>
      simp only [Workers.next] at taken
      split at taken
      next request rest running =>
        obtain ⟨answer, performed, rfl⟩ := Option.map_eq_some_iff.mp taken
        refine supervised.performing running ?_ performed
        refine governs.allowed workers pid tick request supervised ?_ guarded
        simp [Workers.requestOf, running]
      next => cases taken
  | finish pid =>
      simp only [Workers.next] at taken
      split at taken
      next result call running called =>
        cases taken
        obtain ⟨called', status, sound⟩ := supervised.running pid _ running
        rw [status] at called
        cases called
        exact supervised.leaving running rfl
          (sound workers.world (.refl pid workers.world) supervised.inv)
      next => cases taken
  | crash pid =>
      simp only [Workers.next] at taken
      split at taken
      next program call running called =>
        cases taken
        obtain ⟨called', status, -⟩ := supervised.running pid _ running
        rw [status] at called
        cases called
        exact supervised.leaving running rfl
          (governs.crashes workers pid _ supervised status guarded)
      next => cases taken
  | elsewhere label =>
      obtain ⟨store, moved, rfl⟩ := Option.map_eq_some_iff.mp taken
      obtain ⟨inv, relied⟩ := governs.elsewhere workers label store supervised guarded moved
      refine ⟨⟨inv, ?_, supervised.stopped, supervised.counted, supervised.journaled⟩, 0,
        fun other _ => relied other⟩
      intro pid program running
      obtain ⟨call, called, sound⟩ := supervised.running pid program running
      have keeps : discipline.Keeps pid workers.world { workers.world with store := store } :=
        ⟨relied pid, rfl, rfl⟩
      refine ⟨call, called, sound.keeps keeps ?_⟩
      intro result ends now later
      exact ends now (keeps.trans later)

/-- In every run whose steps meet the guard, the programs are sound and the invariant holds. -/
theorem Governs.supervised (governs : Governs discipline init guard)
    (reachable : ((Workers.system machine init).restrict guard).Reachable workers) :
    Supervised discipline workers := by
  refine reachable.invariant ?_ ?_
  · rintro _ ⟨store, initial, rfl⟩
    exact ⟨governs.initially store initial, nofun, fun _ _ => rfl, fun _ _ => rfl, nofun⟩
  · intro source label target supervised taken
    exact (supervised.stepped governs taken.1 taken.2).supervised

end Discipline

end DContact.Lib

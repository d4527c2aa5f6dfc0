import Mathlib.Logic.Relation

/-!
# Labelled transition systems

A system is a set of initial states together with a labelled step relation.
Reachability is Mathlib's reflexive transitive closure of the unlabelled step.
The rules below are the only ways in which later modules reason about whole
runs: an invariant is established initially and preserved by one step, a
two-state relation is preserved by one step from invariant states, and a
restricted system performs only the steps which satisfy a guard.
-/

namespace DContact.Lib

universe u v

/-- Initial states and a labelled step relation. -/
structure System (σ : Type u) (α : Type v) where
  init : σ → Prop
  step : σ → α → σ → Prop

namespace System

variable {σ : Type u} {α : Type v}

def Next (system : System σ α) (source target : σ) : Prop :=
  ∃ label, system.step source label target

/-- Finitely many steps. -/
def Reaches (system : System σ α) : σ → σ → Prop :=
  Relation.ReflTransGen system.Next

/-- A state that some run from an initial state arrives at. -/
def Reachable (system : System σ α) (state : σ) : Prop :=
  ∃ start, system.init start ∧ system.Reaches start state

variable {system : System σ α} {state : σ}

theorem Reachable.of_init (initial : system.init state) : system.Reachable state :=
  ⟨state, initial, .refl⟩

variable {source target : σ} {label : α}

theorem Reachable.step (reachable : system.Reachable source)
    (hstep : system.step source label target) : system.Reachable target := by
  obtain ⟨start, initial, run⟩ := reachable
  exact ⟨start, initial, run.tail ⟨label, hstep⟩⟩

theorem Reachable.reaches (reachable : system.Reachable source) (run : system.Reaches source target) :
    system.Reachable target := by
  obtain ⟨start, initial, before⟩ := reachable
  exact ⟨start, initial, before.trans run⟩

theorem Reachable.foldl {next : σ → α → σ}
    (steps : ∀ state label, system.step state label (next state label)) (labels : List α)
    {state : σ} (reachable : system.Reachable state) :
    system.Reachable (labels.foldl next state) := by
  induction labels generalizing state with
  | nil => exact reachable
  | cons label rest ih => exact ih (reachable.step (steps state label))

variable {Inv : σ → Prop}

/-- What holds initially and survives every step holds of every reachable state. -/
theorem Reachable.invariant (initially : ∀ state, system.init state → Inv state)
    (preserved : ∀ source label target, Inv source → system.step source label target →
      Inv target) {state : σ} (reachable : system.Reachable state) : Inv state := by
  obtain ⟨start, initial, run⟩ := reachable
  induction run with
  | refl => exact initially start initial
  | tail _ hstep ih =>
      obtain ⟨label, hstep⟩ := hstep
      exact preserved _ label _ ih hstep

/-- A reflexive transitive relation which every step from an invariant state
respects relates the two ends of every run from an invariant state. -/
theorem Reaches.related {R : σ → σ → Prop} (reflexive : ∀ state, R state state)
    (transitive : ∀ first second third, R first second → R second third → R first third)
    (preserved : ∀ source label target, Inv source → system.step source label target →
      Inv target) (respects : ∀ source label target, Inv source → system.step source label target →
      R source target) {source target : σ} (invariant : Inv source)
    (run : system.Reaches source target) : R source target := by
  suffices Inv target ∧ R source target from this.2
  induction run with
  | refl => exact ⟨invariant, reflexive source⟩
  | tail _ hstep ih =>
      obtain ⟨label, hstep⟩ := hstep
      obtain ⟨holds, related⟩ := ih
      exact ⟨preserved _ label _ holds hstep,
        transitive _ _ _ related (respects _ label _ holds hstep)⟩

def restrict (system : System σ α) (guard : σ → α → Prop) : System σ α where
  init := system.init
  step source label target := guard source label ∧ system.step source label target

theorem Reachable.of_restrict {guard : σ → α → Prop}
    (reachable : (system.restrict guard).Reachable state) : system.Reachable state := by
  refine Reachable.invariant (fun _ initial => .of_init initial) ?_ reachable
  intro source label target before hstep
  exact before.step hstep.2

/-- A guard that every step meets restricts nothing. -/
theorem Reachable.restrict {guard : σ → α → Prop} (always : ∀ state label, guard state label)
    (reachable : system.Reachable state) : (system.restrict guard).Reachable state := by
  refine Reachable.invariant (fun _ initial => .of_init initial) ?_ reachable
  intro source label target before hstep
  exact before.step ⟨always source label, hstep⟩

def ofNext (init : σ → Prop) (next : σ → α → Option σ) : System σ α where
  init := init
  step source label target := next source label = some target

/-- The state after a list of labels, if every step can be taken. -/
def run (next : σ → α → Option σ) : σ → List α → Option σ
  | state, [] => some state
  | state, label :: rest =>
      match next state label with
      | none => none
      | some middle => run next middle rest

/-- The step function which takes only the steps that meet a guard. -/
def guardNext (guard : σ → α → Bool) (next : σ → α → Option σ) (state : σ) (label : α) :
    Option σ :=
  if guard state label then next state label else none

variable {init : σ → Prop} {next : σ → α → Option σ} {labels : List α}

theorem Reachable.run (reachable : (ofNext init next).Reachable source)
    (runs : System.run next source labels = some target) : (ofNext init next).Reachable target := by
  induction labels generalizing source with
  | nil =>
      cases runs
      exact reachable
  | cons label rest ih =>
      unfold System.run at runs
      cases first : next source label with
      | none => simp [first] at runs
      | some middle =>
          rw [first] at runs
          exact ih (reachable.step (show (ofNext init next).step source label middle from first))
            runs

variable {guard : σ → α → Bool}

theorem guardNext_step {after : σ} (taken : guardNext guard next state label = some after) :
    ((ofNext init next).restrict fun state label => guard state label = true).step state label
      after := by
  cases met : guard state label with
  | false => simp [guardNext, met] at taken
  | true =>
      rw [guardNext, met, if_pos rfl] at taken
      exact ⟨met, taken⟩

theorem Reachable.runGuarded (initial : init source)
    (runs : System.run (guardNext guard next) source labels = some target) :
    ((ofNext init next).restrict fun state label => guard state label = true).Reachable target := by
  have guarded : (ofNext init (guardNext guard next)).Reachable target :=
    Reachable.run (.of_init initial) runs
  refine Reachable.invariant (fun _ initial => .of_init initial) ?_ guarded
  intro state label after reachable taken
  exact reachable.step (guardNext_step taken)

/-- A list of labels and one more label can be taken, and the last step has a property. -/
def endsWith (next : σ → α → Option σ) (source : σ) (labels : List α) (label : α)
    (holds : σ → σ → Bool) : Bool :=
  match run next source labels with
  | none => false
  | some before =>
      match next before label with
      | none => false
      | some after => holds before after

variable {holds : σ → σ → Bool}

theorem Reachable.endsWith (initial : init source)
    (ends : System.endsWith next source labels label holds = true) :
    ∃ before after, (ofNext init next).Reachable before ∧
      (ofNext init next).step before label after ∧ holds before after = true := by
  unfold System.endsWith at ends
  split at ends
  next => cases ends
  next before runs =>
    split at ends
    next => cases ends
    next after taken => exact ⟨before, after, .run (.of_init initial) runs, taken, ends⟩

theorem Reachable.endsWithGuarded (initial : init source)
    (ends : System.endsWith (guardNext guard next) source labels label holds = true) :
    ∃ before after,
      ((ofNext init next).restrict fun state label => guard state label = true).Reachable before ∧
      ((ofNext init next).restrict fun state label => guard state label = true).step before label
        after ∧ holds before after = true := by
  unfold System.endsWith at ends
  split at ends
  next => cases ends
  next before runs =>
    split at ends
    next => cases ends
    next after taken =>
      exact ⟨before, after, .runGuarded initial runs, guardNext_step taken, ends⟩

end System

theorem mem_snoc {α : Type u} {rows : List α} {row added : α} :
    row ∈ rows ++ [added] ↔ row ∈ rows ∨ row = added := by
  rw [List.mem_append, List.mem_singleton]

variable {ε β α : Type u} {result : β} {next : α → Except ε β} {first : Except ε α}

/-- A sequence of fallible computations succeeds only through its first. -/
theorem bind_ok (ok : (first >>= next) = .ok result) :
    ∃ value, first = .ok value ∧ next value = .ok result := by
  cases first with
  | error failure => cases ok
  | ok value => exact ⟨value, rfl, ok⟩

/-- What follows a check succeeds if the whole does. -/
theorem rest_ok {check : Except ε α} {rest : Except ε β}
    (ok : (check >>= fun _ => rest) = .ok result) : rest = .ok result := by
  obtain ⟨_, -, ok⟩ := bind_ok ok
  exact ok

theorem bind_error {error : ε} (failed : (do let value ← first; next value) = .error error) :
    first = .error error ∨ ∃ value, first = .ok value ∧ next value = .error error := by
  cases first with
  | error other =>
      cases failed
      exact .inl rfl
  | ok value => exact .inr ⟨value, rfl, failed⟩

theorem bind_ok_iff :
    (first >>= next) = .ok result ↔ ∃ value, first = .ok value ∧ next value = .ok result := by
  constructor
  · exact bind_ok
  · rintro ⟨value, rfl, rest⟩
    exact rest

/-- What cannot fail adds nothing to the conditions of success. -/
theorem bind_succeeds_iff (total : ∀ value, ∃ result, next value = .ok result) :
    (∃ result, (first >>= next) = .ok result) ↔ ∃ value, first = .ok value := by
  simp only [bind_ok_iff]
  constructor
  · rintro ⟨_, value, ok, -⟩
    exact ⟨value, ok⟩
  · rintro ⟨value, ok⟩
    exact (total value).imp fun _ rest => ⟨value, ok, rest⟩

variable {failure : ε}

/-- A guarded computation succeeds exactly when its guard lets it continue. -/
theorem guard_ok_iff {failing : Prop} [Decidable failing] {rest : Except ε α} {result : α} :
    (if failing then .error failure else rest) = .ok result ↔ ¬ failing ∧ rest = .ok result := by
  by_cases holds : failing <;> simp [holds]

def ensure {ε : Type u} (condition : Prop) [Decidable condition] (failure : ε) : Except ε PUnit.{u + 1} :=
  if condition then .ok ⟨⟩ else .error failure

@[simp] theorem ensure_ok {condition : Prop} [Decidable condition] {result : PUnit.{u + 1}} :
    ensure condition failure = .ok result ↔ condition := by
  by_cases holds : condition <;> simp [ensure, holds]

def orFail {ε α : Type u} (value : Option α) (failure : ε) : Except ε α :=
  match value with
  | some found => .ok found
  | none => .error failure

@[simp] theorem orFail_ok {value : Option α} {found : α} :
    orFail value failure = .ok found ↔ value = some found := by
  cases value <;> simp [orFail]

theorem mapError_ok {ε ε' α : Type} {result : Except ε α} {wrap : ε → ε'} {value : α} :
    result.mapError wrap = .ok value ↔ result = .ok value := by
  cases result with
  | error failure => constructor <;> intro same <;> cases same
  | ok found => constructor <;> intro same <;> cases same <;> rfl

instance decidableOk {ε α : Type u} [DecidableEq α] (computed : Except ε α) (value : α) :
    Decidable (computed = .ok value) :=
  match computed with
  | .ok found => decidable_of_iff (found = value) (by rw [Except.ok.injEq])
  | .error _ => isFalse nofun

def succeedsWith {ε α : Type u} (computed : Except ε α) (holds : α → Bool) : Bool :=
  match computed with
  | .ok result => holds result
  | .error _ => false

theorem of_succeedsWith {computed : Except ε α} {holds : α → Bool}
    (succeeds : succeedsWith computed holds = true) :
    ∃ result, computed = .ok result ∧ holds result = true := by
  cases computed with
  | error failure => cases succeeds
  | ok result => exact ⟨result, rfl, succeeds⟩

end DContact.Lib

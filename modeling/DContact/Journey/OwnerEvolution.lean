import DContact.Journey.OwnerActionRepository

/-!
# How the tables of owner actions evolve

Whatever the operation, an action keeps its identifier and, once it is closed, its state; a
command keeps its action and its payload; and the inbox and the ledger only grow.
-/

namespace DContact.Journey

open Lib List JourneyStore Table
open Governance (Instant)

def Commanded (store : JourneyStore) : Prop :=
  ∀ command ∈ store.commands, ∃ action, store.findAction command.actionKey = some action

structure Evolves (before after : JourneyStore) : Prop where
  ids : (before.actions.map JrOwnerAction.id).Nodup → (after.actions.map JrOwnerAction.id).Nodup
  action : ∀ actionKey action, before.findAction actionKey = some action →
    ∃ later, after.findAction actionKey = some later ∧ later.id = action.id ∧
      (action.state ∉ openActionStates → later.state = action.state)
  command : ∀ commandId command, before.findCommand commandId = some command →
    ∃ later, after.findCommand commandId = some later ∧ later.actionKey = command.actionKey ∧
      later.payload = command.payload
  commanded : Commanded before → Commanded after

/-- The inbox and the ledger stay as they are. -/
structure Quiet (before after : JourneyStore) : Prop extends Evolves before after where
  results : after.results = before.results
  ledger : after.continuations = before.continuations

variable {store first second third : JourneyStore}

theorem Evolves.refl (store : JourneyStore) : Evolves store store where
  ids := id
  action _ action found := ⟨action, found, rfl, fun _ => rfl⟩
  command _ command found := ⟨command, found, rfl, rfl⟩
  commanded := id

theorem Evolves.trans (left : Evolves first second) (right : Evolves second third) :
    Evolves first third where
  ids distinct := right.ids (left.ids distinct)
  action := by
    refine found_trans (fun before after => ⟨after.1.trans before.1, fun closed => ?_⟩)
      left.action right.action
    have still := before.2 closed
    exact (after.2 (still ▸ closed)).trans still
  command := found_trans (fun before after =>
    ⟨after.1.trans before.1, after.2.trans before.2⟩) left.command right.command
  commanded complete := right.commanded (left.commanded complete)

theorem Quiet.refl (store : JourneyStore) : Quiet store store := ⟨.refl store, rfl, rfl⟩

theorem Quiet.trans (left : Quiet first second) (right : Quiet second third) : Quiet first third :=
  ⟨left.toEvolves.trans right.toEvolves, right.results.trans left.results,
    right.ledger.trans left.ledger⟩

variable {actionKey : String} {action : JrOwnerAction}

namespace Quiet

variable {selected : JrOwnerAction → Bool} {rewrite : JrOwnerAction → JrOwnerAction}

theorem findAction_updateActions (sameKey : ∀ row, (rewrite row).actionKey = row.actionKey)
    (actionKey : String) :
    (store.updateActions selected rewrite).findAction actionKey =
      (store.findAction actionKey).map fun row =>
        if selected row = true then rewrite row else row := by
  unfold findAction updateActions Table.lookup
  rw [find?_map]
  congr 2
  funext row
  by_cases chosen : selected row = true <;> simp [chosen, sameKey]

theorem updateActions
    (closed : ∀ row ∈ store.actions, selected row = true → row.state ∉ openActionStates →
      (rewrite row).state = row.state) (sameId : ∀ row, (rewrite row).id = row.id)
    (sameKey : ∀ row, (rewrite row).actionKey = row.actionKey) :
    Quiet store (store.updateActions selected rewrite) := by
  have found : ∀ actionKey, (store.updateActions selected rewrite).findAction actionKey = _ :=
    findAction_updateActions sameKey
  refine ⟨⟨?_, ?_, fun _ command known => ⟨command, known, rfl, rfl⟩, ?_⟩, rfl, rfl⟩
  · intro distinct
    have same : (store.updateActions selected rewrite).actions.map JrOwnerAction.id =
        store.actions.map JrOwnerAction.id := by
      unfold JourneyStore.updateActions
      rw [map_map]
      apply map_congr_left
      intro row _
      by_cases chosen : selected row = true <;> simp [chosen, sameId]
    exact same ▸ distinct
  · intro actionKey action known
    refine ⟨if selected action = true then rewrite action else action,
      by rw [found, known]; rfl, ?_, ?_⟩
    · split
      · exact sameId action
      · rfl
    · intro ended
      split
      next chosen => exact closed action (lookup_mem known) chosen ended
      next => rfl
  · intro complete command mem
    obtain ⟨action, known⟩ := complete command mem
    exact ⟨_, by rw [found, known]; rfl⟩

theorem updateAction (distinct : (store.actions.map JrOwnerAction.id).Nodup)
    (known : store.findAction actionKey = some action)
    (kept : action.state ∉ openActionStates → (rewrite action).state = action.state)
    (sameId : ∀ row, (rewrite row).id = row.id)
    (sameKey : ∀ row, (rewrite row).actionKey = row.actionKey) :
    Quiet store (store.updateAction action.id rewrite) := by
  refine updateActions ?_ sameId sameKey
  intro row mem chosen closed
  have same : row = action :=
    eq_of_key_eq distinct mem (lookup_mem known) (of_decide_eq_true chosen)
  rw [same] at closed ⊢
  exact kept closed

theorem updateCommands {selected : JrOwnerCommandOutbox → Bool}
    {rewrite : JrOwnerCommandOutbox → JrOwnerCommandOutbox}
    (sameId : ∀ row, (rewrite row).commandId = row.commandId)
    (sameKey : ∀ row, (rewrite row).actionKey = row.actionKey)
    (samePayload : ∀ row, (rewrite row).payload = row.payload) :
    Quiet store (store.updateCommands selected rewrite) := by
  refine ⟨⟨id, fun _ action known => ⟨action, known, rfl, fun _ => rfl⟩, ?_, ?_⟩, rfl, rfl⟩
  · intro commandId command known
    refine ⟨if selected command = true then rewrite command else command, ?_, ?_, ?_⟩
    · unfold JourneyStore.findCommand JourneyStore.updateCommands Table.lookup
      rw [find?_map]
      have same : ((fun row : JrOwnerCommandOutbox => decide (row.commandId = commandId)) ∘
          fun row => if selected row = true then rewrite row else row) =
          fun row => decide (row.commandId = commandId) := by
        funext row
        by_cases chosen : selected row = true <;> simp [chosen, sameId]
      rw [same]
      exact congrArg (Option.map _) known
    · split
      · exact sameKey command
      · rfl
    · split
      · exact samePayload command
      · rfl
  · intro complete command mem
    obtain ⟨old, present, rfl⟩ := mem_map.mp mem
    obtain ⟨action, known⟩ := complete old present
    refine ⟨action, ?_⟩
    split
    · rw [sameKey]
      exact known
    · exact known

theorem upsertCommand {row : JrOwnerCommandOutbox}
    (known : ∃ action, store.findAction row.actionKey = some action) :
    Quiet store (store.upsertCommand row) := by
  unfold JourneyStore.upsertCommand
  split
  next => exact refl store
  refine ⟨⟨id, fun _ action known => ⟨action, known, rfl, fun _ => rfl⟩, ?_, ?_⟩, rfl, rfl⟩
  · intro commandId command found
    refine ⟨command, ?_, rfl, rfl⟩
    unfold findCommand Table.lookup
    rw [find?_append]
    exact Option.or_eq_some_iff.mpr (.inl found)
  · intro complete command mem
    rcases mem_snoc.mp mem with old | rfl
    · exact complete command old
    · exact known

variable {row : JrOwnerAction}

theorem findAction_append (known : store.findAction actionKey = some action) :
    findAction { store with actions := store.actions ++ [row] } actionKey =
      some action := by
  unfold findAction Table.lookup
  rw [find?_append]
  exact Option.or_eq_some_iff.mpr (.inl known)

theorem addAction (fresh : ∀ other ∈ store.actions, other.id ≠ row.id) :
    Quiet store { store with actions := store.actions ++ [row] } := by
  refine ⟨⟨?_, fun _ action known => ⟨action, findAction_append known, rfl, fun _ => rfl⟩,
    fun _ command known => ⟨command, known, rfl, rfl⟩, ?_⟩, rfl, rfl⟩
  · intro distinct
    refine nodup_append distinct ?_
    intro taken
    obtain ⟨other, mem, same⟩ := mem_map.mp taken
    exact fresh other mem same
  · intro complete command mem
    obtain ⟨action, known⟩ := complete command mem
    exact ⟨action, findAction_append known⟩

end Quiet

variable {commandId : String} {result : JourneyStore × JrOwnerCommandOutbox} {expectedVersion : Int}

section Operations

variable {now : Instant}

theorem ensureAction_quiet {id : String} {input : EnsureOwnerActionInput}
    {result : JourneyStore × EnsureOwnerActionResult}
    (ensured : ensureAction now id store input = .ok result) : Quiet store result.1 := by
  obtain ⟨bound, _, ensured⟩ := bind_ok ensured
  split at ensured
  next =>
    obtain ⟨_, _, ensured⟩ := bind_ok ensured
    obtain ⟨_, _, ensured⟩ := bind_ok ensured
    cases ensured
    exact .refl store
  next absent =>
    obtain ⟨_, fresh, ensured⟩ := bind_ok ensured
    cases ensured
    refine (Quiet.addAction (ensure_ok.mp fresh)).trans
      (.upsertCommand ⟨newAction id input bound, ?_⟩)
    show findAction _ input.actionKey = some (newAction id input bound)
    unfold findAction Table.lookup at absent ⊢
    rw [find?_append, absent]
    simp [newAction]

theorem updateCommand_quiet {rewrite : JrOwnerCommandOutbox → JrOwnerCommandOutbox}
    (sameId : ∀ row, (rewrite row).commandId = row.commandId)
    (sameKey : ∀ row, (rewrite row).actionKey = row.actionKey)
    (samePayload : ∀ row, (rewrite row).payload = row.payload) :
    Quiet store (updateCommand store commandId rewrite) :=
  .updateCommands sameId sameKey samePayload

theorem claimCommand_quiet
    (claimed : claimCommand now store commandId = .ok result) : Quiet store result.1 := by
  obtain ⟨command, _, claimed⟩ := bind_ok claimed
  obtain ⟨_, _, claimed⟩ := bind_ok claimed
  cases claimed
  exact updateCommand_quiet (fun _ => rfl) (fun _ => rfl) fun _ => rfl

theorem markCommandDispatched_quiet
    (dispatched : markCommandDispatched now store commandId = .ok result) :
    Quiet store result.1 := by
  obtain ⟨command, _, dispatched⟩ := bind_ok dispatched
  cases dispatched
  refine (updateCommand_quiet ?_ ?_ ?_).trans (.updateActions ?_ ?_ ?_)
  all_goals intro row
  case refine_4 =>
    intro _ chosen closed
    simp only [decide_eq_true_eq] at chosen
    simp [chosen.2, openActionStates] at closed
  all_goals rfl

theorem markCommandFailed_quiet {backoff : Instant}
    (failed : markCommandFailed now backoff store commandId = .ok result) :
    Quiet store result.1 := by
  obtain ⟨command, _, failed⟩ := bind_ok failed
  cases failed
  exact updateCommand_quiet (fun _ => rfl) (fun _ => rfl) fun _ => rfl

theorem open_of_cancellable {state : JrOwnerActionState}
    (cancellable : state ∈ cancellableActionStates) : state ∈ openActionStates := by
  cases state <;> simp_all [cancellableActionStates, openActionStates]

theorem cancelAtHome_quiet (distinct : (store.actions.map JrOwnerAction.id).Nodup)
    (known : store.findAction action.actionKey = some action)
    (opened : action.state ∈ openActionStates) : Quiet store (cancelAtHome now store action).1 := by
  have withdrawn : Quiet store (store.updateCommands
      (fun row => row.actionId = action.id ∧ (row.state = .pending ∨ row.state = .failed))
      fun row => { row with state := .cancelled }) :=
    .updateCommands (fun _ => rfl) (fun _ => rfl) fun _ => rfl
  exact withdrawn.trans (.updateAction distinct known (fun closed => absurd opened closed)
    (fun _ => rfl) fun _ => rfl)

variable {contract : OwnerContract} {input : RequestOwnerCancellationInput}
  {result : JourneyStore × JrOwnerAction}

section
variable (distinct : (store.actions.map JrOwnerAction.id).Nodup)
include distinct

theorem stageCancellation_quiet {original : OwnerCommandPayload} {intent : OwnerCommandIntent}
    (known : store.findAction action.actionKey = some action)
    (opened : action.state ∈ openActionStates) :
    Quiet store (stageCancellation contract now store action input original intent).1 := by
  have requested : Quiet store (store.updateAction action.id fun row =>
      { row with
        state := .cancelRequested
        cancelRequestedAt := some now
        attempts := 0
        version := row.version + 1 }) :=
    .updateAction distinct known (fun closed => absurd opened closed) (fun _ => rfl) fun _ => rfl
  obtain ⟨later, foundLater, _⟩ := requested.action action.actionKey action known
  unfold stageCancellation
  exact requested.trans (.upsertCommand ⟨later, foundLater⟩)

theorem requestCancellation_quiet
    (requested : requestCancellation contract now store input = .ok result) :
    Quiet store result.1 := by
  obtain ⟨action, found, requested⟩ := bind_ok requested
  obtain ⟨_, _, requested⟩ := bind_ok requested
  have known : store.findAction action.actionKey = some action := by
    rw [lookup_key (orFail_ok.mp found)]
    exact orFail_ok.mp found
  split at requested
  next =>
    cases requested
    exact .refl store
  next cancellable =>
    have opened := open_of_cancellable (Decidable.not_not.mp cancellable)
    split at requested
    next =>
      cases requested
      exact cancelAtHome_quiet distinct known opened
    next =>
      split at requested
      next =>
        cases requested
        exact .refl store
      next =>
        obtain ⟨original, _, requested⟩ := bind_ok requested
        cases requested
        exact stageCancellation_quiet distinct known opened

theorem replayCommands_quiet {result : JourneyStore × JrOwnerAction × List String}
    (replayed : replayCommands now store actionKey expectedVersion = .ok result) :
    Quiet store result.1 := by
  obtain ⟨action, found, replayed⟩ := bind_ok replayed
  obtain ⟨_, _, replayed⟩ := bind_ok replayed
  dsimp only at replayed
  split at replayed
  next =>
    cases replayed
    exact .refl store
  next =>
    cases replayed
    refine Quiet.trans (.updateCommands ?_ ?_ ?_)
      (.updateAction distinct (orFail_ok.mp found) (fun _ => rfl) ?_ ?_)
    all_goals intro row; rfl

theorem countAttempt_quiet {states : List JrOwnerActionState}
    {rewrite : JrOwnerAction → JrOwnerAction}
    (opened : ∀ state ∈ states, state ∈ openActionStates)
    (sameId : ∀ row, (rewrite row).id = row.id)
    (sameKey : ∀ row, (rewrite row).actionKey = row.actionKey)
    (counted : countAttempt store actionKey expectedVersion states rewrite = some result) :
    Quiet store result.1 := by
  unfold countAttempt at counted
  split at counted
  next action found =>
    split at counted
    next counts =>
      cases counted
      exact .updateAction distinct found (fun closed => absurd (opened _ counts.2) closed) sameId
        sameKey
    next => cases counted
  next => cases counted

theorem markAckUnknown_quiet
    (marked : markAckUnknown store actionKey expectedVersion = some result) :
    Quiet store result.1 := by
  refine countAttempt_quiet distinct ?_ ?_ ?_ marked
  · decide
  · intro row
    rfl
  · intro row
    rfl

theorem markCancelUnconfirmed_quiet {result : JourneyStore × JrOwnerAction × String}
    (marked : markCancelUnconfirmed store actionKey expectedVersion = .ok (some result)) :
    Quiet store result.1 := by
  unfold markCancelUnconfirmed at marked
  split at marked
  next => cases marked
  next after action counted =>
    obtain ⟨cancel, _, marked⟩ := bind_ok marked
    cases marked
    refine countAttempt_quiet distinct ?_ ?_ ?_ counted
    · decide
    · intro row
      rfl
    · intro row
      rfl

theorem persistResult_evolves {input : ApplyOwnerResultInput}
    (known : store.findAction input.actionKey = some action) :
    Evolves store (persistResult now store action input).1 := by
  unfold persistResult
  split
  next opened =>
    have taken : Quiet store (store.updateAction action.id
        (takeResult now input (cancelsAction store input.commandId))) :=
      .updateAction distinct known (fun closed => absurd opened closed) (fun _ => rfl) fun _ => rfl
    exact ⟨taken.ids, taken.action, taken.command, taken.commanded⟩
  next => exact ⟨id, (Evolves.refl store).action, (Evolves.refl store).command, id⟩

end

theorem Continued.evolves {input : ContinueOwnerResultInput} {after : JourneyStore}
    (continued : Continued store input after) : Evolves store after where
  ids distinct := continued.actions ▸ distinct
  action actionKey action found :=
    ⟨action, by rwa [findAction, continued.actions], rfl, fun _ => rfl⟩
  command commandId command found :=
    ⟨command, by rwa [findCommand, continued.commands], rfl, rfl⟩
  commanded complete := by
    intro command mem
    rw [continued.commands] at mem
    obtain ⟨action, found⟩ := complete command mem
    exact ⟨action, by rwa [findAction, continued.actions]⟩

end Operations

end DContact.Journey

import DContact.Dialer.DialerMachine

/-!
# Histories of the dialer's workers

What a request did to the database follows from its answer, so the transaction of a worker is a
function of the worker's history. Requests that only look do nothing to it.
-/

namespace DContact.Dialer

open Lib
open Governance (Instant)
open Journey (OwnerCommandPayload OwnerCommandType)

abbrev DialerEffect := Database.Effect DialerLock DialerChange

abbrev DialerTransaction := Transaction DialerLock DialerChange

/-- A request that has failed has rolled its transaction back, except for a command that governance
has refused. -/
def effectOf : (request : DialerRequest) → Except DialerError request.Reply → DialerEffect
  | .governance _, .error (.runtime _) => .nothing
  | _, .error _ => .rollback
  | .begin_, _ => .begin_
  | .commit, _ => .commit
  | .rollback, _ => .rollback
  | .lock key, _ => .lock key
  | .insertReceipt row, _ => .write (.receipt row)
  | .createCallback row, _ => .write (.createCallback row)
  | .moveCallback id _ state data, .ok (some _) => .write (.moveCallback id state data)
  | .createTarget row, _ => .write (.createTarget row)
  | .moveTarget id _ state data, .ok (some _) => .write (.moveTarget id state data)
  | _, _ => .nothing

abbrev DialerExchange := Exchange DialerRequest DialerRequest.Reply DialerError

variable {id : String} {state : ObCallbackState} {data : RecordData}

section Effects

variable {request : DialerRequest} {reply : Except DialerError request.Reply}

/-- What was asked and answered when a request has had an effect. -/
def Produces (exchange : DialerExchange) : DialerEffect → Prop
  | .begin_ => exchange = ⟨.begin_, .ok ()⟩
  | .commit => exchange = ⟨.commit, .ok ()⟩
  | .lock key => exchange = ⟨.lock key, .ok ()⟩
  | .write (.receipt row) => exchange = ⟨.insertReceipt row, .ok ()⟩
  | .write (.createCallback row) => exchange = ⟨.createCallback row, .ok ()⟩
  | .write (.createTarget row) => exchange = ⟨.createTarget row, .ok ()⟩
  | .write (.moveCallback id state data) =>
      ∃ expected row, exchange = ⟨.moveCallback id expected state data, .ok (some row)⟩
  | .write (.moveTarget id state data) =>
      ∃ expected row, exchange = ⟨.moveTarget id expected state data, .ok (some row)⟩
  | _ => True

theorem produces_effect {effect : DialerEffect} (same : effectOf request reply = effect) :
    Produces ⟨request, reply⟩ effect := by
  subst same
  cases request <;> rcases reply with failure | value <;>
    first | trivial | (cases failure <;> trivial) |
      (cases value <;> first | trivial | exact ⟨_, _, rfl⟩)

end Effects

def transactionOf (history : DialerHistory) : Option DialerTransaction :=
  history.foldl (fun work exchange => (effectOf exchange.request exchange.reply).within work) none

@[simp] theorem transactionOf_append (history : DialerHistory) (request : DialerRequest)
    (reply : Except DialerError request.Reply) :
    transactionOf (history ++ [⟨request, reply⟩]) =
      (effectOf request reply).within (transactionOf history) := by
  simp [transactionOf, List.foldl_append]

def Told (history : DialerHistory) (request : DialerRequest) (value : request.Reply) : Prop :=
  ⟨request, .ok value⟩ ∈ history

variable {history : DialerHistory} {request : DialerRequest} {value : request.Reply}

theorem Told.append (told : Told history request value)
    (exchange : Exchange DialerRequest DialerRequest.Reply
      DialerError) : Told (history ++ [exchange]) request value :=
  List.mem_append_left _ told

theorem told_last (history : DialerHistory) (request : DialerRequest) (value : request.Reply) :
    Told (history ++ [⟨request, .ok value⟩]) request value :=
  List.mem_append_right _ List.mem_cons_self

section Performing

variable {world : DialerWorld} {pid other : Nat} {asked : DialerRequest}
  {reply : Except DialerError asked.Reply} {store : DialerStore}

theorem Told.performing (told : Told (world.history other) request value) :
    Told ((world.performing pid asked reply store).history other) request value := by
  rw [World.history_performing]
  split
  next own => exact own ▸ told.append _
  next => exact told

/-- What a worker has been told after a request, it was told before or just now. -/
theorem told_performing
    (told : Told ((world.performing pid asked reply store).history other) request value) :
    Told (world.history other) request value ∨
      other = pid ∧ (⟨asked, reply⟩ : DialerExchange) = ⟨request, .ok value⟩ := by
  rw [World.history_performing] at told
  split at told
  next own =>
    rcases List.mem_append.mp told with old | new
    · exact .inl (own ▸ old)
    · exact .inr ⟨own, (List.mem_singleton.mp new).symm⟩
  next => exact .inl told

end Performing

/-- The worker is in a transaction with a property. -/
def Inside (history : DialerHistory) (holds : DialerTransaction → Prop) : Prop :=
  ∃ work, transactionOf history = some work ∧ holds work

variable {change : DialerChange}

section Perform

variable {host : DialerHost} {pid : Nat} {tick : DialerTick} {store after : DialerStore}

theorem answer_of_ok
    (performed : performDialer host pid tick request store = some (.ok value, after)) :
    answer host pid tick request store = some (.ok value, after) := by
  unfold performDialer at performed
  split at performed
  next => cases performed
  next => exact performed

theorem DialerStore.writing_moved {α : Type} {value : α}
    {reply : Except DialerError α} (written : store.writing pid change value = some (reply, after)) :
    reply = .ok value ∧ after.now = store.now ∧
      Database.Moved dialerWrites store.db pid (.write change) after.db := by
  obtain ⟨db, made, same⟩ := Option.map_eq_some_iff.mp written
  cases same
  exact ⟨rfl, rfl, .write made⟩

theorem DialerStore.inserting_moved {taken : Bool} {reply : Except DialerError Unit}
    (inserted : store.inserting pid change taken = some (reply, after)) :
    after.now = store.now ∧
      ((reply = .error .uniqueViolation ∧ Database.Moved dialerWrites store.db pid .rollback after.db) ∨
        (reply = .ok () ∧ taken = false ∧
          Database.Moved dialerWrites store.db pid (.write change) after.db)) := by
  unfold DialerStore.inserting at inserted
  split at inserted
  next =>
    cases inserted
    exact ⟨rfl, .inl ⟨rfl, .rollback⟩⟩
  next free =>
    obtain ⟨same, now, moved⟩ := store.writing_moved inserted
    exact ⟨now, .inr ⟨same, by simpa using free, moved⟩⟩

theorem updateCallback_moved {expected : Expected ObCallbackState}
    {reply : Except DialerError (Option ObCallback)}
    (updated : updateCallback store pid id expected state data = some (reply, after)) :
    after.now = store.now ∧ ((reply = .ok none ∧ after = store) ∨
      ∃ row, Table.lookup ObCallback.id id store.db.tables.callbacks = some row ∧
        reply = .ok (some (row.move state data)) ∧
        Database.Moved dialerWrites store.db pid (.write (.moveCallback id state data)) after.db) := by
  unfold updateCallback at updated
  split at updated
  next =>
    cases updated
    exact ⟨rfl, .inl ⟨rfl, rfl⟩⟩
  next row found =>
    split at updated
    next =>
      obtain ⟨same, now, moved⟩ := store.writing_moved updated
      exact ⟨now, .inr ⟨row, found, same, moved⟩⟩
    next =>
      cases updated
      exact ⟨rfl, .inl ⟨rfl, rfl⟩⟩

theorem updateTarget_moved {expected : Expected ObCampaignTargetState} {state : ObCampaignTargetState}
    {reply : Except DialerError (Option ObCampaignTarget)}
    (updated : updateTarget store pid id expected state data = some (reply, after)) :
    after.now = store.now ∧ ((reply = .ok none ∧ after = store) ∨
      ∃ row, Table.lookup ObCampaignTarget.id id store.db.tables.targets = some row ∧
        reply = .ok (some (row.move state data)) ∧
        Database.Moved dialerWrites store.db pid (.write (.moveTarget id state data)) after.db) := by
  unfold updateTarget at updated
  split at updated
  next =>
    cases updated
    exact ⟨rfl, .inl ⟨rfl, rfl⟩⟩
  next row found =>
    split at updated
    next =>
      obtain ⟨same, now, moved⟩ := store.writing_moved updated
      exact ⟨now, .inr ⟨row, found, same, moved⟩⟩
    next =>
      cases updated
      exact ⟨rfl, .inl ⟨rfl, rfl⟩⟩

theorem performDialer_moved {reply : Except DialerError request.Reply}
    (performed : performDialer host pid tick request store = some (reply, after)) :
    Database.Moved dialerWrites store.db pid (effectOf request reply) after.db := by
  unfold performDialer at performed
  split at performed
  next =>
    cases performed
    cases request <;> exact .rollback
  next =>
    cases request with
    | clock =>
        simp only [answer] at performed
        split at performed
        next => cases performed; exact .nothing
        next => cases performed
    | uuid =>
        simp only [answer] at performed
        split at performed
        next => cases performed
        next => cases performed; exact .nothing
    | begin_ => cases performed; exact .begin_
    | commit => cases performed; exact .commit
    | rollback => cases performed; exact .rollback
    | lock key =>
        obtain ⟨db, locked, same⟩ := Option.map_eq_some_iff.mp performed
        cases same
        exact .lock locked
    | insertReceipt row | createCallback row | createTarget row =>
        rcases (store.inserting_moved performed).2 with ⟨rfl, moved⟩ | ⟨rfl, -, moved⟩ <;> exact moved
    | moveCallback id expected state data =>
        rcases (updateCallback_moved performed).2 with ⟨rfl, rfl⟩ | ⟨row, -, rfl, moved⟩
        · exact .nothing
        · exact moved
    | moveTarget id expected state data =>
        rcases (updateTarget_moved performed).2 with ⟨rfl, rfl⟩ | ⟨row, -, rfl, moved⟩
        · exact .nothing
        · exact moved
    | governance command =>
        simp only [answer] at performed
        split at performed
        next => cases performed; exact .nothing
        next => cases performed; exact .nothing
    | _ => cases performed; exact .nothing

/-- The clock never goes back, and whoever reads it is told what it shows. -/
theorem performDialer_now {reply : Except DialerError request.Reply}
    (performed : performDialer host pid tick request store = some (reply, after)) :
    store.now ≤ after.now ∧ ∀ now : Instant,
      (⟨request, reply⟩ : DialerExchange) = ⟨.clock, .ok now⟩ → now ≤ after.now := by
  have still : after.now = store.now → (∀ now : Instant,
      (⟨request, reply⟩ : DialerExchange) ≠ ⟨.clock, .ok now⟩) →
      store.now ≤ after.now ∧ ∀ now : Instant,
        (⟨request, reply⟩ : DialerExchange) = ⟨.clock, .ok now⟩ → now ≤ after.now :=
    fun same other => ⟨Int.le_of_eq same.symm, fun now told => absurd told (other now)⟩
  unfold performDialer at performed
  split at performed
  next =>
    cases performed
    exact still rfl fun now told => by cases told
  next =>
    cases request with
    | clock =>
        simp only [answer] at performed
        split at performed
        next later =>
          cases performed
          exact ⟨later, fun now told => by cases told; exact Int.le_refl _⟩
        next => cases performed
    | uuid =>
        simp only [answer] at performed
        split at performed
        next => cases performed
        next => cases performed; exact still rfl fun now told => by cases told
    | lock key =>
        obtain ⟨db, locked, same⟩ := Option.map_eq_some_iff.mp performed
        cases same
        exact still rfl fun now told => by cases told
    | insertReceipt row | createCallback row | createTarget row =>
        exact still (store.inserting_moved performed).1 fun now told => by cases told
    | moveCallback id expected state data =>
        exact still (updateCallback_moved performed).1 fun now told => by cases told
    | moveTarget id expected state data =>
        exact still (updateTarget_moved performed).1 fun now told => by cases told
    | governance command =>
        simp only [answer] at performed
        split at performed
        next => cases performed; exact still rfl fun now told => by cases told
        next => cases performed; exact still rfl fun now told => by cases told
    | _ => cases performed; exact still rfl fun now told => by cases told

end Perform

end DContact.Dialer

import DContact.Router.RouterTables

/-!
# Updates of a call

Each statement that updates a call, with its condition and its data. The statements that act on a
row which was read before carry that row.
-/

namespace DContact.Router

open Governance (Instant)

/-- Who is offered a call, and until when. -/
structure Offer where
  agentId : String
  assignedAt : Instant
  offerExpiresAt : Instant

inductive InteractionWrite where
  | assignCreated (id : String) (offer : Offer)
  | abandonOffer (due : Interaction) (now : Instant)
  | requeueOffer (due : Interaction) (now : Instant) (requeueAt : Option Instant)
  | reassign (id : String) (offer : Offer)
  | assignRequeued (id : String) (now : Instant) (offer : Offer)
  | abandonWaiting (waiting : Interaction) (now : Instant)
  | requeueWaiting (waiting : Interaction) (now : Instant)
  | declineAbandon (id agentId : String) (endedAt : Instant)
  | declineRequeue (id agentId : String) (requeueAt : Instant)
  | completeWrapUp (id agentId code : String)
  | collect (id : String) (stage : IvrInputStage) (attempts : Int) (inputExpiresAt : Instant)
  | resolve (id queueId : String) (attempts : Int) (offer : Option Offer)
  | answer (existing : Interaction) (answeredAt : Instant)
  | hangupWaiting (existing : Interaction) (endedAt : Instant)
  | hangupActive (existing : Interaction) (endedAt : Instant)
  | revokeOffer (id agentId : String) (now : Instant)

namespace InteractionWrite

/-- The call that the statement is about. -/
def id : InteractionWrite → String
  | assignCreated id _ => id
  | abandonOffer due _ => due.id
  | requeueOffer due _ _ => due.id
  | reassign id _ => id
  | assignRequeued id _ _ => id
  | abandonWaiting waiting _ => waiting.id
  | requeueWaiting waiting _ => waiting.id
  | declineAbandon id _ _ => id
  | declineRequeue id _ _ => id
  | completeWrapUp id _ _ => id
  | collect id _ _ _ => id
  | resolve id _ _ _ => id
  | answer existing _ => existing.id
  | hangupWaiting existing _ => existing.id
  | hangupActive existing _ => existing.id
  | revokeOffer id _ _ => id

/-- The rest of the `where` clause. -/
def matches_ (row : Interaction) : InteractionWrite → Bool
  | assignCreated _ _ => true
  | abandonOffer _ now => row.state == .assigned && row.offerExpiresAt.any (· ≤ now)
  | requeueOffer _ now _ => row.state == .assigned && row.offerExpiresAt.any (· ≤ now)
  | reassign _ _ => row.state == .queued && row.agentId == none
  | assignRequeued _ now _ => row.state == .queued && row.requeueAt.any (· ≤ now)
  | abandonWaiting waiting _ => row.state == .queued && row.queuedAt == waiting.queuedAt
  | requeueWaiting waiting _ => row.state == .queued && row.queuedAt == waiting.queuedAt
  | declineAbandon _ agentId _ => row.agentId == some agentId && row.state == .assigned
  | declineRequeue _ agentId _ => row.agentId == some agentId && row.state == .assigned
  | completeWrapUp _ agentId _ => row.agentId == some agentId && row.state == .wrapup
  | collect _ _ _ _ => row.state == .queued
  | resolve _ _ _ _ => true
  | answer existing answeredAt => row.state == .assigned &&
      (existing.offerExpiresAt.isNone || row.offerExpiresAt.any (answeredAt < ·))
  | hangupWaiting existing _ => row.state == existing.state
  | hangupActive _ _ => row.state == .active
  | revokeOffer _ agentId _ => row.agentId == some agentId && row.state == .assigned

def assign (row : Interaction) (offer : Offer) : Interaction :=
  { row with
    state := .assigned
    agentId := some offer.agentId
    assignedAt := some offer.assignedAt
    offerExpiresAt := some offer.offerExpiresAt }

/-- The `data` of the statement. -/
def apply (row : Interaction) : InteractionWrite → Interaction
  | assignCreated _ offer => assign row offer
  | abandonOffer _ now =>
      { row with state := .abandoned, endedAt := some now, offerExpiresAt := none }
  | requeueOffer _ _ requeueAt =>
      { row with
        state := .queued, agentId := none, offerExpiresAt := none, requeueAt := requeueAt }
  | reassign _ offer => assign row offer
  | assignRequeued _ _ offer => { assign row offer with requeueAt := none }
  | abandonWaiting _ now =>
      { row with state := .abandoned, endedAt := some now, requeueAt := none }
  | requeueWaiting _ now => { row with queuedAt := now, requeueAt := some now }
  | declineAbandon _ _ endedAt =>
      { row with state := .abandoned, endedAt := some endedAt, offerExpiresAt := none }
  | declineRequeue _ _ requeueAt =>
      { row with
        state := .queued, agentId := none, offerExpiresAt := none, requeueAt := some requeueAt }
  | completeWrapUp _ _ code => { row with state := .completed, wrapUpCode := some code }
  | collect _ stage attempts inputExpiresAt =>
      { row with
        ivrStage := some stage, ivrAttempts := attempts, ivrInputExpiresAt := some inputExpiresAt }
  | resolve _ queueId attempts none =>
      { row with
        queueId := some queueId, ivrStage := none, ivrInputExpiresAt := none,
        ivrAttempts := attempts }
  | resolve _ queueId attempts (some offer) =>
      { assign row offer with
        queueId := some queueId, ivrStage := none, ivrInputExpiresAt := none,
        ivrAttempts := attempts }
  | answer _ answeredAt =>
      { row with state := .active, answeredAt := some answeredAt, offerExpiresAt := none }
  | hangupWaiting _ endedAt =>
      { row with
        state := .abandoned, endedAt := some endedAt, offerExpiresAt := none, requeueAt := none }
  | hangupActive _ endedAt => { row with state := .wrapup, endedAt := some endedAt }
  | revokeOffer _ _ now =>
      { row with
        state := .queued, agentId := none, offerExpiresAt := none, requeueAt := some now }

@[simp] theorem apply_id (row : Interaction) (write : InteractionWrite) :
    (write.apply row).id = row.id := by
  cases write with
  | resolve _ _ _ offer => cases offer <;> rfl
  | _ => rfl

@[simp] theorem apply_externalId (row : Interaction) (write : InteractionWrite) :
    (write.apply row).externalId = row.externalId := by
  cases write with
  | resolve _ _ _ offer => cases offer <;> rfl
  | _ => rfl

/-- The agent that the statement gives the call to. -/
def assignee? : InteractionWrite → Option String
  | assignCreated _ offer | reassign _ offer | assignRequeued _ _ offer => some offer.agentId
  | resolve _ _ _ offer => offer.map Offer.agentId
  | _ => none

end InteractionWrite

/-- A call that is offered to an agent, or with one. -/
def InteractionState.occupies : InteractionState → Bool
  | .assigned | .active | .wrapup => true
  | .queued | .completed | .abandoned => false

def Interaction.occupant (row : Interaction) : Option String :=
  if row.state.occupies then row.agentId else none

/-- A call that waits has no agent. -/
def Interaction.Sound (row : Interaction) : Prop := row.state = .queued → row.agentId = none

variable {row : Interaction}

theorem Interaction.occupant_of_assigned (state : row.state = .assigned) :
    row.occupant = row.agentId := by
  simp [occupant, state, InteractionState.occupies]

theorem Interaction.occupant_of_queued (state : row.state = .queued) : row.occupant = none := by
  simp [occupant, state, InteractionState.occupies]

variable {write : InteractionWrite}

namespace InteractionWrite

/-- A statement that gives the call to nobody leaves it with whom it is, or with nobody. -/
theorem occupant_apply (matched : write.matches_ row = true) (nobody : write.assignee? = none) :
    (write.apply row).occupant = row.occupant ∨ (write.apply row).occupant = none := by
  cases write with
  | assignCreated | reassign | assignRequeued => cases nobody
  | requeueWaiting | collect => exact .inl rfl
  | resolve _ _ _ offer =>
      cases offer with
      | none => exact .inl rfl
      | some offer => cases nobody
  | answer existing answeredAt =>
      simp only [matches_, Bool.and_eq_true, beq_iff_eq] at matched
      exact .inl (Interaction.occupant_of_assigned matched.1).symm
  | hangupActive existing endedAt =>
      simp only [matches_, beq_iff_eq] at matched
      exact .inl (by simp [apply, Interaction.occupant, matched, InteractionState.occupies])
  | _ => exact .inr rfl

theorem occupant_assign {agentId : String} (somebody : write.assignee? = some agentId) :
    (write.apply row).occupant = some agentId := by
  cases write with
  | assignCreated | reassign | assignRequeued => exact somebody
  | resolve _ _ _ offer =>
      cases offer with
      | none => cases somebody
      | some offer => exact somebody
  | _ => cases somebody

theorem sound_apply (sound : row.Sound) : (write.apply row).Sound := by
  cases write with
  | resolve _ _ _ offer =>
      cases offer with
      | none => exact sound
      | some offer => exact nofun
  | requeueWaiting | collect => exact sound
  | requeueOffer | declineRequeue | revokeOffer => exact fun _ => rfl
  | _ => exact nofun

end InteractionWrite

end DContact.Router

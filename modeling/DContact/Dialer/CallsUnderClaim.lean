import DContact.Dialer.ContactDuplicates

/-!
# Calls are made under a claim

Before a worker calls the transport for a record it has claimed the record, and the runtime of the
governance has told it that a reservation is claimed for this call. It calls once.
-/

namespace DContact.Dialer

open Lib List Workers

/-- What a worker that calls the transport for a record has done before. -/
structure UnderClaim (host : DialerHost) (history : DialerHistory) (kind : TargetKind)
    (id : String) : Prop where
  outside : transactionOf history = none
  record : OpenOn history kind id
  first : ∀ exchange ∈ history, ∀ kind id, placed kind id exchange = false
  reserved : ReservationClaimed host history kind id

variable {host : DialerHost} {kind : TargetKind} {id : String}

theorem placed_underClaim {call : DialerCall} {history : DialerHistory} {exchange : DialerExchange}
    (called : placed kind id exchange = true)
    (permitted : (dialerProtocol host).permits call history exchange.request) :
    UnderClaim host history kind id := by
  obtain ⟨request, reply⟩ := exchange
  cases request with
  | originate asked =>
      simp only [placed, Bool.and_eq_true, beq_iff_eq] at called
      obtain ⟨rfl, rfl⟩ := called
      cases call with
      | persist => exact permitted.elim
      | query => cases permitted.2
      | reconcile =>
          obtain ⟨-, looking | ⟨_, _, moves⟩⟩ := permitted
          · cases looking
          · cases moves
      | originateCallback | originateCampaignTarget =>
          obtain ⟨outside, looking | ⟨_, same⟩ | ⟨_, _, moves, -⟩ |
            ⟨_, same, named, isOpen, first, reserved⟩⟩ := permitted
          · cases looking
          · cases same
          · cases moves
          · cases same
            exact ⟨outside, named ▸ isOpen, first, named ▸ reserved⟩
  | _ => cases called

/-- In every interleaving of the dialer's workers, crashes included, each call of the transport is
made under a claim of its record and of a reservation, and is the first of its worker. -/
theorem transport_is_called_under_claim (host : DialerHost) {workers : DialerWorkers}
    (reachable : (system (dialerMachine host) DialerStore.Fresh).Reachable workers) {pid : Nat}
    {earlier later : DialerHistory} {exchange : DialerExchange}
    (shape : workers.world.history pid = earlier ++ exchange :: later)
    (called : placed kind id exchange = true) : UnderClaim host earlier kind id := by
  have free : (runs (dialerMachine host) DialerStore.Fresh
      ⟨fun _ _ _ _ => true, fun _ _ => true⟩).Reachable workers := by
    refine reachable.restrict fun workers step => ?_
    cases step <;> simp only [Condition.meets]
    split <;> rfl
  have standing := (standing_preserves.kept (dialer_conforms host)
    (fun _ => standing_initially) free).inv
  obtain ⟨call, -, permitted⟩ := standing.followed.permitted pid earlier exchange later shape
  exact placed_underClaim called permitted

theorem rejected_call_is_under_claim : ∃ (workers : DialerWorkers) (earlier later : DialerHistory)
    (exchange : DialerExchange), workers.world.history 1 = earlier ++ exchange :: later ∧
      placed .callback "first" exchange = true ∧ UnderClaim pilotHost earlier .callback "first" := by
  have ends : System.endsWith (next (dialerMachine pilotHost)) (idle pilotStore) rejectedRun
      (.perform 1 (pilotTick 1 "")) (fun _ after =>
        (after.world.history 1).any (placed .callback "first")) = true := by decide +kernel
  obtain ⟨before, after, reachable, taken, calls⟩ := endsWith pilotStore_fresh ends
  obtain ⟨exchange, mem, called⟩ := any_eq_true.mp calls
  obtain ⟨earlier, later, shape⟩ := append_of_mem mem
  exact ⟨after, earlier, later, exchange, shape, called,
    transport_is_called_under_claim pilotHost (reachable.step taken) shape called⟩

end DContact.Dialer

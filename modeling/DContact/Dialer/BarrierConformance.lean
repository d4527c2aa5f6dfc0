import DContact.Dialer.DialerConformance

/-!
# The barrier, the reconciler and the query conform

None of them is ever in a transaction. The barrier is idle until its claim meets the record, calls
the transport at most once and holds the record until it finishes it.
-/

namespace DContact.Dialer

open Lib List Program
open Governance (Instant RuntimeCommand RuntimeOperation)

def silent : DialerRequest → Bool
  | .governance _ => true
  | request => looks request

theorem ReservationClaimed.append {host : DialerHost} {history : DialerHistory} {kind : TargetKind}
    {id : String} (reserved : ReservationClaimed host history kind id) (exchange : DialerExchange) :
    ReservationClaimed host (history ++ [exchange]) kind id := by
  obtain ⟨command, view, binding, lease, told, tenant, action, operation, minted⟩ := reserved
  exact ⟨command, view, binding, lease, told.append _, tenant, action, operation, minted.append _⟩

variable {request : DialerRequest} {correlationId reservationId : String}
  {target : ObCampaignTarget} {callback : ObCallback}

section Silent

variable {host : DialerHost} {kind : TargetKind} {id : String} {history : DialerHistory}
  {exchange : DialerExchange}

theorem effectOf_silent (quiet : silent exchange.request = true) :
    (effectOf exchange.request exchange.reply).within none = none := by
  obtain ⟨request, reply⟩ := exchange
  cases reply with
  | error failure =>
      cases request with
      | governance command => cases failure <;> rfl
      | _ => rfl
  | ok value => cases request <;> first | rfl | cases quiet

theorem deedOf_silent (quiet : silent exchange.request = true) : deedOf exchange = none := by
  obtain ⟨request, reply⟩ := exchange
  cases request <;> first | exact deedOf_looks quiet | exact ite_self _

theorem placed_silent (quiet : silent exchange.request = true) (kind : TargetKind) (id : String) :
    placed kind id exchange = false := by
  obtain ⟨request, reply⟩ := exchange
  cases request <;> first | rfl | cases quiet

structure Steady (fact : DialerHistory → Prop) : Prop where
  outside : ∀ history, fact history → transactionOf history = none
  keeps : ∀ history exchange, silent exchange.request = true → fact history →
    fact (history ++ [exchange])

theorem barrierPermits_silent (outside : transactionOf history = none)
    (quiet : silent request = true) : barrierPermits host kind history request := by
  refine ⟨outside, ?_⟩
  cases request with
  | governance command => exact .inr (.inl ⟨command, rfl⟩)
  | _ => exact .inl quiet

variable {fact : DialerHistory → Prop}

/-- A question that touches no record, with its answer. -/
theorem Steady.ask (steady : Steady fact) (holds : fact history) (request : DialerRequest)
    (quiet : silent request = true) :
    (Dialer.ask request).Yields (barrierPermits host kind)
      (fun value later => fact later ∧ Told later request value) history := by
  refine (yields_ask request (barrierPermits_silent (steady.outside _ holds) quiet)).mono ?_
  rintro value _ rfl
  exact ⟨steady.keeps _ _ quiet holds, told_last ..⟩

theorem Steady.and {other : DialerHistory → Prop} (steady : Steady fact)
    (grows : ∀ history exchange, other history → other (history ++ [exchange])) :
    Steady fun history => fact history ∧ other history where
  outside := fun history holds => steady.outside history holds.1
  keeps := fun history exchange quiet holds =>
    ⟨steady.keeps history exchange quiet holds.1, grows history exchange holds.2⟩

theorem outside_append (outside : transactionOf history = none)
    (quiet : silent exchange.request = true) : transactionOf (history ++ [exchange]) = none := by
  rw [show history ++ [exchange] = history ++ [⟨exchange.request, exchange.reply⟩] from rfl,
    transactionOf_append, outside, effectOf_silent quiet]

/-- The barrier has claimed nothing yet. -/
structure Unclaimed (history : DialerHistory) : Prop where
  outside : transactionOf history = none
  idle : Idle history

/-- The barrier has claimed a record and has not called the transport. -/
structure Held (kind : TargetKind) (id : String) (history : DialerHistory) : Prop where
  outside : transactionOf history = none
  record : OpenOn history kind id
  unplaced : ∀ exchange ∈ history, ∀ kind id, placed kind id exchange = false

/-- The simulated call is over, and the record is still claimed. -/
structure Simulated (kind : TargetKind) (id : String) (result : SimulationResult)
    (history : DialerHistory) : Prop where
  outside : transactionOf history = none
  record : OpenOn history kind id
  accepted : result = .accepted → ∃ exchange ∈ history, accepted kind id exchange
  refused : result ≠ .accepted → ∀ exchange ∈ history, placed kind id exchange = true →
    refused exchange.request exchange.reply = true

theorem Unclaimed.append (unclaimed : Unclaimed history)
    (outside : transactionOf (history ++ [exchange]) = none) (untouched : deedOf exchange = none)
    (unplaced : ∀ kind id, placed kind id exchange = false) :
    Unclaimed (history ++ [exchange]) := by
  refine ⟨outside, fun other mem => ?_⟩
  rcases mem_snoc.mp mem with old | rfl
  · exact unclaimed.idle other old
  · exact ⟨untouched, unplaced⟩

theorem unclaimed_steady : Steady Unclaimed where
  outside := fun _ unclaimed => unclaimed.outside
  keeps := fun _ _ quiet unclaimed => unclaimed.append (outside_append unclaimed.outside quiet)
    (deedOf_silent quiet) (placed_silent quiet)

/-- A record stays open under a request that does not touch it. -/
theorem OpenOn.append (record : OpenOn history kind id) (untouched : deedOf exchange = none) :
    OpenOn (history ++ [exchange]) kind id := by
  obtain ⟨⟨claim, mem, claims⟩, unfinished⟩ := record
  refine ⟨⟨claim, mem_append_left _ mem, claims⟩, ?_⟩
  rintro ⟨finish, mem, result, finishes⟩
  rcases mem_snoc.mp mem with old | rfl
  · exact unfinished ⟨finish, old, result, finishes⟩
  · rw [untouched] at finishes
    cases finishes

theorem held_steady : Steady (Held kind id) where
  outside := fun _ held => held.outside
  keeps := by
    intro history exchange quiet held
    refine ⟨outside_append held.outside quiet, held.record.append (deedOf_silent quiet), ?_⟩
    intro other mem
    rcases mem_snoc.mp mem with old | rfl
    · exact held.unplaced other old
    · exact placed_silent quiet

theorem simulated_steady {result : SimulationResult} : Steady (Simulated kind id result) where
  outside := fun _ simulated => simulated.outside
  keeps := by
    intro history exchange quiet simulated
    refine ⟨outside_append simulated.outside quiet, simulated.record.append (deedOf_silent quiet),
      fun same => ?_, fun differs other mem called => ?_⟩
    · obtain ⟨call, mem, took⟩ := simulated.accepted same
      exact ⟨call, mem_append_left _ mem, took⟩
    · rcases mem_snoc.mp mem with old | rfl
      · exact simulated.refused differs other old called
      · rw [placed_silent quiet] at called
        cases called

theorem Unclaimed.claimed (unclaimed : Unclaimed history) (exchange : DialerExchange)
    (outside : transactionOf (history ++ [exchange]) = none)
    (claims : deedOf exchange = some (kind, id, .claim))
    (unplaced : ∀ kind id, placed kind id exchange = false) : Held kind id (history ++ [exchange]) where
  outside := outside
  record := by
    refine ⟨⟨exchange, mem_append_right _ mem_cons_self, claims⟩, ?_⟩
    rintro ⟨finish, mem, result, finishes⟩
    rcases mem_snoc.mp mem with old | rfl
    · rw [(unclaimed.idle finish old).1] at finishes
      cases finishes
    · rw [claims] at finishes
      cases finishes
  unplaced := by
    intro other mem
    rcases mem_snoc.mp mem with old | rfl
    · exact (unclaimed.idle other old).2
    · exact unplaced

theorem authorizeAndReserve_yields {input : OriginateAuthorization} (steady : Steady fact)
    (holds : fact history) :
    (authorizeAndReserve input).Yields (barrierPermits host kind) (fun _ => fact) history := by
  unfold authorizeAndReserve
  refine yields_attempt (barrierPermits_silent (steady.outside _ holds) rfl) fun reply => ?_
  have holds := steady.keeps _ ⟨.authorize input, reply⟩ rfl holds
  split
  next => exact yields_pure holds
  next => exact yields_pure holds

variable {delivery : OriginateDelivery} {providerRequestKey : String}

theorem settleOutcome_yields {outcome : Governance.TerminalOutcome} (steady : Steady fact)
    (holds : fact history) :
    (settleOutcome host delivery providerRequestKey outcome).Yields (barrierPermits host kind)
      (fun _ => fact) history := by
  unfold settleOutcome
  refine (steady.ask holds .uuid rfl).bind fun outcomeRef _ known => ?_
  refine (steady.ask known.1 .clock rfl).bind fun occurredAt _ known => ?_
  exact (steady.ask known.1 (.governance _) rfl).mono fun _ _ known => known.1

/-- The call of the transport, and what its answer leaves. -/
theorem originate_yields (call : TelephonyOriginateRequest) (held : Held kind call.targetId history)
    (ofKind : call.targetKind = kind) (reserved : ReservationClaimed host history kind call.targetId) :
    (originate call).Yields (barrierPermits host kind)
      (fun response later => Simulated kind call.targetId
        (if response = .accepted then .accepted else .rejected) later) history := by
  refine (yields_ask (.originate call) ⟨held.outside, .inr (.inr (.inr
    ⟨call, rfl, ofKind, held.record, held.unplaced, reserved⟩))⟩).mono ?_
  rintro response _ rfl
  refine ⟨by rw [transactionOf_append, held.outside]; rfl, held.record.append rfl, fun same => ?_,
    fun differs other mem called => ?_⟩
  · refine ⟨_, mem_append_right _ mem_cons_self, call, ofKind, rfl, ?_⟩
    cases response with
    | accepted => rfl
    | rejected reasonCode => cases same
  · rcases mem_snoc.mp mem with old | rfl
    · rw [held.unplaced other old] at called
      cases called
    · cases response with
      | accepted => exact absurd rfl differs
      | rejected reasonCode => rfl

theorem submitCall_yields (held : Held kind id history)
    (reserved : ReservationClaimed host history kind id) :
    (submitCall host delivery providerRequestKey kind id).Yields (barrierPermits host kind)
      (Simulated kind id) history := by
  have steady : Steady fun history => Held kind id history ∧ ReservationClaimed host history kind id :=
    held_steady.and fun _ _ reserved => reserved.append _
  unfold submitCall
  refine (steady.ask ⟨held, reserved⟩ (.governance _) rfl).bind fun _ _ known => ?_
  obtain ⟨⟨held, reserved⟩, -⟩ := known
  refine (originate_yields ⟨kind, id, providerRequestKey⟩ held rfl reserved).bind
    fun response _ simulated => ?_
  split
  next =>
    refine (simulated_steady.ask simulated (.governance _) rfl).bind fun _ _ known => ?_
    refine (settleOutcome_yields simulated_steady known.1).bind fun _ _ simulated => ?_
    exact yields_pure simulated
  next =>
    refine (settleOutcome_yields simulated_steady simulated).bind fun _ _ simulated => ?_
    exact yields_pure simulated

theorem runTelephonySimulation_yields {contactId : String} (held : Held kind id history) :
    (runTelephonySimulation host correlationId reservationId contactId kind id).Yields
      (barrierPermits host kind) (Simulated kind id) history := by
  unfold runTelephonySimulation
  refine (held_steady.ask held .uuid rfl).bind fun deliveryId _ known => ?_
  have steady : Steady fun history => Held kind id history ∧ Told history .uuid deliveryId :=
    held_steady.and fun _ _ told => told.append _
  refine (steady.ask known .uuid rfl).bind fun providerRequestKey _ known => ?_
  refine (steady.ask known.1 .clock rfl).bind fun (now : Instant) _ known => ?_
  obtain ⟨⟨held, told⟩, -⟩ := known
  refine yields_attempt (barrierPermits_silent held.outside rfl) fun reply => ?_
  have held := held_steady.keeps _ ⟨.governance (claimCommand host
    ⟨correlationId, reservationId, originateActionKey kind id, deliveryId⟩ kind contactId
    (now + host.originateLeaseMs)), reply⟩ rfl held
  split
  next view =>
    exact submitCall_yields held
      ⟨_, view, _, _, told_last .., rfl, rfl, rfl, told.append _⟩
  next =>
    split
    next =>
      refine yields_pure ⟨held.outside, held.record, nofun, fun _ other mem called => ?_⟩
      rw [held.unplaced other mem] at called
      cases called
    next => exact yields_throw
  next => exact yields_throw

/-- What came of the call finishes the record. -/
theorem Simulated.finishes {result : SimulationResult} {request : DialerRequest}
    (simulated : Simulated kind id result history)
    (moves : purposeOf request = some (kind, id, .finish (result == .accepted))) :
    barrierPermits host kind history request :=
  ⟨simulated.outside, .inr (.inr (.inl ⟨id, _, moves, simulated.record,
    fun same => simulated.accepted (by simpa using same),
    fun differs => simulated.refused (by simpa using differs)⟩))⟩

theorem deferCampaignTarget_yields (unclaimed : Unclaimed history) :
    (deferCampaignTarget target).Yields (barrierPermits host .campaignTarget) (fun _ _ => True)
      history := by
  unfold deferCampaignTarget
  refine (yields_ask (.moveTarget target.id ⟨some .admitted, some target.version⟩ .deferred .only)
    ⟨unclaimed.outside, .inr (.inr (.inl ⟨target.id, .postpone, rfl, rfl⟩))⟩).bind fun _ _ _ => ?_
  exact yields_pure trivial

theorem callCampaignTarget_yields (unclaimed : Unclaimed history) :
    (callCampaignTarget host target correlationId reservationId).Yields
      (barrierPermits host .campaignTarget) (fun _ _ => True) history := by
  unfold callCampaignTarget
  refine (unclaimed_steady.ask unclaimed .clock rfl).bind fun (now : Instant) _ known => ?_
  obtain ⟨unclaimed, -⟩ := known
  refine (yields_ask (.moveTarget target.id ⟨some .admitted, none⟩ .originating
    (.claimed (now + host.originateLeaseMs))) ⟨unclaimed.outside,
      .inr (.inr (.inl ⟨target.id, .claim, rfl, unclaimed.idle⟩))⟩).bind fun moved later same => ?_
  subst same
  split
  next => exact yields_pure trivial
  next row =>
    have held : Held .campaignTarget target.id _ :=
      unclaimed.claimed ⟨.moveTarget target.id ⟨some .admitted, none⟩ .originating
        (.claimed (now + host.originateLeaseMs)), .ok (some row)⟩
        (by rw [transactionOf_append, unclaimed.outside]; rfl) rfl fun _ _ => rfl
    refine (runTelephonySimulation_yields held).bind fun result _ simulated => ?_
    refine (yields_ask (.moveTarget target.id ⟨some .originating, none⟩
      (if result = .accepted then .consumed else .deferred) .left)
      (simulated.finishes (by cases result <;> rfl))).bind fun _ _ _ => ?_
    exact yields_pure trivial

theorem authorizeCampaignTarget_yields (unclaimed : Unclaimed history) :
    (authorizeCampaignTarget host target correlationId).Yields (barrierPermits host .campaignTarget)
      (fun _ _ => True) history := by
  unfold authorizeCampaignTarget
  refine (authorizeAndReserve_yields unclaimed_steady unclaimed).bind fun authorized _ unclaimed => ?_
  split
  next => exact yields_pure trivial
  split
  next => exact callCampaignTarget_yields unclaimed
  refine (deferCampaignTarget_yields unclaimed).bind fun _ _ _ => ?_
  exact yields_pure trivial

theorem originateCampaignTarget_yields {campaignTargetId : String} (unclaimed : Unclaimed history) :
    (originateCampaignTarget host campaignTargetId correlationId).Yields
      (barrierPermits host .campaignTarget) (fun _ _ => True) history := by
  unfold originateCampaignTarget
  refine (unclaimed_steady.ask unclaimed .gate rfl).bind fun gateState _ known => ?_
  split
  next => exact yields_pure trivial
  refine (unclaimed_steady.ask known.1 (.findTarget campaignTargetId) rfl).bind
    fun found _ known => ?_
  split
  next => exact yields_pure trivial
  next target =>
    split
    next => exact yields_pure trivial
    refine (unclaimed_steady.ask known.1 (.findCampaign target.campaignId) rfl).bind
      fun campaign _ known => ?_
    split
    next =>
      refine (deferCampaignTarget_yields known.1).bind fun _ _ _ => ?_
      exact yields_pure trivial
    next =>
      refine (unclaimed_steady.ask known.1 .clock rfl).bind fun _ _ known => ?_
      refine (unclaimed_steady.ask known.1
        (.scope target.targetOwnerTeamId target.contactId) rfl).bind fun scope _ known => ?_
      split
      next =>
        refine (deferCampaignTarget_yields known.1).bind fun _ _ _ => ?_
        exact yields_pure trivial
      next =>
        split
        next => exact yields_pure trivial
        split
        next => exact yields_pure trivial
        refine (unclaimed_steady.ask known.1
          (.scopeAllowed .campaign target.campaignId) rfl).bind fun allowed _ known => ?_
        split
        next => exact yields_pure trivial
        next => exact authorizeCampaignTarget_yields known.1

theorem callCallback_yields (unclaimed : Unclaimed history) :
    (callCallback host callback correlationId reservationId).Yields
      (barrierPermits host .callback) (fun _ _ => True) history := by
  unfold callCallback
  refine (unclaimed_steady.ask unclaimed .clock rfl).bind fun (now : Instant) _ known => ?_
  obtain ⟨unclaimed, -⟩ := known
  refine (yields_ask (.moveCallback callback.id ⟨some .scheduled, none⟩ .originating
    (.claimed (now + host.originateLeaseMs))) ⟨unclaimed.outside,
      .inr (.inr (.inl ⟨callback.id, .claim, rfl, unclaimed.idle⟩))⟩).bind fun moved later same => ?_
  subst same
  split
  next => exact yields_pure trivial
  next row =>
    have held : Held .callback callback.id _ :=
      unclaimed.claimed ⟨.moveCallback callback.id ⟨some .scheduled, none⟩ .originating
        (.claimed (now + host.originateLeaseMs)), .ok (some row)⟩
        (by rw [transactionOf_append, unclaimed.outside]; rfl) rfl fun _ _ => rfl
    refine (runTelephonySimulation_yields held).bind fun result _ simulated => ?_
    refine (yields_ask (.moveCallback callback.id ⟨some .originating, none⟩
      (if result = .accepted then .consumed else .scheduled) .left)
      (simulated.finishes (by cases result <;> rfl))).bind fun _ _ _ => ?_
    exact yields_pure trivial

theorem authorizeCallback_yields (unclaimed : Unclaimed history) :
    (authorizeCallback host callback correlationId).Yields (barrierPermits host .callback)
      (fun _ _ => True) history := by
  unfold authorizeCallback
  refine (authorizeAndReserve_yields unclaimed_steady unclaimed).bind fun authorized _ unclaimed => ?_
  split
  next => exact yields_pure trivial
  split
  next => exact callCallback_yields unclaimed
  next => exact yields_pure trivial

theorem originateCallback_yields {callbackId : String} (unclaimed : Unclaimed history) :
    (originateCallback host callbackId correlationId).Yields (barrierPermits host .callback)
      (fun _ _ => True) history := by
  unfold originateCallback
  refine (unclaimed_steady.ask unclaimed .gate rfl).bind fun gateState _ known => ?_
  split
  next => exact yields_pure trivial
  refine (unclaimed_steady.ask known.1 (.findCallback callbackId) rfl).bind
    fun found _ known => ?_
  split
  next => exact yields_pure trivial
  next callback =>
    split
    next => exact yields_pure trivial
    refine (unclaimed_steady.ask known.1 .clock rfl).bind fun now _ known => ?_
    split
    next => exact yields_pure trivial
    split
    next => exact yields_pure trivial
    refine (unclaimed_steady.ask known.1
      (.scope callback.targetOwnerTeamId callback.contactId) rfl).bind
      fun scope _ known => ?_
    split
    next => exact yields_pure trivial
    split
    next => exact yields_pure trivial
    split
    next => exact yields_pure trivial
    refine (unclaimed_steady.ask known.1 (.scopeAllowed .callbackQueue callback.queueId) rfl).bind
      fun allowed _ known => ?_
    split
    next => exact yields_pure trivial
    next => exact authorizeCallback_yields known.1

end Silent

section Reconciler

variable {history : DialerHistory}

theorem reconcilePermits_looks (outside : transactionOf history = none)
    (looking : looks request = true) : reconcilePermits history request :=
  ⟨outside, .inl looking⟩

theorem yields_reconcile (outside : transactionOf history = none)
    (permitted : reconcilePermits history request)
    (untouched : ∀ value, (effectOf request (.ok value)).within none = none) :
    (ask request).Yields reconcilePermits (fun _ later => transactionOf later = none) history := by
  refine (yields_ask request permitted).mono ?_
  rintro value _ rfl
  rw [transactionOf_append, outside]
  exact untouched value

variable {deadline : Instant}

theorem reconcileTarget_yields (outside : transactionOf history = none) :
    (reconcileTarget deadline correlationId target).Yields reconcilePermits
      (fun _ later => transactionOf later = none) history := by
  unfold reconcileTarget
  refine (yields_reconcile outside ⟨outside, .inr ⟨.campaignTarget, target.id, rfl⟩⟩ ?_).bind
    fun _ _ outside => yields_pure outside
  rintro (_ | _) <;> rfl

theorem reconcileCallback_yields (outside : transactionOf history = none) :
    (reconcileCallback deadline correlationId callback).Yields reconcilePermits
      (fun _ later => transactionOf later = none) history := by
  unfold reconcileCallback
  refine (yields_reconcile outside ⟨outside, .inr ⟨.callback, callback.id, rfl⟩⟩ ?_).bind
    fun _ _ outside => yields_pure outside
  rintro (_ | _) <;> rfl

theorem reconcileExpired_yields {batchSize : Nat} (outside : transactionOf history = none) :
    (reconcileExpired correlationId batchSize).Yields reconcilePermits (fun _ _ => True)
      history := by
  unfold reconcileExpired
  refine (yields_reconcile outside (reconcilePermits_looks outside rfl) fun _ => rfl).bind
    fun deadline _ outside => ?_
  refine (yields_reconcile outside (reconcilePermits_looks outside rfl) fun _ => rfl).bind
    fun targets _ outside => ?_
  refine (yields_forEach outside fun target _ _ outside =>
    reconcileTarget_yields outside).bind fun movedTargets _ outside => ?_
  refine (yields_reconcile outside (reconcilePermits_looks outside rfl) fun _ => rfl).bind
    fun callbacks _ outside => ?_
  refine (yields_forEach outside fun callback _ _ outside =>
    reconcileCallback_yields outside).bind fun movedCallbacks _ _ => ?_
  exact yields_pure trivial

end Reconciler

theorem queryAction_yields {query : OwnerActionQuery} :
    (queryAction query).Yields queryPermits (QueryRests query) [] := by
  unfold queryAction queryDialerAction
  refine (yields_ask (.findActionReceipt query.actionKey query.requestHash) ⟨rfl, rfl⟩).bind
    fun (found : Option ObDialerCommandInbox) _ same => ?_
  subst same
  split
  next => exact yields_pure ⟨none, told_last .., rfl⟩
  next row =>
    split
    next known => exact yields_pure ⟨some row, told_last .., by simp [mem_append.mp known]⟩
    next unknown => exact yields_pure ⟨some row, told_last .., by
      simp only [Option.filter_some, decide_eq_true_eq, unknown, if_false, Option.map_none]⟩

theorem unclaimed_nil : Unclaimed [] := ⟨rfl, forall_mem_nil _⟩

/-- A call whose result rests on nothing conforms as its program does. -/
theorem conforms_free {α : Type} {permits : DialerHistory → DialerRequest → Prop}
    {program : DialerProgram α} {answers : α → DialerAnswer}
    (yields : program.Yields permits (fun _ _ => True) []) :
    (program >>= fun value => pure (answers value)).Conforms permits (fun _ _ => True) [] := by
  have free : (program >>= fun value => pure (answers value)).Yields permits (fun _ _ => True) [] :=
    yields.bind fun _ _ _ => yields_pure trivial
  exact Program.Conforms.mono free fun _ _ _ => trivial

theorem dialer_conforms (host : DialerHost) (call : DialerCall) :
    ((dialerMachine host).program call).Conforms ((dialerProtocol host).permits call)
      ((dialerProtocol host).post call) [] := by
  cases call with
  | persist command =>
      exact persistCommand_yields.bind fun answer later rests =>
        yields_pure ⟨by rw [rests.1], rests.2⟩
  | query query =>
      exact queryAction_yields.bind fun found later rests => yields_pure ⟨found, rfl, rests⟩
  | originateCampaignTarget campaignTargetId correlationId =>
      exact conforms_free (originateCampaignTarget_yields unclaimed_nil)
  | originateCallback callbackId correlationId =>
      exact conforms_free (originateCallback_yields unclaimed_nil)
  | reconcile correlationId batchSize =>
      exact conforms_free (reconcileExpired_yields rfl)

end DContact.Dialer

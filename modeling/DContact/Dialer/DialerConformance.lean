import DContact.Dialer.DialerProtocol

/-!
# The dialer's programs conform

A transaction keeps its footing while it only looks; what it writes stands in its changes. The
barrier is idle until its claim meets the record, and holds the record until it finishes it.
-/

namespace DContact.Dialer

open Lib Program
open Governance (Instant RuntimeCommand RuntimeOperation)
open Journey (CancelOwnerActionIntent OutcomeReference OwnerCommandPayload OwnerCommandType)

variable {request : DialerRequest}

section Requests

variable {permits : DialerHistory → DialerRequest → Prop} {history : DialerHistory} {α : Type}

theorem yields_ask (request : DialerRequest) (permitted : permits history request) :
    (ask request).Yields permits
      (fun value later => later = history ++ [⟨request, .ok value⟩]) history :=
  ⟨permitted, fun reply value same => by rw [same]⟩

theorem yields_abandon {failure : DialerError} {post : α → DialerHistory → Prop}
    (permitted : permits history .rollback) :
    (abandon failure : DialerProgram α).Yields permits post history :=
  (yields_ask .rollback permitted).bind fun _ _ _ => yields_throw

theorem effectOf_looks (looking : looks request = true)
    (value : request.Reply) : effectOf request (.ok value) = .nothing := by
  cases request <;> first | rfl | cases looking

theorem deedOf_looks {exchange : DialerExchange} (looking : looks exchange.request = true) :
    deedOf exchange = none := by
  obtain ⟨request, reply⟩ := exchange
  unfold deedOf purposeOf
  cases request <;> first | exact ite_self _ | cases looking

end Requests

variable {decision : DialerCommandDecision} {host : DialerHost} {id : String} {data : RecordData}
  {intent : CancelOwnerActionIntent} {superseding : Option OutcomeReference}

section Persist

variable {command : OwnerCommandPayload} {history : DialerHistory}
  {before after : DialerTransaction → Prop}

theorem Inside.append (inside : Inside history before) {value : request.Reply}
    (moves : ∀ work, before work → ∃ next,
      (effectOf request (.ok value)).within (some work) = some next ∧ after next) :
    Inside (history ++ [⟨request, .ok value⟩]) after := by
  obtain ⟨work, found, holds⟩ := inside
  obtain ⟨next, moved, holds'⟩ := moves work holds
  exact ⟨next, by rw [transactionOf_append, found, moved], holds'⟩

variable {holds : DialerTransaction → Prop}

theorem Inside.look (inside : Inside history holds) (looking : looks request = true)
    (value : request.Reply) : Inside (history ++ [⟨request, .ok value⟩]) holds :=
  inside.append fun work holds => ⟨work, by rw [effectOf_looks looking]; rfl, holds⟩

structure Ready (command : OwnerCommandPayload) (history : DialerHistory) : Prop where
  unmatched : Unmatched command history
  inside : Inside history fun work =>
    .command command.actionKey ∈ work.locks ∧ work.changes = []

/-- The decision that is taken, and the transaction that it was taken in. -/
structure Decided (command : OwnerCommandPayload) (decision : DialerCommandDecision)
    (history : DialerHistory) : Prop where
  unmatched : Unmatched command history
  inside : Inside history fun work => Undecided command work ∧
    Justified command decision history work

theorem Unmatched.append (unmatched : Unmatched command history) (exchange : DialerExchange) :
    Unmatched command (history ++ [exchange]) :=
  ⟨unmatched.1.append exchange, fun positive => (unmatched.2 positive).append exchange⟩

section
variable (ready : Ready command history)
include ready

theorem Ready.look (looking : looks request = true) (value : request.Reply) :
    Ready command (history ++ [⟨request, .ok value⟩]) :=
  ⟨ready.unmatched.append _, ready.inside.look looking value⟩

theorem Ready.lock (key : DialerLock) :
    Ready command (history ++ [⟨.lock key, .ok ()⟩]) where
  unmatched := ready.unmatched.append _
  inside := ready.inside.append fun work holds =>
    ⟨{ work with locks := key :: work.locks }, rfl, List.mem_cons_of_mem _ holds.1, holds.2⟩

/-- A decision that cancels and supersedes nothing needs no reason. -/
theorem Ready.decided (other : withdraws decision.status = false) :
    Decided command decision history where
  unmatched := ready.unmatched
  inside := by
    obtain ⟨work, found, held, unchanged⟩ := ready.inside
    refine ⟨work, found, ⟨held, by simp [unchanged]⟩, fun claims => ?_⟩
    rw [other] at claims
    cases claims

theorem Ready.undecided : Inside history (Undecided command) := by
  obtain ⟨work, found, held, unchanged⟩ := ready.inside
  exact ⟨work, found, held, by simp [unchanged]⟩

theorem Ready.unchanged : Inside history fun work => work.changes = [] := by
  obtain ⟨work, found, -, unchanged⟩ := ready.inside
  exact ⟨work, found, unchanged⟩

end

/-- Looks that need nothing of the transaction. -/
def plain : DialerRequest → Bool
  | .clock | .uuid | .foreign _ | .scope .. | .findCallback _ | .findCampaign _ | .findPolicy _ |
    .findTarget _ => true
  | _ => false

theorem looks_of_plain (simple : plain request = true) : looks request = true := by
  cases request <;> first | rfl | cases simple

theorem persistPermits_plain (simple : plain request = true) :
    persistPermits command history request := by
  cases request <;> first | exact trivial | cases simple

/-- A plain look of which the answer is remembered. -/
theorem Ready.ask (ready : Ready command history) (request : DialerRequest)
    (simple : plain request = true) :
    (Dialer.ask request).Yields (persistPermits command)
      (fun value later => Ready command later ∧ Told later request value) history := by
  refine (yields_ask request (persistPermits_plain simple)).mono ?_
  rintro value _ rfl
  exact ⟨ready.look (looks_of_plain simple) value, told_last history request value⟩

/-- What is refused before the tables are looked at is rejected. -/
theorem checkContactAndTeams_yields (ready : Ready command history) :
    (checkContactAndTeams command).Yields (persistPermits command)
      (fun refused later => Ready command later ∧
        ∀ decision, refused = some decision → decision.status = .rejected) history := by
  unfold checkContactAndTeams
  refine (ready.ask (.foreign (.contact command.contactId)) rfl).bind fun contact _ known => ?_
  refine (known.1.ask (.foreign (.team command.sourceOwnerTeamId)) rfl).bind
    fun sourceTeam _ known => ?_
  refine (known.1.ask (.foreign (.team command.targetOwnerTeamId)) rfl).bind
    fun targetTeam _ known => ?_
  split
  next => exact yields_pure ⟨known.1, by rintro _ ⟨⟩; rfl⟩
  split
  next => exact yields_pure ⟨known.1, by rintro _ ⟨⟩; rfl⟩
  split
  next => exact yields_pure ⟨known.1, by rintro _ ⟨⟩; rfl⟩
  refine (known.1.ask .clock rfl).bind fun at_ _ known => ?_
  refine (known.1.ask (.scope command.sourceOwnerTeamId command.contactId) rfl).bind
    fun sourceScope _ known => ?_
  refine (known.1.ask (.scope command.targetOwnerTeamId command.contactId) rfl).bind
    fun targetScope _ known => ?_
  split
  next => exact yields_pure ⟨known.1, by rintro _ ⟨⟩; rfl⟩
  next => exact yields_pure ⟨known.1, by rintro _ ⟨⟩⟩

theorem Inside.mono (inside : Inside history before) (implies : ∀ work, before work → after work) :
    Inside history after := by
  obtain ⟨work, found, holds⟩ := inside
  exact ⟨work, found, implies work holds⟩

theorem yields_lock (ready : Ready command history) (key : DialerLock)
    (other : ∀ actionKey, key ≠ .command actionKey) :
    (ask (.lock key)).Yields (persistPermits command)
      (fun _ later => Ready command later ∧
        (Inside later fun work => key ∈ work.locks ∧ work.changes = []) ∧
          later = history ++ [⟨.lock key, .ok ()⟩]) history := by
  refine (yields_ask (.lock key)
    ⟨ready.unchanged, fun actionKey same => absurd same (other actionKey)⟩).mono ?_
  rintro _ _ rfl
  exact ⟨ready.lock key, ready.unchanged.append fun work unchanged =>
    ⟨{ work with locks := key :: work.locks }, rfl, List.mem_cons_self, unchanged⟩, rfl⟩

/-- The one change of a decision. -/
theorem Ready.changed (ready : Ready command history)
    {value : request.Reply} {change : DialerChange}
    (changes : effectOf request (.ok value) = .write change)
    (record : ∀ row, change ≠ .receipt row)
    (withdrew : withdraws decision.status = true → ∀ recordId, decision.recordId = some recordId →
      ∀ work : DialerTransaction, change ∈ work.changes →
        Withdrew (aggregateTypeOf command.intent.commandType) recordId
          (history ++ [⟨request, .ok value⟩]) work) :
    Decided command decision (history ++ [⟨request, .ok value⟩]) where
  unmatched := ready.unmatched.append _
  inside := by
    refine ready.inside.append fun work holds =>
      ⟨{ work with changes := work.changes ++ [change] }, by rw [changes]; rfl, ⟨holds.1, ?_⟩, ?_⟩
    · intro row
      simp [holds.2, (record row).symm]
    · intro claims recordId named
      exact withdrew claims recordId named _ (List.mem_append_right _ List.mem_cons_self)

/-- A look whose answer and whose standing the program goes on with. -/
theorem yields_look (request : DialerRequest) (ready : Ready command history)
    (inside : Inside history holds) (looking : looks request = true)
    (permitted : persistPermits command history request) :
    (ask request).Yields (persistPermits command)
      (fun value later => Ready command later ∧ Inside later holds ∧ Told later request value ∧
        later = history ++ [⟨request, .ok value⟩]) history := by
  refine (yields_ask request permitted).mono ?_
  rintro value _ rfl
  exact ⟨ready.look looking value, inside.look looking value, told_last history request value, rfl⟩

theorem scheduleUnderLock_yields {intent : ScheduleCallbackIntent} {requestedFor : Option Instant}
    (ready : Ready command history) :
    (scheduleUnderLock command intent requestedFor).Yields (persistPermits command)
      (Decided command) history := by
  unfold scheduleUnderLock
  refine (yields_lock ready _ fun _ same => by cases same).bind fun _ _ known => ?_
  obtain ⟨ready, locked, -⟩ := known
  refine (yields_look .clock ready locked rfl trivial).bind fun now _ known => ?_
  obtain ⟨ready, locked, told, -⟩ := known
  refine (yields_look (.findPendingCallback command.contactId now) ready locked rfl
    ⟨told, locked⟩).bind fun pending _ known => ?_
  obtain ⟨ready, locked, told, -⟩ := known
  split
  next => exact yields_pure (ready.decided rfl)
  refine (yields_look .uuid ready locked rfl trivial).bind fun id _ known => ?_
  obtain ⟨ready, locked, -, rfl⟩ := known
  have told := told.append ⟨.uuid, .ok id⟩
  split
  next => exact yields_abandon trivial
  next requestedFor =>
    refine (yields_ask (.createCallback (newCallback id command intent requestedFor))
      ⟨rfl, locked, now, told⟩).bind fun _ _ same => ?_
    subst same
    exact yields_pure (ready.changed rfl (fun _ same => by cases same) fun claims => by cases claims)

theorem decideSchedule_yields {intent : ScheduleCallbackIntent} (ready : Ready command history) :
    (decideSchedule host command intent).Yields (persistPermits command) (Decided command)
      history := by
  have agent : ∀ later, Ready command later → (agentExists intent.agentId).Yields
      (persistPermits command) (fun _ => Ready command) later := by
    intro later ready
    unfold agentExists
    split
    next agentId _ =>
      split
      next => exact yields_pure ready
      next => exact (ready.ask (.foreign (.agent agentId)) rfl).mono fun _ _ known => known.1
    next => exact yields_pure ready
  unfold decideSchedule
  refine (ready.ask (.foreign (.queue intent.queueId)) rfl).bind fun queue _ known => ?_
  refine (agent _ known.1).bind fun found _ ready => ?_
  split
  next => exact yields_pure (ready.decided rfl)
  split
  next => exact yields_pure (ready.decided rfl)
  refine (ready.ask .clock rfl).bind fun now _ known => ?_
  split
  next => exact yields_pure (known.1.decided rfl)
  next => exact scheduleUnderLock_yields known.1

theorem Ready.found (ready : Ready command history)
    (withdrew : ∀ recordId, decision.recordId = some recordId → ∀ work,
      Withdrew (aggregateTypeOf command.intent.commandType) recordId history work) :
    Decided command decision history where
  unmatched := ready.unmatched
  inside := by
    obtain ⟨work, found, held, unchanged⟩ := ready.inside
    exact ⟨work, found, ⟨held, by simp [unchanged]⟩,
      fun _ recordId named => withdrew recordId named work⟩

theorem updateCallbackById_yields {state : ObCallbackState}
    {next : ObCallback → DialerProgram DialerCommandDecision} (ready : Ready command history)
    (withdraws : purposeOf (.moveCallback id ⟨none, none⟩ state data) =
      some (.callback, id, .withdraw))
    (rest : ∀ row, (next row).Yields (persistPermits command) (Decided command)
      (history ++ [⟨.moveCallback id ⟨none, none⟩ state data, .ok (some row)⟩])) :
    (updateCallbackById id state data >>= next).Yields (persistPermits command) (Decided command)
      history := by
  have updated : (updateCallbackById id state data).Yields (persistPermits command)
      (fun row later =>
        later = history ++ [⟨.moveCallback id ⟨none, none⟩ state data, .ok (some row)⟩])
      history := by
    unfold updateCallbackById
    refine (yields_ask (.moveCallback id ⟨none, none⟩ state data)
      ⟨withdraws, ready.unchanged⟩).bind fun moved _ same => ?_
    subst same
    split
    next => exact yields_pure rfl
    next => exact yields_abandon trivial
  refine updated.bind ?_
  rintro row _ rfl
  exact rest row

theorem leaveCallback_yields {callback : ObCallback}
    (kind : aggregateTypeOf command.intent.commandType = some .callback)
    (ready : Ready command history) (told : Told history (.findCallback id) (some callback)) :
    (leaveCallback callback intent superseding).Yields (persistPermits command) (Decided command)
      history := by
  unfold leaveCallback
  split
  next withdrawn =>
    refine yields_pure (ready.found fun recordId named work => ?_)
    cases named
    rw [kind]
    refine .inl ⟨id, callback, told, rfl, ?_⟩
    rw [withdrawn, leavingCallbackState]
    split <;> simp [withdrawnCallbackStates]
  next =>
    split
    next => exact yields_pure (ready.decided rfl)
    refine (ready.ask .clock rfl).bind fun now _ known => ?_
    split <;>
      · refine updateCallbackById_yields known.1 rfl fun row => ?_
        refine yields_pure (known.1.changed rfl (fun _ same => by cases same) fun _ => ?_)
        intro recordId named work mem
        cases named
        rw [kind]
        exact .inr ⟨_, _, _, _, row, told_last .., rfl, by simp [withdrawnCallbackStates], mem⟩

theorem decideCancelOrSupersedeCallback_yields
    (kind : aggregateTypeOf command.intent.commandType = some .callback)
    (ready : Ready command history) :
    (decideCancelOrSupersedeCallback command intent superseding).Yields (persistPermits command)
      (Decided command) history := by
  unfold decideCancelOrSupersedeCallback
  refine (yields_look (.findPositiveReceipt intent.originalActionKey .scheduleCallback) ready
    ready.undecided rfl ready.undecided).bind fun original _ known => ?_
  obtain ⟨ready, -⟩ := known
  split
  next => exact yields_pure (ready.decided rfl)
  split
  next => exact yields_pure (ready.decided rfl)
  next recordId _ =>
    split
    next => exact yields_pure (ready.decided rfl)
    refine (ready.ask (.findCallback recordId) rfl).bind fun found _ known => ?_
    obtain ⟨ready, told⟩ := known
    split
    next => exact yields_pure (ready.decided rfl)
    next callback =>
      split
      next => exact yields_pure (ready.decided rfl)
      next => exact leaveCallback_yields kind ready told

theorem decideCallback_yields (ready : Ready command history) :
    (decideCallback host command).Yields (persistPermits command) (Decided command) history := by
  unfold decideCallback
  split
  next =>
    refine (checkContactAndTeams_yields ready).bind fun refused _ known => ?_
    obtain ⟨ready, rejected⟩ := known
    split
    next decision => exact yields_pure (ready.decided (by rw [rejected decision rfl]; rfl))
    next => exact decideSchedule_yields ready
  next cancel same => exact decideCancelOrSupersedeCallback_yields (by rw [same]; rfl) ready
  next cancel outcome same => exact decideCancelOrSupersedeCallback_yields (by rw [same]; rfl) ready
  next => exact yields_abandon trivial

variable {campaign : ObCampaign} {policy : Option ObCampaignAdmissionPolicy}

theorem createAdmission_yields {admissionPolicyVersion : Nat} (ready : Ready command history)
    (locked : Inside history fun work =>
      .admission campaign.id command.contactId ∈ work.locks ∧ work.changes = [])
    (absent : Told history (.findAdmission campaign.id command.contactId) none)
    (read : Told history (.findPolicy campaign.id) policy) (alone : allowsDuplicate policy = false →
      Told history (.findCrossCampaign campaign.id command.contactId) none) :
    (createAdmission command campaign admissionPolicyVersion).Yields (persistPermits command)
      (Decided command) history := by
  unfold createAdmission
  refine (yields_look .uuid ready locked rfl trivial).bind fun id _ known => ?_
  obtain ⟨ready, locked, -, rfl⟩ := known
  refine (yields_ask (.createTarget (newTarget id command campaign admissionPolicyVersion))
    ⟨locked, absent.append _, policy, read.append _,
      fun forbids => (alone forbids).append _⟩).bind fun _ _ same => ?_
  subst same
  exact yields_pure (ready.changed rfl (fun _ same => by cases same) fun claims => by cases claims)

theorem admitUnderLock_yields (ready : Ready command history)
    (read : Told history (.findPolicy campaign.id) policy) :
    (admitUnderLock command campaign policy).Yields (persistPermits command) (Decided command)
      history := by
  unfold admitUnderLock
  refine (yields_lock ready (.admission campaign.id command.contactId)
    fun _ same => by cases same).bind fun _ _ known => ?_
  obtain ⟨ready, locked, rfl⟩ := known
  have read := read.append ⟨.lock (.admission campaign.id command.contactId), .ok ()⟩
  refine (yields_look (.findAdmission campaign.id command.contactId) ready locked rfl
    locked).bind fun existing _ known => ?_
  obtain ⟨ready, locked, absent, rfl⟩ := known
  have read := read.append ⟨.findAdmission campaign.id command.contactId, .ok existing⟩
  split
  next => exact yields_pure (ready.decided rfl)
  split
  next allows =>
    exact createAdmission_yields ready locked absent read fun forbids =>
      by
        rw [allowsDuplicate, allows] at forbids
        cases forbids
  next forbids =>
    refine (yields_look (.findCrossCampaign campaign.id command.contactId) ready locked rfl
      locked).bind fun other _ known => ?_
    obtain ⟨ready, locked, alone, rfl⟩ := known
    split
    next => exact yields_pure (ready.decided rfl)
    exact createAdmission_yields ready locked (absent.append _) (read.append _) fun _ => alone

theorem decideAdmit_yields {campaignId : String} (ready : Ready command history) :
    (decideAdmit command campaignId).Yields (persistPermits command) (Decided command) history := by
  unfold decideAdmit
  refine (checkContactAndTeams_yields ready).bind fun refused _ known => ?_
  obtain ⟨ready, rejected⟩ := known
  split
  next decision => exact yields_pure (ready.decided (by rw [rejected decision rfl]; rfl))
  refine (ready.ask (.findCampaign campaignId) rfl).bind fun found _ known => ?_
  obtain ⟨ready, -⟩ := known
  split
  next => exact yields_pure (ready.decided rfl)
  next campaign =>
    split
    next => exact yields_pure (ready.decided rfl)
    split
    next => exact yields_pure (ready.decided rfl)
    refine (ready.ask (.findPolicy campaign.id) rfl).bind fun policy _ known => ?_
    exact admitUnderLock_yields known.1 known.2

variable {target : ObCampaignTarget}

theorem withdraws_reversible (reversible : target.state ∈ reversibleTargetStates) :
    purposeOf (.moveTarget target.id ⟨some target.state, some target.version⟩
      (leavingTargetState superseding) data) = some (.campaignTarget, target.id, .withdraw) := by
  have two : target.state = .admitted ∨ target.state = .deferred := by
    simpa [reversibleTargetStates] using reversible
  unfold leavingTargetState
  rcases two with same | same <;> split <;> simp [purposeOf, targetPurpose, same]

/-- An update that has met no row leaves the command where it was. -/
theorem Ready.unmoved {expected : Expected ObCampaignTargetState} {state : ObCampaignTargetState}
    (ready : Ready command history) :
    Ready command (history ++ [⟨.moveTarget id expected state data, .ok none⟩]) where
  unmatched := ready.unmatched.append _
  inside := ready.inside.append fun work holds => ⟨work, rfl, holds⟩

section
variable (kind : aggregateTypeOf command.intent.commandType = some .campaignTarget)
  (ready : Ready command history)
include kind ready

theorem leaveTarget_yields (told : Told history (.findTarget id) (some target)) :
    (leaveTarget target intent superseding).Yields (persistPermits command) (Decided command)
      history := by
  have leaving : leavingTargetState superseding ∈ withdrawnTargetStates := by
    unfold leavingTargetState
    split <;> simp [withdrawnTargetStates]
  unfold leaveTarget
  split
  next withdrawn =>
    refine yields_pure (ready.found fun recordId named work => ?_)
    cases named
    rw [kind]
    exact .inl ⟨id, target, told, rfl, withdrawn ▸ leaving⟩
  next =>
    split
    next => exact yields_pure (ready.decided rfl)
    next reversible =>
      refine (ready.ask .clock rfl).bind fun now _ known => ?_
      obtain ⟨ready, -⟩ := known
      have reversed := Decidable.not_not.mp reversible
      refine (yields_ask (.moveTarget target.id ⟨some target.state, some target.version⟩
        (leavingTargetState superseding) (leavingData now intent superseding))
        ⟨withdraws_reversible reversed, ready.unchanged⟩).bind fun moved _ same => ?_
      subst same
      split
      next =>
        refine (ready.unmoved.ask (.findTarget target.id) rfl).bind fun current _ known => ?_
        split
        next => exact yields_abandon trivial
        next => exact yields_pure (known.1.decided rfl)
      next row _ =>
        refine yields_pure (ready.changed rfl (fun _ same => by cases same) fun _ => ?_)
        intro recordId named work mem
        cases named
        rw [kind]
        exact .inr ⟨_, _, leaving, mem⟩

theorem decideCancelOrSupersedeTarget_yields :
    (decideCancelOrSupersedeTarget command intent superseding).Yields (persistPermits command)
      (Decided command) history := by
  unfold decideCancelOrSupersedeTarget
  refine (yields_look (.findPositiveReceipt intent.originalActionKey .admitCampaignTarget) ready
    ready.undecided rfl ready.undecided).bind fun original _ known => ?_
  obtain ⟨ready, -⟩ := known
  split
  next => exact yields_pure (ready.decided rfl)
  split
  next => exact yields_pure (ready.decided rfl)
  next recordId _ =>
    split
    next => exact yields_pure (ready.decided rfl)
    refine (ready.ask (.findTarget recordId) rfl).bind fun found _ known => ?_
    obtain ⟨ready, told⟩ := known
    split
    next => exact yields_pure (ready.decided rfl)
    next target =>
      split
      next => exact yields_pure (ready.decided rfl)
      next => exact leaveTarget_yields kind ready told

end

theorem decideCampaignTarget_yields (ready : Ready command history) :
    (decideCampaignTarget command).Yields (persistPermits command) (Decided command) history := by
  unfold decideCampaignTarget
  split
  next => exact decideAdmit_yields ready
  next cancel same => exact decideCancelOrSupersedeTarget_yields (by rw [same]; rfl) ready
  next cancel outcome same =>
    exact decideCancelOrSupersedeTarget_yields (by rw [same]; rfl) ready
  next => exact yields_abandon trivial

/-- What the answer of `findExisting` tells of the receipts. -/
def Matched (command : OwnerCommandPayload) (history : DialerHistory) :
    Option ObDialerCommandInbox → Prop
  | none => Unmatched command history
  | some row => Told history (.findReceipt command.commandId) (some row) ∨
      (Told history (.findReceipt command.commandId) none ∧
        Told history (.findPositiveReceipt command.actionKey command.intent.commandType) (some row))

theorem Withdrew.append {kind : Option TargetKind} {recordId : String} {work : DialerTransaction}
    (withdrew : Withdrew kind recordId history work) (exchange : DialerExchange) :
    Withdrew kind recordId (history ++ [exchange]) work := by
  unfold Withdrew at withdrew ⊢
  split at withdrew
  next => exact withdrew
  next =>
    rcases withdrew with ⟨id, row, told, rest⟩ | ⟨id, expected, state, data, row, told, rest⟩
    · exact .inl ⟨id, row, told.append exchange, rest⟩
    · exact .inr ⟨id, expected, state, data, row, told.append exchange, rest⟩
  next =>
    rcases withdrew with ⟨id, row, told, rest⟩ | moved
    · exact .inl ⟨id, row, told.append exchange, rest⟩
    · exact .inr moved

theorem Decided.look (decided : Decided command decision history)
    (looking : looks request = true) (value : request.Reply) :
    Decided command decision (history ++ [⟨request, .ok value⟩]) where
  unmatched := decided.unmatched.append _
  inside := (decided.inside.look looking value).mono fun _ holds => ⟨holds.1,
    fun claims recordId named => (holds.2 claims recordId named).append _⟩

theorem findExisting_yields (inside : Inside history holds)
    (undecided : ∀ work, holds work → Undecided command work)
    (begun : history = [⟨.begin_, .ok ()⟩, ⟨.lock (.command command.actionKey), .ok ()⟩]) :
    (findExisting command).Yields (persistPermits command)
      (fun existing later => Matched command later existing ∧ Inside later holds) history := by
  unfold findExisting
  refine (yields_ask (.findReceipt command.commandId) ⟨rfl, begun⟩).bind fun known _ same => ?_
  subst same
  have told := told_last history (.findReceipt command.commandId) known
  have inside := inside.look (show looks (.findReceipt command.commandId) = true from rfl) known
  split
  next row => exact yields_pure ⟨.inl told, inside⟩
  split
  next =>
    refine (yields_ask (.findPositiveReceipt command.actionKey command.intent.commandType)
      (inside.mono undecided)).mono fun existing _ same => ?_
    subst same
    refine ⟨?_, inside.look rfl existing⟩
    have absent := told.append
      ⟨.findPositiveReceipt command.actionKey command.intent.commandType, .ok existing⟩
    cases existing with
    | none => exact ⟨absent, fun _ => told_last ..⟩
    | some row => exact .inr ⟨absent, told_last ..⟩
  next negative =>
    exact yields_pure ⟨⟨told, fun positive => absurd positive negative⟩, inside⟩

theorem persistDialerCommand_yields {decides : DialerProgram DialerCommandDecision}
    (decides_yields : ∀ history, Ready command history →
      decides.Yields (persistPermits command) (Decided command) history) :
    (persistDialerCommand command decides).Yields (persistPermits command)
      (fun answer later => answer = persistedCommand command ∧ PersistRests command later) [] := by
  unfold persistDialerCommand
  refine (yields_ask .begin_ rfl).bind fun _ _ same => ?_
  subst same
  refine (yields_ask (.lock (.command command.actionKey)) ⟨⟨⟨[], []⟩, rfl, rfl⟩,
    fun _ _ => rfl⟩).bind fun _ _ same => ?_
  subst same
  have inside : Inside ([] ++ [⟨.begin_, .ok ()⟩] ++ [⟨.lock (.command command.actionKey), .ok ()⟩])
      fun work => .command command.actionKey ∈ work.locks ∧ work.changes = [] :=
    ⟨⟨[.command command.actionKey], []⟩, rfl, List.mem_cons_self, rfl⟩
  refine (findExisting_yields inside (fun work holds => ⟨holds.1, by simp [holds.2]⟩) rfl).bind
    fun existing later known => ?_
  obtain ⟨matched, inside⟩ := known
  split
  next row =>
    split
    next => exact yields_abandon trivial
    next agrees =>
      refine (yields_ask .commit trivial).bind fun _ _ same => ?_
      subst same
      have agrees := Decidable.not_not.mp agrees
      refine yields_pure ⟨rfl, ?_⟩
      rcases matched with told | ⟨absent, told⟩
      · exact .inl ⟨row, told.append _, agrees⟩
      · exact .inr (.inl ⟨row, absent.append _, told.append _, agrees⟩)
  next =>
    refine (decides_yields _ ⟨matched, inside⟩).bind fun decision _ decided => ?_
    refine (yields_ask .uuid trivial).bind fun id _ same => ?_
    subst same
    have decided := decided.look (show looks .uuid = true from rfl) id
    refine (yields_ask .clock trivial).bind fun observedAt _ same => ?_
    subst same
    have decided := decided.look (show looks .clock = true from rfl) observedAt
    refine (yields_ask (.insertReceipt (receiptOf id command decision observedAt))
      ⟨id, decision, observedAt, rfl, decided.unmatched, decided.inside⟩).bind fun _ _ same => ?_
    subst same
    refine (yields_ask .commit trivial).bind fun _ _ same => ?_
    subst same
    refine yields_pure ⟨rfl, .inr (.inr ⟨id, decision, observedAt, _, rfl, ?_⟩)⟩
    exact decided.inside.append fun work _ =>
      ⟨{ work with changes := work.changes ++ [.receipt (receiptOf id command decision observedAt)] },
        rfl, List.mem_append_right _ List.mem_cons_self⟩

theorem persistCommand_yields : (persistCommand host command).Yields (persistPermits command)
      (fun answer later => answer = persistedCommand command ∧
        command.intent.commandType ∈ callbackCommandTypes ++ campaignTargetCommandTypes ∧
          PersistRests command later) [] := by
  unfold persistCommand
  split
  next ofCallback =>
    refine (persistDialerCommand_yields fun _ ready => decideCallback_yields ready).mono ?_
    exact fun _ _ rests => ⟨rests.1, List.mem_append_left _ ofCallback, rests.2⟩
  next =>
    split
    next ofTarget =>
      refine (persistDialerCommand_yields fun _ ready => decideCampaignTarget_yields ready).mono ?_
      exact fun _ _ rests => ⟨rests.1, List.mem_append_right _ ofTarget, rests.2⟩
    next => exact yields_throw

end Persist

end DContact.Dialer

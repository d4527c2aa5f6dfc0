import DContact.Delivery.LineSubmission

/-!
# Every push has a past

The programs of the adapter and of the control plane, one after another: what each of them knows when
it makes a request, and what it has learned when it ends. Together they keep what stands behind a
push in every run.
-/

namespace DContact.Delivery

open Lib Discipline Program
open Governance (Instant RuntimeOperation)
open Journey.Send (DlDeliveryState)
open LineControlStore (LineRunClosure)
open LineProgram

/-! ## The discipline -/

def LineCall.command? : LineCall → Option LineSubmitCommand
  | .submit command | .reconcile command => some command
  | _ => none

/-- What the running call of a worker was told to submit. -/
def commandOf (world : LineWorld) (pid : Nat) : Option LineSubmitCommand :=
  (world.calls pid).call?.bind LineCall.command?

def AsksForItsRun (world : LineWorld) (pid : Nat) : Prop :=
  ∀ command, commandOf world pid = some command →
    world.store.control.recipientOf command.runAuthorizationId = some command.recipientProtectedRef

def lineDiscipline (host : LineHost) (digest : LineRunProposalDigestInput → String) (bound : Prop) :
    Discipline (lineMachine host digest) where
  inv := LineInv host bound
  relies _ := LineMoves
  allows world pid _ request := bound → ∀ ref, request = .resolveRecipient ref →
    AsksForItsRun world pid
  relies_refl _ := LineMoves.refl
  relies_trans _ _ _ _ := LineMoves.trans

def ControlLearns (after : LineControlStore) : (request : LineControlRequest) → request.Reply → Prop
  | .findRun id, found => ∀ run, found = some run → after.findRun id = some run ∧ RunSound run
  | .findAllowlistEntry id, found => ∀ entry, found = some entry →
      after.findAllowlistEntry id = some entry
  | .reserveCap input, answer => ∀ entry replay, answer = .reserved entry replay →
      entry ∈ after.ledger ∧ entry.key = input.key ∧ entry.gateId = input.gateId ∧
        entry.runAuthorizationId = input.runAuthorizationId
  | _, _ => True

/-- What a worker knows from the answer to a request, when it is answered. -/
def LineLearns (bound : Prop) (pid : Nat) (after : LineWorld) :
    (request : LineRequest) → request.Reply → Prop
  | .findByDeliveryId deliveryId, found => ∀ entry, found = some entry →
      findByDeliveryId .lineMessagingApi after.store.outbox deliveryId = some entry
  | .advance deliveryId expected _, _ => expected = [.queued] → ∀ entry,
      findByDeliveryId .lineMessagingApi after.store.outbox deliveryId = some entry →
        entry.state ≠ .queued
  | .resolveRecipient _, _ => bound → AsksForItsRun after pid
  | .control request, reply => ControlLearns after.store.control request reply
  | _, _ => True

variable {request : LineRequest} {before after : LineWorld}

section Answers

variable {host : LineHost} {digest : LineRunProposalDigestInput → String} {bound : Prop} {pid : Nat}
  {world : LineWorld} {store : LineStore}

theorem LineControlStore.learns {before after : LineControlStore} {request : LineControlRequest}
    {reply : request.Reply} (sound : ∀ id run, before.findRun id = some run → RunSound run)
    (ok : before.perform request = .ok (reply, after)) : ControlLearns after request reply := by
  cases request with
  | findRun id =>
      cases ok
      exact fun run found => ⟨found, sound id run found⟩
  | findAllowlistEntry id =>
      cases ok
      exact fun entry found => found
  | reserveCap input =>
      simp only [perform, reserveCap] at ok
      split at ok
      · cases ok
      · split at ok
        · cases ok
        next reserved =>
          cases ok
          intro entry replay answered
          cases reserveCap_reserved reserved with
          | replay mem key gateId runAuthorizationId =>
              cases answered
              exact ⟨mem, key, gateId, runAuthorizationId⟩
          | refused => cases answered
          | taken =>
              cases answered
              exact ⟨List.mem_append_right _ (List.mem_singleton.mpr rfl), rfl, rfl, rfl⟩
  | _ => trivial

theorem LineInv.learns {tick : LineTick} {value : request.Reply}
    (inv : LineInv host bound world) (permits : LinePermits host bound pid world request)
    (allowed : (lineDiscipline host digest bound).allows world pid tick request)
    (performed : performLine host pid tick request world.store = some (.ok value, store)) :
    LineLearns bound pid (world.performing pid request (.ok value) store) request value := by
  cases request with
  | findByDeliveryId deliveryId =>
      cases performed
      exact fun entry known => known
  | advance deliveryId expected data =>
      simp only [performLine] at performed
      split at performed
      next ok =>
        cases performed
        rintro rfl entry known
        cases advance_advanced ok with
        | missed other =>
            intro queued
            exact other entry known (List.mem_singleton.mpr queued)
        | moved known' =>
            cases Option.some.inj ((findByDeliveryId_written known').symm.trans known)
            exact permits.1
      next => cases performed
  | resolveRecipient ref =>
      cases performed
      exact fun holds => allowed holds ref rfl
  | control asked =>
      simp only [performLine] at performed
      split at performed
      next ok =>
        cases performed
        exact LineControlStore.learns inv.runs ok
      next => cases performed
  | _ => trivial

structure LineGoes (pid : Nat) (before after : LineWorld) : Prop where
  moves : LineMoves before after
  status : after.calls pid = before.calls pid

theorem LineGoes.refl (world : LineWorld) : LineGoes pid world world := ⟨.refl world, rfl⟩

theorem LineGoes.trans {first second third : LineWorld} (left : LineGoes pid first second)
    (right : LineGoes pid second third) : LineGoes pid first third :=
  ⟨left.moves.trans right.moves, right.status.trans left.status⟩

/-- How far a worker has come since a world: it has made one more request, and got an answer. -/
structure LineAsked (bound : Prop) (pid : Nat) (world : LineWorld) (request : LineRequest)
    (value : request.Reply) (after : LineWorld) : Prop where
  goes : LineGoes pid world after
  heard : ⟨pid, request, .ok value⟩ ∈ after.journal
  learns : LineLearns bound pid after request value

theorem lineTakes (leaves : LineLeaves host bound before after) :
    (lineDiscipline host digest bound).Takes pid before after :=
  ⟨leaves.inv, fun _ _ => leaves.moves⟩

/-- The rule for a request that is permitted whatever the others do in the meantime. -/
theorem ensures_answer {post : request.Reply → LineWorld → Prop}
    (permits : ∀ now, LineInv host bound now → LineGoes pid world now →
      LinePermits host bound pid now request)
    (answered : ∀ value after, LineAsked bound pid world request value after → post value after) :
    (lineDiscipline host digest bound).Ensures pid post (ask request) world := by
  intro now keeps inv tick reply store allowed performed
  have permitted := permits now inv ⟨keeps.relied, keeps.status⟩
  have leaves := inv.performed permitted performed
  refine ⟨lineTakes leaves, ?_⟩
  rintro value rfl
  refine answered value _ ⟨⟨keeps.relied.trans leaves.moves, keeps.status⟩, ?_,
    inv.learns permitted allowed performed⟩
  exact List.mem_append_right _ (List.mem_singleton.mpr rfl)

theorem ensures_line {γ : Type} {next : request.Reply → LineProgram γ} {post : γ → LineWorld → Prop}
    (permits : ∀ now, LineInv host bound now → LineGoes pid world now →
      LinePermits host bound pid now request)
    (rest : ∀ value after, LineAsked bound pid world request value after →
      (lineDiscipline host digest bound).Ensures pid post (next value) after) :
    (lineDiscipline host digest bound).Ensures pid post (ask request >>= next) world :=
  (ensures_answer permits fun _ _ asked => asked).bind rest

end Answers

/-! ## Requests that need nothing -/

/-- A request that is permitted in every world. -/
def Plain : LineRequest → Prop
  | .advance _ expected data => data.state ≠ .queued ∧ .queued ∉ expected
  | .push .. => False
  | .control (.approveRun ..) => False
  | .control (.reserveCap input) => input.capKind ≠ .providerAttempt
  | .control (.settleCap _ capKind _ _ _) => capKind ≠ .providerAttempt
  | _ => True

section Plain

variable {host : LineHost} {digest : LineRunProposalDigestInput → String} {bound : Prop} {pid : Nat}
  {world : LineWorld} {γ : Type}

theorem Plain.permits (plain : Plain request) : LinePermits host bound pid world request := by
  cases request with
  | advance deliveryId expected data => exact ⟨plain.1, fun queued => absurd queued plain.2⟩
  | push occasion request => exact plain.elim
  | control asked =>
      cases asked with
      | approveRun id role actor => exact plain.elim
      | reserveCap input => exact fun attempt => absurd attempt plain
      | settleCap deliveryId capKind attemptNo settlement now => exact plain
      | _ => trivial
  | _ => trivial

/-- A program of plain requests is safe wherever it stands. -/
theorem ensures_plain {program : LineProgram γ} (only : program.Only Plain) :
    (lineDiscipline host digest bound).Ensures pid (fun _ => LineGoes pid world) program world := by
  refine ensures_only .refl (fun _ _ _ => .trans) ?_ ?_ only
  · exact fun _ _ keeps => ⟨keeps.relied, keeps.status⟩
  · intro request plain now tick reply store inv _ performed
    have leaves : LineLeaves host bound now (now.performing pid request reply store) :=
      LineInv.performed inv plain.permits performed
    exact ⟨lineTakes leaves, leaves.moves, rfl⟩

end Plain

/-! ## Programs that need nothing -/

variable {gate : DlLineScopeGate} {now : Instant} {deliveryId : String} {denied : LineGateDenied}

section Ending

variable {host : LineHost} {entry : DlOutboxEntry} {command : LineSubmitCommand}
  {outcomeCode : LineProviderOutcomeCode} {attemptNo : Nat} {content : LineResolvedContent}
  {γ : Type}

theorem only_ask {next : request.Reply → LineProgram γ}
    (plain : Plain request) (rest : ∀ value, (next value).Only Plain) :
    (ask request >>= next).Only Plain :=
  only_request plain rest

theorem assertControlAuthority_plain {role : LineControlActorRole} {action : LineControlAction} :
    (assertControlAuthority role action).Only Plain := by
  unfold assertControlAuthority
  split
  · exact only_pure
  · exact only_throw

theorem emit_plain {state : LineLifecycleState} {correlationId : String}
    {outcomeCode : Option LineProviderOutcomeCode} :
    (emit host entry state correlationId outcomeCode).Only Plain :=
  only_ask trivial fun _ => ⟨trivial, fun _ => trivial⟩

variable {signal : LineControlSignal}

theorem killOnSignal_plain : (killOnSignal gate signal now).Only Plain :=
  assertControlAuthority_plain.bind fun _ => ⟨trivial, fun _ => trivial⟩

theorem killScope_plain : (killScope command signal).Only Plain := by
  refine only_ask trivial fun gate => ?_
  cases gate with
  | none => exact only_pure
  | some gate =>
      refine only_ask trivial fun now => ?_
      exact killOnSignal_plain.bind fun _ => only_pure

theorem killOnRejection_plain : (killOnRejection command outcomeCode).Only Plain := by
  unfold killOnRejection
  split
  · exact killScope_plain
  · exact killScope_plain
  · exact only_pure

theorem settleLine_plain : (settleLine host entry command outcomeCode).Only Plain := by
  refine only_ask trivial fun settledAt => ?_
  refine only_ask ⟨nofun, by decide⟩ fun _ => ?_
  refine only_ask trivial fun now => ?_
  exact only_ask nofun fun _ => emit_plain

theorem confirm_plain : (confirm host entry command outcomeCode attemptNo).Only Plain := by
  refine only_ask trivial fun _ => ?_
  refine only_ask trivial fun submittedAt => ?_
  refine only_ask ⟨nofun, by decide⟩ fun _ => ?_
  refine emit_plain.bind fun _ => ?_
  refine only_ask trivial fun occurredAt => ?_
  refine only_ask trivial fun _ => ?_
  exact settleLine_plain.bind fun _ => only_pure

theorem reject_plain {rejectionScope : Governance.RejectionScope} :
    (reject host entry command outcomeCode rejectionScope attemptNo).Only Plain := by
  refine only_ask trivial fun occurredAt => ?_
  refine only_ask trivial fun _ => ?_
  refine killOnRejection_plain.bind fun _ => ?_
  exact settleLine_plain.bind fun _ => only_pure

theorem enterUnknown_plain : (enterUnknown host command content).Only Plain := by
  refine only_ask trivial fun gate => ?_
  cases gate with
  | none => exact only_pure
  | some gate =>
      refine only_ask trivial fun now => ?_
      have plain {begun gateId run} :
          (reserve begun gateId run .concurrentUnknown none none none).Only Plain :=
        only_ask trivial fun _ => ⟨nofun, fun _ => trivial⟩
      refine Program.Only.bind (Program.Only.bind plain fun reserved => ?_) fun _ => only_pure
      cases reserved with
      | denied code => exact only_pure
      | reserved entry replay => exact only_pure

theorem markLineReconciling_plain :
    (markLineReconciling host entry command outcomeCode attemptNo content).Only Plain := by
  refine only_ask ⟨nofun, by decide⟩ fun _ => ?_
  refine enterUnknown_plain.bind fun _ => ?_
  refine only_ask trivial fun occurredAt => ?_
  refine only_ask trivial fun _ => ?_
  refine emit_plain.bind fun _ => ?_
  exact only_ask trivial fun now => only_pure

theorem quarantine_plain : (quarantine host entry command attemptNo).Only Plain := by
  refine only_ask ⟨nofun, by decide⟩ fun _ => ?_
  refine killScope_plain.bind fun _ => ?_
  exact emit_plain.bind fun _ => only_pure

theorem conclude_plain {classification : LineClassification} :
    (conclude host entry command classification attemptNo content).Only Plain := by
  unfold conclude
  split
  · exact confirm_plain
  · split
    · exact reject_plain
    · exact markLineReconciling_plain

theorem commitDelivery_plain : (commitDelivery deliveryId now).Only Plain :=
  only_ask nofun fun _ => only_ask nofun fun _ => only_pure

end Ending

/-! ## The grant of a run -/

/-- What the evaluation of a run has found, and what goes on holding of it. -/
structure RunCleared (pid : Nat) (command : BeginLineRunCommand) (gate : DlLineScopeGate)
    (run : DlLineRunAuthorization) (credential : DlLineCredentialRef) (world : LineWorld) : Prop where
  named : run.id = command.runAuthorizationId
  gate : run.gateId = gate.id
  credential : run.credentialRefId = credential.id ∧ run.credentialVersion = credential.version
  approved : ApprovedByOthers run
  current : ∃ later, world.store.control.findRun command.runAuthorizationId = some later ∧
    RunLater run later
  entry : ∃ read later,
    ⟨pid, .control (.findAllowlistEntry run.allowlistEntryId), .ok (some read)⟩ ∈ world.journal ∧
      read.usable command.now = true ∧ read.contentDigest = command.contentDigest ∧
      world.store.control.findAllowlistEntry run.allowlistEntryId = some later ∧
      AllowlistLater read later

variable {run : DlLineRunAuthorization} {credential : DlLineCredentialRef}

theorem RunCleared.moves {pid : Nat} {command : BeginLineRunCommand}
    (cleared : RunCleared pid command gate run credential before) (moves : LineMoves before after) :
    RunCleared pid command gate run credential after where
  named := cleared.named
  gate := cleared.gate
  credential := cleared.credential
  approved := cleared.approved
  current := by
    obtain ⟨later, found, same⟩ := cleared.current
    obtain ⟨last, found', same'⟩ := moves.control.runs _ later found
    exact ⟨last, found', same.trans same'⟩
  entry := by
    obtain ⟨read, later, heard, usable, content, found, same⟩ := cleared.entry
    obtain ⟨last, found', same'⟩ := moves.control.allowlist _ later found
    exact ⟨read, last, moves.mem heard, usable, content, found', Eq.trans same' same⟩

/-- What an evaluation has come to. -/
structure Evaluated (pid : Nat) (command : BeginLineRunCommand) (before : LineWorld)
    (decision : LineGateDecision) (after : LineWorld) : Prop where
  goes : LineGoes pid before after
  cleared : ∀ allowed run entry credential, decision = .allowed allowed → allowed.run = some run →
    allowed.allowlistEntry = some entry → allowed.credential = some credential →
    RunCleared pid command allowed.gate run credential after

theorem runDecision_allowed {entry : DlLineAllowlistEntry}
    {request : LineGateEvaluationRequest} {allowed : LineGateAllowed}
    (decided : runDecision gate credential entry run request = .allowed allowed) :
    (run.state = .approved ∨ run.state = .consumed) ∧ allowed.gate = gate ∧
      allowed.run = some run ∧ allowed.credential = some credential := by
  unfold runDecision at decided
  dsimp only at decided
  split at decided
  next consumed =>
    split at decided
    · cases decided
      exact ⟨.inr consumed, rfl, rfl, rfl⟩
    · cases decided
  next => cases decided
  next approved =>
    split at decided
    · cases decided
    · cases decided
      exact ⟨.inl approved, rfl, rfl, rfl⟩
  next => cases decided

theorem entryDecision_allowed {found : Option DlLineAllowlistEntry}
    {request : LineGateEvaluationRequest} {allowed : LineGateAllowed}
    (decided : entryDecision gate credential run request found = .allowed allowed) :
    (∃ entry, found = some entry ∧ entry.usable request.now = true ∧
      some entry.contentDigest = request.contentDigest) ∧
      (run.credentialRefId = credential.id ∧ run.credentialVersion = credential.version) ∧
      (run.state = .approved ∨ run.state = .consumed) ∧ allowed.gate = gate ∧
      allowed.run = some run ∧ allowed.credential = some credential := by
  unfold entryDecision at decided
  split at decided
  next => cases decided
  next entry usable =>
    obtain ⟨same, valid⟩ := Option.filter_eq_some_iff.mp usable
    split at decided
    next => cases decided
    next bound =>
      simp only [not_or, ne_eq, not_not] at bound
      split at decided
      next => cases decided
      next pinned =>
        simp only [not_or, ne_eq, not_not] at pinned
        exact ⟨⟨entry, same, valid, bound.2.1⟩, pinned, runDecision_allowed decided⟩

section Begin

variable {host : LineHost} {digest : LineRunProposalDigestInput → String} {bound : Prop} {pid : Nat}
  {world : LineWorld} {command : BeginLineRunCommand}

theorem ensures_denied (goes : LineGoes pid before world) :
    (lineDiscipline host digest bound).Ensures pid (Evaluated pid command before)
      (pure (.denied denied)) world :=
  ensures_pure ⟨goes, fun _ _ _ _ decided => by cases decided⟩

theorem evaluatePush_ensures (goes : LineGoes pid before world) :
    (lineDiscipline host digest bound).Ensures pid (Evaluated pid command before)
      (evaluatePush gate credential command.evaluation) world := by
  unfold evaluatePush
  split
  next => exact ensures_denied goes
  next runId named =>
    cases named
    split
    next => exact ensures_denied goes
    refine ensures_line (fun _ _ _ => trivial) fun found after asked => ?_
    have goes := goes.trans asked.goes
    split
    next => exact ensures_denied goes
    next run present =>
      obtain ⟨same, owned⟩ := Option.filter_eq_some_iff.mp present
      obtain ⟨known, sound⟩ := asked.learns run same
      split
      next => exact ensures_denied goes
      refine ensures_line (fun _ _ _ => trivial) fun entry later asked' => ?_
      refine ensures_pure ⟨goes.trans asked'.goes, ?_⟩
      intro allowed other _ held decided run' _ credential'
      obtain ⟨⟨read, rfl, usable, content⟩, pinned, state, gates, runs, credentials⟩ :=
        entryDecision_allowed decided
      rw [runs] at run'
      cases run'
      rw [credentials] at credential'
      cases credential'
      have listed := asked'.learns read rfl
      refine ⟨Table.lookup_key known, ?_, pinned, sound.byOthers state, ?_, ?_⟩
      · rw [gates]
        exact of_decide_eq_true owned
      · exact asked'.goes.moves.control.runs _ _ known
      · exact ⟨read, read, asked'.heard, usable, Option.some.inj content, listed, rfl⟩

theorem evaluate_ensures :
    (lineDiscipline host digest bound).Ensures pid (Evaluated pid command world)
      (evaluate command.evaluation) world := by
  refine ensures_line (fun _ _ _ => trivial) fun found after asked => ?_
  cases found with
  | none => exact ensures_denied asked.goes
  | some gate =>
      dsimp only
      split
      next => exact ensures_denied asked.goes
      split
      next => exact ensures_denied asked.goes
      split
      next => exact ensures_denied asked.goes
      rw [if_neg (show needsProviderCredential command.evaluation.operation ≠ false from
        Bool.noConfusion)]
      unfold evaluateProvider
      split
      next => exact ensures_denied asked.goes
      refine ensures_line (fun _ _ _ => trivial) fun found' after' asked' => ?_
      have goes := asked.goes.trans asked'.goes
      split
      next => exact ensures_denied goes
      next credential _ =>
        split
        next => exact ensures_denied goes
        next => exact ensures_denied goes
        next => exact ensures_denied goes
        split
        next => exact ensures_pure ⟨goes, by
          rintro _ run entry credential ⟨⟩ ⟨⟩⟩
        next => exact evaluatePush_ensures goes

structure Granted (pid : Nat) (command : BeginLineRunCommand) (grant : LineRunGrant)
    (world : LineWorld) : Prop where
  cleared : RunCleared pid command grant.gate grant.run grant.credential world
  logical : ∃ row, UnitOf world.store.control.ledger command.deliveryId grant.gate.id grant.run.id row

theorem Granted.moves {grant : LineRunGrant}
    (granted : Granted pid command grant before) (moves : LineMoves before after) :
    Granted pid command grant after := by
  obtain ⟨row, unit⟩ := granted.logical
  exact ⟨granted.cleared.moves moves, unit.later moves.control.ledger⟩

/-- What the beginning of a run has come to. -/
structure RunBegun (pid : Nat) (command : BeginLineRunCommand) (before : LineWorld)
    (result : LineRunResult) (after : LineWorld) : Prop where
  goes : LineGoes pid before after
  granted : ∀ grant, result = .authorized grant → Granted pid command grant after

theorem denyRun_ensures (goes : LineGoes pid before world) :
    (lineDiscipline host digest bound).Ensures pid (RunBegun pid command before)
      (denyRun command denied) world := by
  unfold denyRun
  split
  next => exact ensures_pure ⟨goes, fun _ denied => by cases denied⟩
  refine ensures_line (fun _ _ _ => trivial) fun gate after asked => ?_
  have goes := goes.trans asked.goes
  cases gate with
  | none => exact ensures_pure ⟨goes, fun _ denied => by cases denied⟩
  | some gate =>
      refine (ensures_plain killOnSignal_plain).bind fun _ later moved => ?_
      exact ensures_pure ⟨goes.trans moved, fun _ denied => by cases denied⟩

theorem reserve_ensures {gateId runAuthorizationId : String} {capKind : LineCapKind}
    {runCapProviderAttempts attemptNo : Option Nat} {deliveryCaps : Option LineDeliveryCaps}
    (other : capKind ≠ .providerAttempt) :
    (lineDiscipline host digest bound).Ensures pid
      (fun answer after => LineGoes pid world after ∧ ∀ entry replay,
        answer = .reserved entry replay → entry ∈ after.store.control.ledger ∧
          entry.key = (command.deliveryId, capKind, attemptNo.getD 0) ∧ entry.gateId = gateId ∧
          entry.runAuthorizationId = runAuthorizationId)
      (reserve command gateId runAuthorizationId capKind runCapProviderAttempts attemptNo
        deliveryCaps) world := by
  refine ensures_line (fun _ _ _ => trivial) fun id after named => ?_
  refine ensures_answer ?_ fun answer last asked => ?_
  · exact fun _ _ _ attempt => absurd attempt other
  · exact ⟨named.goes.trans asked.goes, asked.learns⟩

variable {allowed : LineGateAllowed} {allowlistEntry : DlLineAllowlistEntry}

theorem reserveSlot_ensures {logical : DlLineCapLedgerEntry} {replay : Bool}
    (goes : LineGoes pid before world)
    (cleared : RunCleared pid command allowed.gate run credential world)
    (unit : UnitOf world.store.control.ledger command.deliveryId allowed.gate.id run.id logical) :
    (lineDiscipline host digest bound).Ensures pid (RunBegun pid command before)
      (reserveSlot command allowed run allowlistEntry credential logical replay) world := by
  refine (reserve_ensures (by decide)).bind fun answer after reserved => ?_
  have goes := goes.trans reserved.1
  cases answer with
  | denied code =>
      dsimp only
      split
      next => exact denyRun_ensures goes
      refine ensures_line (fun _ _ _ => nofun) fun settled last asked => ?_
      exact denyRun_ensures (goes.trans asked.goes)
  | reserved slot slotReplay =>
      dsimp only
      split
      next => exact denyRun_ensures goes
      refine ensures_pure ⟨goes, ?_⟩
      rintro grant ⟨⟩
      exact ⟨cleared.moves reserved.1.moves, unit.later reserved.1.moves.control.ledger⟩

theorem reserveDelivery_ensures (goes : LineGoes pid before world)
    (cleared : RunCleared pid command allowed.gate run credential world) :
    (lineDiscipline host digest bound).Ensures pid (RunBegun pid command before)
      (reserveDelivery command allowed run allowlistEntry credential) world := by
  refine (reserve_ensures (by decide)).bind fun answer after reserved => ?_
  have goes := goes.trans reserved.1
  have cleared := cleared.moves reserved.1.moves
  cases answer with
  | denied code => exact denyRun_ensures goes
  | reserved entry replay =>
      obtain ⟨mem, key, gateId, runId⟩ := reserved.2 entry replay rfl
      have unit : UnitOf after.store.control.ledger command.deliveryId allowed.gate.id run.id entry :=
        ⟨mem, key, gateId, runId⟩
      dsimp only
      split
      next => exact denyRun_ensures goes
      next =>
        refine ensures_pure ⟨goes, ?_⟩
        rintro grant ⟨⟩
        exact ⟨cleared, entry, unit⟩
      next => exact reserveSlot_ensures goes cleared unit

theorem consumeDelivery_ensures (goes : LineGoes pid before world)
    (cleared : RunCleared pid command allowed.gate run credential world) :
    (lineDiscipline host digest bound).Ensures pid (RunBegun pid command before)
      (consumeDelivery command allowed run allowlistEntry credential) world := by
  unfold consumeDelivery
  split
  next =>
    refine ensures_line (fun _ _ _ => trivial) fun consumed after asked => ?_
    have goes := goes.trans asked.goes
    cases consumed with
    | denied code => exact denyRun_ensures goes
    | consumed run' => exact reserveDelivery_ensures goes (cleared.moves asked.goes.moves)
  next => exact reserveDelivery_ensures goes cleared

theorem beginRun_ensures {actor : LineControlActor} :
    (lineDiscipline host digest bound).Ensures pid (RunBegun pid command world)
      (beginRun actor command) world := by
  refine (ensures_plain assertControlAuthority_plain).bind fun _ start moved => ?_
  refine evaluate_ensures.bind fun decision after evaluated => ?_
  have goes := moved.trans evaluated.goes
  cases decision with
  | denied denied => exact denyRun_ensures goes
  | allowed allowed =>
      dsimp only
      split
      next run entry credential runs entries credentials =>
        have cleared := evaluated.cleared allowed run entry credential rfl runs entries credentials
        refine ensures_line (fun _ _ _ => trivial) fun unknown last asked => ?_
        have goes := goes.trans asked.goes
        split
        next => exact denyRun_ensures goes
        next => exact consumeDelivery_ensures goes (cleared.moves asked.goes.moves)
      next => exact ensures_pure ⟨goes, fun _ denied => by cases denied⟩

end Begin

/-! ## Attempts -/

variable {runId : String}

theorem LineControlStore.recipientOf_later {before after : LineControlStore} {ref : String}
    (known : before.recipientOf runId = some ref) (later : ControlLater before after) :
    after.recipientOf runId = some ref := by
  obtain ⟨run, found, rest⟩ := Option.bind_eq_some_iff.mp known
  obtain ⟨entry, listed, named⟩ := Option.map_eq_some_iff.mp rest
  obtain ⟨run', found', runLater⟩ := later.runs _ run found
  obtain ⟨entry', listed', entryLater⟩ := later.allowlist _ entry listed
  have allowlist : run'.allowlistEntryId = run.allowlistEntryId :=
    runLater.proposal_eq (·.allowlistEntryId) fun _ => rfl
  have recipient := entryLater.read (·.recipientProtectedRef) fun _ => rfl
  rw [recipientOf, found', Option.bind_some, allowlist, listed', Option.map_some, recipient, named]

/-- What a call knows that has looked up its entry. -/
structure CallReady (pid : Nat) (command : LineSubmitCommand) (entry : DlOutboxEntry)
    (world : LineWorld) : Prop where
  called : commandOf world pid = some command
  bound : ∃ current, findByDeliveryId .lineMessagingApi world.store.outbox command.deliveryId =
    some current ∧ EntryLater entry current

/-- What a worker knows that is about to attempt a delivery. -/
structure AttemptReady (host : LineHost) (pid : Nat) (command : LineSubmitCommand)
    (entry : DlOutboxEntry) (grant : LineRunGrant) (content : LineResolvedContent)
    (world : LineWorld) : Prop extends CallReady pid command entry world where
  fixture : host.content entry.command.contentRef = some content
  granted : ∃ now, ⟨pid, .clock, .ok now⟩ ∈ world.journal ∧
    Granted pid (beginCommand host command content now) grant world

def AttemptHeld (deliveryId : String) (grant : LineRunGrant) (attemptNo : Nat)
    (world : LineWorld) : Prop :=
  ∃ row ∈ world.store.control.ledger, row.key = (deliveryId, .providerAttempt, attemptNo) ∧
    row.gateId = grant.gate.id ∧ row.runAuthorizationId = grant.run.id

theorem AttemptHeld.moves {grant : LineRunGrant} {attemptNo : Nat}
    (held : AttemptHeld deliveryId grant attemptNo before)
    (moves : LineMoves before after) : AttemptHeld deliveryId grant attemptNo after := by
  obtain ⟨row, mem, key, gateId, runId⟩ := held
  obtain ⟨later, member', fades, key'⟩ := moves.control.ledger row mem
  exact ⟨later, member', key'.trans key, fades.gateId.trans gateId,
    fades.runAuthorizationId.trans runId⟩

/-- The delivery has left the queue. -/
def Unqueued (deliveryId : String) (world : LineWorld) : Prop :=
  ∃ entry, findByDeliveryId .lineMessagingApi world.store.outbox deliveryId = some entry ∧
    entry.state ≠ .queued

theorem Unqueued.moves (unqueued : Unqueued deliveryId before) (moves : LineMoves before after) :
    Unqueued deliveryId after := by
  obtain ⟨entry, known, left⟩ := unqueued
  obtain ⟨later, known', same⟩ := moves.entries _ entry known
  exact ⟨later, known', same.left left⟩

variable {canonical : LineCanonicalRequest}

section Attempt

variable {host : LineHost} {digest : LineRunProposalDigestInput → String} {bound : Prop} {pid : Nat}
  {world : LineWorld} {command : LineSubmitCommand} {entry : DlOutboxEntry} {grant : LineRunGrant}
  {content : LineResolvedContent} {attemptNo : Nat}

theorem CallReady.goes (ready : CallReady pid command entry world) (goes : LineGoes pid world after) :
    CallReady pid command entry after where
  called := by
    rw [commandOf, goes.status]
    exact ready.called
  bound := by
    obtain ⟨current, known, same⟩ := ready.bound
    obtain ⟨later, known', same'⟩ := goes.moves.entries _ current known
    exact ⟨later, known', same.trans same'⟩

theorem AttemptReady.goes (ready : AttemptReady host pid command entry grant content world)
    (goes : LineGoes pid world after) :
    AttemptReady host pid command entry grant content after where
  toCallReady := ready.toCallReady.goes goes
  fixture := ready.fixture
  granted := by
    obtain ⟨now, clock, granted⟩ := ready.granted
    exact ⟨now, goes.moves.mem clock, granted.moves goes.moves⟩

/-- Nothing is asked of what the program returns. -/
def LineSafe {γ : Type} (host : LineHost) (digest : LineRunProposalDigestInput → String)
    (bound : Prop) (pid : Nat) (program : LineProgram γ) (world : LineWorld) : Prop :=
  (lineDiscipline host digest bound).Ensures pid (fun _ _ => True) program world

theorem plain_safe {γ : Type} {program : LineProgram γ} (only : program.Only Plain) :
    LineSafe host digest bound pid program world :=
  (ensures_plain only).mono fun _ _ _ => trivial

theorem reserveAttempt_ensures (ready : AttemptReady host pid command entry grant content world) :
    (lineDiscipline host digest bound).Ensures pid
      (fun answer after => LineGoes pid world after ∧ ∀ row replay,
        answer = .reserved row replay → AttemptHeld command.deliveryId grant attemptNo after)
      (reserve (beginCommand host command content now) grant.gate.id grant.run.id .providerAttempt
        (some grant.run.capProviderAttempts) (some attemptNo) none) world := by
  refine ensures_line (fun _ _ _ => trivial) fun id named identified => ?_
  refine ensures_answer ?_ fun answer last asked => ?_
  · intro now _ goes _
    have ready := ready.goes (identified.goes.trans goes)
    obtain ⟨_, -, granted⟩ := ready.granted
    obtain ⟨run, found, later⟩ := granted.cleared.current
    have cap := later.proposal_eq (·.capProviderAttempts) fun _ => rfl
    refine ⟨granted.logical, run, ?_, ?_, ?_⟩
    · rw [granted.cleared.named]
      exact found
    · exact (later.proposal_eq (·.gateId) fun _ => rfl).trans granted.cleared.gate
    · rw [cap]
  · refine ⟨identified.goes.trans asked.goes, fun row replay answered => ?_⟩
    exact ⟨row, asked.learns row replay answered⟩

theorem reserveProviderAttempt_ensures {actor : LineControlActor}
    (ready : AttemptReady host pid command entry grant content world) :
    (lineDiscipline host digest bound).Ensures pid
      (fun outcome after => LineGoes pid world after ∧
        ((∃ code, outcome = .denied code) ∨ AttemptHeld command.deliveryId grant attemptNo after))
      (reserveProviderAttempt actor (beginCommand host command content now) grant.gate grant.run
        attemptNo) world := by
  refine (ensures_plain assertControlAuthority_plain).bind fun _ start moved => ?_
  split
  next => exact ensures_pure ⟨moved, .inl ⟨_, rfl⟩⟩
  refine (reserveAttempt_ensures (ready.goes moved)).bind fun answer last reserved => ?_
  have goes := moved.trans reserved.1
  cases answer with
  | reserved row replay =>
      exact ensures_pure ⟨goes, .inr (reserved.2 row replay rfl)⟩
  | denied code =>
      dsimp only
      split
      next =>
        refine (ensures_plain killOnSignal_plain).bind fun _ killed moved => ?_
        exact ensures_pure ⟨goes.trans moved, .inl ⟨_, rfl⟩⟩
      next => exact ensures_pure ⟨goes, .inl ⟨_, rfl⟩⟩

/-- The barrier leaves the delivery outside the queue, whoever has moved it. -/
theorem barrierOnce_ensures (ready : AttemptReady host pid command entry grant content world) :
    (lineDiscipline host digest bound).Ensures pid
      (fun _ after => LineGoes pid world after ∧ Unqueued command.deliveryId after)
      (barrierOnce host entry command) world := by
  unfold barrierOnce
  split
  next =>
    refine ensures_line (fun _ _ _ => trivial) fun view begun accepted => ?_
    refine ensures_line ?_ fun moved left asked => ?_
    · intro now _ goes
      obtain ⟨current, known, same⟩ := (ready.goes (accepted.goes.trans goes)).bound
      refine ⟨nofun, fun _ => ⟨rfl, current, known, _, goes.moves.mem accepted.heard, ?_⟩⟩
      have named : current.deliveryId = command.deliveryId := findByDeliveryId_key known
      simp [accepts, lineGovernanceCommand, same.lineRetryKey host, ← named, same.deliveryId]
    · have goes := accepted.goes.trans asked.goes
      obtain ⟨current, known, -⟩ := (ready.goes goes).bound
      have unqueued : Unqueued command.deliveryId left :=
        ⟨current, known, asked.learns rfl current known⟩
      refine Discipline.Ensures.mono (ensures_plain ?_) fun _ last moved =>
        ⟨goes.trans moved, unqueued.moves moved.moves⟩
      exact only_ask trivial fun now => commitDelivery_plain.bind fun _ => emit_plain
  next left =>
    obtain ⟨current, known, same⟩ := ready.bound
    exact ensures_pure ⟨.refl world, current, known, same.left left⟩

variable {recipient accessToken : String}

section
variable (ready : AttemptReady host pid command entry grant content world)
  (messages : canonical.messages = content.messages)
  (held : AttemptHeld command.deliveryId grant attemptNo world)
  (unqueued : Unqueued command.deliveryId world)
  (asks : bound → world.store.control.recipientOf command.runAuthorizationId =
    some command.recipientProtectedRef)
  (resolved : ⟨pid, .resolveRecipient command.recipientProtectedRef, .ok (some recipient)⟩ ∈
    world.journal)
  (authorized : ⟨pid, .resolveCredential grant.credential.id grant.credential.version,
    .ok (some accessToken)⟩ ∈ world.journal)
include ready messages held unqueued asks resolved authorized

/-- Everything that stands behind a push holds when the worker gets to it. -/
theorem AttemptReady.pushed (inv : LineInv host bound world) :
    Pushed host bound world.store world.journal pid (occasionOf command grant content attemptNo)
      ⟨recipient, canonical.messages, lineRetryKey host entry, accessToken⟩ := by
  obtain ⟨current, known, same⟩ := ready.bound
  obtain ⟨other, known', left⟩ := unqueued
  rw [known] at known'
  cases known'
  have key := same.lineRetryKey host
  obtain ⟨accepted, queued⟩ := inv.left _ current known left
  rw [key] at accepted
  obtain ⟨row, mem, unit, gateId, runId⟩ := held
  have reserved := (inv.attempts row mem (congrArg (fun key => key.2.1) unit)).reserved
  obtain ⟨now, clock, granted⟩ := ready.granted
  have named : grant.run.id = command.runAuthorizationId := granted.cleared.named
  obtain ⟨run, found, later⟩ : ∃ run, world.store.control.findRun command.runAuthorizationId =
    some run ∧ RunLater grant.run run := granted.cleared.current
  obtain ⟨read, listed, heard, usable, digest, found', later'⟩ := granted.cleared.entry
  have allowlist : run.allowlistEntryId = grant.run.allowlistEntryId :=
    later.proposal_eq (·.allowlistEntryId) fun _ => rfl
  have credential := later.proposal_eq (fun run => (run.credentialRefId, run.credentialVersion))
    fun _ => rfl
  have gate : run.gateId = grant.run.gateId := later.proposal_eq (·.gateId) fun _ => rfl
  have listedAs : listed.id = grant.run.allowlistEntryId := Table.lookup_key found'
  refine ⟨⟨current, content, known, left, key.symm, same.command ▸ ready.fixture, messages, rfl⟩,
    accepted, queued, ⟨row, mem, unit, runId, reserved, run, listed, ?_, ?_⟩, resolved, authorized⟩
  · exact gate.trans (granted.cleared.gate.trans gateId.symm)
  · exact {
      found := (congrArg _ named).trans found
      approved := granted.cleared.approved.later later
      credential := ⟨(congrArg Prod.fst credential).trans granted.cleared.credential.1,
        (congrArg Prod.snd credential).trans granted.cleared.credential.2⟩
      listed := allowlist ▸ found'
      content := (later'.read (·.contentDigest) fun _ => rfl).trans digest
      usable := ⟨now, read, clock, listedAs ▸ heard, usable, later'⟩
      recipient := by
        intro holds
        have asked := asks holds
        rw [LineControlStore.recipientOf, found, Option.bind_some, allowlist, found',
          Option.map_some] at asked
        exact Option.some.inj asked }

theorem pushOnce_safe :
    LineSafe host digest bound pid (pushOnce host entry command canonical
      (occasionOf command grant content attemptNo) recipient accessToken content) world := by
  refine ensures_line (fun _ _ _ => trivial) fun startedAt start timed => ?_
  refine ensures_line ?_ fun result pushed asked => plain_safe ?_
  · intro now inv goes
    have goes := timed.goes.trans goes
    have moves := goes.moves
    exact (ready.goes goes).pushed messages (held.moves moves) (unqueued.moves moves)
      (fun holds => LineControlStore.recipientOf_later (asks holds) moves.control)
      (moves.mem resolved) (moves.mem authorized) inv
  · refine only_ask trivial fun finishedAt => ?_
    refine only_ask trivial fun id => ?_
    exact only_ask trivial fun _ => conclude_plain

end

theorem resolveAndPush_safe (ready : AttemptReady host pid command entry grant content world)
    (messages : canonical.messages = content.messages)
    (held : AttemptHeld command.deliveryId grant attemptNo world) :
    LineSafe host digest bound pid
      (resolveAndPush host entry command canonical grant attemptNo content) world := by
  refine ensures_line (fun _ _ _ => trivial) fun recipient first resolved => ?_
  refine ensures_line (fun _ _ _ => trivial) fun credential second authorized => ?_
  have asks : bound → second.store.control.recipientOf command.runAuthorizationId =
      some command.recipientProtectedRef := fun holds =>
    LineControlStore.recipientOf_later
      (resolved.learns holds command (ready.goes resolved.goes).called) authorized.goes.moves.control
  have goes := resolved.goes.trans authorized.goes
  split
  next recipient accessToken =>
    refine (barrierOnce_ensures (ready.goes goes)).bind fun _ third passed => ?_
    have goes' := goes.trans passed.1
    refine pushOnce_safe (ready.goes goes') messages (held.moves goes'.moves) passed.2
      (fun holds => LineControlStore.recipientOf_later (asks holds) passed.1.moves.control) ?_ ?_
    · exact (authorized.goes.trans passed.1).moves.mem resolved.heard
    · exact passed.1.moves.mem authorized.heard
  next => exact ensures_pure trivial

theorem attemptDelivery_safe (ready : AttemptReady host pid command entry grant content world)
    (messages : canonical.messages = content.messages) :
    LineSafe host digest bound pid
      (attemptDelivery host entry command canonical grant attemptNo content) world := by
  refine ensures_line (fun _ _ _ => trivial) fun now start timed => ?_
  refine (reserveProviderAttempt_ensures (ready.goes timed.goes)).bind fun outcome last reserved => ?_
  have goes := timed.goes.trans reserved.1
  split
  next => exact ensures_pure trivial
  next allowed =>
    rcases reserved.2 with ⟨code, rfl⟩ | held
    · exact absurd rfl (allowed code)
    · exact resolveAndPush_safe (ready.goes goes) messages held

/-! ## Calls -/

theorem requireLineEntry_ensures (called : commandOf world pid = some command) :
    (lineDiscipline host digest bound).Ensures pid
      (fun entry after => LineGoes pid world after ∧ CallReady pid command entry after)
      (requireLineEntry command) world := by
  refine ensures_line (fun _ _ _ => trivial) fun found after asked => ?_
  cases found with
  | none => exact ensures_throw
  | some entry =>
      refine ensures_pure ⟨asked.goes, ?_, entry, asked.learns entry rfl, .refl entry⟩
      rw [commandOf, asked.goes.status]
      exact called

theorem lineContent_ensures :
    (lineDiscipline host digest bound).Ensures pid
      (fun content after => after = world ∧ host.content entry.command.contentRef = some content)
      (lineContent host entry) world := by
  unfold lineContent
  split
  next content found => exact ensures_pure ⟨rfl, found⟩
  next => exact ensures_throw

/-- What a grant that was handed on still says. -/
def GrantKnown (host : LineHost) (pid : Nat) (command : LineSubmitCommand) (entry : DlOutboxEntry)
    (grant : LineRunGrant) (world : LineWorld) : Prop :=
  ∀ content, host.content entry.command.contentRef = some content →
    ∃ now, ⟨pid, .clock, .ok now⟩ ∈ world.journal ∧
      Granted pid (beginCommand host command content now) grant world

theorem GrantKnown.moves (granted : GrantKnown host pid command entry grant world)
    (moves : LineMoves world after) : GrantKnown host pid command entry grant after := by
  intro content fixture
  obtain ⟨now, clock, holds⟩ := granted content fixture
  exact ⟨now, moves.mem clock, holds.moves moves⟩

variable {granted : Option LineRunGrant}

theorem reconcileEntry_safe (ready : CallReady pid command entry world)
    (known : ∀ grant, granted = some grant → GrantKnown host pid command entry grant world) :
    LineSafe host digest bound pid (reconcileEntry host entry command granted) world := by
  refine lineContent_ensures.bind ?_
  rintro content _ ⟨rfl, fixture⟩
  refine ensures_line (fun _ _ _ => trivial) fun history first listed => ?_
  refine ensures_line (fun _ _ _ => trivial) fun now second timed => ?_
  have goes := listed.goes.trans timed.goes
  split
  next => exact plain_safe quarantine_plain
  cases granted with
  | some grant =>
      have ready := ready.goes goes
      exact attemptDelivery_safe ⟨ready, fixture,
        (known grant rfl).moves goes.moves content fixture⟩ rfl
  | none =>
      refine ensures_line (fun _ _ _ => trivial) fun begunAt third clock => ?_
      refine beginRun_ensures.bind fun result last begun => ?_
      have ready := ready.goes (goes.trans (clock.goes.trans begun.goes))
      cases result with
      | denied denied => exact ensures_pure trivial
      | authorized grant =>
          exact attemptDelivery_safe ⟨ready, fixture, begunAt,
            begun.goes.moves.mem clock.heard, begun.granted grant rfl⟩ rfl

theorem reconcileLine_safe (called : commandOf world pid = some command)
    (known : ∀ grant, granted = some grant → ∃ entry, CallReady pid command entry world ∧
      GrantKnown host pid command entry grant world) :
    LineSafe host digest bound pid (reconcileLine host command granted) world := by
  refine (requireLineEntry_ensures called).bind fun entry after found => ?_
  obtain ⟨goes, ready⟩ := found
  split
  next => exact ensures_pure trivial
  next => exact ensures_pure trivial
  refine reconcileEntry_safe ready fun grant given => ?_
  obtain ⟨earlier, before, granted⟩ := known grant given
  obtain ⟨current, present, same⟩ := (before.goes goes).bound
  obtain ⟨current', present', same'⟩ := ready.bound
  rw [present] at present'
  cases present'
  intro content fixture
  refine (granted.moves goes.moves) content ?_
  rw [← same.command, same'.command]
  exact fixture

theorem submitQueued_safe (ready : CallReady pid command entry world) :
    LineSafe host digest bound pid (submitQueued host entry command) world := by
  refine lineContent_ensures.bind ?_
  rintro content _ ⟨rfl, fixture⟩
  refine ensures_line (fun _ _ _ => trivial) fun now first clock => ?_
  refine beginRun_ensures.bind fun result second begun => ?_
  have ready := ready.goes (clock.goes.trans begun.goes)
  cases result with
  | denied denied => exact ensures_pure trivial
  | authorized grant =>
      have heard := begun.goes.moves.mem clock.heard
      have granted := begun.granted grant rfl
      dsimp only
      split
      next =>
        refine reconcileLine_safe ready.called ?_
        rintro _ ⟨⟩
        refine ⟨entry, ready, fun other fixture' => ?_⟩
        rw [fixture] at fixture'
        cases fixture'
        exact ⟨now, heard, granted⟩
      next =>
        refine (ensures_plain emit_plain).bind fun _ last moved => ?_
        have ready := ready.goes moved
        exact attemptDelivery_safe ⟨ready, fixture, now,
          moved.moves.mem heard, granted.moves moved.moves⟩ rfl

theorem submitLine_safe (called : commandOf world pid = some command) :
    LineSafe host digest bound pid (submitLine host command) world := by
  refine (requireLineEntry_ensures called).bind fun entry after found => ?_
  split
  next => exact ensures_pure trivial
  next => exact ensures_pure trivial
  next => exact submitQueued_safe found.2
  next => exact reconcileLine_safe found.2.called (by rintro _ ⟨⟩)

end Attempt

/-! ## Commands -/

section Commands

variable {host : LineHost} {digest : LineRunProposalDigestInput → String} {bound : Prop} {pid : Nat}
  {world : LineWorld} {actor : LineControlActor}

/-- A command that is authorized and then makes plain requests. -/
theorem authorized_plain {γ : Type} {action : LineControlAction} {next : Unit → LineProgram γ}
    (rest : (next ()).Only Plain) : (assertControlAuthority actor.role action >>= next).Only Plain :=
  assertControlAuthority_plain.bind fun _ => rest

/-- A request of the control plane whose answer is the result. -/
theorem asked_plain {request : LineControlRequest} (plain : Plain (.control request)) :
    (askControl request).Only Plain :=
  ⟨plain, fun _ => trivial⟩

theorem ensureScope_plain {scope : LineGateScope} : (ensureScope actor scope).Only Plain :=
  authorized_plain (only_ask trivial fun _ => asked_plain trivial)

variable {target : LineRolloutState}

theorem advanceState_plain {configDigest : Option String} :
    (advanceState actor gate target configDigest).Only Plain := by
  refine authorized_plain ?_
  split
  · exact only_pure
  · split
    · exact only_pure
    · dsimp only
      split
      · exact only_pure
      · exact only_ask trivial fun _ => only_pure

theorem lowerState_plain : (lowerState actor gate target).Only Plain := by
  refine authorized_plain ?_
  split
  · exact only_pure
  · exact only_ask trivial fun _ => only_pure

theorem setTechnicalSwitch_plain {on : Bool} : (setTechnicalSwitch actor gate on).Only Plain := by
  refine authorized_plain ?_
  split
  · exact only_pure
  · exact only_ask trivial fun _ => only_pure

theorem clearWithApproval_plain {killClearedRef : String} :
    (clearWithApproval actor gate killClearedRef).Only Plain := by
  refine authorized_plain ?_
  split
  · exact only_pure
  · split
    · exact only_pure
    · exact only_ask trivial fun _ => only_pure

theorem verifyAndActivateCredential_plain {credentialId channelAccountId : String} :
    (verifyAndActivateCredential actor credentialId channelAccountId now).Only Plain := by
  refine authorized_plain (only_ask trivial fun candidate => ?_)
  cases candidate with
  | none => exact only_pure
  | some candidate =>
      dsimp only
      split
      · exact only_pure
      · split
        · exact only_pure
        · exact only_ask trivial fun _ => only_pure

theorem createRun_plain {entry : DlLineAllowlistEntry}
    {proposalRef : String} {trial : Option LineTrialBinding} :
    (createRun digest gate entry proposalRef trial run).Only Plain :=
  only_ask trivial fun _ => asked_plain trivial

theorem proposeRun_plain {command : ProposeLineRunCommand} :
    (proposeRun digest actor command).Only Plain := by
  refine authorized_plain ?_
  repeat' split
  all_goals first
    | exact only_pure
    | exact createRun_plain.bind fun _ => only_pure

theorem proposeTeamTrial_plain {command : ProposeLineTeamTrialCommand} :
    (proposeTeamTrial digest actor command).Only Plain := by
  refine authorized_plain ?_
  dsimp only
  repeat' split
  all_goals first
    | exact only_pure
    | exact (only_forEach fun _ _ => createRun_plain).bind fun _ => only_pure

/-- Whoever approves a run has not proposed it. -/
theorem approveRun_safe : LineSafe host digest bound pid (approveRun actor runId now) world := by
  refine (ensures_plain assertControlAuthority_plain).bind fun _ start _ => ?_
  refine ensures_line (fun _ _ _ => trivial) fun found after asked => ?_
  cases found with
  | none => exact ensures_pure trivial
  | some run =>
      dsimp only
      split
      next => exact ensures_pure trivial
      next other =>
        split
        next => exact ensures_pure trivial
        split
        next => exact ensures_pure trivial
        refine ensures_line ?_ fun approved _ _ => ensures_pure trivial
        intro now _ goes current known
        obtain ⟨later, known', same⟩ :=
          goes.moves.control.runs _ run (asked.learns run rfl).1
        rw [known] at known'
        cases known'
        rw [same.proposal_eq (·.proposedBy) fun _ => rfl]
        exact Ne.symm other

/-- The answer of a call adds no request. -/
theorem answering_safe {α : Type} {program : LineProgram α} {render : α → LineAnswer}
    (safe : LineSafe host digest bound pid program world) :
    LineSafe host digest bound pid (answering program render) world :=
  Discipline.Ensures.bind safe fun _ _ _ => ensures_pure trivial

theorem lineProgramOf_safe (call : LineCall)
    (called : ∀ command, call.command? = some command → commandOf world pid = some command) :
    LineSafe host digest bound pid (lineProgramOf host digest call) world := by
  cases call with
  | submit command => exact answering_safe (submitLine_safe (called command rfl))
  | reconcile command =>
      exact answering_safe (reconcileLine_safe (called command rfl) (by rintro _ ⟨⟩))
  | ensureScope actor scope => exact answering_safe (plain_safe ensureScope_plain)
  | advanceState actor gate target configDigest =>
      exact answering_safe (plain_safe advanceState_plain)
  | lowerState actor gate target => exact answering_safe (plain_safe lowerState_plain)
  | setTechnicalSwitch actor gate on => exact answering_safe (plain_safe setTechnicalSwitch_plain)
  | clearWithApproval actor gate killClearedRef =>
      exact answering_safe (plain_safe clearWithApproval_plain)
  | registerAllowlistEntry actor command | registerCredential actor command =>
      exact answering_safe (plain_safe
        (authorized_plain (only_ask trivial fun _ => asked_plain trivial)))
  | verifyAndActivateCredential actor credentialId channelAccountId now =>
      exact answering_safe (plain_safe verifyAndActivateCredential_plain)
  | proposeRun actor command => exact answering_safe (plain_safe proposeRun_plain)
  | proposeTeamTrial actor command => exact answering_safe (plain_safe proposeTeamTrial_plain)
  | approveRun actor runId now => exact answering_safe approveRun_safe
  | _ =>
      exact answering_safe (plain_safe (authorized_plain (asked_plain trivial)))

end Commands

/-! ## Every run -/

section Runs

variable {host : LineHost} {digest : LineRunProposalDigestInput → String} {bound : Prop}
  {world : LineWorld} {store : LineStore}

theorem lineInv_of_fresh (fresh : store.Fresh host) :
    LineInv host bound (Workers.idle store : LineWorkers).world := by
  obtain ⟨queue, -, -, control, -⟩ := fresh
  refine ⟨?_, ?_, ?_, ?_, ?_, follows_nil⟩
  · intro deliveryId entry known
    simp [findByDeliveryId, Workers.idle, queue, Table.lookup] at known
  · simp [Workers.idle, control]
  · simp [Workers.idle, control]
  · intro id run found
    simp [LineControlStore.findRun, Workers.idle, control, Table.lookup] at found
  · intro gateId
    simp [LineControlStore.gate, Workers.idle, control, Table.lookup, killInForce]

/-- The calls of the workers are no part of the invariant. -/
theorem LineInv.aside (inv : LineInv host bound world) (after : LineWorld)
    (store : after.store = world.store) (journal : after.journal = world.journal) :
    LineLeaves host bound world after := by
  have moves := LineMoves.aside store journal
  refine ⟨⟨?_, ?_, ?_, ?_, ?_, ?_⟩, moves⟩
  · rw [store, journal]
    exact inv.left
  · rw [store]
    exact inv.units
  · intro row mem attempt
    rw [store] at mem
    have unit := inv.attempts row mem attempt
    exact unit.moves moves (.refl row) unit.counted (Nat.le_of_eq (by rw [store]))
  · rw [store]
    exact inv.runs
  · rw [store, journal]
    exact inv.latched
  · rw [store, journal]
    exact inv.pushed

theorem LineInv.elsewhere {label : LineElsewhere} (inv : LineInv host bound world)
    (moved : LineStore.elsewhere host label world.store = some store) :
    LineLeaves host bound world { world with store := store } := by
  have moves := LineMoves.elsewhere moved
  have control : store.control = world.store.control := by
    rcases elsewhere_cases moved with ⟨_, rfl⟩ | ⟨_, -, rfl⟩ <;> rfl
  refine ⟨⟨?_, ?_, ?_, ?_, ?_, ?_⟩, moves⟩
  · intro deliveryId entry known left
    rcases elsewhere_cases moved with ⟨_, rfl⟩ | ⟨new, fresh, rfl⟩
    · exact inv.left deliveryId entry known left
    · rcases findByDeliveryId_append known with old | rfl
      · exact inv.left deliveryId entry old left
      · simp only [freshLineEntry, Bool.and_eq_true, decide_eq_true_eq] at fresh
        exact absurd fresh.1.1.1.2 left
  · exact control ▸ inv.units
  · intro row mem attempt
    have unit := inv.attempts row (control ▸ mem) attempt
    exact unit.moves moves (.refl row) unit.counted (Nat.le_of_eq (by rw [control]))
  · exact control ▸ inv.runs
  · exact control ▸ inv.latched
  · exact inv.pushed.mono fun earlier step holds occasion request pushes =>
      (holds occasion request pushes).moves moves

def namesRecipient (workers : LineWorkers) (step : LineStep) : Bool :=
  match workers.requestOf step with
  | some (pid, .resolveRecipient _) =>
      (commandOf workers.world pid).all fun command =>
        workers.world.store.control.recipientOf command.runAuthorizationId =
          some command.recipientProtectedRef
  | _ => true

theorem lineGoverns {guard : LineWorkers → LineStep → Prop}
    (named : bound → ∀ workers step, guard workers step → namesRecipient workers step = true) :
    (lineDiscipline host digest bound).Governs (LineStore.Fresh host) guard where
  initially _ fresh := lineInv_of_fresh fresh
  starts workers call supervised _ := by
    have leaves : LineLeaves host bound _ _ :=
      supervised.inv.aside (workers.world.starting call) rfl rfl
    refine ⟨lineTakes leaves, ?_⟩
    refine Discipline.Sound.mono (lineProgramOf_safe call ?_) fun result world _ now _ inv => ?_
    · intro command named
      rw [commandOf, show (workers.world.starting call).calls workers.world.started = .running call
        from Function.update_self ..]
      exact named
    · have leaves : LineLeaves host bound _ _ :=
        inv.aside (now.ending workers.world.started (.ended call result)) rfl rfl
      exact lineTakes leaves
  allowed workers pid tick request _ asked guarded := by
    rintro holds ref rfl command called
    have names := named holds workers _ guarded
    rw [namesRecipient, asked] at names
    simpa only [called, Option.all_some, decide_eq_true_eq] using names
  crashes workers pid call supervised _ _ := by
    have leaves : LineLeaves host bound _ _ :=
      supervised.inv.aside (workers.world.ending pid (.crashed call)) rfl rfl
    exact lineTakes leaves
  elsewhere workers label store supervised _ moved := by
    have leaves := supervised.inv.elsewhere moved
    exact ⟨leaves.inv, fun _ => leaves.moves⟩

end Runs

end DContact.Delivery

import DContact.Delivery.LineMoves

/-!
# What stands behind a push

A push is the end of a long way: governance has accepted the submission, the entry has left the
queue, a run that others have approved was granted, and an attempt was reserved while the gate was
open. None of it is undone by what the others do, so all of it still holds when the push is made.
-/

namespace DContact.Delivery

open Lib List Table
open Governance (Instant RuntimeOperation)
open Journey.Send (DlDeliveryState)
open LineControlStore (proposal approve consume close kill clearKill approvable)

def accepts (deliveryId key : String) : LinePerformed → Bool
  | ⟨_, .governance command, .ok _⟩ =>
      match command.operation with
      | .beginSubmission target _ providerRequestKey =>
          target == deliveryId && providerRequestKey == key
      | _ => false
  | _ => false

/-- The entry has left the queue. -/
def leavesQueue (deliveryId : String) : LinePerformed → Bool
  | ⟨_, .advance target expected _, .ok (some _)⟩ =>
      target == deliveryId && expected == [DlDeliveryState.queued]
  | _ => false

def push? : LinePerformed → Option (LinePushOccasion × LinePushRequest)
  | ⟨_, .push occasion request, _⟩ => some (occasion, request)
  | _ => none

def reservesUnit (row : DlLineCapLedgerEntry) : LinePerformed → Bool
  | ⟨_, .control (.reserveCap _), .ok (.reserved entry false)⟩ =>
      entry.key == row.key && entry.gateId == row.gateId
  | _ => false

/-- Whether a gate is killed after a request, when it was before. -/
def latches (gateId : String) (killed : Bool) : LinePerformed → Bool
  | ⟨_, .control (.killGate target _ _), .ok _⟩ => target == gateId || killed
  | ⟨_, .control (.clearGateKill target _ _), .ok (some _)⟩ => target != gateId && killed
  | _ => killed

def killInForce (gateId : String) (journal : List LinePerformed) : Bool :=
  journal.foldl (latches gateId) false

variable {gateId : String} {journal : List LinePerformed}

theorem killInForce_append {step : LinePerformed} :
    killInForce gateId (journal ++ [step]) = latches gateId (killInForce gateId journal) step := by
  rw [killInForce, foldl_append]
  rfl

def ReservedOpen (row : DlLineCapLedgerEntry) (journal : List LinePerformed) : Prop :=
  ∃ before step after, journal = before ++ step :: after ∧ reservesUnit row step = true ∧
    killInForce row.gateId before = false

variable {row : DlLineCapLedgerEntry}

theorem ReservedOpen.mono {more : List LinePerformed} (reserved : ReservedOpen row journal)
    (grows : journal <+: more) : ReservedOpen row more := by
  obtain ⟨before, step, after, rfl, first, isOpen⟩ := reserved
  obtain ⟨rest, rfl⟩ := grows
  exact ⟨before, step, after ++ rest, by simp, first, isOpen⟩

/-- A later version of a unit was reserved when the unit was. -/
theorem ReservedOpen.later {later : DlLineCapLedgerEntry} (reserved : ReservedOpen row journal)
    (key : later.key = row.key)
    (gateId : later.gateId = row.gateId) : ReservedOpen later journal := by
  obtain ⟨before, step, after, split, first, isOpen⟩ := reserved
  refine ⟨before, step, after, split, ?_, gateId ▸ isOpen⟩
  unfold reservesUnit at first ⊢
  split at first
  · rw [key, gateId]
    exact first
  · cases first

/-- Both roles have approved the run, and neither of them is who proposed it. -/
def ApprovedByOthers (run : DlLineRunAuthorization) : Prop :=
  ∃ tenantAdmin compliance, run.tenantAdminApprovedBy = some tenantAdmin ∧
    run.complianceApprovedBy = some compliance ∧ tenantAdmin ≠ run.proposedBy ∧
    compliance ≠ run.proposedBy

/-- What the approvals of a run say, in every state of it. -/
structure RunSound (run : DlLineRunAuthorization) : Prop where
  tenantAdmin : ∀ actor, run.tenantAdminApprovedBy = some actor → actor ≠ run.proposedBy
  compliance : ∀ actor, run.complianceApprovedBy = some actor → actor ≠ run.proposedBy
  approved : run.state = .approved ∨ run.state = .consumed →
    run.tenantAdminApprovedBy.isSome = true ∧ run.complianceApprovedBy.isSome = true

variable {run : DlLineRunAuthorization}

theorem RunSound.byOthers (sound : RunSound run)
    (state : run.state = .approved ∨ run.state = .consumed) : ApprovedByOthers run := by
  obtain ⟨tenantAdmin, compliance⟩ := sound.approved state
  obtain ⟨first, given⟩ := Option.isSome_iff_exists.mp tenantAdmin
  obtain ⟨second, given'⟩ := Option.isSome_iff_exists.mp compliance
  exact ⟨first, second, given, given', sound.tenantAdmin first given,
    sound.compliance second given'⟩

/-- What was proposed is read off any version of a run. -/
theorem RunLater.proposal_eq {α : Type} {before after : DlLineRunAuthorization}
    (later : RunLater before after) (field : DlLineRunAuthorization → α)
    (immutable : ∀ run, field (proposal run) = field run) : field after = field before := by
  rw [← immutable after, later.pinned, immutable]

theorem ApprovedByOthers.later {before after : DlLineRunAuthorization}
    (approved : ApprovedByOthers before) (later : RunLater before after) :
    ApprovedByOthers after := by
  obtain ⟨tenantAdmin, compliance, given, given', other, other'⟩ := approved
  have proposer := later.proposal_eq (·.proposedBy) fun _ => rfl
  exact ⟨tenantAdmin, compliance, later.tenantAdmin _ given, later.compliance _ given',
    proposer ▸ other, proposer ▸ other'⟩

def LineControlStore.recipientOf (store : LineControlStore) (runId : String) : Option String :=
  (store.findRun runId).bind fun run =>
    (store.findAllowlistEntry run.allowlistEntryId).map DlLineAllowlistEntry.recipientProtectedRef

/-- The worker has looked at the entry when it was valid and not revoked. -/
def ReadUsable (journal : List LinePerformed) (pid : Nat) (entry : DlLineAllowlistEntry) : Prop :=
  ∃ now read, ⟨pid, .clock, .ok now⟩ ∈ journal ∧
    ⟨pid, .control (.findAllowlistEntry entry.id), .ok (some read)⟩ ∈ journal ∧
    read.usable now = true ∧ AllowlistLater read entry

structure PushRun (bound : Prop) (store : LineControlStore) (journal : List LinePerformed) (pid : Nat)
    (occasion : LinePushOccasion) (run : DlLineRunAuthorization) (entry : DlLineAllowlistEntry) :
    Prop where
  found : store.findRun occasion.runAuthorizationId = some run
  approved : ApprovedByOthers run
  credential : run.credentialRefId = occasion.credentialRefId ∧
    run.credentialVersion = occasion.credentialVersion
  listed : store.findAllowlistEntry run.allowlistEntryId = some entry
  content : entry.contentDigest = occasion.contentGateDigest
  usable : ReadUsable journal pid entry
  recipient : bound → entry.recipientProtectedRef = occasion.recipientProtectedRef

/-- What stands behind a push: in the stores, and in the journal before it. -/
structure Pushed (host : LineHost) (bound : Prop) (store : LineStore) (earlier : List LinePerformed)
    (pid : Nat) (occasion : LinePushOccasion) (request : LinePushRequest) : Prop where
  entry : ∃ entry content,
    findByDeliveryId .lineMessagingApi store.outbox occasion.deliveryId = some entry ∧
      entry.state ≠ .queued ∧ request.retryKey = lineRetryKey host entry ∧
      host.content entry.command.contentRef = some content ∧ request.messages = content.messages ∧
      content.gateDigest = occasion.contentGateDigest
  accepted : ∃ step ∈ earlier, accepts occasion.deliveryId request.retryKey step = true
  left : ∃ step ∈ earlier, leavesQueue occasion.deliveryId step = true
  unit : ∃ row ∈ store.control.ledger,
    row.key = (occasion.deliveryId, .providerAttempt, occasion.attemptNo) ∧
      row.runAuthorizationId = occasion.runAuthorizationId ∧ ReservedOpen row earlier ∧
      ∃ run entry, run.gateId = row.gateId ∧
        PushRun bound store.control earlier pid occasion run entry
  recipient : ⟨pid, .resolveRecipient occasion.recipientProtectedRef,
    .ok (some request.recipient)⟩ ∈ earlier
  token : ⟨pid, .resolveCredential occasion.credentialRefId occasion.credentialVersion,
    .ok (some request.accessToken)⟩ ∈ earlier

def attemptsOf (deliveryId : String) (ledger : List DlLineCapLedgerEntry) : Nat :=
  ledger.countP fun row => row.capKind = .providerAttempt && row.deliveryId = deliveryId

structure UnitOf (ledger : List DlLineCapLedgerEntry) (deliveryId gateId runId : String) (row : DlLineCapLedgerEntry) :
    Prop where
  mem : row ∈ ledger
  key : row.key = (deliveryId, .logicalDelivery, 0)
  gateId : row.gateId = gateId
  runAuthorizationId : row.runAuthorizationId = runId

structure AttemptUnit (world : LineWorld) (row : DlLineCapLedgerEntry) : Prop where
  counted : row.counted = true
  logical : ∃ logical, UnitOf world.store.control.ledger row.deliveryId row.gateId
    row.runAuthorizationId logical
  run : ∃ run, world.store.control.findRun row.runAuthorizationId = some run ∧
    run.gateId = row.gateId ∧
    attemptsOf row.deliveryId world.store.control.ledger ≤ run.capProviderAttempts
  reserved : ReservedOpen row world.journal

structure LineInv (host : LineHost) (bound : Prop) (world : LineWorld) : Prop where
  left : ∀ deliveryId entry,
    findByDeliveryId .lineMessagingApi world.store.outbox deliveryId = some entry →
    entry.state ≠ .queued →
      (∃ step ∈ world.journal, accepts deliveryId (lineRetryKey host entry) step = true) ∧
        ∃ step ∈ world.journal, leavesQueue deliveryId step = true
  units : (world.store.control.ledger.map DlLineCapLedgerEntry.key).Nodup
  attempts : ∀ row ∈ world.store.control.ledger, row.capKind = .providerAttempt →
    AttemptUnit world row
  runs : ∀ id run, world.store.control.findRun id = some run → RunSound run
  latched : ∀ gateId, killInForce gateId world.journal =
    (world.store.control.gate gateId).any fun gate => gate.killed
  pushed : Follows (fun earlier step => ∀ occasion request, push? step = some (occasion, request) →
    Pushed host bound world.store earlier step.pid occasion request) world.journal

theorem AllowlistLater.read {α : Type} {before after : DlLineAllowlistEntry}
    (later : AllowlistLater before after) (field : DlLineAllowlistEntry → α)
    (immutable : ∀ entry : DlLineAllowlistEntry, field { entry with revokedAt := none } = field entry) :
    field after = field before := by
  rw [← immutable after, later, immutable]

theorem ReadUsable.later {more : List LinePerformed} {pid : Nat}
    {before after : DlLineAllowlistEntry} (usable : ReadUsable journal pid before)
    (grows : journal <+: more) (later : AllowlistLater before after) :
    ReadUsable more pid after := by
  obtain ⟨now, read, clock, answered, valid, same⟩ := usable
  have named := later.read (·.id) fun _ => rfl
  exact ⟨now, read, grows.subset clock, named ▸ grows.subset answered, valid, Eq.trans later same⟩

variable {deliveryId : String}

section Moves

variable {host : LineHost} {bound : Prop} {pid : Nat} {before after world : LineWorld}
  {journal : List LinePerformed} {occasion : LinePushOccasion} {request : LinePushRequest}

theorem PushRun.later {entry : DlLineAllowlistEntry}
    {store later : LineControlStore} (pushRun : PushRun bound store journal pid occasion run entry)
    (moves : ControlLater store later) :
    ∃ run' entry', run'.gateId = run.gateId ∧
      PushRun bound later journal pid occasion run' entry' := by
  obtain ⟨run', found, runLater⟩ := moves.runs _ run pushRun.found
  obtain ⟨entry', listed, entryLater⟩ := moves.allowlist _ entry pushRun.listed
  have credential := runLater.proposal_eq (fun run => (run.credentialRefId, run.credentialVersion))
    fun _ => rfl
  refine ⟨run', entry', runLater.proposal_eq (·.gateId) fun _ => rfl, ?_⟩
  exact {
    found := found
    approved := pushRun.approved.later runLater
    credential := ⟨(congrArg Prod.fst credential).trans pushRun.credential.1,
      (congrArg Prod.snd credential).trans pushRun.credential.2⟩
    listed := (runLater.proposal_eq (·.allowlistEntryId) fun _ => rfl) ▸ listed
    content := (entryLater.read (·.contentDigest) fun _ => rfl).trans pushRun.content
    usable := pushRun.usable.later prefix_rfl entryLater
    recipient := fun holds =>
      (entryLater.read (·.recipientProtectedRef) fun _ => rfl).trans (pushRun.recipient holds) }

theorem Pushed.moves (pushed : Pushed host bound before.store journal pid occasion request)
    (moves : LineMoves before after) :
    Pushed host bound after.store journal pid occasion request where
  entry := by
    obtain ⟨entry, content, known, left, key, fixture, messages, digest⟩ := pushed.entry
    obtain ⟨later, known', same⟩ := moves.entries _ entry known
    exact ⟨later, content, known', same.left left, key.trans (same.lineRetryKey host).symm,
      same.command ▸ fixture, messages, digest⟩
  accepted := pushed.accepted
  left := pushed.left
  unit := by
    obtain ⟨row, mem, key, run, isOpen, found, entry, gate, pushRun⟩ := pushed.unit
    obtain ⟨later, member', fades, key'⟩ := moves.control.ledger row mem
    obtain ⟨found', entry', gate', pushRun'⟩ := pushRun.later moves.control
    exact ⟨later, member', key'.trans key, fades.runAuthorizationId.trans run,
      isOpen.later key' fades.gateId, found', entry',
      gate'.trans (gate.trans fades.gateId.symm), pushRun'⟩
  recipient := pushed.recipient
  token := pushed.token

theorem UnitOf.later {ledger more : List DlLineCapLedgerEntry} {runId : String}
    (unit : UnitOf ledger deliveryId gateId runId row)
    (keeps : ∀ row ∈ ledger, ∃ later ∈ more, UnitLater row later) :
    ∃ later, UnitOf more deliveryId gateId runId later := by
  obtain ⟨later, mem, fades, key⟩ := keeps row unit.mem
  exact ⟨later, mem, key.trans unit.key, fades.gateId.trans unit.gateId,
    fades.runAuthorizationId.trans unit.runAuthorizationId⟩

theorem AttemptUnit.moves {later : DlLineCapLedgerEntry} (unit : AttemptUnit before row)
    (moves : LineMoves before after) (same : UnitLater row later) (counted : later.counted = true)
    (bounded : attemptsOf row.deliveryId after.store.control.ledger ≤
      attemptsOf row.deliveryId before.store.control.ledger) : AttemptUnit after later where
  counted := counted
  logical := by
    obtain ⟨logical, holds⟩ := unit.logical
    rw [same.1.deliveryId, same.1.gateId, same.1.runAuthorizationId]
    exact holds.later moves.control.ledger
  run := by
    obtain ⟨run, found, gate, most⟩ := unit.run
    obtain ⟨run', found', runLater⟩ := moves.control.runs _ run found
    rw [same.1.deliveryId, same.1.gateId, same.1.runAuthorizationId,
      ← runLater.proposal_eq (·.capProviderAttempts) fun _ => rfl] at *
    exact ⟨run', found', (runLater.proposal_eq (·.gateId) fun _ => rfl).trans gate,
      Nat.le_trans bounded most⟩
  reserved := (unit.reserved.mono moves.journal).later same.2 same.1.gateId

end Moves

/-- What a worker must know before it asks for one more attempt. -/
structure ReadyForAttempt (store : LineControlStore) (input : ReserveLineCapInput) : Prop where
  logical : ∃ row, UnitOf store.ledger input.deliveryId input.gateId input.runAuthorizationId row
  run : ∃ run, store.findRun input.runAuthorizationId = some run ∧ run.gateId = input.gateId ∧
    input.limits =
      lineCapLimits ⟨.providerAttempt, input.reservedAt, some run.capProviderAttempts, none⟩

def ControlPermits (store : LineControlStore) : LineControlRequest → Prop
  | .approveRun id _ actor => ∀ run, store.findRun id = some run → actor ≠ run.proposedBy
  | .reserveCap input => input.capKind = .providerAttempt → ReadyForAttempt store input
  | .settleCap _ capKind _ _ _ => capKind ≠ .providerAttempt
  | _ => True

/-- What a worker must know before it makes a request. -/
def LinePermits (host : LineHost) (bound : Prop) (pid : Nat) (world : LineWorld) :
    LineRequest → Prop
  | .advance deliveryId expected data => data.state ≠ .queued ∧
      (.queued ∈ expected → expected = [.queued] ∧ ∃ entry,
        findByDeliveryId .lineMessagingApi world.store.outbox deliveryId = some entry ∧
          ∃ step ∈ world.journal, accepts deliveryId (lineRetryKey host entry) step = true)
  | .push occasion request => Pushed host bound world.store world.journal pid occasion request
  | .control request => ControlPermits world.store.control request
  | _ => True

variable {target : String}

section Requests

variable {host : LineHost} {bound : Prop} {pid : Nat} {world : LineWorld} {store : LineStore}

theorem LinePermits.onward {request : LineRequest} (permits : LinePermits host bound pid world request) :
    Onward request := by
  cases request with
  | advance deliveryId expected data => exact permits.1
  | _ => trivial

section Ledger

variable {ledger : List DlLineCapLedgerEntry} {input : ReserveLineCapInput}

theorem attemptsOf_append : attemptsOf deliveryId (ledger ++ [row]) = attemptsOf deliveryId ledger +
      if row.capKind = .providerAttempt ∧ row.deliveryId = deliveryId then 1 else 0 := by
  simp [attemptsOf, countP_append, countP_cons]

theorem attemptsOf_aside (aside : row.capKind = .providerAttempt → row.deliveryId ≠ deliveryId) :
    attemptsOf deliveryId (ledger ++ [row]) = attemptsOf deliveryId ledger := by
  rw [attemptsOf_append, if_neg fun own => aside own.1 own.2]
  rfl

theorem attemptsOf_settle {key : String × LineCapKind × Nat}
    {settlement : LineCapSettlement} {now : Instant} :
    attemptsOf deliveryId (update DlLineCapLedgerEntry.key key
      (DlLineCapLedgerEntry.settle settlement now) ledger) = attemptsOf deliveryId ledger := by
  rw [attemptsOf, update, countP_map]
  refine countP_congr fun row _ => ?_
  have fades := row.fades_settle settlement now
  dsimp only [Function.comp]
  split
  · rw [fades.capKind, fades.deliveryId]
  · rfl

theorem UnitOf.same {gateId' runId runId' : String} {other : DlLineCapLedgerEntry}
    (distinct : (ledger.map DlLineCapLedgerEntry.key).Nodup)
    (unit : UnitOf ledger deliveryId gateId runId row)
    (unit' : UnitOf ledger deliveryId gateId' runId' other) : gateId' = gateId ∧ runId' = runId := by
  have equal : row = other :=
    eq_of_key_eq distinct unit.mem unit'.mem (unit.key.trans unit'.key.symm)
  subst equal
  exact ⟨unit'.gateId.symm.trans unit.gateId,
    unit'.runAuthorizationId.symm.trans unit.runAuthorizationId⟩

theorem attemptsOf_lt (inv : LineInv host bound world)
    (ready : ReadyForAttempt world.store.control input)
    (room : ∀ limit ∈ input.limits, limit.used input world.store.control.ledger < limit.max) :
    ∃ run, world.store.control.findRun input.runAuthorizationId = some run ∧
      run.gateId = input.gateId ∧
      attemptsOf input.deliveryId world.store.control.ledger < run.capProviderAttempts := by
  obtain ⟨logical, unit⟩ := ready.logical
  obtain ⟨run, found, gate, limits⟩ := ready.run
  refine ⟨run, found, gate, ?_⟩
  rw [limits] at room
  have under := room _ (mem_singleton.mpr rfl)
  refine Nat.lt_of_le_of_lt ?_ (Nat.lt_of_lt_of_le under (Nat.min_le_left _ _))
  refine countP_mono_left fun row mem attempt => ?_
  simp only [Bool.and_eq_true, decide_eq_true_eq] at attempt
  have known := inv.attempts row mem attempt.1
  obtain ⟨other, unit'⟩ := known.logical
  rw [attempt.2] at unit'
  have gates := (unit.same inv.units unit').1
  simp [LineCapLimit.counts, gates, attempt.1, attempt.2, known.counted]

end Ledger

def LineWorld.controlled (world : LineWorld) (pid : Nat) (asked : LineControlRequest)
    (reply : asked.Reply) (control : LineControlStore) : LineWorld :=
  world.performing pid (.control asked) (.ok reply) { world.store with control := control }

section Controlled

variable {asked : LineControlRequest} {reply : asked.Reply} {control : LineControlStore}

theorem controlled_moves (pid : Nat) (ok : world.store.control.perform asked = .ok (reply, control)) :
    LineMoves world (LineWorld.controlled world pid asked reply control) :=
  ⟨prefix_append _ _, fun _ entry known => ⟨entry, known, .refl entry⟩,
    LineControlStore.perform_later ok⟩

/-- Nothing was reserved or settled. -/
theorem LineInv.attempts_kept (inv : LineInv host bound world) (pid : Nat)
    (ok : world.store.control.perform asked = .ok (reply, control))
    (same : control.ledger = world.store.control.ledger) :
    ∀ row ∈ control.ledger, row.capKind = .providerAttempt →
      AttemptUnit (LineWorld.controlled world pid asked reply control) row := by
  intro row mem attempt
  rw [same] at mem
  have unit := inv.attempts row mem attempt
  refine unit.moves (controlled_moves pid ok) (.refl row) unit.counted ?_
  exact Nat.le_of_eq (congrArg (attemptsOf row.deliveryId) same)

theorem LineInv.attempts_reserving {input : ReserveLineCapInput} {answer : ReserveLineCapResult}
    (inv : LineInv host bound world) (pid : Nat)
    (ready : input.capKind = .providerAttempt → ReadyForAttempt world.store.control input)
    (ok : world.store.control.perform (.reserveCap input) = .ok (answer, control)) :
    (control.ledger.map DlLineCapLedgerEntry.key).Nodup ∧
      ∀ row ∈ control.ledger, row.capKind = .providerAttempt →
        AttemptUnit (LineWorld.controlled world pid (.reserveCap input) answer control) row := by
  have moves := controlled_moves pid ok
  have kept := inv.attempts_kept pid ok
  simp only [LineControlStore.perform, LineControlStore.reserveCap] at ok
  split at ok
  next => cases ok
  next gate found =>
    split at ok
    next => cases ok
    next ledger reserved =>
      cases ok
      cases reserveCap_reserved reserved with
      | replay | refused => exact ⟨inv.units, kept rfl⟩
      | taken isOpen room absent valid =>
          refine ⟨nodup_append inv.units absent, fun row mem attempt => ?_⟩
          by_cases own : input.capKind = .providerAttempt
          · obtain ⟨run, known, gates, under⟩ := attemptsOf_lt inv (ready own) room
            obtain ⟨logical, unit⟩ := (ready own).logical
            have most : attemptsOf input.deliveryId (world.store.control.ledger ++ [input.entry]) ≤
                run.capProviderAttempts := by
              rw [attemptsOf_append, if_pos ⟨own, rfl⟩]
              exact under
            rcases mem_snoc.mp mem with old | rfl
            · have before := inv.attempts row old attempt
              by_cases same : row.deliveryId = input.deliveryId
              · -- an earlier attempt of this delivery: it belongs to the same run
                obtain ⟨other, unit'⟩ := before.logical
                rw [same] at unit'
                obtain ⟨gateId, runId⟩ := unit.same inv.units unit'
                refine ⟨before.counted, ?_, ⟨run, ?_, gates.trans gateId.symm, same ▸ most⟩, ?_⟩
                · rw [same]
                  exact unit'.later moves.control.ledger
                · rw [runId]
                  exact known
                · exact before.reserved.mono moves.journal
              · refine before.moves moves (.refl row) before.counted (Nat.le_of_eq ?_)
                exact attemptsOf_aside fun _ equal => same equal.symm
            · refine ⟨rfl, unit.later moves.control.ledger, ⟨run, known, gates, most⟩, ?_⟩
              refine ⟨world.journal, _, [], rfl, ?_, ?_⟩
              · simp [reservesUnit]
              · refine (inv.latched input.gateId).trans ?_
                rw [found]
                exact isOpen
          · rcases mem_snoc.mp mem with old | rfl
            · have before := inv.attempts row old attempt
              refine before.moves moves (.refl row) before.counted (Nat.le_of_eq ?_)
              exact attemptsOf_aside fun kind => absurd kind own
            · exact absurd attempt own

theorem LineInv.attempts_settling {capKind : LineCapKind} {attemptNo : Nat}
    {settlement : LineCapSettlement} {now : Instant} {settled : Bool}
    (inv : LineInv host bound world) (pid : Nat) (aside : capKind ≠ .providerAttempt)
    (ok : world.store.control.perform (.settleCap deliveryId capKind attemptNo settlement now) =
      .ok (settled, control)) :
    (control.ledger.map DlLineCapLedgerEntry.key).Nodup ∧
      ∀ row ∈ control.ledger, row.capKind = .providerAttempt →
        AttemptUnit (LineWorld.controlled world pid
          (.settleCap deliveryId capKind attemptNo settlement now) settled control) row := by
  have moves := controlled_moves pid ok
  have kept := inv.attempts_kept pid ok
  simp only [LineControlStore.perform, LineControlStore.settleCap] at ok
  split at ok
  next => cases ok
  next ledger done =>
    cases ok
    cases settleCap_settled done with
    | idle => exact ⟨inv.units, kept rfl⟩
    | settled found reserved =>
        have keys : (update DlLineCapLedgerEntry.key (deliveryId, capKind, attemptNo)
            (DlLineCapLedgerEntry.settle settlement now) world.store.control.ledger).map
              DlLineCapLedgerEntry.key = world.store.control.ledger.map DlLineCapLedgerEntry.key :=
          map_key_update (DlLineCapLedgerEntry.settle_key settlement now)
        refine ⟨keys ▸ inv.units, fun row mem attempt => ?_⟩
        obtain ⟨earlier, present, rfl⟩ := mem_update.mp mem
        have other : earlier.key ≠ (deliveryId, capKind, attemptNo) := by
          intro same
          rw [if_pos same, (earlier.fades_settle settlement now).capKind] at attempt
          exact aside ((congrArg (fun key => key.2.1) same).symm.trans attempt)
        rw [if_neg other] at attempt ⊢
        have unit := inv.attempts earlier present attempt
        exact unit.moves moves (.refl earlier) unit.counted (Nat.le_of_eq attemptsOf_settle)

theorem RunSound.proposal (run : DlLineRunAuthorization) : RunSound (proposal run) :=
  ⟨nofun, nofun, nofun⟩

theorem RunSound.approve {role : LineControlStore.LineRunApprovalRole} {actor : String}
    (sound : RunSound run) (other : actor ≠ run.proposedBy) :
    RunSound (approve role actor run) := by
  have tenantAdmin : ∀ first, some actor = some first → first ≠ run.proposedBy := by
    rintro first ⟨⟩
    exact other
  cases role with
  | tenantAdmin =>
      simp only [LineControlStore.approve]
      split
      next both =>
        exact ⟨tenantAdmin, sound.compliance, fun _ => by simpa using both⟩
      next => exact ⟨tenantAdmin, sound.compliance, fun state => ⟨rfl, (sound.approved state).2⟩⟩
  | compliance =>
      simp only [LineControlStore.approve]
      split
      next both =>
        exact ⟨sound.tenantAdmin, tenantAdmin, fun _ => by simpa using both⟩
      next => exact ⟨sound.tenantAdmin, tenantAdmin, fun state => ⟨(sound.approved state).1, rfl⟩⟩

theorem withRun_sound {store : LineControlStore}
    {rewrite : DlLineRunAuthorization → DlLineRunAuthorization}
    (sound : ∀ id run, store.findRun id = some run → RunSound run)
    (keeps : ∀ run, (rewrite run).id = run.id)
    (rewritten : ∀ run, store.findRun target = some run → RunSound (rewrite run)) :
    ∀ id run, (store.withRun target rewrite).findRun id = some run → RunSound run := by
  intro id run found
  rw [LineControlStore.findRun, LineControlStore.withRun, lookup_update keeps] at found
  obtain ⟨before, known, same⟩ := Option.map_eq_some_iff.mp found
  split at same
  next named =>
    subst same
    refine rewritten before ?_
    rw [← named, show before.id = id from lookup_key known]
    exact known
  next =>
    subst same
    exact sound id before known

theorem LineControlStore.runs_sound {store : LineControlStore}
    (sound : ∀ id run, store.findRun id = some run → RunSound run)
    (permits : ControlPermits store asked) (ok : store.perform asked = .ok (reply, control)) :
    ∀ id run, control.findRun id = some run → RunSound run := by
  have writes := runs_written ok
  unfold findRun
  generalize control.runs = runs at writes
  cases writes with
  | same => exact sound
  | @proposed proposed _ =>
      intro id run found
      rw [Table.lookup, find?_append, Option.or_eq_some_iff] at found
      rcases found with old | ⟨-, new⟩
      · exact sound id run old
      · rw [mem_singleton.mp (mem_of_find?_eq_some new)]
        exact .proposal proposed
  | @approved target actor role =>
      refine withRun_sound sound (approve_id role actor) fun run found => ?_
      exact (sound target run found).approve (permits run found)
  | @consumed target _ _ run found approved =>
      refine withRun_sound sound (fun _ => rfl) fun other found' => ?_
      cases found.symm.trans found'
      have before := sound target run found
      exact ⟨before.tenantAdmin, before.compliance, fun _ => before.approved (.inl approved)⟩
  | @closed target closure =>
      refine withRun_sound sound (fun _ => rfl) fun run found => ?_
      have before := sound target run found
      refine ⟨before.tenantAdmin, before.compliance, fun state => ?_⟩
      cases closure <;> simp [LineControlStore.close] at state

theorem LineControlStore.gate_withGate {store : LineControlStore}
    {rewrite : DlLineScopeGate → DlLineScopeGate} (keeps : ∀ gate, (rewrite gate).id = gate.id) :
    (store.withGate target rewrite).gate gateId =
      (store.gate gateId).map fun gate => if gate.id = target then rewrite gate else gate :=
  lookup_update keeps

/-- A rewriting of one gate, as far as its kill goes. -/
theorem LineControlStore.killed_withGate {store : LineControlStore}
    {rewrite : DlLineScopeGate → DlLineScopeGate} (keeps : ∀ gate, (rewrite gate).id = gate.id) :
    ((store.withGate target rewrite).gate gateId).any (fun gate => gate.killed) =
      (store.gate gateId).any fun gate =>
        if target = gateId then (rewrite gate).killed else gate.killed := by
  rw [gate_withGate keeps]
  cases found : store.gate gateId with
  | none => rfl
  | some gate =>
      have named : gate.id = gateId := (lookup_key found :)
      rw [Option.map_some, Option.any_some, Option.any_some, named]
      by_cases own : gateId = target
      · rw [if_pos own, if_pos own.symm]
      · rw [if_neg own, if_neg (Ne.symm own)]

theorem LineControlStore.kill_id (reason : LineKillReason) (now : Instant) (gate : DlLineScopeGate) :
    (LineControlStore.kill reason now gate).id = gate.id := by
  unfold LineControlStore.kill
  split <;> rfl

theorem LineControlStore.kill_killed (reason : LineKillReason) (now : Instant)
    (gate : DlLineScopeGate) : (LineControlStore.kill reason now gate).killed = true := by
  unfold LineControlStore.kill
  split
  next killed => exact killed
  next => rfl

/-- A gate is killed after a request if it was before and the request has not cleared it, or if the
request has killed it. -/
theorem LineControlStore.perform_latches {store : LineControlStore} (pid : Nat)
    (ok : store.perform asked = .ok (reply, control)) (gateId : String) :
    (control.gate gateId).any (fun gate => gate.killed) =
      latches gateId ((store.gate gateId).any fun gate => gate.killed)
        ⟨pid, .control asked, .ok reply⟩ := by
  cases asked with
  | ensureGate id scope =>
      simp only [perform, ensureGate] at ok
      split at ok
      · cases ok
        rfl
      · split at ok
        · cases ok
        · cases ok
          show (LineControlStore.gate _ gateId).any _ = (store.gate gateId).any _
          rw [gate, Table.lookup, find?_append]
          cases found : store.gates.find? fun gate => gate.id = gateId with
          | some known =>
              rw [gate, Table.lookup, found]
              rfl
          | none =>
              rw [gate, Table.lookup, found, Option.none_or, find?_singleton]
              split <;> rfl
  | compareAndSetGate target expectedVersion patch =>
      simp only [perform, compareAndSetGate] at ok
      split at ok
      · cases ok
        rfl
      · split at ok
        · cases ok
          refine Eq.trans (killed_withGate fun _ => rfl) ?_
          simp [latches, LineGatePatch.apply]
        · cases ok
  | killGate target reason now =>
      simp only [perform, killGate] at ok
      split at ok
      · cases ok
      next found =>
        cases ok
        refine (killed_withGate (kill_id reason now)).trans ?_
        by_cases own : target = gateId
        · subst own
          simp [latches, found, kill_killed]
        · simp [latches, own]
  | clearGateKill target expectedVersion killClearedRef =>
      simp only [perform, clearGateKill] at ok
      split at ok
      · cases ok
        rfl
      · split at ok
        · cases ok
        · cases ok
          refine Eq.trans (killed_withGate fun _ => rfl) ?_
          by_cases own : target = gateId <;> simp [latches, own, LineControlStore.clearKill]
  | _ =>
      have same : control.gates = store.gates := by
        cases perform_writes ok <;> rfl
      rw [gate, gate, same]
      rfl

end Controlled

/-- What a request leaves, with the requests of the others. -/
structure LineLeaves (host : LineHost) (bound : Prop) (before after : LineWorld) : Prop where
  inv : LineInv host bound after
  moves : LineMoves before after

variable {request : LineRequest} {reply : Except LineError request.Reply}

section
variable (inv : LineInv host bound world) (permits : LinePermits host bound pid world request)
include inv permits

theorem LineInv.left_performed (done : LineDone host world.store request reply store) :
    ∀ deliveryId entry, findByDeliveryId .lineMessagingApi store.outbox deliveryId = some entry →
      entry.state ≠ .queued →
      (∃ step ∈ (world.performing pid request reply store).journal,
        accepts deliveryId (lineRetryKey host entry) step = true) ∧
        ∃ step ∈ (world.performing pid request reply store).journal,
          leavesQueue deliveryId step = true := by
  have kept : ∀ deliveryId entry,
      findByDeliveryId .lineMessagingApi world.store.outbox deliveryId = some entry →
      entry.state ≠ .queued →
      (∃ step ∈ (world.performing pid request reply store).journal,
        accepts deliveryId (lineRetryKey host entry) step = true) ∧
        ∃ step ∈ (world.performing pid request reply store).journal,
          leavesQueue deliveryId step = true := by
    intro deliveryId entry known left
    obtain ⟨⟨step, mem, holds⟩, ⟨step', member', holds'⟩⟩ := inv.left deliveryId entry known left
    exact ⟨⟨step, mem_append_left _ mem, holds⟩, ⟨step', mem_append_left _ member', holds'⟩⟩
  intro found entry known left
  cases done with
  | @advanced deliveryId expected data reply outbox advanced =>
      rcases advanced.lookup found with same | ⟨rfl, earlier, present, awaited, written, answered⟩
      · exact kept found entry (same.symm.trans known) left
      · rw [known] at written
        cases written
        by_cases queued : earlier.state = .queued
        · rw [queued] at awaited
          obtain ⟨rfl, other, known', step, mem, holds⟩ := permits.2 awaited
          rw [present] at known'
          cases known'
          refine ⟨⟨step, mem_append_left _ mem, holds⟩, ⟨_, mem_append_right _
            (mem_singleton.mpr rfl), ?_⟩⟩
          simp [leavesQueue, answered]
        · exact kept found earlier present queued
  | _ => exact kept found entry known left

/-- A push adds itself to the journal when all that is behind it holds. -/
theorem LineInv.pushed_performed
    (moves : LineMoves world (world.performing pid request reply store)) :
    Follows (fun earlier step => ∀ occasion request, push? step = some (occasion, request) →
      Pushed host bound store earlier step.pid occasion request)
      (world.performing pid request reply store).journal := by
  refine Follows.append ?_ ?_
  · exact inv.pushed.mono fun earlier step holds occasion request pushes =>
      (holds occasion request pushes).moves moves
  · intro occasion asked pushes
    cases request with
    | push own request =>
        cases pushes
        exact Pushed.moves permits moves
    | _ => cases pushes

theorem LineInv.performed {tick : LineTick}
    (performed : performLine host pid tick request world.store = some (reply, store)) :
    LineLeaves host bound world (world.performing pid request reply store) := by
  have done := performLine_done performed
  have moves : LineMoves world (world.performing pid request reply store) :=
    done.moves permits.onward
  refine ⟨⟨inv.left_performed permits done, ?_, ?_, ?_, ?_, inv.pushed_performed permits moves⟩, moves⟩
  · cases done with
    | @controlled asked reply control ok =>
        cases asked with
        | reserveCap input => exact (inv.attempts_reserving pid permits ok).1
        | settleCap deliveryId capKind attemptNo settlement now =>
            exact (inv.attempts_settling pid permits ok).1
        | _ =>
            have same : control.ledger = world.store.control.ledger := by
              cases LineControlStore.perform_writes ok <;> rfl
            exact same ▸ inv.units
    | _ => exact inv.units
  · cases done with
    | @controlled asked reply control ok =>
        cases asked with
        | reserveCap input => exact (inv.attempts_reserving pid permits ok).2
        | settleCap deliveryId capKind attemptNo settlement now =>
            exact (inv.attempts_settling pid permits ok).2
        | _ =>
            refine inv.attempts_kept pid ok ?_
            cases LineControlStore.perform_writes ok <;> rfl
    | _ =>
        intro row mem attempt
        have unit := inv.attempts row mem attempt
        exact unit.moves moves (.refl row) unit.counted (Nat.le_refl _)
  · cases done with
    | controlled ok => exact LineControlStore.runs_sound inv.runs permits ok
    | _ => exact inv.runs
  · intro gateId
    refine killInForce_append.trans ?_
    rw [inv.latched gateId]
    cases done with
    | controlled ok => exact (LineControlStore.perform_latches pid ok gateId).symm
    | @read request value aside =>
        cases request with
        | control asked => exact absurd rfl (aside asked)
        | _ => rfl
    | @failed request failure =>
        cases request with
        | control asked => cases asked <;> rfl
        | _ => rfl
    | _ => rfl

end

end Requests

end DContact.Delivery

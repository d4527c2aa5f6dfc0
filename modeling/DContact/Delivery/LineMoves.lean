import DContact.Delivery.LineMachine

/-!
# What the LINE requests leave

The binding of a row never changes: an entry of the outbox keeps its command and its key, a run what
was proposed and whoever has approved it, and an entry of the allowlist its tuple. A unit of the
ledger stays reserved for what it was reserved for. Every request takes the stores to later ones.
-/

namespace DContact.Delivery

open Lib
open Governance (Instant RuntimeStore SettlementView execute)
open Journey.Send (DlDeliveryState)
open LineControlStore (LineRunApprovalRole LineRunClosure proposal approvable approve consume close)

inductive ControlPart where
  | gates
  | allowlist
  | credentials
  | runs
  | ledger

def LineControlRequest.part : LineControlRequest → Option ControlPart
  | .ensureGate .. | .compareAndSetGate .. | .killGate .. | .clearGateKill .. => some .gates
  | .addAllowlistEntry .. | .revokeAllowlistEntry .. => some .allowlist
  | .registerCredentialRef _ | .activateCredentialRef _ | .revokeCredentialRef _ =>
      some .credentials
  | .proposeRun _ | .approveRun .. | .consumeRun .. | .closeRun .. => some .runs
  | .reserveCap _ | .settleCap .. => some .ledger
  | _ => none

inductive WritesPart (before : LineControlStore) : Option ControlPart → LineControlStore → Prop where
  | nothing {part : Option ControlPart} : WritesPart before part before
  | gates (gates : List DlLineScopeGate) :
      WritesPart before (some .gates) { before with gates := gates }
  | allowlist (allowlist : List DlLineAllowlistEntry) :
      WritesPart before (some .allowlist) { before with allowlist := allowlist }
  | credentials (credentials : List DlLineCredentialRef) :
      WritesPart before (some .credentials) { before with credentials := credentials }
  | runs (runs : List DlLineRunAuthorization) :
      WritesPart before (some .runs) { before with runs := runs }
  | ledger (ledger : List DlLineCapLedgerEntry) :
      WritesPart before (some .ledger) { before with ledger := ledger }

/-- What a request does to the runs. -/
inductive RunsWritten (runs : List DlLineRunAuthorization) :
    LineControlRequest → List DlLineRunAuthorization → Prop where
  | same {request : LineControlRequest} : RunsWritten runs request runs
  | proposed {run : DlLineRunAuthorization} (fresh : ∀ other ∈ runs, other.id ≠ run.id) :
      RunsWritten runs (.proposeRun run) (runs ++ [proposal run])
  | approved {id actor : String} {role : LineRunApprovalRole} {run : DlLineRunAuthorization}
      (found : Table.lookup (·.id) id runs = some run) (waits : approvable role run = true) :
      RunsWritten runs (.approveRun id role actor) (Table.update (·.id) id (approve role actor) runs)
  | consumed {id deliveryId : String} {now : Instant} {run : DlLineRunAuthorization}
      (found : Table.lookup (·.id) id runs = some run) (approved : run.state = .approved)
      (counts : run.profile ≠ .teamTrial)
      (once : ∀ other ∈ runs, other.consumedDeliveryId ≠ some deliveryId) :
      RunsWritten runs (.consumeRun id deliveryId now)
        (Table.update (·.id) id (consume deliveryId) runs)
  | closed {id : String} {closure : LineRunClosure} {run : DlLineRunAuthorization}
      (found : Table.lookup (·.id) id runs = some run)
      (isOpen : run.state = .proposed ∨ run.state = .approved) :
      RunsWritten runs (.closeRun id closure) (Table.update (·.id) id (close closure) runs)

namespace LineControlStore

variable {store after : LineControlStore}

theorem addAllowlistEntry_ok {scope : LineGateScope} {entry created : DlLineAllowlistEntry}
    (ok : store.addAllowlistEntry scope entry = .ok (created, after)) :
    after = { store with allowlist := store.allowlist ++ [{ entry with revokedAt := none }] } := by
  simp only [addAllowlistEntry, guard_ok_iff] at ok
  cases ok.2.2.2
  rfl

theorem perform_runs {request : LineControlRequest} {reply : request.Reply}
    (ok : store.perform request = .ok (reply, after)) (aims : request.part = some .runs) :
    ∃ runs, RunsWritten store.runs request runs ∧ after = { store with runs := runs } := by
  cases request with
  | proposeRun run =>
      replace ok : store.proposeRun run = .ok (reply, after) := ok
      rw [proposeRun, guard_ok_iff] at ok
      replace ok := ok.2
      split at ok
      next =>
        split at ok
        next =>
          split at ok
          · cases ok
            exact ⟨_, .same, rfl⟩
          · cases ok
        next => cases ok
      next unknown =>
        rw [guard_ok_iff] at ok
        cases ok.2
        refine ⟨_, .proposed fun other mem same => unknown ?_, rfl⟩
        exact List.any_eq_true.mpr ⟨other, mem, by simp [same]⟩
  | approveRun id role actor =>
      simp only [perform, approveRun] at ok
      split at ok
      · cases ok
        exact ⟨_, .same, rfl⟩
      next found =>
        cases ok
        obtain ⟨known, waits⟩ := Option.filter_eq_some_iff.mp found
        exact ⟨_, .approved known waits, rfl⟩
  | consumeRun id deliveryId now =>
      simp only [perform, consumeRun] at ok
      split at ok
      · cases ok
        exact ⟨_, .same, rfl⟩
      next run found =>
        split at ok
        next approved =>
          split at ok
          · cases ok
          next counts =>
            split at ok
            · cases ok
            next once =>
              cases ok
              refine ⟨_, .consumed found approved.1 counts fun other mem same => once ?_, rfl⟩
              exact List.any_eq_true.mpr ⟨other, mem, by simp [same]⟩
        next =>
          split at ok <;>
            · cases ok
              exact ⟨_, .same, rfl⟩
  | closeRun id closure =>
      simp only [perform, closeRun] at ok
      split at ok
      · cases ok
        exact ⟨_, .same, rfl⟩
      next found =>
        cases ok
        obtain ⟨known, isOpen⟩ := Option.filter_eq_some_iff.mp found
        exact ⟨_, .closed known (by simpa using isOpen), rfl⟩
  | _ => cases aims

theorem perform_writes {request : LineControlRequest} {reply : request.Reply}
    (ok : store.perform request = .ok (reply, after)) : WritesPart store request.part after := by
  cases request with
  | ensureGate | clearGateKill =>
      simp only [perform, ensureGate, clearGateKill] at ok
      split at ok
      · cases ok
        exact .nothing
      · split at ok
        · cases ok
        · cases ok
          exact .gates _
  | compareAndSetGate gateId expectedVersion patch =>
      simp only [perform, compareAndSetGate] at ok
      split at ok
      · cases ok
        exact .nothing
      · split at ok
        · cases ok
          exact .gates _
        · cases ok
  | killGate gateId reason now =>
      simp only [perform, killGate] at ok
      split at ok
      · cases ok
      · cases ok
        exact .gates _
  | addAllowlistEntry scope entry =>
      obtain rfl := addAllowlistEntry_ok ok
      exact .allowlist _
  | revokeAllowlistEntry id now =>
      simp only [perform, revokeAllowlistEntry] at ok
      split at ok
      · cases ok
        exact .nothing
      · cases ok
        exact .allowlist _
  | registerCredentialRef credential =>
      replace ok : store.registerCredentialRef credential = .ok (reply, after) := ok
      rw [registerCredentialRef, guard_ok_iff] at ok
      cases ok.2
      exact .credentials _
  | activateCredentialRef | revokeCredentialRef =>
      simp only [perform, activateCredentialRef, revokeCredentialRef] at ok
      split at ok
      · cases ok
        exact .nothing
      · cases ok
        exact .credentials _
  | proposeRun | approveRun | consumeRun | closeRun =>
      obtain ⟨runs, -, rfl⟩ := perform_runs ok rfl
      exact .runs runs
  | reserveCap input =>
      simp only [perform, reserveCap] at ok
      split at ok
      · cases ok
      · split at ok
        · cases ok
        · cases ok
          exact .ledger _
  | settleCap deliveryId capKind attemptNo settlement now =>
      simp only [perform, settleCap] at ok
      split at ok
      · cases ok
      · cases ok
        exact .ledger _
  | _ =>
      cases ok
      exact .nothing

end LineControlStore

structure RunLater (before after : DlLineRunAuthorization) : Prop where
  pinned : proposal after = proposal before
  tenantAdmin : ∀ actor, before.tenantAdminApprovedBy = some actor →
    after.tenantAdminApprovedBy = some actor
  compliance : ∀ actor, before.complianceApprovedBy = some actor →
    after.complianceApprovedBy = some actor

theorem RunLater.refl (run : DlLineRunAuthorization) : RunLater run run :=
  ⟨rfl, fun _ given => given, fun _ given => given⟩

theorem RunLater.trans {first second third : DlLineRunAuthorization} (left : RunLater first second)
    (right : RunLater second third) : RunLater first third :=
  ⟨right.pinned.trans left.pinned,
    fun actor given => right.tenantAdmin actor (left.tenantAdmin actor given),
    fun actor given => right.compliance actor (left.compliance actor given)⟩

def AllowlistLater (before after : DlLineAllowlistEntry) : Prop :=
  { after with revokedAt := none } = { before with revokedAt := none }

def UnitLater (before after : DlLineCapLedgerEntry) : Prop :=
  Fades before after ∧ after.key = before.key

theorem UnitLater.refl (row : DlLineCapLedgerEntry) : UnitLater row row := ⟨.refl row, rfl⟩

theorem UnitLater.trans {first second third : DlLineCapLedgerEntry} (left : UnitLater first second)
    (right : UnitLater second third) : UnitLater first third where
  left := {
    gateId := right.1.gateId.trans left.1.gateId
    runAuthorizationId := right.1.runAuthorizationId.trans left.1.runAuthorizationId
    deliveryId := right.1.deliveryId.trans left.1.deliveryId
    capKind := right.1.capKind.trans left.1.capKind
    recipientFingerprint := right.1.recipientFingerprint.trans left.1.recipientFingerprint
    reservedAt := right.1.reservedAt.trans left.1.reservedAt
    counted := fun counted => left.1.counted (right.1.counted counted)
    reserved := fun reserved => left.1.reserved (right.1.reserved reserved) }
  right := right.2.trans left.2

/-- A later version of an entry of the outbox: the same binding, and never back in the queue. -/
structure EntryLater (before after : DlOutboxEntry) : Prop where
  deliveryId : after.deliveryId = before.deliveryId
  command : after.command = before.command
  providerRequestKey : after.providerRequestKey = before.providerRequestKey
  left : before.state ≠ .queued → after.state ≠ .queued

theorem EntryLater.refl (entry : DlOutboxEntry) : EntryLater entry entry :=
  ⟨rfl, rfl, rfl, fun left => left⟩

theorem EntryLater.trans {first second third : DlOutboxEntry} (left : EntryLater first second)
    (right : EntryLater second third) : EntryLater first third :=
  ⟨right.deliveryId.trans left.deliveryId, right.command.trans left.command,
    right.providerRequestKey.trans left.providerRequestKey,
    fun moved => right.left (left.left moved)⟩

theorem EntryLater.lineRetryKey {before after : DlOutboxEntry} (later : EntryLater before after)
    (host : LineHost) : lineRetryKey host after = Delivery.lineRetryKey host before := by
  simp only [Delivery.lineRetryKey, later.deliveryId, later.command, later.providerRequestKey]

structure ControlLater (before after : LineControlStore) : Prop where
  runs : ∀ id run, before.findRun id = some run →
    ∃ later, after.findRun id = some later ∧ RunLater run later
  allowlist : ∀ id entry, before.findAllowlistEntry id = some entry →
    ∃ later, after.findAllowlistEntry id = some later ∧ AllowlistLater entry later
  ledger : ∀ row ∈ before.ledger, ∃ later ∈ after.ledger, UnitLater row later

theorem ControlLater.refl (store : LineControlStore) : ControlLater store store :=
  ⟨fun _ run found => ⟨run, found, .refl run⟩, fun _ entry found => ⟨entry, found, rfl⟩,
    fun row mem => ⟨row, mem, .refl row⟩⟩

theorem ControlLater.trans {first second third : LineControlStore}
    (left : ControlLater first second) (right : ControlLater second third) :
    ControlLater first third where
  runs := Table.found_trans .trans left.runs right.runs
  allowlist := Table.found_trans (R := AllowlistLater) (fun before after => after.trans before)
    left.allowlist right.allowlist
  ledger := Table.kept_trans .trans left.ledger right.ledger

namespace LineControlStore

variable {store after : LineControlStore} {request : LineControlRequest}

theorem approve_later (role : LineRunApprovalRole) (actor : String) {run : DlLineRunAuthorization}
    (waits : approvable role run = true) : RunLater run (approve role actor run) := by
  simp only [approvable, Bool.and_eq_true] at waits
  cases role with
  | tenantAdmin =>
      have unapproved : run.tenantAdminApprovedBy = none := Option.isNone_iff_eq_none.mp waits.2
      simp only [approve]
      split
      · exact ⟨rfl, by simp [unapproved], fun _ given => given⟩
      · exact ⟨rfl, by simp [unapproved], fun _ given => given⟩
  | compliance =>
      have unapproved : run.complianceApprovedBy = none := Option.isNone_iff_eq_none.mp waits.2
      simp only [approve]
      split
      · exact ⟨rfl, fun _ given => given, by simp [unapproved]⟩
      · exact ⟨rfl, fun _ given => given, by simp [unapproved]⟩

@[simp] theorem approve_id (role : LineRunApprovalRole) (actor : String)
    (run : DlLineRunAuthorization) : (approve role actor run).id = run.id := by
  cases role <;>
    · simp only [approve]
      split <;> rfl

section Runs

variable {runs written : List DlLineRunAuthorization} {id target : String}
  {row run : DlLineRunAuthorization} {rewrite : DlLineRunAuthorization → DlLineRunAuthorization}

theorem update_later (known : Table.lookup (·.id) id runs = some row)
    (keeps : ∀ row, (rewrite row).id = row.id) (found : Table.lookup (·.id) target runs = some run)
    (later : RunLater run (rewrite run)) :
    ∃ now, Table.lookup (·.id) id (Table.update (·.id) target rewrite runs) = some now ∧
      RunLater row now := by
  refine Table.exists_lookup_update keeps known (.refl row) fun same => ?_
  have named : row.id = id := Table.lookup_key known
  rw [← named, same, found] at known
  cases known
  exact later

theorem runs_later (writes : RunsWritten runs request written)
    (known : Table.lookup (·.id) id runs = some row) :
    ∃ now, Table.lookup (·.id) id written = some now ∧ RunLater row now := by
  cases writes with
  | same => exact ⟨row, known, .refl row⟩
  | proposed => exact ⟨row, Table.lookup_append known, .refl row⟩
  | approved found waits =>
      exact update_later known (approve_id _ _) found (approve_later _ _ waits)
  | consumed found | closed found =>
      exact update_later known (fun _ => rfl) found
        ⟨rfl, fun _ given => given, fun _ given => given⟩

end Runs

theorem runs_written {reply : request.Reply} (ok : store.perform request = .ok (reply, after)) :
    RunsWritten store.runs request after.runs := by
  by_cases aims : request.part = some .runs
  · obtain ⟨runs, written, rfl⟩ := perform_runs ok aims
    exact written
  · have writes := perform_writes ok
    generalize request.part = part at writes aims
    cases writes with
    | runs => exact absurd rfl aims
    | _ => exact .same

theorem perform_later {reply : request.Reply}
    (ok : store.perform request = .ok (reply, after)) : ControlLater store after where
  runs _ _ known := runs_later (runs_written ok) known
  allowlist := by
    have same := (ControlLater.refl store).allowlist
    cases request with
    | addAllowlistEntry scope entry =>
        obtain rfl := addAllowlistEntry_ok ok
        exact fun id other found => ⟨other, Table.lookup_append found, rfl⟩
    | revokeAllowlistEntry id now =>
        simp only [perform, revokeAllowlistEntry] at ok
        split at ok
        · cases ok
          exact same
        · cases ok
          exact fun other entry known =>
            Table.exists_lookup_update (fun _ => rfl) known rfl fun _ => rfl
    | _ => cases perform_writes ok <;> exact same
  ledger := by
    have same := (ControlLater.refl store).ledger
    cases request with
    | reserveCap input =>
        simp only [perform, reserveCap] at ok
        split at ok
        · cases ok
        · split at ok
          · cases ok
          next reserved =>
            cases ok
            intro row mem
            cases reserveCap_reserved reserved with
            | replay | refused => exact ⟨row, mem, .refl row⟩
            | taken => exact ⟨row, List.mem_append_left _ mem, .refl row⟩
    | settleCap deliveryId capKind attemptNo settlement now =>
        simp only [perform, settleCap] at ok
        split at ok
        · cases ok
        next settled =>
          cases ok
          intro row mem
          obtain ⟨rewrite, keeps, rfl⟩ := settleCap_ok settled
          exact ⟨_, List.mem_map_of_mem mem, keeps row⟩
    | _ => cases perform_writes ok <;> exact same

end LineControlStore

section Requests

variable {host : LineHost} {pid : Nat} {tick : LineTick} {before store : LineStore}

inductive LineDone (host : LineHost) (before : LineStore) :
    (request : LineRequest) → Except LineError request.Reply → LineStore → Prop where
  | failed {request : LineRequest} (failure : LineError) :
      LineDone host before request (.error failure) before
  | read {request : LineRequest} (value : request.Reply) (aside : ∀ asked, request ≠ .control asked) :
      LineDone host before request (.ok value) before
  | advanced {deliveryId : String} {expected : List DlDeliveryState} {data : OutboxPatch}
      {reply : Option DlOutboxEntry} {outbox : List DlOutboxEntry}
      (advanced : Advanced .lineMessagingApi before.outbox deliveryId expected data reply outbox) :
      LineDone host before (.advance deliveryId expected data) (.ok reply)
        { before with outbox := outbox }
  | recorded {input row : DlProviderSubmissionAttempt} {attempts : List DlProviderSubmissionAttempt}
      (ok : recordAttempt before.attempts input = .ok (row, attempts)) :
      LineDone host before (.recordAttempt input) (.ok row) { before with attempts := attempts }
  | enqueued {event : LineDeliveryLifecycleEvent} {events : List LineDeliveryLifecycleEvent}
      (ok : enqueueEvent before.events event = some events) :
      LineDone host before (.enqueueEvent event) (.ok ()) { before with events := events }
  | controlled {request : LineControlRequest} {reply : request.Reply} {control : LineControlStore}
      (ok : before.control.perform request = .ok (reply, control)) :
      LineDone host before (.control request) (.ok reply) { before with control := control }
  | governed {command : Governance.RuntimeCommand} {view : SettlementView}
      {governance : RuntimeStore} {now : Instant} {attemptId touchId : String}
      (ok : execute host.runtime before.governance command now attemptId touchId =
        .ok (governance, view)) :
      LineDone host before (.governance command) (.ok view) { before with governance := governance }

theorem performLine_done {request : LineRequest} {reply : Except LineError request.Reply}
    (performed : performLine host pid tick request before = some (reply, store)) :
    LineDone host before request reply store := by
  cases request with
  | advance | recordAttempt | enqueueEvent | control | governance =>
      simp only [performLine] at performed
      split at performed
      next ok =>
        cases performed
        first
          | exact .advanced (advance_advanced ok)
          | exact .recorded ok
          | exact .enqueued ok
          | exact .controlled ok
          | exact .governed ok
      next =>
        cases performed
        exact .failed _
  | _ =>
      cases performed
      exact .read _ (by simp)

end Requests

/-- The journal goes on, and every row that is known stays known as a later version of itself. -/
structure LineMoves (before after : LineWorld) : Prop where
  journal : before.journal <+: after.journal
  entries : ∀ deliveryId entry,
    findByDeliveryId .lineMessagingApi before.store.outbox deliveryId = some entry →
    ∃ later, findByDeliveryId .lineMessagingApi after.store.outbox deliveryId = some later ∧
      EntryLater entry later
  control : ControlLater before.store.control after.store.control

theorem LineMoves.refl (world : LineWorld) : LineMoves world world :=
  ⟨List.prefix_rfl, fun _ entry known => ⟨entry, known, .refl entry⟩, .refl _⟩

theorem LineMoves.trans {first second third : LineWorld} (left : LineMoves first second)
    (right : LineMoves second third) : LineMoves first third where
  journal := left.journal.trans right.journal
  entries := Table.found_trans .trans left.entries right.entries
  control := left.control.trans right.control

theorem LineMoves.mem {before after : LineWorld} (moves : LineMoves before after)
    {step : LinePerformed} (mem : step ∈ before.journal) : step ∈ after.journal :=
  moves.journal.subset mem

/-- A request that puts no entry back into the queue. -/
def Onward : LineRequest → Prop
  | .advance _ _ data => data.state ≠ .queued
  | _ => True

theorem OutboxPatch.apply_later {data : OutboxPatch} (onward : data.state ≠ .queued)
    (entry : DlOutboxEntry) : EntryLater entry (data.apply entry) :=
  ⟨rfl, rfl, rfl, fun _ => onward⟩

variable {world : LineWorld}

theorem LineDone.moves {host : LineHost} {pid : Nat} {request : LineRequest}
    {reply : Except LineError request.Reply} {store : LineStore}
    (done : LineDone host world.store request reply store) (onward : Onward request) :
    LineMoves world (world.performing pid request reply store) where
  journal := List.prefix_append _ _
  entries := by
    intro found entry known
    cases done with
    | @advanced deliveryId expected data reply outbox advanced =>
        rcases advanced.lookup found with same | ⟨-, earlier, present, -, written, -⟩
        · exact ⟨entry, same.trans known, .refl entry⟩
        · rw [known] at present
          cases present
          exact ⟨_, written, OutboxPatch.apply_later onward entry⟩
    | _ => exact ⟨entry, known, .refl entry⟩
  control := by
    cases done with
    | controlled ok => exact LineControlStore.perform_later ok
    | _ => exact .refl _

/-- The calls of the workers are none of it. -/
theorem LineMoves.aside {before after : LineWorld} (store : after.store = before.store)
    (journal : after.journal = before.journal) : LineMoves before after where
  journal := journal ▸ List.prefix_rfl
  entries := by
    rw [store]
    exact fun _ entry known => ⟨entry, known, .refl entry⟩
  control := store ▸ .refl _

variable {host : LineHost} {label : LineElsewhere}

/-- Others go on with their reservations, or add an entry. -/
theorem elsewhere_cases {before after : LineStore}
    (moved : before.elsewhere host label = some after) :
    (∃ governance, after = { before with governance := governance }) ∨
      ∃ entry, freshLineEntry before.outbox entry = true ∧
        after = { before with outbox := before.outbox ++ [entry] } := by
  cases label with
  | runtime step =>
      cases moved
      exact .inl ⟨_, rfl⟩
  | enqueued entry =>
      simp only [LineStore.elsewhere] at moved
      split at moved
      next fresh =>
        cases moved
        exact .inr ⟨entry, fresh, rfl⟩
      next => cases moved

theorem LineMoves.elsewhere {store : LineStore}
    (moved : world.store.elsewhere host label = some store) :
    LineMoves world { world with store := store } := by
  rcases elsewhere_cases moved with ⟨_, rfl⟩ | ⟨entry, -, rfl⟩
  · exact ⟨List.prefix_rfl, fun _ entry known => ⟨entry, known, .refl entry⟩, .refl _⟩
  · refine ⟨List.prefix_rfl, fun deliveryId known present => ?_, .refl _⟩
    obtain ⟨found, ours⟩ := findByDeliveryId_some.mp present
    exact ⟨known, findByDeliveryId_some.mpr ⟨Table.lookup_append found, ours⟩, .refl known⟩

end DContact.Delivery

import DContact.Journey.OutcomeTrigger
import DContact.Lib.Sessions

/-!
# The workers of outcome triggers

Receipts arrive and are claimed, judged and finished by any number of workers. Up to the lock
of the stream an ingest may be overtaken, and between its claim and its transaction a worker
holds nothing but a lease, so that it may still write after another worker took over.
-/

namespace DContact.Journey

open Lib List
open Governance (Instant)
open Definition (JourneyVersionSnapshot)

/-! ## Runs -/

/-- Where a transaction or a worker stands. -/
inductive OutcomeWork where
  | ingesting (input : IngestOutcomeReceiptInput)
  | claimed (receipt : JrOutcomeReceipt)
  | judged (receipt : JrOutcomeReceipt) (verdict : TriggerVerdict)

/-- The receipt that a worker holds. -/
def OutcomeWork.receipt : OutcomeWork → Option JrOutcomeReceipt
  | .ingesting _ => none
  | .claimed receipt | .judged receipt _ => some receipt

structure OutcomeSession where
  tables : JourneyTables
  workers : List (Session OutcomeWork)
  /-- The versions that were applied, in the order of their transactions. -/
  applied : List (OutcomeStream × Nat)

/-- The other transactions of the journeys move enrollments on and work on actions, but they keep
what opened an enrollment. -/
inductive OutcomeStep where
  | lookup (pid : Nat) (input : IngestOutcomeReceiptInput)
  | insert (pid : Nat) (now : Instant) (id : String)
  | claim (pid : Nat) (workerId : String) (now leaseSeconds : Instant) (receiptId : String)
  | judge (pid : Nat) (readings : TriggerReadings)
  | finish (pid : Nat) (now retryDelay : Instant) (ids : Nat → FreshIds)
  | quarantine (pid : Nat) (reasonCode : String)
  | elsewhere (move : EnrollmentRow → EnrollmentRow) (actions : List JrOwnerAction)
      (commands : List JrOwnerCommandOutbox)

/-- A transaction that raises is rolled back. -/
def committed {ε α : Type} (tables : JourneyTables) : Except ε (JourneyTables × α) → JourneyTables
  | .ok (after, _) => after
  | .error _ => tables

namespace OutcomeSession

def answer (session : OutcomeSession) (pid : Nat) (tables : JourneyTables) : OutcomeSession :=
  { session with tables := tables, workers := Session.drop session.workers pid }

def resume (session : OutcomeSession) (pid : Nat) (work : OutcomeWork) : OutcomeSession :=
  { session with workers := Session.replace session.workers pid work }

/-- The end of `executeNext`. -/
def finish (contract : TriggerContract) (session : OutcomeSession) (pid : Nat)
    (now retryDelay : Instant) (ids : Nat → FreshIds) (receipt : JrOutcomeReceipt) :
    TriggerVerdict → OutcomeSession
  | .review reasonCode =>
      session.answer pid (committed session.tables (markReview session.tables receipt.id reasonCode))
  | .retry =>
      session.answer pid
        (committed session.tables (markRetryableFailure now retryDelay session.tables receipt.id))
  | .apply plan =>
      match applyPlan contract now ids session.tables receipt plan with
      | .error _ => session.answer pid session.tables
      | .ok (after, _) =>
          { session.answer pid after with
            applied := session.applied ++ [(receipt.stream, receipt.outcomeVersion)] }

def next (contract : TriggerContract) (session : OutcomeSession) : OutcomeStep → Option OutcomeSession
  | .lookup pid input =>
      match ingestLookup session.tables input with
      | .ok none => some (session.resume pid (.ingesting input))
      | _ => some session
  | .insert pid now id =>
      match Session.find session.workers pid with
      | some (.ingesting input) =>
          some (session.answer pid (committed session.tables (ingestUnderLock now id session.tables input)))
      | _ => none
  | .claim pid workerId now leaseSeconds receiptId =>
      match claimNextReady now leaseSeconds workerId session.tables receiptId with
      | some (after, receipt) => some ({ session with tables := after }.resume pid (.claimed receipt))
      | none => none
  | .judge pid readings =>
      match Session.find session.workers pid with
      | some (.claimed receipt) =>
          some (session.resume pid (.judged receipt (judgeReceipt readings session.tables receipt)))
      | _ => none
  | .finish pid now retryDelay ids =>
      match Session.find session.workers pid with
      | some (.judged receipt verdict) =>
          some (session.finish contract pid now retryDelay ids receipt verdict)
      | _ => none
  | .quarantine pid reasonCode =>
      match (Session.find session.workers pid).bind OutcomeWork.receipt with
      | some receipt =>
          some (session.answer pid
            (committed session.tables (markQuarantined session.tables receipt.id reasonCode)))
      | none => none
  | .elsewhere move actions commands =>
      let moved := session.tables.enrollments.map fun row =>
        { move row with id := row.id, journeyId := row.journeyId, source := row.source }
      some { session with
        tables := { session.tables with enrollments := moved, actions := actions, commands := commands } }

/-- No outcome has arrived yet. -/
structure Fresh (session : OutcomeSession) : Prop where
  receipts : session.tables.outcomeReceipts = []
  heads : session.tables.outcomeHeads = []
  enrollments : ∀ row ∈ session.tables.enrollments, row.outcomeReceiptId = none
  workers : session.workers = []
  applied : session.applied = []

end OutcomeSession

def outcomeTriggers (contract : TriggerContract) : System OutcomeSession OutcomeStep :=
  .ofNext OutcomeSession.Fresh (OutcomeSession.next contract)

/-! ## What is asked of the receipts -/

def OutcomeSession.versionsApplied (session : OutcomeSession) (stream : OutcomeStream) : List Nat :=
  (session.applied.filter fun entry => entry.1 = stream).map Prod.snd

/-- Each version once, and every version after the one before it. -/
def OutcomeSession.AppliedInOrder (session : OutcomeSession) : Prop :=
  ∀ stream, ∃ count, session.versionsApplied stream = List.range' 1 count

def OutcomeSession.StaysApplied (before after : OutcomeSession) : Prop :=
  ∀ row ∈ before.tables.outcomeReceipts, row.state = .applied →
    ∀ later ∈ after.tables.outcomeReceipts, later.id = row.id →
      later.state ∉ [JrReceiptState.ready, .processing]

def streamOf (tables : JourneyTables) (row : EnrollmentRow) : Option OutcomeStream :=
  row.outcomeReceiptId.bind fun receiptId =>
    (tables.findOutcomeReceipt receiptId).map JrOutcomeReceipt.stream

def outcomeKey (tables : JourneyTables) (row : EnrollmentRow) : Option (String × OutcomeStream) :=
  row.journeyId.bind fun journeyId => (streamOf tables row).map fun stream => (journeyId, stream)

def JourneyTables.OneEnrollmentPerOutcome (tables : JourneyTables) : Prop :=
  (tables.enrollments.filterMap (outcomeKey tables)).Nodup

/-- The receipt that a worker is about to apply or to hand back has not been applied. -/
def OutcomeSession.unapplied (session : OutcomeSession) : OutcomeStep → Bool
  | .finish pid _ _ _ =>
      match Session.find session.workers pid with
      | some (.judged _ (.review _)) => true
      | some (.judged receipt _) =>
          (session.tables.findOutcomeReceipt receipt.id).all fun row => row.appliedAt = none
      | _ => true
  | _ => true

/-! ## What an operation does to the receipts -/

def ReceiptsKept (before after : JourneyTables) : Prop :=
  ∀ id row, before.findOutcomeReceipt id = some row →
    ∃ later, after.findOutcomeReceipt id = some later ∧ later.stream = row.stream ∧
      later.outcomeVersion = row.outcomeVersion ∧ (row.appliedAt.isSome → later.appliedAt.isSome)

theorem ReceiptsKept.refl (tables : JourneyTables) : ReceiptsKept tables tables :=
  fun _ row found => ⟨row, found, rfl, rfl, id⟩

variable {first second third : JourneyTables}

theorem ReceiptsKept.trans (left : ReceiptsKept first second) (right : ReceiptsKept second third) :
    ReceiptsKept first third :=
  Table.found_trans (fun before after => ⟨after.1.trans before.1, after.2.1.trans before.2.1,
    fun applied => after.2.2 (before.2.2 applied)⟩) left right

variable {before after : JourneyTables}

theorem ReceiptsKept.of_eq
    (same : after.outcomeReceipts = before.outcomeReceipts) : ReceiptsKept before after := by
  intro id row found
  refine ⟨row, ?_, rfl, rfl, fun applied => applied⟩
  rw [JourneyTables.findOutcomeReceipt, same]
  exact found

structure KeepsIdentity (rewrite : JrOutcomeReceipt → JrOutcomeReceipt) : Prop where
  id : ∀ row, (rewrite row).id = row.id
  stream : ∀ row, (rewrite row).stream = row.stream
  version : ∀ row, (rewrite row).outcomeVersion = row.outcomeVersion
  applied : ∀ row, row.appliedAt.isSome → (rewrite row).appliedAt.isSome

/-- The rewriting of the row with one identifier. -/
def onReceipt (id : String) (rewrite : JrOutcomeReceipt → JrOutcomeReceipt)
    (row : JrOutcomeReceipt) : JrOutcomeReceipt :=
  if row.id = id then rewrite row else row

variable {rewrite : JrOutcomeReceipt → JrOutcomeReceipt}

theorem KeepsIdentity.onReceipt (keeps : KeepsIdentity rewrite) (id : String) :
    KeepsIdentity (onReceipt id rewrite) := by
  constructor <;> intro row <;> unfold Journey.onReceipt <;> split
  · exact keeps.id row
  · rfl
  · exact keeps.stream row
  · rfl
  · exact keeps.version row
  · rfl
  · exact keeps.applied row
  · exact fun applied => applied

theorem promoteWaiting_keeps (stream : OutcomeStream) (lastApplied : Nat) :
    KeepsIdentity (promoteWaiting stream lastApplied) := by
  constructor <;> intro row <;> unfold promoteWaiting <;> split_ifs <;>
    first | rfl | exact fun applied => applied

theorem ReceiptsKept.of_map (keeps : KeepsIdentity rewrite)
    (mapped : after.outcomeReceipts = before.outcomeReceipts.map rewrite) :
    ReceiptsKept before after := by
  intro id row found
  refine ⟨rewrite row, ?_, keeps.stream row, keeps.version row, keeps.applied row⟩
  unfold JourneyTables.findOutcomeReceipt at found ⊢
  rw [mapped, Table.lookup_map keeps.id, found]
  rfl

theorem ReceiptsKept.of_append {row : JrOutcomeReceipt}
    (appended : after.outcomeReceipts = before.outcomeReceipts ++ [row]) :
    ReceiptsKept before after := by
  intro id found isFound
  refine ⟨found, ?_, rfl, rfl, fun applied => applied⟩
  unfold JourneyTables.findOutcomeReceipt Table.lookup at isFound ⊢
  rw [appended, find?_append, isFound]
  rfl

variable {tables : JourneyTables} {id : String}

theorem updateOutcomeReceipt_receipts :
    (tables.updateOutcomeReceipt id rewrite).outcomeReceipts =
      tables.outcomeReceipts.map (onReceipt id rewrite) := rfl

variable {result : JrOutcomeReceipt}

theorem markReceipt_ok :
    markReceipt tables id rewrite = .ok (after, result) ↔
      ∃ row, tables.findOutcomeReceipt id = some row ∧
        after = tables.updateOutcomeReceipt id rewrite ∧ result = rewrite row := by
  unfold markReceipt
  simp only [bind_ok_iff, orFail_ok, Except.ok.injEq, Prod.mk.injEq]
  constructor
  · rintro ⟨row, found, rfl, rfl⟩
    exact ⟨row, found, rfl, rfl⟩
  · rintro ⟨row, found, rfl, rfl⟩
    exact ⟨row, found, rfl, rfl⟩

variable {now : Instant} {receipt : JrOutcomeReceipt}

theorem claimNextReady_some {leaseSeconds : Instant} {workerId : String}
    (claimed : claimNextReady now leaseSeconds workerId tables id = some (after, receipt)) :
    ∃ row, tables.findOutcomeReceipt id = some row ∧
      (row.state = .ready ∨ row.state = .processing) ∧
      (∃ rewrite, KeepsIdentity rewrite ∧ (∀ row, (rewrite row).state = .processing) ∧
        (∀ row, (rewrite row).appliedAt = row.appliedAt) ∧
        after = tables.updateOutcomeReceipt id rewrite ∧ receipt = rewrite row) := by
  unfold claimNextReady at claimed
  split at claimed
  next => cases claimed
  next row found =>
    split at claimed
    next due =>
      cases claimed
      refine ⟨row, found, ?_, _, ⟨?_, ?_, ?_, ?_⟩, ?_, ?_, rfl, rfl⟩
      · unfold receiptClaimable at due
        simp only [Bool.or_eq_true, Bool.and_eq_true, decide_eq_true_eq] at due
        exact due.imp And.left And.left
      all_goals intro row
      · rfl
      · rfl
      · rfl
      · exact fun applied => applied
      · rfl
      · rfl
    next => cases claimed

variable {input : IngestOutcomeReceiptInput}

/-- What an ingest under the lock leaves: the tables, a version under quarantine, or a new row whose
keys are free. -/
theorem ingestUnderLock_ok {outcome : IngestReceiptOutcome}
    (ingested : ingestUnderLock now id tables input = .ok (after, outcome, receipt)) :
    after = tables ∨
      (∃ target rewrite, KeepsIdentity rewrite ∧ (∀ row, (rewrite row).state = .quarantined) ∧
        (∀ row, (rewrite row).appliedAt = row.appliedAt) ∧
        after = tables.updateOutcomeReceipt target rewrite) ∨
      ∃ row, row = newOutcomeReceipt now id input
          (receiptStateFor (tables.lastAppliedVersion input.stream) input.outcomeVersion) ∧
        0 < row.outcomeVersion ∧ tables.outcomeKeyTaken row = false ∧
        after = { tables with outcomeReceipts := tables.outcomeReceipts ++ [row] } := by
  unfold ingestUnderLock at ingested
  obtain ⟨_, positive, ingested⟩ := bind_ok ingested
  rw [ensure_ok] at positive
  split at ingested
  next taken =>
    obtain ⟨raced, -, ingested⟩ := bind_ok ingested
    split at ingested
    next =>
      cases ingested
      refine .inr (.inl ⟨raced.id, _, ⟨?_, ?_, ?_, ?_⟩, ?_, ?_, rfl⟩)
      all_goals intro row
      · rfl
      · rfl
      · rfl
      · exact fun applied => applied
      · rfl
      · rfl
    next =>
      cases ingested
      exact .inl rfl
  next free =>
    cases ingested
    exact .inr (.inr ⟨_, rfl, positive, by simpa using free, rfl⟩)

theorem JourneyTables.outcomeKeyTaken_false {row : JrOutcomeReceipt}
    (free : tables.outcomeKeyTaken row = false) :
    ∀ other ∈ tables.outcomeReceipts, other.id ≠ row.id ∧
      (other.stream = row.stream → other.outcomeVersion ≠ row.outcomeVersion) := by
  intro other mem
  have kept := any_eq_false.mp free other mem
  simp only [Bool.or_eq_true, Bool.and_eq_true, decide_eq_true_eq] at kept
  exact ⟨fun same => kept (.inl (.inl same)), fun stream version => kept (.inr ⟨stream, version⟩)⟩

/-! ## Enrollments of one outcome -/

/-- Every enrollment of an outcome refers to a receipt, and the keys are distinct. -/
structure EnrollmentsOk (tables : JourneyTables) : Prop where
  backed : ∀ row ∈ tables.enrollments, ∀ receiptId, row.outcomeReceiptId = some receiptId →
    ∃ receipt, tables.findOutcomeReceipt receiptId = some receipt
  once : tables.OneEnrollmentPerOutcome

structure KeepsOrigin (rewrite : EnrollmentRow → EnrollmentRow) : Prop where
  journeyId : ∀ row, (rewrite row).journeyId = row.journeyId
  source : ∀ row, (rewrite row).source = row.source

theorem KeepsOrigin.outcomeReceiptId {rewrite : EnrollmentRow → EnrollmentRow}
    (keeps : KeepsOrigin rewrite) (row : EnrollmentRow) :
    (rewrite row).outcomeReceiptId = row.outcomeReceiptId := by
  unfold EnrollmentRow.outcomeReceiptId
  rw [keeps.source]

theorem KeepsOrigin.onEnrollment {rewrite : EnrollmentRow → EnrollmentRow}
    (keeps : KeepsOrigin rewrite) (id : String) :
    KeepsOrigin fun row => if row.id = id then rewrite row else row := by
  constructor <;> intro row <;> split
  · exact keeps.journeyId row
  · rfl
  · exact keeps.source row
  · rfl

theorem keepsOrigin_decideEnrollment (scope : ScopeDecision) :
    KeepsOrigin (decideEnrollment scope) := by
  constructor <;> intro row <;> unfold decideEnrollment <;> split <;> rfl

theorem keepsOrigin_stopEnrollment : KeepsOrigin stopEnrollment := by
  constructor <;> intro row <;> unfold stopEnrollment <;> split <;> rfl

variable {row : EnrollmentRow} {receipt : JrOutcomeReceipt}

theorem streamOf_kept (kept : ReceiptsKept before after)
    {later : EnrollmentRow} (same : later.outcomeReceiptId = row.outcomeReceiptId)
    (backed : ∀ receiptId, row.outcomeReceiptId = some receiptId →
      ∃ receipt, before.findOutcomeReceipt receiptId = some receipt) :
    streamOf after later = streamOf before row := by
  unfold streamOf
  rw [same]
  cases origin : row.outcomeReceiptId with
  | none => rfl
  | some receiptId =>
      obtain ⟨receipt, found⟩ := backed receiptId origin
      obtain ⟨current, foundCurrent, stream, -, -⟩ := kept receiptId receipt found
      simp [found, foundCurrent, stream]

theorem EnrollmentsOk.mapped (ok : EnrollmentsOk before)
    (kept : ReceiptsKept before after) {rewrite : EnrollmentRow → EnrollmentRow}
    (keeps : KeepsOrigin rewrite) (rewritten : after.enrollments = before.enrollments.map rewrite) :
    EnrollmentsOk after := by
  constructor
  · intro row mem receiptId origin
    rw [rewritten] at mem
    obtain ⟨former, present, rfl⟩ := mem_map.mp mem
    rw [keeps.outcomeReceiptId] at origin
    obtain ⟨receipt, found⟩ := ok.backed former present receiptId origin
    obtain ⟨current, foundCurrent, -⟩ := kept receiptId receipt found
    exact ⟨current, foundCurrent⟩
  · unfold JourneyTables.OneEnrollmentPerOutcome
    rw [rewritten, filterMap_map]
    have keys : before.enrollments.filterMap (outcomeKey after ∘ rewrite) =
        before.enrollments.filterMap (outcomeKey before) := by
      apply filterMap_congr
      intro row mem
      have stream := streamOf_kept kept (keeps.outcomeReceiptId row) (ok.backed row mem)
      unfold outcomeKey
      rw [Function.comp_apply, keeps.journeyId, stream]
    rw [keys]
    exact ok.once

theorem EnrollmentsOk.kept (ok : EnrollmentsOk before)
    (kept : ReceiptsKept before after) (same : after.enrollments = before.enrollments) :
    EnrollmentsOk after := by
  have identity : KeepsOrigin id := ⟨fun _ => rfl, fun _ => rfl⟩
  exact ok.mapped kept identity (by rw [same, map_id])

theorem ofStream_iff {stream : OutcomeStream} :
    ofStream tables stream row = true ↔ streamOf tables row = some stream := by
  unfold ofStream streamOf
  cases row.outcomeReceiptId with
  | none => simp
  | some receiptId => cases found : tables.findOutcomeReceipt receiptId <;> simp [found]

theorem EnrollmentsOk.opened (ok : EnrollmentsOk tables) {stored : JrOutcomeReceipt}
    (found : tables.findOutcomeReceipt receipt.id = some stored)
    (stream : stored.stream = receipt.stream) {journeyId : String}
    (journey : row.journeyId = some journeyId) (origin : row.outcomeReceiptId = some receipt.id)
    (free : ∀ other ∈ tables.enrollments, other.journeyId = some journeyId →
      streamOf tables other ≠ some receipt.stream) :
    EnrollmentsOk { tables with enrollments := tables.enrollments ++ [row] } := by
  have keyOfRow : outcomeKey tables row = some (journeyId, receipt.stream) := by
    simp [outcomeKey, journey, streamOf, origin, found, stream]
  constructor
  · intro other mem receiptId otherOrigin
    rcases mem_snoc.mp mem with old | rfl
    · exact ok.backed other old receiptId otherOrigin
    · rw [origin] at otherOrigin
      cases otherOrigin
      exact ⟨stored, found⟩
  · have keys : (tables.enrollments ++ [row]).filterMap (outcomeKey tables) =
        tables.enrollments.filterMap (outcomeKey tables) ++ [(journeyId, receipt.stream)] := by
      rw [filterMap_append, filterMap_cons, keyOfRow]
      rfl
    have fresh : (journeyId, receipt.stream) ∉ tables.enrollments.filterMap (outcomeKey tables) := by
      intro taken
      obtain ⟨other, mem, key⟩ := mem_filterMap.mp taken
      unfold outcomeKey at key
      simp only [Option.bind_eq_some_iff, Option.map_eq_some_iff, Prod.mk.injEq] at key
      obtain ⟨otherJourney, isJourney, otherStream, isStream, rfl, rfl⟩ := key
      exact free other mem isJourney isStream
    have nodup : ((tables.enrollments ++ [row]).filterMap (outcomeKey tables)).Nodup := by
      rw [keys, nodup_append]
      refine ⟨ok.once, by simp, ?_⟩
      intro key present new single same
      rw [mem_singleton] at single
      exact fresh (single ▸ same ▸ present)
    exact nodup

/-! ## The transaction of a worker -/

structure EnrollsOnly (before after : JourneyTables) : Prop where
  receipts : after.outcomeReceipts = before.outcomeReceipts
  heads : after.outcomeHeads = before.outcomeHeads
  enrollments : EnrollmentsOk after

def Stored (tables : JourneyTables) (receipt : JrOutcomeReceipt) : Prop :=
  ∃ stored, tables.findOutcomeReceipt receipt.id = some stored ∧ stored.stream = receipt.stream ∧
    stored.outcomeVersion = receipt.outcomeVersion

theorem Stored.kept (stored : Stored before receipt) (kept : ReceiptsKept before after) :
    Stored after receipt := by
  obtain ⟨row, found, stream, version⟩ := stored
  obtain ⟨later, foundLater, sameStream, sameVersion, -⟩ := kept receipt.id row found
  exact ⟨later, foundLater, sameStream.trans stream, sameVersion.trans version⟩

theorem EnrollsOnly.stored (only : EnrollsOnly before after) (stored : Stored before receipt) :
    Stored after receipt :=
  stored.kept (.of_eq only.receipts)

theorem EnrollsOnly.trans (left : EnrollsOnly first second) (right : EnrollsOnly second third) :
    EnrollsOnly first third :=
  ⟨right.receipts.trans left.receipts, right.heads.trans left.heads, right.enrollments⟩

/-- Rewriting one enrollment, or the actions and commands, leaves the enrollments in order. -/
theorem EnrollsOnly.update (ok : EnrollmentsOk tables) (id : String)
    {rewrite : EnrollmentRow → EnrollmentRow} (keeps : KeepsOrigin rewrite) :
    EnrollsOnly tables (tables.updateEnrollment id rewrite) :=
  ⟨rfl, rfl, ok.mapped (.refl tables) (keeps.onEnrollment id) rfl⟩

theorem EnrollsOnly.withActions (ok : EnrollmentsOk tables)
    (after : JourneyStore) : EnrollsOnly tables (tables.withActions after) :=
  ⟨rfl, rfl, ok.kept (.of_eq rfl) rfl⟩

/-- A write of the plan for a receipt. Of the enrollments that are there, it decides only those
that it takes over. -/
inductive EnrollStep (receipt : JrOutcomeReceipt) (takesOver : String → Prop) (before : JourneyTables) :
    JourneyTables → Prop where
  | actions (after : JourneyStore) : EnrollStep receipt takesOver before (before.withActions after)
  | decided {id : String} (taken : takesOver id) (scope : ScopeDecision) :
      EnrollStep receipt takesOver before (before.updateEnrollment id (decideEnrollment scope))
  | stopped (id : String) :
      EnrollStep receipt takesOver before (before.updateEnrollment id stopEnrollment)
  | opened (scope : ScopeDecision) (now : Instant) (id : String) (snapshot : JourneyVersionSnapshot)
      (entryStepId contactId : String) (fresh : ∀ row ∈ before.enrollments, row.id ≠ id)
      (free : ¬ before.enrollments.any (fun row => row.journeyId = some snapshot.journeyId &&
        ofStream before receipt.stream row) = true) :
      EnrollStep receipt takesOver before
        { before with
          enrollments := before.enrollments ++ [decideEnrollment scope
            (outcomeEnrollment now id snapshot entryStepId receipt contactId)] }

abbrev Enrolls (receipt : JrOutcomeReceipt) (takesOver : String → Prop) :
    JourneyTables → JourneyTables → Prop :=
  Relation.ReflTransGen (EnrollStep receipt takesOver)

section Plan

variable {takesOver : String → Prop} {contactId : String} {ids : FreshIds} {decision : TriggerDecision}
  {contract : TriggerContract} {outcome : TriggerProcessingOutcome}

theorem placeEnrollment_step {placed : JourneyTables} {entryStepId enrollmentId : String}
    (taken : ∀ id, decision.enrollmentId = some id → takesOver id)
    (places : placeEnrollment now ids tables receipt contactId entryStepId decision =
      .ok (some (placed, enrollmentId))) : EnrollStep receipt takesOver tables placed := by
  unfold placeEnrollment at places
  split at places
  next id named =>
    split at places
    next =>
      split at places
      next =>
        cases places
        exact .decided (taken _ named) decision.scope
      next => cases places
    next => cases places
  next =>
    split at places
    next => cases places
    next free =>
      obtain ⟨_, fresh, places⟩ := bind_ok places
      cases places
      exact .opened _ _ _ _ _ _ (ensure_ok.mp fresh) free

theorem applyDecision_enrolls (taken : ∀ id, decision.enrollmentId = some id → takesOver id)
    (applied : applyDecision contract now ids tables receipt contactId decision =
      .ok (after, outcome)) : Enrolls receipt takesOver tables after := by
  unfold applyDecision at applied
  obtain ⟨entryStep, -, applied⟩ := bind_ok applied
  obtain ⟨place, places, applied⟩ := bind_ok applied
  match place, places, applied with
  | none, _, applied =>
      cases applied
      exact .refl
  | some (placed, enrollmentId), places, applied =>
      have placing : Enrolls receipt takesOver tables placed :=
        .single (placeEnrollment_step taken places)
      dsimp only at applied
      split at applied
      next =>
        cases applied
        exact placing
      next =>
        obtain ⟨cursor, -, applied⟩ := bind_ok applied
        replace applied := rest_ok applied
        obtain ⟨ensured, -, applied⟩ := bind_ok applied
        cases applied
        exact placing.tail (.actions ensured.1)

variable {outcomes : List TriggerProcessingOutcome}

theorem applyDecisions_enrolls {decisions : List (FreshIds × TriggerDecision)}
    (taken : ∀ decision ∈ decisions, ∀ id, decision.2.enrollmentId = some id → takesOver id)
    (applied : applyDecisions contract now receipt contactId tables decisions =
      .ok (after, outcomes)) : Enrolls receipt takesOver tables after := by
  induction decisions generalizing tables outcomes with
  | nil =>
      cases applied
      exact .refl
  | cons decision rest ih =>
      unfold applyDecisions at applied
      obtain ⟨first, firstApplied, applied⟩ := bind_ok applied
      obtain ⟨others, othersApplied, applied⟩ := bind_ok applied
      cases applied
      refine (applyDecision_enrolls (taken decision mem_cons_self) firstApplied).trans ?_
      exact ih (fun other mem => taken other (mem_cons_of_mem _ mem)) othersApplied

variable {correlationId : String}

theorem withdrawActions_enrolls {actions : List JrOwnerAction}
    (withdrawn : withdrawActions contract now correlationId tables actions = .ok after) :
    Enrolls receipt takesOver tables after := by
  induction actions generalizing tables with
  | nil =>
      cases withdrawn
      exact .refl
  | cons action rest ih =>
      unfold withdrawActions at withdrawn
      obtain ⟨middle, first, withdrawn⟩ := bind_ok withdrawn
      unfold withdrawAction at first
      obtain ⟨cancelled, -, first⟩ := bind_ok first
      cases first
      exact .head (.actions cancelled.1) (ih withdrawn)

theorem withdrawEnrollments_enrolls {enrollments : List EnrollmentRow}
    (withdrawn : withdrawEnrollments contract now correlationId tables enrollments =
      .ok (after, outcomes)) : Enrolls receipt takesOver tables after := by
  induction enrollments generalizing tables outcomes with
  | nil =>
      cases withdrawn
      exact .refl
  | cons enrollment rest ih =>
      unfold withdrawEnrollments at withdrawn
      obtain ⟨first, firstWithdrawn, withdrawn⟩ := bind_ok withdrawn
      obtain ⟨others, othersWithdrawn, withdrawn⟩ := bind_ok withdrawn
      cases withdrawn
      unfold withdrawEnrollment at firstWithdrawn
      obtain ⟨cancelled, actions, firstWithdrawn⟩ := bind_ok firstWithdrawn
      cases firstWithdrawn
      exact (withdrawActions_enrolls actions).trans (.head (.stopped enrollment.id) (ih othersWithdrawn))

theorem applyPlan_enrolls {ids : Nat → FreshIds} {plan : TriggerPlan}
    (taken : ∀ decision ∈ plan.decisions, ∀ id, decision.enrollmentId = some id → takesOver id)
    (applied : applyPlan contract now ids tables receipt plan = .ok (after, outcome)) :
    ∃ enrolled row, Enrolls receipt takesOver tables enrolled ∧
      markApplied now enrolled receipt.id = .ok (after, row) := by
  unfold applyPlan at applied
  obtain ⟨decided, decisions, applied⟩ := bind_ok applied
  obtain ⟨withdrawn, withdrawals, applied⟩ := bind_ok applied
  obtain ⟨marked, marks, applied⟩ := bind_ok applied
  cases applied
  refine ⟨withdrawn.1, marked.2, ?_, mapError_ok.mp marks⟩
  refine (applyDecisions_enrolls ?_ decisions).trans (withdrawEnrollments_enrolls withdrawals)
  intro decision mem id named
  obtain ⟨⟨planned, index⟩, present, rfl⟩ := mem_map.mp mem
  exact taken planned (fst_mem_of_mem_zipIdx present) id named

theorem EnrollStep.only (ok : EnrollmentsOk before) (stored : Stored before receipt)
    (step : EnrollStep receipt takesOver before after) : EnrollsOnly before after := by
  cases step with
  | actions store => exact .withActions ok store
  | decided _ scope => exact .update ok _ (keepsOrigin_decideEnrollment scope)
  | stopped id => exact .update ok id keepsOrigin_stopEnrollment
  | opened scope now id snapshot entryStepId contactId _ free =>
      obtain ⟨row, found, stream, -⟩ := stored
      have keeps := keepsOrigin_decideEnrollment scope
      refine ⟨rfl, rfl, ok.opened found stream (keeps.journeyId _) (keeps.outcomeReceiptId _) ?_⟩
      intro other mem sameJourney sameStream
      refine free (any_eq_true.mpr ⟨other, mem, ?_⟩)
      rw [ofStream_iff.mpr sameStream, sameJourney]
      simp

theorem applyPlan_ok {ids : Nat → FreshIds} {plan : TriggerPlan} (ok : EnrollmentsOk tables)
    (stored : Stored tables receipt)
    (applied : applyPlan contract now ids tables receipt plan = .ok (after, outcome)) :
    ∃ enrolled row, EnrollsOnly tables enrolled ∧
      markApplied now enrolled receipt.id = .ok (after, row) := by
  obtain ⟨enrolled, row, enrolls, marked⟩ := applyPlan_enrolls (fun _ _ _ _ => trivial) applied
  refine ⟨enrolled, row, ?_, marked⟩
  clear marked
  induction enrolls with
  | refl => exact ⟨rfl, rfl, ok⟩
  | tail _ step ih => exact ih.trans (step.only ih.enrollments (ih.stored stored))

end Plan

variable {contract : TriggerContract}

/-! ## What every step keeps -/

theorem setApplied_keeps (now : Instant) : KeepsIdentity (setApplied now) :=
  ⟨fun _ => rfl, fun _ => rfl, fun _ => rfl, fun _ _ => rfl⟩

theorem markApplied_ok (marked : markApplied now tables id = .ok (after, result)) :
    ∃ row, tables.findOutcomeReceipt id = some row ∧ result = setApplied now row ∧
      after = if (tables.outcomeHead row.stream).all
          (fun head => head.lastAppliedVersion < row.outcomeVersion)
        then advanceOutcomeHead (tables.updateOutcomeReceipt id (setApplied now)) (setApplied now row)
        else tables.updateOutcomeReceipt id (setApplied now) := by
  unfold markApplied at marked
  obtain ⟨⟨updated, receipt⟩, isMarked, marked⟩ := bind_ok marked
  obtain ⟨row, found, rfl, rfl⟩ := markReceipt_ok.mp isMarked
  refine ⟨row, found, ?_⟩
  dsimp only at marked
  split at marked
  next advances =>
    cases marked
    exact ⟨rfl, (if_pos advances).symm⟩
  next stays =>
    cases marked
    exact ⟨rfl, (if_neg stays).symm⟩

theorem advanceOutcomeHead_receipts :
    (advanceOutcomeHead tables receipt).outcomeReceipts =
      tables.outcomeReceipts.map (promoteWaiting receipt.stream receipt.outcomeVersion) := rfl

theorem markApplied_kept (marked : markApplied now tables id = .ok (after, result)) :
    ReceiptsKept tables after ∧ after.enrollments = tables.enrollments := by
  obtain ⟨row, -, -, rfl⟩ := markApplied_ok marked
  have updated : ReceiptsKept tables (tables.updateOutcomeReceipt id (setApplied now)) :=
    .of_map ((setApplied_keeps now).onReceipt id) updateOutcomeReceipt_receipts
  split
  · exact ⟨updated.trans (.of_map (promoteWaiting_keeps _ _) advanceOutcomeHead_receipts), rfl⟩
  · exact ⟨updated, rfl⟩

theorem markReceipt_kept (keeps : KeepsIdentity rewrite)
    (marked : markReceipt tables id rewrite = .ok (after, result)) :
    ReceiptsKept tables after ∧ after.enrollments = tables.enrollments := by
  obtain ⟨row, -, rfl, -⟩ := markReceipt_ok.mp marked
  exact ⟨.of_map (keeps.onReceipt id) updateOutcomeReceipt_receipts, rfl⟩

theorem ingestUnderLock_kept {answer : IngestReceiptOutcome × JrOutcomeReceipt}
    (ingested : ingestUnderLock now id tables input = .ok (after, answer)) :
    ReceiptsKept tables after ∧ after.enrollments = tables.enrollments := by
  rcases ingestUnderLock_ok ingested with rfl | ⟨target, rewrite, keeps, -, -, rfl⟩ |
    ⟨row, -, -, -, rfl⟩
  · exact ⟨.refl _, rfl⟩
  · exact ⟨.of_map (keeps.onReceipt target) updateOutcomeReceipt_receipts, rfl⟩
  · exact ⟨.of_append rfl, rfl⟩

/-- What holds whether or not the transaction commits. -/
theorem committed_cases {ε α : Type} {P : JourneyTables → Prop}
    {result : Except ε (JourneyTables × α)} (stays : P tables)
    (moves : ∀ after value, result = .ok (after, value) → P after) : P (committed tables result) := by
  cases result with
  | error _ => exact stays
  | ok pair => exact moves pair.1 pair.2 rfl

theorem markReview_keeps (reasonCode : String) : KeepsIdentity fun row =>
    { row with state := .review, reviewReasonCode := some reasonCode } :=
  ⟨fun _ => rfl, fun _ => rfl, fun _ => rfl, fun _ applied => applied⟩

theorem markQuarantined_keeps (reasonCode : String) : KeepsIdentity fun row =>
    { row with state := .quarantined, reviewReasonCode := some reasonCode } :=
  ⟨fun _ => rfl, fun _ => rfl, fun _ => rfl, fun _ applied => applied⟩

theorem markRetryable_keeps (now backoff : Instant) : KeepsIdentity fun row =>
    { row with
      state := .ready
      attempts := row.attempts + 1
      availableAt := now + backoff
      leaseOwner := none
      leaseExpiresAt := none } :=
  ⟨fun _ => rfl, fun _ => rfl, fun _ => rfl, fun _ applied => applied⟩

structure Follows (before after : JourneyTables) : Prop where
  kept : ReceiptsKept before after
  enrollments : EnrollmentsOk after

theorem Follows.of_kept (ok : EnrollmentsOk before)
    (change : ReceiptsKept before after ∧ after.enrollments = before.enrollments) :
    Follows before after :=
  ⟨change.1, ok.kept change.1 change.2⟩

structure OutcomeSession.Backed (session : OutcomeSession) : Prop where
  enrollments : EnrollmentsOk session.tables
  workers : ∀ worker ∈ session.workers, ∀ receipt, worker.work.receipt = some receipt →
    Stored session.tables receipt

variable {session : OutcomeSession}

namespace OutcomeSession

section
variable (backed : session.Backed)
include backed

theorem Backed.answer (pid : Nat) (follows : Follows session.tables tables) :
    (session.answer pid tables).Backed := by
  refine ⟨follows.enrollments, ?_⟩
  intro worker mem receipt holds
  exact (backed.workers worker (Session.mem_drop.mp mem).1 receipt holds).kept follows.kept

theorem Backed.resume (pid : Nat) {work : OutcomeWork}
    (stored : ∀ receipt, work.receipt = some receipt → Stored session.tables receipt) :
    (session.resume pid work).Backed :=
  ⟨backed.enrollments, Session.forall_replace backed.workers stored⟩

theorem Backed.found {pid : Nat} {work : OutcomeWork}
    (found : Session.find session.workers pid = some work)
    (holds : work.receipt = some receipt) : Stored session.tables receipt :=
  backed.workers ⟨pid, work⟩ (Session.find_mem found) receipt holds

theorem Backed.finish (pid : Nat) (now retryDelay : Instant) (ids : Nat → FreshIds)
    (stored : Stored session.tables receipt) (verdict : TriggerVerdict) :
    Follows session.tables
      (session.finish contract pid now retryDelay ids receipt verdict).tables ∧
    (session.finish contract pid now retryDelay ids receipt verdict).Backed := by
  have stays : Follows session.tables session.tables :=
    .of_kept backed.enrollments ⟨.refl _, rfl⟩
  cases verdict with
  | review reasonCode =>
      have follows : Follows session.tables
          (committed session.tables (markReview session.tables receipt.id reasonCode)) :=
        committed_cases stays fun after value marked =>
          .of_kept backed.enrollments (markReceipt_kept (markReview_keeps reasonCode) marked)
      exact ⟨follows, backed.answer pid follows⟩
  | retry =>
      have follows : Follows session.tables
          (committed session.tables (markRetryableFailure now retryDelay session.tables receipt.id)) :=
        committed_cases stays fun after value marked =>
          .of_kept backed.enrollments (markReceipt_kept (markRetryable_keeps now retryDelay) marked)
      exact ⟨follows, backed.answer pid follows⟩
  | apply plan =>
      unfold OutcomeSession.finish
      dsimp only
      split
      next => exact ⟨stays, backed.answer pid stays⟩
      next after outcome applied =>
        obtain ⟨enrolled, row, enrolls, marked⟩ := applyPlan_ok backed.enrollments stored applied
        have marking := markApplied_kept marked
        have follows : Follows session.tables after :=
          ⟨(ReceiptsKept.of_eq enrolls.receipts).trans marking.1,
            enrolls.enrollments.kept marking.1 marking.2⟩
        have answered := backed.answer pid follows
        exact ⟨follows, answered.enrollments, answered.workers⟩

/-- One step keeps the receipts, and what the workers hold. -/
theorem Backed.next {after : OutcomeSession} {step : OutcomeStep}
    (taken : session.next contract step = some after) :
    Follows session.tables after.tables ∧ after.Backed := by
  have stays : Follows session.tables session.tables :=
    .of_kept backed.enrollments ⟨.refl _, rfl⟩
  cases step with
  | lookup pid input =>
      unfold OutcomeSession.next at taken
      dsimp only at taken
      split at taken
      next =>
        cases taken
        refine ⟨stays, backed.resume pid ?_⟩
        intro receipt holds
        cases holds
      next =>
        cases taken
        exact ⟨stays, backed⟩
  | insert pid now id =>
      unfold OutcomeSession.next at taken
      dsimp only at taken
      split at taken
      next input found =>
        cases taken
        have follows : Follows session.tables
            (committed session.tables (ingestUnderLock now id session.tables input)) :=
          committed_cases stays fun after value ingested =>
            .of_kept backed.enrollments (ingestUnderLock_kept ingested)
        exact ⟨follows, backed.answer pid follows⟩
      next => cases taken
  | claim pid workerId now leaseSeconds receiptId =>
      unfold OutcomeSession.next at taken
      dsimp only at taken
      split at taken
      next tables receipt claimed =>
        cases taken
        obtain ⟨row, found, -, rewrite, keeps, -, -, rfl, rfl⟩ := claimNextReady_some claimed
        have kept : ReceiptsKept session.tables (session.tables.updateOutcomeReceipt receiptId rewrite) :=
          .of_map (keeps.onReceipt receiptId) updateOutcomeReceipt_receipts
        have follows := Follows.of_kept backed.enrollments ⟨kept, rfl⟩
        refine ⟨follows, follows.enrollments, Session.forall_replace ?_ ?_⟩
        · intro worker mem receipt holds
          exact (backed.workers worker mem receipt holds).kept kept
        · intro receipt holds
          cases holds
          obtain ⟨later, foundLater, stream, version, -⟩ := kept receiptId row found
          have same : row.id = receiptId := Table.lookup_key found
          exact ⟨later, by rw [keeps.id, same]; exact foundLater,
            stream.trans (keeps.stream row).symm, version.trans (keeps.version row).symm⟩
      next => cases taken
  | judge pid readings =>
      unfold OutcomeSession.next at taken
      dsimp only at taken
      split at taken
      next receipt found =>
        cases taken
        refine ⟨stays, backed.resume pid ?_⟩
        intro held holds
        cases holds
        exact backed.found found rfl
      next => cases taken
  | finish pid now retryDelay ids =>
      unfold OutcomeSession.next at taken
      dsimp only at taken
      split at taken
      next receipt verdict found =>
        cases taken
        exact backed.finish pid now retryDelay ids (backed.found found rfl) verdict
      next => cases taken
  | quarantine pid reasonCode =>
      unfold OutcomeSession.next at taken
      dsimp only at taken
      split at taken
      next receipt found =>
        cases taken
        have follows : Follows session.tables
            (committed session.tables (markQuarantined session.tables receipt.id reasonCode)) :=
          committed_cases stays fun after value marked =>
            .of_kept backed.enrollments (markReceipt_kept (markQuarantined_keeps reasonCode) marked)
        exact ⟨follows, backed.answer pid follows⟩
      next => cases taken
  | elsewhere move actions commands =>
      unfold OutcomeSession.next at taken
      cases taken
      have keeps : KeepsOrigin fun row =>
          { move row with id := row.id, journeyId := row.journeyId, source := row.source } :=
        ⟨fun _ => rfl, fun _ => rfl⟩
      refine ⟨⟨.of_eq rfl, ?_⟩, ?_, backed.workers⟩
      · exact backed.enrollments.mapped (.of_eq rfl) keeps rfl
      · exact backed.enrollments.mapped (.of_eq rfl) keeps rfl

end

end OutcomeSession

end DContact.Journey

import DContact.Journey.OutcomeRuns

/-!
# The order of outcome receipts

The head of a stream counts the versions that were applied, and a receipt that is ready, in
work or held by a worker is at most the next one. This lasts as long as no worker writes for a
receipt that was applied already. A worker whose lease ran out may do so: it then applies the
version a second time, or hands the receipt back to be claimed and applied again.
-/

namespace DContact.Journey

open Lib List JourneyTables OutcomeSession
open Governance (Instant)
open Definition (JourneyVersionSnapshot)

/-! ## Receipts against the head -/

/-- A receipt has been applied exactly when the head has reached it, and it is worked on only as the
next version. -/
structure RowOk (lastApplied : Nat) (row : JrOutcomeReceipt) : Prop where
  positive : 0 < row.outcomeVersion
  applied : row.appliedAt.isSome ↔ row.outcomeVersion ≤ lastApplied
  stamped : row.state = .applied → row.appliedAt.isSome
  active : row.state = .ready ∨ row.state = .processing →
    row.appliedAt = none ∧ row.outcomeVersion ≤ lastApplied + 1

structure ReceiptsOk (tables : JourneyTables) : Prop where
  ids : (tables.outcomeReceipts.map JrOutcomeReceipt.id).Nodup
  versions : ∀ left ∈ tables.outcomeReceipts, ∀ right ∈ tables.outcomeReceipts,
    left.stream = right.stream → left.outcomeVersion = right.outcomeVersion → left.id = right.id
  rows : ∀ row ∈ tables.outcomeReceipts, RowOk (tables.lastAppliedVersion row.stream) row
  covered : ∀ stream version, 0 < version → version ≤ tables.lastAppliedVersion stream →
    ∃ row ∈ tables.outcomeReceipts, row.stream = stream ∧ row.outcomeVersion = version

variable {tables : JourneyTables} {id : String} {row : JrOutcomeReceipt}

theorem findOutcomeReceipt_mem (found : tables.findOutcomeReceipt id = some row) :
    row ∈ tables.outcomeReceipts ∧ row.id = id :=
  ⟨Table.lookup_mem found, Table.lookup_key found⟩

variable {after : JourneyTables} {rewrite : JrOutcomeReceipt → JrOutcomeReceipt}

theorem lastAppliedVersion_of_heads {before : JourneyTables}
    (same : after.outcomeHeads = before.outcomeHeads) (stream : OutcomeStream) :
    after.lastAppliedVersion stream = before.lastAppliedVersion stream := by
  unfold lastAppliedVersion outcomeHead
  rw [same]

theorem ReceiptsOk.mapped {before : JourneyTables} (ok : ReceiptsOk before)
    (heads : after.outcomeHeads = before.outcomeHeads) (keeps : KeepsIdentity rewrite)
    (mapped : after.outcomeReceipts = before.outcomeReceipts.map rewrite)
    (rows : ∀ row ∈ before.outcomeReceipts,
      RowOk (before.lastAppliedVersion row.stream) (rewrite row)) : ReceiptsOk after := by
  constructor
  · rw [mapped, map_map]
    have ids : JrOutcomeReceipt.id ∘ rewrite = JrOutcomeReceipt.id := funext keeps.id
    rw [ids]
    exact ok.ids
  · intro left hleft right hright stream version
    rw [mapped] at hleft hright
    obtain ⟨former, present, rfl⟩ := mem_map.mp hleft
    obtain ⟨other, otherPresent, rfl⟩ := mem_map.mp hright
    rw [keeps.stream, keeps.stream] at stream
    rw [keeps.version, keeps.version] at version
    rw [keeps.id, keeps.id]
    exact ok.versions former present other otherPresent stream version
  · intro row mem
    rw [mapped] at mem
    obtain ⟨former, present, rfl⟩ := mem_map.mp mem
    rw [lastAppliedVersion_of_heads heads, keeps.stream]
    exact rows former present
  · intro stream version positive reached
    rw [lastAppliedVersion_of_heads heads] at reached
    obtain ⟨row, mem, isStream, isVersion⟩ := ok.covered stream version positive reached
    refine ⟨rewrite row, ?_, (keeps.stream row).trans isStream, (keeps.version row).trans isVersion⟩
    rw [mapped]
    exact mem_map_of_mem mem

variable {lastApplied : Nat}

/-- A row whose state moves on, and nothing else that counts. -/
theorem RowOk.restated {later : JrOutcomeReceipt} (ok : RowOk lastApplied row)
    (version : later.outcomeVersion = row.outcomeVersion) (appliedAt : later.appliedAt = row.appliedAt)
    (stamped : later.state = .applied → row.state = .applied)
    (active : later.state = .ready ∨ later.state = .processing →
      row.appliedAt = none ∧ row.outcomeVersion ≤ lastApplied + 1) : RowOk lastApplied later := by
  constructor
  · rw [version]
    exact ok.positive
  · rw [appliedAt, version]
    exact ok.applied
  · intro isApplied
    rw [appliedAt]
    exact ok.stamped (stamped isApplied)
  · intro isActive
    rw [appliedAt, version]
    exact active isActive

theorem ReceiptsOk.updated (ok : ReceiptsOk tables) (id : String) (keeps : KeepsIdentity rewrite)
    (row : ∀ row ∈ tables.outcomeReceipts, row.id = id →
      RowOk (tables.lastAppliedVersion row.stream) (rewrite row)) :
    ReceiptsOk (tables.updateOutcomeReceipt id rewrite) := by
  refine ok.mapped rfl (keeps.onReceipt id) updateOutcomeReceipt_receipts ?_
  intro former mem
  unfold onReceipt
  split
  next same => exact row former mem same
  next => exact ok.rows former mem

variable {now : Instant}

theorem ReceiptsOk.appended (ok : ReceiptsOk tables) {input : IngestOutcomeReceiptInput}
    (isNew : row = newOutcomeReceipt now id input
      (receiptStateFor (tables.lastAppliedVersion input.stream) input.outcomeVersion))
    (positive : 0 < row.outcomeVersion) (free : tables.outcomeKeyTaken row = false) :
    ReceiptsOk { tables with outcomeReceipts := tables.outcomeReceipts ++ [row] } := by
  have others := outcomeKeyTaken_false free
  have isStream : row.stream = input.stream := by rw [isNew]; rfl
  have isVersion : row.outcomeVersion = input.outcomeVersion := by rw [isNew]; rfl
  have isState : row.state =
      receiptStateFor (tables.lastAppliedVersion row.stream) row.outcomeVersion := by
    rw [isStream, isVersion, isNew]
    rfl
  have unstamped : row.appliedAt = none := by rw [isNew]; rfl
  have beyond : tables.lastAppliedVersion row.stream < row.outcomeVersion := by
    by_contra reached
    obtain ⟨other, mem, stream, version⟩ :=
      ok.covered row.stream row.outcomeVersion positive (Nat.not_lt.mp reached)
    exact (others other mem).2 stream version
  constructor
  · refine Table.nodup_append ok.ids ?_
    intro taken
    obtain ⟨other, mem, same⟩ := mem_map.mp taken
    exact (others other mem).1 same
  · intro left hleft right hright stream version
    rcases mem_append.mp hleft with old | new
    · rcases mem_append.mp hright with old' | new'
      · exact ok.versions left old right old' stream version
      · cases mem_singleton.mp new'
        exact absurd version ((others left old).2 stream)
    · cases mem_singleton.mp new
      rcases mem_append.mp hright with old' | new'
      · exact absurd version.symm ((others right old').2 stream.symm)
      · rw [mem_singleton.mp new']
  · intro other mem
    rcases mem_append.mp mem with old | new
    · exact ok.rows other old
    · cases mem_singleton.mp new
      have last : lastAppliedVersion
          { tables with outcomeReceipts := tables.outcomeReceipts ++ [row] } row.stream =
            tables.lastAppliedVersion row.stream := lastAppliedVersion_of_heads rfl _
      rw [last]
      constructor
      · exact positive
      · rw [unstamped]
        constructor
        · intro stamped
          cases stamped
        · intro reached
          omega
      · intro applied
        rw [isState] at applied
        unfold receiptStateFor at applied
        split_ifs at applied
      · intro active
        refine ⟨unstamped, ?_⟩
        rw [isState] at active
        unfold receiptStateFor at active
        split_ifs at active with superseded next
        · omega
        · omega
        · rcases active with ready | processing
          · cases ready
          · cases processing
  · intro stream version isPositive reached
    obtain ⟨other, mem, same⟩ := ok.covered stream version isPositive reached
    exact ⟨other, mem_append_left _ mem, same⟩

/-! ## Advancing the head -/

variable {receipt : JrOutcomeReceipt} {stream : OutcomeStream}

theorem advanceOutcomeHead_last :
    (advanceOutcomeHead tables receipt).lastAppliedVersion stream =
      if receipt.stream = stream then receipt.outcomeVersion else tables.lastAppliedVersion stream := by
  unfold lastAppliedVersion outcomeHead advanceOutcomeHead
  dsimp only
  rw [Table.lookup_put]
  split <;> rfl

/-- A receipt of the stream, other than the one that was applied, once the head has advanced. -/
theorem RowOk.promoted (ok : RowOk lastApplied row)
    (stream : OutcomeStream) (other : row.outcomeVersion ≠ lastApplied + 1) :
    RowOk (lastApplied + 1) (promoteWaiting stream (lastApplied + 1) row) := by
  have applied : row.appliedAt.isSome ↔ row.outcomeVersion ≤ lastApplied + 1 := by
    rw [ok.applied]
    omega
  have later : RowOk (lastApplied + 1) row := by
    refine ⟨ok.positive, applied, ok.stamped, ?_⟩
    intro active
    obtain ⟨unstamped, atMost⟩ := ok.active active
    exact ⟨unstamped, by omega⟩
  unfold promoteWaiting
  split
  next =>
    split
    next => exact later.restated rfl rfl (by simp) (by simp)
    split
    next next_ =>
      refine later.restated rfl rfl (by simp) ?_
      intro _
      refine ⟨?_, by omega⟩
      cases stamp : row.appliedAt with
      | none => rfl
      | some instant =>
          have reached := ok.applied.mp (by rw [stamp]; rfl)
          omega
    next => exact later
  next => exact later

theorem promoteWaiting_other (other : row.stream ≠ stream) :
    promoteWaiting stream lastApplied row = row :=
  if_neg fun waits => other waits.1

theorem ReceiptsOk.advanced (ok : ReceiptsOk tables) (now : Instant)
    (found : tables.findOutcomeReceipt id = some row)
    (isNext : row.outcomeVersion = tables.lastAppliedVersion row.stream + 1) :
    ReceiptsOk (advanceOutcomeHead (tables.updateOutcomeReceipt id (setApplied now))
      (setApplied now row)) := by
  obtain ⟨mem, isId⟩ := findOutcomeReceipt_mem found
  have last : ∀ stream, (advanceOutcomeHead (tables.updateOutcomeReceipt id (setApplied now))
      (setApplied now row)).lastAppliedVersion stream =
        if row.stream = stream then row.outcomeVersion else tables.lastAppliedVersion stream :=
    fun stream => advanceOutcomeHead_last
  have keeps : KeepsIdentity fun former =>
      promoteWaiting row.stream row.outcomeVersion (onReceipt id (setApplied now) former) := by
    have inner := (setApplied_keeps now).onReceipt id
    have outer := promoteWaiting_keeps row.stream row.outcomeVersion
    exact ⟨fun former => (outer.id _).trans (inner.id former),
      fun former => (outer.stream _).trans (inner.stream former),
      fun former => (outer.version _).trans (inner.version former),
      fun former applied => outer.applied _ (inner.applied former applied)⟩
  have receipts : (advanceOutcomeHead (tables.updateOutcomeReceipt id (setApplied now))
      (setApplied now row)).outcomeReceipts = tables.outcomeReceipts.map fun former =>
        promoteWaiting row.stream row.outcomeVersion (onReceipt id (setApplied now) former) := by
    rw [advanceOutcomeHead_receipts, updateOutcomeReceipt_receipts, map_map]
    rfl
  -- the head that the table is compared with is the one before, so the rows come first
  have rows : ∀ former ∈ tables.outcomeReceipts,
      RowOk (if row.stream = former.stream then row.outcomeVersion
          else tables.lastAppliedVersion former.stream)
        (promoteWaiting row.stream row.outcomeVersion (onReceipt id (setApplied now) former)) := by
    intro former present
    by_cases same : former.id = id
    · have isRow : former = row := Table.eq_of_key_eq ok.ids present mem (same.trans isId.symm)
      have settled : promoteWaiting row.stream row.outcomeVersion
          (onReceipt id (setApplied now) former) = setApplied now row := by
        rw [onReceipt, if_pos same, isRow, promoteWaiting]
        exact if_neg (by simp [setApplied])
      rw [settled, isRow, if_pos rfl]
      exact ⟨(ok.rows row mem).positive, by simp [setApplied], by simp [setApplied],
        by simp [setApplied]⟩
    · have untouched : onReceipt id (setApplied now) former = former := if_neg same
      rw [untouched]
      by_cases stream : row.stream = former.stream
      · rw [if_pos stream, isNext]
        have former_ok := ok.rows former present
        rw [← stream] at former_ok
        refine former_ok.promoted row.stream ?_
        intro version
        exact same ((ok.versions former present row mem stream.symm
          (version.trans isNext.symm)).trans isId)
      · rw [if_neg stream, promoteWaiting_other (Ne.symm stream)]
        exact ok.rows former present
  constructor
  · rw [receipts, map_map]
    have ids : JrOutcomeReceipt.id ∘ (fun former =>
        promoteWaiting row.stream row.outcomeVersion (onReceipt id (setApplied now) former)) =
          JrOutcomeReceipt.id := funext keeps.id
    rw [ids]
    exact ok.ids
  · intro left hleft right hright stream version
    rw [receipts] at hleft hright
    obtain ⟨former, present, rfl⟩ := mem_map.mp hleft
    obtain ⟨other, otherPresent, rfl⟩ := mem_map.mp hright
    have sameStream := (keeps.stream former).symm.trans (stream.trans (keeps.stream other))
    have sameVersion := (keeps.version former).symm.trans (version.trans (keeps.version other))
    exact (keeps.id former).trans ((ok.versions former present other otherPresent sameStream
      sameVersion).trans (keeps.id other).symm)
  · intro later present
    rw [receipts] at present
    obtain ⟨former, formerPresent, rfl⟩ := mem_map.mp present
    rw [last, keeps.stream]
    exact rows former formerPresent
  · intro stream version positive reached
    rw [last] at reached
    have before : ∃ former ∈ tables.outcomeReceipts,
        former.stream = stream ∧ former.outcomeVersion = version := by
      by_cases here : row.stream = stream
      · rw [if_pos here] at reached
        by_cases final : version = row.outcomeVersion
        · exact ⟨row, mem, here, final.symm⟩
        · refine ok.covered stream version positive ?_
          rw [← here]
          omega
      · rw [if_neg here] at reached
        exact ok.covered stream version positive reached
    obtain ⟨former, present, isStream, isVersion⟩ := before
    rw [receipts]
    exact ⟨_, mem_map_of_mem present, (keeps.stream former).trans isStream,
      (keeps.version former).trans isVersion⟩

/-! ## Runs without late writes -/

structure OutcomeSession.InOrder (session : OutcomeSession) : Prop where
  receipts : ReceiptsOk session.tables
  log : ∀ stream, session.versionsApplied stream =
    List.range' 1 (session.tables.lastAppliedVersion stream)
  workers : ∀ worker ∈ session.workers, ∀ receipt, worker.work.receipt = some receipt →
    receipt.outcomeVersion ≤ session.tables.lastAppliedVersion receipt.stream + 1

structure KeepsOrder (before after : JourneyTables) : Prop where
  heads : after.outcomeHeads = before.outcomeHeads
  receipts : ReceiptsOk after

variable {session : OutcomeSession} {contract : TriggerContract}

namespace OutcomeSession

theorem InOrder.found (inOrder : session.InOrder) {pid : Nat}
    {work : OutcomeWork} (found : Session.find session.workers pid = some work)
    (holds : work.receipt = some receipt) :
    receipt.outcomeVersion ≤ session.tables.lastAppliedVersion receipt.stream + 1 :=
  inOrder.workers ⟨pid, work⟩ (Session.find_mem found) receipt holds

theorem InOrder.answer (inOrder : session.InOrder) (pid : Nat)
    (after : KeepsOrder session.tables tables) :
    (session.answer pid tables).InOrder := by
  refine ⟨after.receipts, ?_, ?_⟩
  · intro stream
    refine (inOrder.log stream).trans ?_
    exact congrArg (fun count => List.range' 1 count) (lastAppliedVersion_of_heads after.heads stream).symm
  · intro worker mem receipt holds
    have atMost := inOrder.workers worker (Session.mem_drop.mp mem).1 receipt holds
    rwa [← lastAppliedVersion_of_heads after.heads] at atMost

theorem InOrder.resume (inOrder : session.InOrder) (pid : Nat) {work : OutcomeWork}
    (atMost : ∀ receipt, work.receipt = some receipt →
      receipt.outcomeVersion ≤ session.tables.lastAppliedVersion receipt.stream + 1) :
    (session.resume pid work).InOrder :=
  ⟨inOrder.receipts, inOrder.log, Session.forall_replace inOrder.workers atMost⟩

theorem unapplied_row (ok : ReceiptsOk tables) (found : tables.findOutcomeReceipt id = some row)
    (unapplied : row.appliedAt = none) :
    tables.lastAppliedVersion row.stream < row.outcomeVersion := by
  by_contra reached
  have applied := ((ok.rows row (findOutcomeReceipt_mem found).1).applied).mpr
    (Nat.not_lt.mp reached)
  rw [unapplied] at applied
  cases applied

theorem retried_ok (ok : ReceiptsOk tables) {backoff : Instant}
    {value : JrOutcomeReceipt} (stored : Stored tables receipt)
    (atMost : receipt.outcomeVersion ≤ tables.lastAppliedVersion receipt.stream + 1)
    (unapplied : (tables.findOutcomeReceipt receipt.id).all fun row => row.appliedAt = none)
    (marked : markRetryableFailure now backoff tables receipt.id = .ok (after, value)) :
    KeepsOrder tables after := by
  obtain ⟨row, found, rfl, -⟩ := markReceipt_ok.mp marked
  obtain ⟨same, sameFound, stream, version⟩ := stored
  rw [sameFound] at found
  cases found
  rw [sameFound] at unapplied
  have unstamped : row.appliedAt = none := by simpa using unapplied
  refine ⟨rfl, ok.updated _ (markRetryable_keeps now backoff) ?_⟩
  intro former mem isId
  have isRow : former = row := Table.eq_of_key_eq ok.ids mem (findOutcomeReceipt_mem sameFound).1
    (isId.trans (findOutcomeReceipt_mem sameFound).2.symm)
  subst isRow
  refine (ok.rows former mem).restated rfl rfl (by simp) ?_
  intro _
  refine ⟨unstamped, ?_⟩
  rw [stream, version]
  exact atMost

/-- Marking a receipt for review, or putting it under quarantine. -/
theorem setAside_ok (ok : ReceiptsOk tables) (keeps : KeepsIdentity rewrite)
    (appliedAt : ∀ row, (rewrite row).appliedAt = row.appliedAt)
    (state : ∀ row, (rewrite row).state ∉ [JrReceiptState.applied, .ready, .processing])
    {value : JrOutcomeReceipt} (marked : markReceipt tables id rewrite = .ok (after, value)) :
    KeepsOrder tables after := by
  obtain ⟨row, -, rfl, -⟩ := markReceipt_ok.mp marked
  refine ⟨rfl, ok.updated id keeps ?_⟩
  intro former mem _
  have aside := state former
  simp only [mem_cons, not_mem_nil, or_false, not_or] at aside
  refine (ok.rows former mem).restated (keeps.version former) (appliedAt former) ?_ ?_
  · intro applied
    exact absurd applied aside.1
  · rintro (ready | processing)
    · exact absurd ready aside.2.1
    · exact absurd processing aside.2.2

section
variable (inOrder : session.InOrder) (backed : session.Backed)
include inOrder backed

theorem InOrder.applied (pid : Nat) {ids : Nat → FreshIds} {plan : TriggerPlan}
    {outcome : TriggerProcessingOutcome} (stored : Stored session.tables receipt)
    (atMost : receipt.outcomeVersion ≤ session.tables.lastAppliedVersion receipt.stream + 1)
    (unapplied : (session.tables.findOutcomeReceipt receipt.id).all fun row => row.appliedAt = none)
    (applied : applyPlan contract now ids session.tables receipt plan = .ok (after, outcome)) :
    InOrder { session.answer pid after with
      applied := session.applied ++ [(receipt.stream, receipt.outcomeVersion)] } := by
  obtain ⟨enrolled, result, enrolls, marked⟩ := applyPlan_ok backed.enrollments stored applied
  obtain ⟨row, found, -, isAfter⟩ := markApplied_ok marked
  obtain ⟨same, sameFound, stream, version⟩ := stored
  have foundBefore : session.tables.findOutcomeReceipt receipt.id = some row := by
    rw [← found, findOutcomeReceipt, findOutcomeReceipt, enrolls.receipts]
  rw [sameFound] at foundBefore
  cases foundBefore
  rw [sameFound] at unapplied
  have beyond := unapplied_row inOrder.receipts sameFound (by simpa using unapplied)
  have isNext : row.outcomeVersion = session.tables.lastAppliedVersion row.stream + 1 := by
    have bound := atMost
    rw [← stream, ← version] at bound
    omega
  have heads := lastAppliedVersion_of_heads enrolls.heads
  have enrolledOk : ReceiptsOk enrolled := by
    refine inOrder.receipts.mapped enrolls.heads ⟨fun _ => rfl, fun _ => rfl, fun _ => rfl,
      fun _ applied => applied⟩ (enrolls.receipts.trans (map_id _).symm) ?_
    exact inOrder.receipts.rows
  have advances : (enrolled.outcomeHead row.stream).all
      (fun head => head.lastAppliedVersion < row.outcomeVersion) = true := by
    have last := heads row.stream
    unfold lastAppliedVersion at last beyond
    cases head : enrolled.outcomeHead row.stream with
    | none => rfl
    | some current =>
        rw [head] at last
        simp only [Option.map_some, Option.getD_some] at last
        simp only [Option.all_some, decide_eq_true_eq]
        rw [last]
        exact beyond
  rw [if_pos advances] at isAfter
  subst isAfter
  have last : ∀ other, (advanceOutcomeHead (enrolled.updateOutcomeReceipt receipt.id (setApplied now))
      (setApplied now row)).lastAppliedVersion other =
        if row.stream = other then row.outcomeVersion
        else session.tables.lastAppliedVersion other := by
    intro other
    rw [← heads other]
    exact advanceOutcomeHead_last
  refine ⟨enrolledOk.advanced now found (by rw [heads]; exact isNext), ?_, ?_⟩
  · intro other
    have former := inOrder.log other
    show ((session.applied ++ [(receipt.stream, receipt.outcomeVersion)]).filter
      fun entry => entry.1 = other).map Prod.snd = _
    rw [filter_append, map_append]
    show session.versionsApplied other ++ _ = _
    rw [former, ← stream, ← version]
    refine Eq.trans ?_ (congrArg (fun count => List.range' 1 count) (last other)).symm
    by_cases here : row.stream = other
    · subst here
      rw [if_pos rfl, isNext, List.range'_concat]
      simp [Nat.add_comm]
    · simp [here]
  · intro worker mem held holds
    have before := inOrder.workers worker (Session.mem_drop.mp mem).1 held holds
    refine Nat.le_trans before (Nat.add_le_add_right (le_of_le_of_eq ?_ (last held.stream).symm) 1)
    split
    next here =>
      rw [← here, isNext]
      exact Nat.le_succ _
    next => exact Nat.le_refl _

theorem InOrder.finish (pid : Nat) (now retryDelay : Instant) (ids : Nat → FreshIds)
    (stored : Stored session.tables receipt)
    (atMost : receipt.outcomeVersion ≤ session.tables.lastAppliedVersion receipt.stream + 1)
    (verdict : TriggerVerdict) (unapplied : (∃ reasonCode, verdict = .review reasonCode) ∨
      (session.tables.findOutcomeReceipt receipt.id).all fun row => row.appliedAt = none) :
    (session.finish contract pid now retryDelay ids receipt verdict).InOrder := by
  have stays : KeepsOrder session.tables session.tables := ⟨rfl, inOrder.receipts⟩
  cases verdict with
  | review reasonCode =>
      refine inOrder.answer pid (committed_cases stays ?_)
      intro after value marked
      exact setAside_ok inOrder.receipts (markReview_keeps reasonCode) (fun _ => rfl) (by simp) marked
  | retry =>
      refine inOrder.answer pid (committed_cases stays ?_)
      intro after value marked
      rcases unapplied with ⟨reasonCode, isReview⟩ | unapplied
      · cases isReview
      · exact retried_ok inOrder.receipts stored atMost unapplied marked
  | apply plan =>
      unfold OutcomeSession.finish
      dsimp only
      split
      next => exact inOrder.answer pid stays
      next after outcome applied =>
        rcases unapplied with ⟨reasonCode, isReview⟩ | unapplied
        · cases isReview
        · exact inOrder.applied backed pid stored atMost unapplied applied

/-- A step that writes for no receipt that was applied already keeps the order. -/
theorem InOrder.next {after : OutcomeSession} {step : OutcomeStep}
    (unapplied : session.unapplied step = true) (taken : session.next contract step = some after) :
    after.InOrder := by
  have stays : KeepsOrder session.tables session.tables := ⟨rfl, inOrder.receipts⟩
  cases step with
  | lookup pid input =>
      unfold OutcomeSession.next at taken
      dsimp only at taken
      split at taken
      next =>
        cases taken
        refine inOrder.resume pid ?_
        intro receipt holds
        cases holds
      next =>
        cases taken
        exact inOrder
  | insert pid now id =>
      unfold OutcomeSession.next at taken
      dsimp only at taken
      split at taken
      next input found =>
        cases taken
        refine inOrder.answer pid (committed_cases stays ?_)
        intro tables value ingested
        rcases ingestUnderLock_ok ingested with rfl | ⟨target, rewrite, keeps, state, appliedAt, rfl⟩ |
          ⟨row, isNew, positive, free, rfl⟩
        · exact stays
        · refine ⟨rfl, inOrder.receipts.updated target keeps ?_⟩
          intro former mem _
          exact (inOrder.receipts.rows former mem).restated (keeps.version former)
            (appliedAt former) (by simp [state]) (by simp [state])
        · exact ⟨rfl, inOrder.receipts.appended isNew positive free⟩
      next => cases taken
  | claim pid workerId now leaseSeconds receiptId =>
      unfold OutcomeSession.next at taken
      dsimp only at taken
      split at taken
      next tables receipt claimed =>
        cases taken
        obtain ⟨row, found, due, rewrite, keeps, state, appliedAt, rfl, rfl⟩ :=
          claimNextReady_some claimed
        obtain ⟨mem, isId⟩ := findOutcomeReceipt_mem found
        obtain ⟨unstamped, atMost⟩ := (inOrder.receipts.rows row mem).active due
        refine ⟨inOrder.receipts.updated receiptId keeps ?_, inOrder.log,
          Session.forall_replace inOrder.workers ?_⟩
        · intro former present same
          have isRow : former = row := Table.eq_of_key_eq inOrder.receipts.ids present mem
            (same.trans isId.symm)
          subst isRow
          exact (inOrder.receipts.rows former mem).restated (keeps.version former)
            (appliedAt former) (by simp [state]) (fun _ => ⟨unstamped, atMost⟩)
        · intro held holds
          cases holds
          rw [keeps.version, keeps.stream]
          exact atMost
      next => cases taken
  | judge pid readings =>
      unfold OutcomeSession.next at taken
      dsimp only at taken
      split at taken
      next receipt found =>
        cases taken
        refine inOrder.resume pid ?_
        intro held holds
        cases holds
        exact inOrder.found found rfl
      next => cases taken
  | finish pid now retryDelay ids =>
      unfold OutcomeSession.next at taken
      dsimp only at taken
      split at taken
      next receipt verdict found =>
        cases taken
        refine inOrder.finish backed pid now retryDelay ids (backed.found found rfl)
          (inOrder.found found rfl) verdict ?_
        unfold OutcomeSession.unapplied at unapplied
        dsimp only at unapplied
        rw [found] at unapplied
        cases verdict with
        | review reasonCode => exact .inl ⟨reasonCode, rfl⟩
        | retry => exact .inr unapplied
        | apply plan => exact .inr unapplied
      next => cases taken
  | quarantine pid reasonCode =>
      unfold OutcomeSession.next at taken
      dsimp only at taken
      split at taken
      next receipt found =>
        cases taken
        refine inOrder.answer pid (committed_cases stays ?_)
        intro tables value marked
        exact setAside_ok inOrder.receipts (markQuarantined_keeps reasonCode) (fun _ => rfl) (by simp)
          marked
      next => cases taken
  | elsewhere move actions commands =>
      unfold OutcomeSession.next at taken
      cases taken
      have receipts : ReceiptsOk session.tables := inOrder.receipts
      exact ⟨⟨receipts.ids, receipts.versions, receipts.rows, receipts.covered⟩, inOrder.log,
        inOrder.workers⟩

end

end OutcomeSession

/-! ## Whole runs -/

/-- Only those steps that write for no receipt which was applied already. -/
def withoutLateWrites (contract : TriggerContract) : System OutcomeSession OutcomeStep :=
  (outcomeTriggers contract).restrict fun session step => session.unapplied step = true

section Runs

variable {before after : OutcomeSession}

theorem OutcomeSession.Fresh.backed (fresh : session.Fresh) : session.Backed := by
  refine ⟨⟨?_, ?_⟩, ?_⟩
  · intro row mem receiptId origin
    rw [fresh.enrollments row mem] at origin
    cases origin
  · have none_ : session.tables.enrollments.filterMap (outcomeKey session.tables) = [] := by
      rw [filterMap_eq_nil_iff]
      intro row mem
      unfold outcomeKey streamOf
      rw [fresh.enrollments row mem]
      cases row.journeyId <;> rfl
    unfold JourneyTables.OneEnrollmentPerOutcome
    rw [none_]
    exact nodup_nil
  · intro worker mem
    rw [fresh.workers] at mem
    cases mem

theorem OutcomeSession.Fresh.inOrder (fresh : session.Fresh) : session.InOrder := by
  have last : ∀ stream, session.tables.lastAppliedVersion stream = 0 := by
    intro stream
    unfold lastAppliedVersion outcomeHead
    rw [fresh.heads]
    rfl
  refine ⟨⟨?_, ?_, ?_, ?_⟩, ?_, ?_⟩
  · rw [fresh.receipts]
    exact nodup_nil
  · intro left mem
    rw [fresh.receipts] at mem
    cases mem
  · intro row mem
    rw [fresh.receipts] at mem
    cases mem
  · intro stream version positive reached
    rw [last] at reached
    omega
  · intro stream
    rw [versionsApplied, fresh.applied, last]
    rfl
  · intro worker mem
    rw [fresh.workers] at mem
    cases mem

theorem backed_of_reachable (reachable : (outcomeTriggers contract).Reachable session) :
    session.Backed := by
  refine reachable.invariant ?_ ?_
  · intro start initial
    exact OutcomeSession.Fresh.backed initial
  · intro source step target backed taken
    exact (backed.next taken).2

/-- The invariant of the runs without late writes. -/
structure OutcomeSession.OnTime (session : OutcomeSession) : Prop where
  backed : session.Backed
  inOrder : session.InOrder

theorem onTime_of_reachable (reachable : (withoutLateWrites contract).Reachable session) :
    session.OnTime := by
  refine reachable.invariant ?_ ?_
  · intro start initial
    exact ⟨OutcomeSession.Fresh.backed initial, OutcomeSession.Fresh.inOrder initial⟩
  · rintro source step target ⟨backed, inOrder⟩ ⟨unapplied, taken⟩
    exact ⟨(backed.next taken).2, inOrder.next backed unapplied taken⟩

theorem receiptsKept_of_run (reachable : (withoutLateWrites contract).Reachable before)
    (run : (withoutLateWrites contract).Reaches before after) :
    ReceiptsKept before.tables after.tables := by
  refine System.Reaches.related (R := fun first second => ReceiptsKept first.tables second.tables)
    (fun session => .refl session.tables) ?_ ?_ ?_ (backed_of_reachable reachable.of_restrict) run
  · intro first second third left right
    exact left.trans right
  · intro source step target backed hstep
    exact (OutcomeSession.Backed.next backed hstep.2).2
  · intro source step target backed hstep
    exact (OutcomeSession.Backed.next backed hstep.2).1.kept

/-- In a run whose workers write for no receipt that was applied already, the versions of every
outcome are applied one after another, what is applied stays so, and no journey enrolls twice. -/
theorem outcome_receipts_applied_in_order (reachable : (withoutLateWrites contract).Reachable before)
    (run : (withoutLateWrites contract).Reaches before after) :
    after.AppliedInOrder ∧ before.StaysApplied after ∧ after.tables.OneEnrollmentPerOutcome := by
  have start := (onTime_of_reachable reachable).inOrder
  obtain ⟨backed, finish⟩ := onTime_of_reachable (reachable.reaches run)
  refine ⟨fun stream => ⟨_, finish.log stream⟩, ?_, backed.enrollments.once⟩
  intro row mem applied later laterMember same active
  have found : before.tables.findOutcomeReceipt row.id = some row :=
    Table.lookup_of_member start.receipts.ids mem rfl
  obtain ⟨current, foundCurrent, -, -, stamped⟩ := receiptsKept_of_run reachable run row.id row found
  have isLater : current = later := Table.eq_of_key_eq finish.receipts.ids
    (findOutcomeReceipt_mem foundCurrent).1 laterMember
    ((findOutcomeReceipt_mem foundCurrent).2.trans same.symm)
  subst isLater
  have applied := stamped ((start.receipts.rows row mem).stamped applied)
  have unstamped := ((finish.receipts.rows current laterMember).active (by simpa using active)).1
  rw [unstamped] at applied
  cases applied

end Runs

/-! ## A lease that runs out -/

def sampleTriggerContract : TriggerContract where
  tenantId := "tenant"
  digest := String.join
  canonicalOwnerRequestHash payload := payload.commandId ++ payload.actionKey
  toISOString instant := toString instant

/-- A journey that opens a case for every abandoned interaction. -/
def abandonedJourney : JourneyVersionSnapshot where
  name := "abandoned"
  ownerTeamId := "service"
  purpose := "SERVICE"
  senderIdentityId := "sender"
  trigger := .interactionOutcome .interactionAbandoned none
  graph := {
    entryStepId := "case"
    steps := [.actionIntent ⟨"case", .ensureCase "callback" "routing", "cases", "done", "done"⟩,
      .exit "done" "finished"] }
  goal := ⟨"goal"⟩
  exitRules := [.goal]
  maxDurationDays := 7
  journeyId := "journey"
  version := 1
  status := .published

/-- The readings of a worker whose scope service gives the same answer for every team. -/
def sampleReadings (scope : ScopeDecision) : TriggerReadings where
  resolveByContactId := some
  matched := [abandonedJourney]
  getVersion _ _ := some abandonedJourney
  authorize _ _ := scope

def abandonedOutcome : IngestOutcomeReceiptInput where
  source := "cx"
  eventId := "event"
  stream := ⟨"INTERACTION_ABANDONED", "outcome"⟩
  outcomeVersion := 1
  payloadHash := "hash"
  payload := ⟨"interaction", some "contact", none, "2026-01-01T00:00:00Z"⟩
  correlationId := "correlation"
  causationId := none

def sampleIds (worker : String) (index : Nat) : FreshIds :=
  ⟨worker ++ "-enrollment-" ++ toString index, worker ++ "-action-" ++ toString index,
    worker ++ "-command-" ++ toString index⟩

def idleSession : OutcomeSession := ⟨JourneyTables.empty, [], []⟩

theorem idleSession_fresh : idleSession.Fresh := by
  refine ⟨rfl, rfl, ?_, rfl, rfl⟩
  exact forall_mem_nil _

/-- The first worker asks for the scope too early. Its lease runs out, and a second worker takes the
receipt over and applies it. -/
def takenOver : List OutcomeStep :=
  [.lookup 0 abandonedOutcome, .insert 0 0 "receipt",
    .claim 1 "first" 0 30 "receipt", .judge 1 (sampleReadings .defer),
    .claim 2 "second" 30000 30 "receipt", .judge 2 (sampleReadings .allow),
    .finish 2 30001 0 (sampleIds "second")]

def handedBack : OutcomeStep := .finish 1 30002 0 (sampleIds "first")

def appliedAgain : List OutcomeStep :=
  takenOver ++ [handedBack, .claim 3 "third" 30003 30 "receipt", .judge 3 (sampleReadings .allow)]

/-- Without the late write of the first worker the run is in order. -/
theorem outcome_receipts_applied_when_taken_over :
    ∃ before after, (withoutLateWrites sampleTriggerContract).Reachable before ∧
      (withoutLateWrites sampleTriggerContract).Reaches before after ∧
      (after.AppliedInOrder ∧ before.StaysApplied after ∧ after.tables.OneEnrollmentPerOutcome) ∧
        after.applied.length = 1 := by
  have ends : System.endsWith
      (System.guardNext unapplied (next sampleTriggerContract))
      idleSession takenOver (.lookup 5 abandonedOutcome)
      (fun _ after => after.applied.length = 1) = true := by decide +kernel
  obtain ⟨before, after, reachable, last, applied⟩ :=
    System.Reachable.endsWithGuarded idleSession_fresh ends
  have run : (withoutLateWrites sampleTriggerContract).Reaches before after := .single ⟨_, last⟩
  exact ⟨before, after, reachable, run, outcome_receipts_applied_in_order reachable run,
    of_decide_eq_true applied⟩

/-- The receipt that the second worker applied is ready once more, and its version is applied a
second time. -/
theorem outcome_receipts_are_applied_again :
    (¬ ∀ before after, (outcomeTriggers sampleTriggerContract).Reachable before →
        (outcomeTriggers sampleTriggerContract).Reaches before after → before.StaysApplied after) ∧
      ¬ ∀ session, (outcomeTriggers sampleTriggerContract).Reachable session →
        session.AppliedInOrder := by
  constructor
  · intro stays
    have ends : System.endsWith (next sampleTriggerContract) idleSession takenOver
        handedBack (fun before after =>
          before.tables.outcomeReceipts.any (fun row => row.id = "receipt" && row.state = .applied) &&
          after.tables.outcomeReceipts.any fun row => row.id = "receipt" && row.state = .ready) =
        true := by decide +kernel
    obtain ⟨before, after, reachable, last, states⟩ :=
      System.Reachable.endsWith idleSession_fresh ends
    have run : (outcomeTriggers sampleTriggerContract).Reaches before after := .single ⟨_, last⟩
    simp only [Bool.and_eq_true, any_eq_true, decide_eq_true_eq] at states
    obtain ⟨⟨row, mem, isRow, applied⟩, later, laterMember, isLater, ready⟩ := states
    refine stays before after reachable run row mem applied later laterMember
      (isLater.trans isRow.symm) ?_
    rw [ready]
    exact mem_cons_self
  · intro inOrder
    have ends : System.endsWith (next sampleTriggerContract) idleSession appliedAgain
        (.finish 3 30004 0 (sampleIds "third"))
        (fun _ after => after.versionsApplied abandonedOutcome.stream = [1, 1]) = true := by
      decide +kernel
    obtain ⟨before, after, reachable, last, twice⟩ :=
      System.Reachable.endsWith idleSession_fresh ends
    obtain ⟨count, counted⟩ := inOrder after (reachable.step last) abandonedOutcome.stream
    have isTwice := of_decide_eq_true twice
    rw [counted] at isTwice
    have distinct : (List.range' 1 count).Nodup := nodup_range'
    rw [isTwice] at distinct
    cases distinct with
    | cons other _ => exact other 1 mem_cons_self rfl

end DContact.Journey

import DContact.Journey.SegmentTrigger

/-!
# Entries into a segment

An entry that a contact left is closed for good: no enrollment is opened for it again. The
head remembers the entry that was closed first, so this lasts as long as no other entry of the
stream is closed. A receipt under quarantine stays there as long as no worker writes for it.
-/

namespace DContact.Journey

open Lib List SegmentSession Table
open Governance (Instant)
open Definition (JourneyVersionSnapshot)

/-! ## What is asked of entries -/

def EntryClosed (tables : JourneyTables) (stream : SegmentStream) (entryId : String) : Prop :=
  ∃ row ∈ tables.segmentReceipts, row.stream = stream ∧ row.changeKind = "LEFT" ∧
    row.entryId = some entryId ∧ row.state = .applied

/-- Whoever asks for enrollments of an entry that was closed is refused, and nothing is written. -/
def NeverRevived (before after : JourneyTables) : Prop :=
  ∀ now ids input event receipt, after.findSegmentReceipt input.receiptId = some receipt →
    EntryClosed before receipt.stream input.entryId →
      applyEnrollment now ids after input event = .error (.entryTerminal input.entryId)

/-- What was under quarantine is never applied. -/
def StaysUnapplied (before after : JourneyTables) : Prop :=
  ∀ row ∈ before.segmentReceipts, row.state = .quarantined →
    ∀ later ∈ after.segmentReceipts, later.id = row.id → later.state ≠ .applied

def terminalOf (tables : JourneyTables) (stream : SegmentStream) : Option SegmentTerminal :=
  (tables.segmentHead stream).bind JrSegmentHead.terminal

/-- A worker does not write for a receipt under quarantine, and closes an entry only if the stream
has closed no other one. -/
def SegmentSession.fenced (session : SegmentSession) : SegmentStep → Bool
  | .finish pid _ _ _ =>
      match Session.find session.workers pid with
      | some (.judged receipt verdict) =>
          (session.tables.findSegmentReceipt receipt.id).all (fun row => row.state ≠ .quarantined) &&
            match verdict with
            | .refilter input _ =>
                input.terminalEntryId.all fun entryId =>
                  (terminalOf session.tables receipt.stream).all fun terminal =>
                    terminal.entryId = entryId
            | _ => true
      | _ => true
  | _ => true

/-! ## What an operation does to the receipts -/

structure KeepsReport (rewrite : JrSegmentReceipt → JrSegmentReceipt) : Prop where
  id : ∀ row, (rewrite row).id = row.id
  stream : ∀ row, (rewrite row).stream = row.stream
  changeKind : ∀ row, (rewrite row).changeKind = row.changeKind
  entryId : ∀ row, (rewrite row).entryId = row.entryId

def onSegment (id : String) (rewrite : JrSegmentReceipt → JrSegmentReceipt)
    (row : JrSegmentReceipt) : JrSegmentReceipt :=
  if row.id = id then rewrite row else row

variable {rewrite : JrSegmentReceipt → JrSegmentReceipt}

theorem KeepsReport.onSegment (keeps : KeepsReport rewrite)
    (id : String) : KeepsReport (onSegment id rewrite) := by
  constructor <;> intro row <;> unfold Journey.onSegment <;> split
  · exact keeps.id row
  · rfl
  · exact keeps.stream row
  · rfl
  · exact keeps.changeKind row
  · rfl
  · exact keeps.entryId row
  · rfl

theorem promoteWaitingSegment_keeps (stream : SegmentStream) (lastApplied : Nat) :
    KeepsReport (promoteWaitingSegment stream lastApplied) := by
  constructor <;> intro row <;> unfold promoteWaitingSegment <;> split_ifs <;> rfl

theorem promoteWaitingSegment_state (stream : SegmentStream) (lastApplied : Nat)
    (row : JrSegmentReceipt) :
    (promoteWaitingSegment stream lastApplied row).state = row.state ∨
      row.state = .waitingForGap ∧
        (promoteWaitingSegment stream lastApplied row).state ∈
          [JrReceiptState.ready, .ignoredSuperseded] := by
  unfold promoteWaitingSegment
  split_ifs with waits
  · exact .inr ⟨waits.2, by simp⟩
  · exact .inr ⟨waits.2, by simp⟩
  · exact .inl rfl
  · exact .inl rfl

variable {tables after : JourneyTables} {id : String} {result : JrSegmentReceipt}

theorem updateSegmentReceipt_ok :
    updateSegmentReceipt tables id rewrite = .ok (after, result) ↔
      ∃ row, tables.findSegmentReceipt id = some row ∧ (rewrite row).checked = true ∧
        after = { tables with
          segmentReceipts := tables.segmentReceipts.map (onSegment id rewrite) } ∧
        result = rewrite row := by
  unfold updateSegmentReceipt
  simp only [bind_ok_iff, orFail_ok, ensure_ok, exists_const, Except.ok.injEq, Prod.mk.injEq]
  constructor
  · rintro ⟨row, found, checked, rfl, rfl⟩
    exact ⟨row, found, checked, rfl, rfl⟩
  · rintro ⟨row, found, checked, rfl, rfl⟩
    exact ⟨row, found, checked, rfl, rfl⟩

variable {row : JrSegmentReceipt}

theorem findSegmentReceipt_mem
    (found : tables.findSegmentReceipt id = some row) : row ∈ tables.segmentReceipts ∧ row.id = id :=
  ⟨lookup_mem found, lookup_key found⟩

/-- The identifiers are distinct, no receipt names the empty entry, and the head remembers what was
closed. -/
structure SegmentsOk (tables : JourneyTables) : Prop where
  ids : (tables.segmentReceipts.map JrSegmentReceipt.id).Nodup
  given : ∀ row ∈ tables.segmentReceipts, givenText row.entryId = row.entryId
  closed : ∀ stream entryId, EntryClosed tables stream entryId →
    (terminalOf tables stream).map SegmentTerminal.entryId = some entryId

structure SameReport (former later : JrSegmentReceipt) : Prop where
  stream : later.stream = former.stream
  changeKind : later.changeKind = former.changeKind
  entryId : later.entryId = former.entryId

theorem SameReport.refl (row : JrSegmentReceipt) : SameReport row row := ⟨rfl, rfl, rfl⟩

theorem SameReport.trans {first second third : JrSegmentReceipt} (left : SameReport first second)
    (right : SameReport second third) : SameReport first third :=
  ⟨right.stream.trans left.stream, right.changeKind.trans left.changeKind,
    right.entryId.trans left.entryId⟩

/-- Receipts stay, keep their report and stay set aside, and the closed entry of a stream is
remembered. -/
structure SegmentMoves (before after : JourneyTables) : Prop where
  kept : ∀ id row, before.findSegmentReceipt id = some row →
    ∃ later, after.findSegmentReceipt id = some later ∧ SameReport row later ∧
      (row.state = .quarantined → later.state = .quarantined)
  remembered : ∀ stream terminal, terminalOf before stream = some terminal →
    terminalOf after stream = some terminal
  ok : SegmentsOk after

theorem SegmentsOk.stays (ok : SegmentsOk tables) : SegmentMoves tables tables :=
  ⟨fun _ row found => ⟨row, found, .refl row, fun quarantined => quarantined⟩,
    fun _ _ known => known, ok⟩

theorem SegmentMoves.trans {first second third : JourneyTables} (left : SegmentMoves first second)
    (right : SegmentMoves second third) : SegmentMoves first third where
  kept := found_trans (fun before after =>
    ⟨before.1.trans after.1, fun quarantined => after.2 (before.2 quarantined)⟩) left.kept right.kept
  remembered stream terminal known :=
    right.remembered stream terminal (left.remembered stream terminal known)
  ok := right.ok

theorem ids_map (keeps : KeepsReport rewrite) (rows : List JrSegmentReceipt) :
    (rows.map rewrite).map JrSegmentReceipt.id = rows.map JrSegmentReceipt.id := by
  rw [map_map]
  exact map_congr_left fun row _ => keeps.id row

variable {before : JourneyTables}

theorem SegmentsOk.mapped (ok : SegmentsOk before) (keeps : KeepsReport rewrite)
    (mapped : after.segmentReceipts = before.segmentReceipts.map rewrite)
    (aside : ∀ row ∈ before.segmentReceipts, row.state = .quarantined →
      (rewrite row).state = .quarantined)
    (remembered : ∀ stream terminal, terminalOf before stream = some terminal →
      terminalOf after stream = some terminal)
    (applies : ∀ row ∈ before.segmentReceipts, (rewrite row).state = .applied →
      row.changeKind = "LEFT" → ∀ entryId, row.entryId = some entryId →
        row.state = .applied ∨
          (terminalOf after row.stream).map SegmentTerminal.entryId = some entryId) :
    SegmentMoves before after := by
  refine ⟨?_, remembered, ?_, ?_, ?_⟩
  · intro id row found
    refine ⟨rewrite row, ?_, ⟨keeps.stream row, keeps.changeKind row, keeps.entryId row⟩,
      aside row (findSegmentReceipt_mem found).1⟩
    unfold JourneyTables.findSegmentReceipt at found ⊢
    rw [mapped, lookup_map keeps.id, found]
    rfl
  · rw [mapped, ids_map keeps]
    exact ok.ids
  · intro row mem
    rw [mapped] at mem
    obtain ⟨former, present, rfl⟩ := mem_map.mp mem
    rw [keeps.entryId]
    exact ok.given former present
  · rintro stream entryId ⟨row, mem, rfl, left, entry, applied⟩
    rw [mapped] at mem
    obtain ⟨former, present, rfl⟩ := mem_map.mp mem
    rw [keeps.changeKind] at left
    rw [keeps.entryId] at entry
    rw [keeps.stream]
    rcases applies former present applied left entryId entry with was | is
    · have known := ok.closed former.stream entryId ⟨former, present, rfl, left, entry, was⟩
      obtain ⟨terminal, isTerminal, isEntry⟩ := Option.map_eq_some_iff.mp known
      rw [remembered former.stream terminal isTerminal]
      exact congrArg some isEntry
    · exact is

/-! ## The operations -/

structure Advances (before : JourneyTables) (receipt : JrSegmentReceipt)
    (after : JourneyTables × JrSegmentHead) : Prop where
  receipts : ∃ rewrite, KeepsReport rewrite ∧
    (∀ row, (rewrite row).state = row.state ∨ row.state = .waitingForGap ∧
      (rewrite row).state ∈ [JrReceiptState.ready, .ignoredSuperseded]) ∧
    after.1.segmentReceipts = before.segmentReceipts.map rewrite
  terminals : ∀ stream, terminalOf after.1 stream = terminalOf before stream
  head : after.1.segmentHead receipt.stream = some after.2
  stream : after.2.stream = receipt.stream

theorem segmentHead_putSegmentHead (tables : JourneyTables) (head : JrSegmentHead)
    (stream : SegmentStream) :
    (putSegmentHead tables head).segmentHead stream =
      if head.stream = stream then some head else tables.segmentHead stream := by
  unfold JourneyTables.segmentHead putSegmentHead
  exact lookup_put

theorem advanceHead_advances (tables : JourneyTables) (receipt : JrSegmentReceipt) :
    Advances tables receipt (advanceHead tables receipt) := by
  -- A head that is written keeps the closed entry, and a new one has none.
  have written : ∀ head : JrSegmentHead, head.stream = receipt.stream →
      (tables.segmentHead receipt.stream).bind JrSegmentHead.terminal = head.terminal →
        Advances tables receipt (promoteWaitingSegments (putSegmentHead tables head) receipt, head) := by
    intro head ofStream keeps
    refine ⟨⟨_, promoteWaitingSegment_keeps _ _, promoteWaitingSegment_state _ _, rfl⟩, ?_, ?_,
      ofStream⟩
    · intro stream
      have found : (promoteWaitingSegments (putSegmentHead tables head) receipt).segmentHead stream =
          if head.stream = stream then some head else tables.segmentHead stream :=
        segmentHead_putSegmentHead tables head stream
      unfold terminalOf
      rw [found]
      split
      next isStream =>
        rw [← isStream, ofStream, keeps]
        rfl
      next => rfl
    · exact (segmentHead_putSegmentHead tables head receipt.stream).trans (if_pos ofStream)
  unfold advanceHead
  cases found : tables.segmentHead receipt.stream with
  | none => exact written _ rfl (by rw [found]; rfl)
  | some head =>
      have isStream : head.stream = receipt.stream := lookup_key found
      dsimp only
      split
      · refine ⟨⟨id, ⟨fun _ => rfl, fun _ => rfl, fun _ => rfl, fun _ => rfl⟩, fun _ => .inl rfl,
          (map_id _).symm⟩, fun _ => rfl, found, isStream⟩
      · exact written _ isStream (by rw [found]; rfl)

variable {receipt : JrSegmentReceipt}

/-- The head that a transaction works on knows the entry that its stream has closed. -/
theorem Advances.terminal
    {after : JourneyTables × JrSegmentHead} (advances : Advances before receipt after) :
    after.2.terminal = terminalOf before receipt.stream := by
  rw [← advances.terminals receipt.stream]
  unfold terminalOf
  rw [advances.head]
  rfl

structure SameSegments (before after : JourneyTables) : Prop where
  receipts : after.segmentReceipts = before.segmentReceipts
  heads : after.segmentHeads = before.segmentHeads

theorem SameSegments.trans {first second third : JourneyTables} (left : SameSegments first second)
    (right : SameSegments second third) : SameSegments first third :=
  ⟨right.receipts.trans left.receipts, right.heads.trans left.heads⟩

theorem SameSegments.terminals (same : SameSegments before after)
    (stream : SegmentStream) : terminalOf after stream = terminalOf before stream := by
  unfold terminalOf JourneyTables.segmentHead
  rw [same.heads]

theorem openIntents_same (now : Instant) (ids : SegmentIds) (receipt : JrSegmentReceipt)
    (input : ApplySegmentEnrollmentInput) (intents : List (SegmentEnrollmentIntentInput × Nat))
    (tables : JourneyTables) :
    SameSegments tables (openIntents now ids receipt input tables intents) := by
  induction intents generalizing tables with
  | nil => exact ⟨rfl, rfl⟩
  | cons intent rest ih =>
      unfold openIntents
      refine SameSegments.trans ?_ (ih _)
      unfold openIntent
      dsimp only
      split
      · exact ⟨rfl, rfl⟩
      · exact ⟨rfl, rfl⟩

theorem enqueue_same (ids : SegmentIds) (receipt : JrSegmentReceipt)
    (event : SegmentOutboxEventInput) (correlationId : String) (causationId : Option String)
    (tables : JourneyTables) :
    SameSegments tables (enqueue ids receipt event correlationId causationId tables) := by
  unfold enqueue
  split
  · exact ⟨rfl, rfl⟩
  · exact ⟨rfl, rfl⟩

theorem addRefilterCursor_same (ids : SegmentIds) (receipt : JrSegmentReceipt)
    (input : ApplySegmentRefilterInput) (tables : JourneyTables) :
    SameSegments tables (addRefilterCursor ids receipt input tables) := by
  unfold addRefilterCursor
  split
  · exact ⟨rfl, rfl⟩
  · exact ⟨rfl, rfl⟩

theorem SegmentsOk.updated (ok : SegmentsOk before)
    (updated : updateSegmentReceipt before id rewrite = .ok (after, result))
    (keeps : KeepsReport rewrite)
    (aside : ∀ row, before.findSegmentReceipt id = some row → row.state = .quarantined →
      (rewrite row).state = .quarantined)
    (applies : ∀ row, before.findSegmentReceipt id = some row → (rewrite row).state = .applied →
      row.changeKind = "LEFT" → ∀ entryId, row.entryId = some entryId →
        (terminalOf before row.stream).map SegmentTerminal.entryId = some entryId) :
    SegmentMoves before after ∧ ∃ row, before.findSegmentReceipt id = some row ∧
      result = rewrite row ∧ after.findSegmentReceipt id = some result := by
  obtain ⟨row, found, -, rfl, rfl⟩ := updateSegmentReceipt_ok.mp updated
  have only : ∀ other ∈ before.segmentReceipts, other.id = id → other = row := by
    intro other mem isId
    have same := findSegmentReceipt_mem found
    exact eq_of_key_eq ok.ids mem same.1 (isId.trans same.2.symm)
  refine ⟨ok.mapped (keeps.onSegment id) rfl ?_ (fun _ _ known => known) ?_, row, found, rfl, ?_⟩
  · intro other mem quarantined
    unfold onSegment
    split
    next isId =>
      rw [only other mem isId] at quarantined ⊢
      exact aside row found quarantined
    next => exact quarantined
  · intro other mem applied left entryId entry
    unfold onSegment at applied
    split at applied
    next isId =>
      rw [only other mem isId] at applied left entry ⊢
      exact .inr (applies row found applied left entryId entry)
    next => exact .inl applied
  · have mapped : lookup JrSegmentReceipt.id id
        (before.segmentReceipts.map (onSegment id rewrite)) =
          (before.findSegmentReceipt id).map (onSegment id rewrite) :=
      lookup_map (keeps.onSegment id).id
    rw [found] at mapped
    exact mapped.trans (congrArg some (if_pos (findSegmentReceipt_mem found).2))

theorem SegmentsOk.advanced {middle : JourneyTables}
    {advanced : JourneyTables × JrSegmentHead} (ok : SegmentsOk before)
    (advances : Advances before receipt advanced)
    (sameReceipts : middle.segmentReceipts = advanced.1.segmentReceipts)
    (remembered : ∀ stream terminal, terminalOf before stream = some terminal →
      terminalOf middle stream = some terminal) : SegmentMoves before middle := by
  obtain ⟨promote, keeps, states, promoted⟩ := advances.receipts
  refine ok.mapped keeps (sameReceipts.trans promoted) ?_ remembered ?_
  · intro row _ quarantined
    rcases states row with same | ⟨waits, -⟩
    · exact same.trans quarantined
    · rw [quarantined] at waits
      cases waits
  · intro row _ applied _ entryId entry
    rcases states row with same | ⟨-, promoted⟩
    · exact .inl (same.symm.trans applied)
    · rw [applied] at promoted
      simp at promoted

theorem Advances.notAside
    {advanced : JourneyTables × JrSegmentHead} (advances : Advances before receipt advanced)
    (found : before.findSegmentReceipt id = some row) (notAside : row.state ≠ .quarantined)
    {later : JrSegmentReceipt} (foundLater : advanced.1.findSegmentReceipt id = some later) :
    later.state ≠ .quarantined := by
  obtain ⟨promote, keeps, states, promoted⟩ := advances.receipts
  unfold JourneyTables.findSegmentReceipt at found foundLater
  rw [promoted, lookup_map keeps.id, found] at foundLater
  obtain rfl : promote row = later := Option.some.inj foundLater
  intro quarantined
  rcases states row with same | ⟨-, promoted⟩
  · exact notAside (same.symm.trans quarantined)
  · rw [quarantined] at promoted
    simp at promoted

theorem findSegmentReceipt_congr
    (same : after.segmentReceipts = before.segmentReceipts) (id : String) :
    after.findSegmentReceipt id = before.findSegmentReceipt id := by
  unfold JourneyTables.findSegmentReceipt
  rw [same]

variable {now : Instant}

theorem SegmentsOk.applied {middle : JourneyTables}
    {advanced : JourneyTables × JrSegmentHead} (ok : SegmentsOk before)
    (found : before.findSegmentReceipt receipt.id = some receipt)
    (notAside : receipt.state ≠ .quarantined) (advances : Advances before receipt advanced)
    (sameReceipts : middle.segmentReceipts = advanced.1.segmentReceipts)
    (remembered : ∀ stream terminal, terminalOf before stream = some terminal →
      terminalOf middle stream = some terminal)
    (closes : receipt.changeKind = "LEFT" → ∀ entryId, receipt.entryId = some entryId →
      (terminalOf middle receipt.stream).map SegmentTerminal.entryId = some entryId)
    (marked : markSegmentApplied now middle receipt.id = .ok (after, result)) :
    SegmentMoves before after := by
  have moves : SegmentMoves before middle := ok.advanced advances sameReceipts remembered
  have keeps : KeepsReport fun row : JrSegmentReceipt =>
      { row with
        state := .applied
        appliedAt := some now
        leaseOwner := none
        leaseExpiresAt := none
        version := row.version + 1 } :=
    ⟨fun _ => rfl, fun _ => rfl, fun _ => rfl, fun _ => rfl⟩
  refine moves.trans (moves.ok.updated marked keeps ?_ ?_).1
  · intro row foundRow quarantined
    rw [findSegmentReceipt_congr sameReceipts] at foundRow
    exact absurd quarantined (advances.notAside found notAside foundRow)
  · intro row foundRow _ left entryId entry
    obtain ⟨later, foundLater, same, -⟩ := moves.kept receipt.id receipt found
    obtain rfl : row = later := Option.some.inj (foundRow.symm.trans foundLater)
    rw [same.stream]
    exact closes (same.changeKind ▸ left) entryId (same.entryId ▸ entry)

/-- An entry that is closed is refused. -/
theorem SegmentMoves.refuses (moves : SegmentMoves before after)
    (okBefore : SegmentsOk before) : NeverRevived before after := by
  intro now ids input event receipt found closed
  have known := okBefore.closed receipt.stream input.entryId closed
  obtain ⟨terminal, isTerminal, isEntry⟩ := Option.map_eq_some_iff.mp known
  have advances := advanceHead_advances after receipt
  have remembered : (advanceHead after receipt).2.terminal = some terminal :=
    advances.terminal.trans (moves.remembered receipt.stream terminal isTerminal)
  unfold applyEnrollment
  rw [found]
  have refused : ensure
      ((advanceHead after receipt).2.terminal.map SegmentTerminal.entryId ≠ some input.entryId)
      (SegmentError.entryTerminal input.entryId) = .error (.entryTerminal input.entryId) := by
    unfold ensure
    rw [remembered]
    exact if_neg fun other => other (congrArg some isEntry)
  show (ensure _ _ >>= fun _ => _) = _
  rw [refused]
  rfl

/-- What was set aside is still set aside. -/
theorem SegmentMoves.staysUnapplied
    (moves : SegmentMoves before after) (okBefore : SegmentsOk before) :
    StaysUnapplied before after := by
  intro row mem quarantined later laterMember sameId applied
  have found : before.findSegmentReceipt row.id = some row :=
    lookup_of_member okBefore.ids mem rfl
  obtain ⟨kept, foundKept, -, aside⟩ := moves.kept row.id row found
  have foundLater : after.findSegmentReceipt later.id = some later :=
    lookup_of_member moves.ok.ids laterMember rfl
  rw [sameId] at foundLater
  obtain rfl : kept = later := Option.some.inj (foundKept.symm.trans foundLater)
  rw [aside quarantined] at applied
  cases applied

theorem givenText_givenText (text : Option String) : givenText (givenText text) = givenText text := by
  cases text with
  | none => rfl
  | some text => by_cases empty : text = "" <;> simp [givenText, empty]

/-- A new row is neither applied nor of a known identifier. -/
theorem SegmentsOk.appended
    {input : IngestSegmentReceiptInput} {lastApplied : Nat} (ok : SegmentsOk before)
    (fresh : ¬ before.segmentKeyTaken
      (newSegmentReceipt now id input (receiptStateFor lastApplied input.membershipRevision)) = true) :
    SegmentMoves before { before with
      segmentReceipts := before.segmentReceipts ++
        [newSegmentReceipt now id input (receiptStateFor lastApplied input.membershipRevision)] } := by
  have unknown : ∀ row ∈ before.segmentReceipts, row.id ≠ id := by
    intro row mem isId
    refine fresh (any_eq_true.mpr ⟨row, mem, ?_⟩)
    simp [newSegmentReceipt, isId]
  refine ⟨?_, fun _ _ known => known, ?_, ?_, ?_⟩
  · intro other row found
    refine ⟨row, ?_, .refl row, fun quarantined => quarantined⟩
    unfold JourneyTables.findSegmentReceipt Table.lookup at found ⊢
    rw [find?_append, found]
    rfl
  · refine nodup_append ok.ids ?_
    intro known
    obtain ⟨row, mem, isId⟩ := mem_map.mp known
    exact unknown row mem isId
  · intro row mem
    rcases mem_snoc.mp mem with present | rfl
    · exact ok.given row present
    · exact givenText_givenText input.entryId
  · rintro stream entryId ⟨row, mem, ofStream, left, entry, applied⟩
    rcases mem_snoc.mp mem with present | rfl
    · exact ok.closed stream entryId ⟨row, present, ofStream, left, entry, applied⟩
    · have notApplied : receiptStateFor lastApplied input.membershipRevision ≠ .applied := by
        unfold receiptStateFor
        split_ifs <;> simp
      exact absurd applied notApplied

/-! ## Transactions -/

variable {ids : SegmentIds}

theorem applyEnrollment_moves
    {input : ApplySegmentEnrollmentInput} {event : SegmentOutboxEventInput}
    (ok : SegmentsOk before)
    (found : before.findSegmentReceipt input.receiptId = some receipt)
    (notAside : receipt.state ≠ .quarantined) (entered : receipt.changeKind ≠ "LEFT")
    (applies : applyEnrollment now ids before input event = .ok (after, result)) :
    SegmentMoves before after := by
  unfold applyEnrollment at applies
  obtain ⟨row, foundRow, applies⟩ := bind_ok applies
  obtain rfl : receipt = row := Option.some.inj (found.symm.trans (orFail_ok.mp foundRow))
  have marked := rest_ok applies
  have advances := advanceHead_advances before receipt
  have same := (openIntents_same now ids receipt input input.intents.zipIdx
    (advanceHead before receipt).1).trans
      (enqueue_same ids receipt event input.correlationId input.causationId _)
  have isId : receipt.id = input.receiptId := (findSegmentReceipt_mem found).2
  refine ok.applied (isId ▸ found) notAside advances same.receipts ?_
    (fun left => absurd left entered) marked
  intro stream terminal known
  rw [same.terminals, advances.terminals]
  exact known

variable {receiptId : String}

theorem applyNoOp_moves (ok : SegmentsOk before)
    (found : before.findSegmentReceipt receiptId = some receipt)
    (notAside : receipt.state ≠ .quarantined) (entered : receipt.changeKind ≠ "LEFT")
    (applies : applyNoOp now before receiptId = .ok (after, result)) :
    SegmentMoves before after := by
  unfold applyNoOp at applies
  obtain ⟨row, foundRow, marked⟩ := bind_ok applies
  obtain rfl : receipt = row := Option.some.inj (found.symm.trans (orFail_ok.mp foundRow))
  have advances := advanceHead_advances before receipt
  have isId : receipt.id = receiptId := (findSegmentReceipt_mem found).2
  refine ok.applied (isId ▸ found) notAside advances rfl ?_ (fun left => absurd left entered) marked
  intro stream terminal known
  rw [advances.terminals]
  exact known

theorem closeEntry_terminal
    {advanced : JourneyTables × JrSegmentHead} (advances : Advances before receipt advanced)
    (input : ApplySegmentRefilterInput) (stream : SegmentStream) :
    terminalOf (closeEntry advanced.1 receipt advanced.2 input) stream =
      if stream = receipt.stream then
        (terminalOf before stream).or ((givenText input.terminalEntryId).map fun entryId =>
          ⟨entryId, receipt.membershipRevision, input.reasonCode⟩)
      else terminalOf before stream := by
  have knew := advances.terminal
  have unchanged := advances.terminals stream
  unfold closeEntry
  split
  next entryId given none_ =>
    have put : terminalOf (putSegmentHead advanced.1 { advanced.2 with
        terminal := some ⟨entryId, receipt.membershipRevision, input.reasonCode⟩ }) stream =
        if receipt.stream = stream then
          some ⟨entryId, receipt.membershipRevision, input.reasonCode⟩
        else terminalOf advanced.1 stream := by
      unfold terminalOf
      rw [segmentHead_putSegmentHead, advances.stream]
      split
      · rfl
      · rfl
    rw [put, unchanged, given]
    by_cases own : receipt.stream = stream
    · subst own
      rw [if_pos rfl, if_pos rfl, ← knew, none_]
      rfl
    · rw [if_neg own, if_neg (Ne.symm own)]
  next known =>
    rw [unchanged]
    split
    next own =>
      subst own
      rw [← knew]
      cases terminal : advanced.2.terminal with
      | some _ => rfl
      | none =>
          cases given : givenText input.terminalEntryId with
          | none => rfl
          | some entryId => exact absurd terminal (known entryId given)
    next => rfl

theorem closeEntry_receipts (tables : JourneyTables) (receipt : JrSegmentReceipt)
    (head : JrSegmentHead) (input : ApplySegmentRefilterInput) :
    (closeEntry tables receipt head input).segmentReceipts = tables.segmentReceipts := by
  unfold closeEntry
  split
  · rfl
  · rfl

theorem applyRefilter_moves {input : ApplySegmentRefilterInput} {event : SegmentOutboxEventInput}
    (ok : SegmentsOk before)
    (found : before.findSegmentReceipt input.receiptId = some receipt)
    (notAside : receipt.state ≠ .quarantined)
    (closes : receipt.changeKind = "LEFT" → input.terminalEntryId = receipt.entryId)
    (single : ∀ entryId, input.terminalEntryId = some entryId →
      ∀ terminal, terminalOf before receipt.stream = some terminal → terminal.entryId = entryId)
    (applies : applyRefilter now ids before input event = .ok (after, result)) :
    SegmentMoves before after := by
  unfold applyRefilter at applies
  obtain ⟨row, foundRow, marked⟩ := bind_ok applies
  obtain rfl : receipt = row := Option.some.inj (found.symm.trans (orFail_ok.mp foundRow))
  have advances := advanceHead_advances before receipt
  have closed := closeEntry_terminal advances input
  have same := (addRefilterCursor_same ids receipt input
    (closeEntry (advanceHead before receipt).1 receipt (advanceHead before receipt).2 input)).trans
      (enqueue_same ids receipt event input.correlationId none _)
  obtain ⟨mem, isId⟩ := findSegmentReceipt_mem found
  refine ok.applied (isId ▸ found) notAside advances
    (same.receipts.trans (closeEntry_receipts _ _ _ _)) ?_ ?_ marked
  · intro stream terminal known
    rw [same.terminals, closed]
    split
    · rw [known]
      rfl
    · exact known
  · intro left entryId entry
    have given : givenText input.terminalEntryId = some entryId := by
      rw [closes left, ok.given receipt mem, entry]
    rw [same.terminals, closed, if_pos rfl, given]
    cases known : terminalOf before receipt.stream with
    | none => rfl
    | some terminal =>
        exact congrArg some (single entryId ((closes left).trans entry) terminal known)

theorem SegmentsOk.ingested
    {input : IngestSegmentReceiptInput} {outcome : IngestReceiptOutcome × JrSegmentReceipt}
    (ok : SegmentsOk before)
    (ingests : segmentIngestUnderLock now id before input = .ok (after, outcome)) :
    SegmentMoves before after := by
  unfold segmentIngestUnderLock at ingests
  replace ingests := rest_ok ingests
  split at ingests
  next =>
    obtain ⟨raced, _, ingests⟩ := bind_ok ingests
    split at ingests
    next =>
      obtain ⟨quarantined, updated, written⟩ := bind_ok ingests
      cases written
      refine (ok.updated updated ⟨fun _ => rfl, fun _ => rfl, fun _ => rfl, fun _ => rfl⟩ ?_ ?_).1
      · intro _ _ _
        rfl
      · intro _ _ applied
        cases applied
    next =>
      cases ingests
      exact ok.stays
  next fresh =>
    cases ingests
    exact ok.appended fresh

theorem SegmentsOk.claimed {leaseSeconds : Instant} {workerId : String} (ok : SegmentsOk before)
    (claims : claimNextSegment now leaseSeconds workerId before receiptId = .ok (after, result)) :
    SegmentMoves before after ∧ after.findSegmentReceipt receiptId = some result ∧
      result.id = receiptId := by
  unfold claimNextSegment at claims
  obtain ⟨row, foundRow, claims⟩ := bind_ok claims
  obtain ⟨_, claimable, updated⟩ := bind_ok claims
  have moves := ok.updated updated ⟨fun _ => rfl, fun _ => rfl, fun _ => rfl, fun _ => rfl⟩ ?_ ?_
  · obtain ⟨moves, _, _, _, foundAfter⟩ := moves
    exact ⟨moves, foundAfter, (findSegmentReceipt_mem foundAfter).2⟩
  · intro other found quarantined
    obtain rfl : row = other := Option.some.inj ((orFail_ok.mp foundRow).symm.trans found)
    rw [ensure_ok, quarantined] at claimable
    cases claimable
  · intro _ _ applied
    cases applied

theorem SegmentsOk.quarantined {reasonCode : String} (ok : SegmentsOk before)
    (marked : markSegmentQuarantined before receiptId reasonCode = .ok (after, result)) :
    SegmentMoves before after := by
  refine (ok.updated marked ⟨fun _ => rfl, fun _ => rfl, fun _ => rfl, fun _ => rfl⟩ ?_ ?_).1
  · intro _ _ _
    rfl
  · intro _ _ applied
    cases applied

def VerdictFits (receipt : JrSegmentReceipt) : SegmentVerdict → Prop
  | .review _ | .retry => True
  | .noOp => receipt.changeKind ≠ "LEFT"
  | .refilter input _ => input = refilterInput receipt
  | .enroll input _ => input.receiptId = receipt.id ∧ receipt.changeKind ≠ "LEFT"

theorem judgeSegment_fits (readings : SegmentReadings) (receipt : JrSegmentReceipt) :
    VerdictFits receipt (judgeSegment readings receipt) := by
  unfold judgeSegment
  split
  next => rfl
  next entry =>
    have notLeft : receipt.changeKind ≠ "LEFT" := by
      intro left
      rw [left] at entry
      exact entry (by decide)
    split
    next => trivial
    next entryId =>
      split
      · trivial
      · trivial
      · trivial
      · exact notLeft
      · unfold judgeEntry
        dsimp only
        split_ifs
        · exact notLeft
        · trivial
        · exact notLeft
        · exact ⟨rfl, notLeft⟩

/-- A worker that is fenced writes what it found. -/
theorem SegmentsOk.executed {retryDelay : Instant} {verdict : SegmentVerdict}
    (ok : SegmentsOk before) (found : before.findSegmentReceipt receipt.id = some row)
    (same : SameReport receipt row) (fits : VerdictFits receipt verdict)
    (notAside : row.state ≠ .quarantined)
    (single : ∀ input event, verdict = .refilter input event →
      ∀ entryId, input.terminalEntryId = some entryId →
        ∀ terminal, terminalOf before receipt.stream = some terminal → terminal.entryId = entryId)
    (executed : executeVerdict now retryDelay ids before receipt verdict = .ok (after, result)) :
    SegmentMoves before after := by
  have keepsAside : ∀ other, before.findSegmentReceipt receipt.id = some other →
      other.state ≠ .quarantined := by
    intro other foundOther
    obtain rfl : row = other := Option.some.inj (found.symm.trans foundOther)
    exact notAside
  cases verdict with
  | noOp =>
      exact applyNoOp_moves ok found notAside (same.changeKind ▸ fits) executed
  | refilter input event =>
      obtain rfl : input = refilterInput receipt := fits
      refine applyRefilter_moves ok found notAside ?_ ?_ executed
      · intro left
        rw [same.changeKind] at left
        have given := ok.given row (findSegmentReceipt_mem found).1
        unfold refilterInput
        dsimp only
        rw [if_pos left, ← same.entryId, given]
      · intro entryId isEntry terminal known
        rw [same.stream] at known
        exact single _ event rfl entryId isEntry terminal known
  | enroll input event =>
      obtain ⟨isReceipt, notLeft⟩ := fits
      exact applyEnrollment_moves ok (isReceipt ▸ found) notAside (same.changeKind ▸ notLeft) executed
  | _ =>
      refine (ok.updated executed ⟨fun _ => rfl, fun _ => rfl, fun _ => rfl, fun _ => rfl⟩ ?_ ?_).1
      · intro other foundOther quarantined
        exact absurd quarantined (keepsAside other foundOther)
      · intro _ _ applied
        cases applied

/-! ## Runs -/

structure WorkOk (tables : JourneyTables) (work : SegmentWork) : Prop where
  stored : ∀ receipt, work.receipt = some receipt →
    ∃ row, tables.findSegmentReceipt receipt.id = some row ∧ SameReport receipt row
  fits : ∀ receipt verdict, work = .judged receipt verdict → VerdictFits receipt verdict

theorem WorkOk.moved {work : SegmentWork} (ok : WorkOk before work)
    (moves : SegmentMoves before after) : WorkOk after work := by
  refine ⟨?_, ok.fits⟩
  intro receipt holds
  obtain ⟨row, found, same⟩ := ok.stored receipt holds
  obtain ⟨later, foundLater, sameLater, -⟩ := moves.kept receipt.id row found
  exact ⟨later, foundLater, same.trans sameLater⟩

structure SegmentSession.Ok (session : SegmentSession) : Prop where
  tables : SegmentsOk session.tables
  workers : ∀ worker ∈ session.workers, WorkOk session.tables worker.work

/-- The steps in which each write meets the guard. -/
def fencedSegments : System SegmentSession SegmentStep :=
  segmentTriggers.restrict fun session step => session.fenced step = true

/-- A transaction of a worker ends. -/
theorem SegmentSession.Ok.answered {session : SegmentSession} {pid : Nat}
    (ok : session.Ok) (moves : SegmentMoves session.tables tables) :
    (session.answer pid tables).Ok ∧ SegmentMoves session.tables (session.answer pid tables).tables := by
  refine ⟨⟨moves.ok, ?_⟩, moves⟩
  intro worker mem
  exact (ok.workers worker (Session.mem_drop.mp mem).1).moved moves

theorem SegmentSession.Ok.stepped {before after : SegmentSession} {step : SegmentStep}
    (ok : before.Ok) (taken : fencedSegments.step before step after) :
    after.Ok ∧ SegmentMoves before.tables after.tables := by
  obtain ⟨fenced, taken⟩ := taken
  have taken : before.next step = some after := taken
  have stays : SegmentMoves before.tables before.tables := ok.tables.stays
  cases step with
  | lookup pid input =>
      simp only [next] at taken
      split at taken
      next =>
        obtain rfl := Option.some.inj taken
        refine ⟨⟨ok.tables, Session.forall_replace ok.workers ⟨?_, ?_⟩⟩, stays⟩
        · intro receipt holds
          cases holds
        · intro receipt verdict judged
          cases judged
      next =>
        obtain rfl := Option.some.inj taken
        exact ⟨ok, stays⟩
  | insert pid now id =>
      simp only [next] at taken
      split at taken
      next input found =>
        obtain rfl := Option.some.inj taken
        exact ok.answered (committed_cases stays fun _ _ ingests => ok.tables.ingested ingests)
      next => cases taken
  | claim pid workerId now leaseSeconds receiptId =>
      simp only [next] at taken
      split at taken
      next tables receipt claims =>
        obtain rfl := Option.some.inj taken
        obtain ⟨moves, foundAfter, isId⟩ := ok.tables.claimed claims
        refine ⟨⟨moves.ok, ?_⟩, moves⟩
        refine Session.forall_replace (P := fun worker => WorkOk tables worker.work)
          (fun worker mem => (ok.workers worker mem).moved moves) ⟨?_, ?_⟩
        · intro held holds
          obtain rfl := Option.some.inj holds
          exact ⟨receipt, isId ▸ foundAfter, .refl receipt⟩
        · intro held verdict judged
          cases judged
      next => cases taken
  | judge pid readings =>
      simp only [next] at taken
      split at taken
      next receipt found =>
        obtain rfl := Option.some.inj taken
        have held := ok.workers _ (Session.find_mem found)
        refine ⟨⟨ok.tables, Session.forall_replace ok.workers ⟨?_, ?_⟩⟩, stays⟩
        · intro other holds
          exact held.stored other holds
        · intro other verdict judged
          cases judged
          exact judgeSegment_fits readings receipt
      next => cases taken
  | finish pid now retryDelay ids =>
      simp only [next] at taken
      split at taken
      next receipt verdict found =>
        obtain rfl := Option.some.inj taken
        have held := ok.workers _ (Session.find_mem found)
        obtain ⟨row, foundRow, same⟩ := held.stored receipt rfl
        unfold SegmentSession.fenced at fenced
        simp only [found, foundRow, Option.all_some, Bool.and_eq_true, decide_eq_true_eq] at fenced
        obtain ⟨notAside, single⟩ := fenced
        refine ok.answered (committed_cases stays fun tables result executed =>
          ok.tables.executed foundRow same (held.fits receipt verdict rfl) notAside ?_ executed)
        intro input event isRefilter entryId isEntry terminal known
        subst isRefilter
        simpa [isEntry, known] using single
      next => cases taken
  | quarantine pid reasonCode =>
      simp only [next] at taken
      split at taken
      next receipt found =>
        obtain rfl := Option.some.inj taken
        exact ok.answered (committed_cases stays fun _ _ marked => ok.tables.quarantined marked)
      next => cases taken

theorem SegmentSession.Fresh.ok {session : SegmentSession} (fresh : session.Fresh) : session.Ok := by
  refine ⟨⟨?_, ?_, ?_⟩, ?_⟩
  · rw [fresh.receipts]
    exact nodup_nil
  · rw [fresh.receipts]
    exact forall_mem_nil _
  · rintro stream entryId ⟨row, mem, -⟩
    rw [fresh.receipts] at mem
    cases mem
  · rw [fresh.workers]
    exact forall_mem_nil _

theorem SegmentSession.Ok.reached {before after : SegmentSession} (ok : before.Ok)
    (run : fencedSegments.Reaches before after) :
    after.Ok ∧ SegmentMoves before.tables after.tables := by
  induction run with
  | refl => exact ⟨ok, ok.tables.stays⟩
  | tail _ last ih =>
      obtain ⟨okMiddle, moves⟩ := ih
      obtain ⟨step, taken⟩ := last
      obtain ⟨okLast, movesLast⟩ := okMiddle.stepped taken
      exact ⟨okLast, moves.trans movesLast⟩

/-- As long as workers keep to the guard, an entry that was closed is never enrolled again, and a
receipt under quarantine is never applied. -/
theorem closed_segment_entries_stay_closed {before after : SegmentSession}
    (reachable : fencedSegments.Reachable before) (run : fencedSegments.Reaches before after) :
    NeverRevived before.tables after.tables ∧ StaysUnapplied before.tables after.tables := by
  have ok : before.Ok := by
    obtain ⟨start, fresh, toBefore⟩ := reachable
    exact (SegmentSession.Ok.reached (SegmentSession.Fresh.ok fresh) toBefore).1
  have moves := (ok.reached run).2
  exact ⟨moves.refuses ok.tables, moves.staysUnapplied ok.tables⟩

/-! ## Runs that go wrong -/

def sampleStream : SegmentStream := ⟨"contact", "segment"⟩

def sampleChange (revision : Nat) (changeKind entryId payloadHash : String) :
    IngestSegmentReceiptInput where
  source := "segments"
  eventId := changeKind ++ entryId ++ payloadHash
  stream := sampleStream
  membershipRevision := revision
  changeKind := changeKind
  entryId := some entryId
  supersedesRevision := none
  segmentDefinitionVersion := 1
  payloadHash := payloadHash
  evidenceRef := none
  correlationId := "correlation"
  causationId := none

def segmentJourney : JourneyVersionSnapshot where
  name := "welcome"
  ownerTeamId := "service"
  purpose := "SERVICE"
  senderIdentityId := "sender"
  trigger := .segmentEntry "segment"
  graph := { entryStepId := "done", steps := [.exit "done" "finished"] }
  goal := ⟨"goal"⟩
  exitRules := [.goal]
  maxDurationDays := 7
  journeyId := "journey"
  version := 1
  status := .published

/-- Customer 360 gives the same answer for every entry. -/
def sampleSegmentReadings (resolution : SegmentEntryResolution) : SegmentReadings where
  resolveEntry _ _ _ := resolution
  matched := [segmentJourney]
  authorize _ _ := .allow
  digest := String.join

def sampleEligible : SegmentEntryResolution := .eligible ⟨"contact", 1, 1, "digest", none⟩

def sampleSegmentIds (name : String) : SegmentIds where
  intentId index := name ++ "-intent-" ++ toString index
  enrollmentId index := name ++ "-enrollment-" ++ toString index
  rowId := name ++ "-row"
  eventId := name ++ "-event"

def receiveChange (pid : Nat) (now : Instant) (id : String) (input : IngestSegmentReceiptInput) :
    List SegmentStep :=
  [.lookup pid input, .insert pid now id]

def workOn (pid : Nat) (now : Instant) (id : String) (resolution : SegmentEntryResolution) :
    List SegmentStep :=
  [.claim pid "worker" now 30 id, .judge pid (sampleSegmentReadings resolution)]

def idleSegments : SegmentSession := ⟨JourneyTables.empty, []⟩

theorem idleSegments_fresh : idleSegments.Fresh := ⟨rfl, rfl⟩

def enteredOnce : List SegmentStep :=
  receiveChange 0 0 "first" (sampleChange 1 "ENTERED" "one" "hash") ++ workOn 0 0 "first" sampleEligible ++
    [.finish 0 0 0 (sampleSegmentIds "first")] ++
    receiveChange 0 0 "second" (sampleChange 2 "LEFT" "one" "hash") ++
    workOn 0 0 "second" .notEligible

/-- A second entry is judged by a worker whose lease runs out. Another worker takes it over and finds
the contact no longer eligible, and then the event that the contact left is judged. -/
def enteredTwice : List SegmentStep :=
  enteredOnce ++ [.finish 0 0 0 (sampleSegmentIds "second")] ++
    receiveChange 0 0 "third" (sampleChange 3 "ENTERED" "two" "hash") ++
    workOn 1 0 "third" sampleEligible ++ workOn 2 30000 "third" .notEligible ++
    [.finish 2 30000 0 (sampleSegmentIds "third")] ++
    receiveChange 0 30000 "fourth" (sampleChange 4 "LEFT" "two" "hash") ++
    workOn 0 30000 "fourth" .notEligible

/-- A worker whose lease ran out holds a receipt that another one handed back, and an event with
the same revision and another content comes in. -/
def contradicted : List SegmentStep :=
  receiveChange 0 0 "first" (sampleChange 1 "ENTERED" "one" "hash") ++
    workOn 1 0 "first" .notEligible ++ workOn 2 30000 "first" .stale ++
    [.finish 2 30000 0 (sampleSegmentIds "second")] ++
    receiveChange 0 30000 "again" (sampleChange 1 "ENTERED" "one" "other")

/-- The first entry of a stream stays closed. -/
theorem closed_segment_entries_stay_closed_once :
    ∃ before after, fencedSegments.Reachable before ∧ fencedSegments.Reaches before after ∧
      (NeverRevived before.tables after.tables ∧ StaysUnapplied before.tables after.tables) ∧
        (terminalOf after.tables sampleStream).isSome = true := by
  have ends : System.endsWith (System.guardNext fenced next)
      idleSegments enteredOnce (.finish 0 0 0 (sampleSegmentIds "second"))
      (fun _ after => (terminalOf after.tables sampleStream).isSome) = true := by decide +kernel
  obtain ⟨before, after, reachable, last, closed⟩ :=
    System.Reachable.endsWithGuarded idleSegments_fresh ends
  have run : fencedSegments.Reaches before after := .single ⟨_, last⟩
  exact ⟨before, after, reachable, run, closed_segment_entries_stay_closed reachable run, closed⟩

/-- The enrollments that the first worker would open are opened, although their entry is closed. -/
def revives (session : SegmentSession) : Bool :=
  match Session.find session.workers 1 with
  | some (.judged _ (.enroll input event)) =>
      match session.tables.findSegmentReceipt input.receiptId with
      | some receipt =>
          session.tables.segmentReceipts.any (fun row => row.stream = receipt.stream &&
            row.changeKind = "LEFT" && row.entryId = some input.entryId && row.state = .applied) &&
          succeedsWith (applyEnrollment 30000 (sampleSegmentIds "late") session.tables input event)
            fun result => result.1.segmentIntents.any fun intent => intent.entryId = input.entryId
      | none => false
  | _ => false

/-- The second entry of a stream is enrolled after it was closed, and a receipt under quarantine is
applied by a worker that was late. -/
theorem segment_entries_are_revived :
    (¬ ∀ session, segmentTriggers.Reachable session → NeverRevived session.tables session.tables) ∧
      ¬ ∀ before after, segmentTriggers.Reachable before → segmentTriggers.Reaches before after →
        StaysUnapplied before.tables after.tables := by
  constructor
  · intro refused
    have ends : System.endsWith next idleSegments enteredTwice
        (.finish 0 30000 0 (sampleSegmentIds "fourth")) (fun _ after => revives after) = true := by
      decide +kernel
    obtain ⟨before, after, reachable, last, revived⟩ :=
      System.Reachable.endsWith idleSegments_fresh ends
    unfold revives at revived
    split at revived
    next _ input event _ =>
      split at revived
      next receipt isStored =>
        simp only [Bool.and_eq_true, any_eq_true, decide_eq_true_eq] at revived
        obtain ⟨⟨row, mem, ⟨⟨ofStream, left⟩, entry⟩, applied⟩, enrolls⟩ := revived
        have closed := refused after (reachable.step last) 30000 (sampleSegmentIds "late") input event
          receipt isStored ⟨row, mem, ofStream, left, entry, applied⟩
        rw [closed] at enrolls
        cases enrolls
      next => cases revived
    next => cases revived
  · intro stays
    have ends : System.endsWith next idleSegments contradicted
        (.finish 1 30000 0 (sampleSegmentIds "first"))
        (fun before after =>
          before.tables.segmentReceipts.any (fun row => row.id = "first" && row.state = .quarantined) &&
          after.tables.segmentReceipts.any fun row => row.id = "first" && row.state = .applied) =
        true := by decide +kernel
    obtain ⟨before, after, reachable, last, states⟩ :=
      System.Reachable.endsWith idleSegments_fresh ends
    have run : segmentTriggers.Reaches before after := .single ⟨_, last⟩
    simp only [Bool.and_eq_true, any_eq_true, decide_eq_true_eq] at states
    obtain ⟨⟨row, mem, isRow, quarantined⟩, later, laterMember, isLater, applied⟩ := states
    exact stays before after reachable run row mem quarantined later laterMember
      (isLater.trans isRow.symm) applied

end DContact.Journey

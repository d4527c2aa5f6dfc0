import DContact.Governance.ExceptionLifecycle
import DContact.Lib.Sessions

/-!
# Approved exceptions do not overlap

Any number of transitions are in flight while revisions are recorded. A transition reads
its head and its revision at one moment and finishes, under the lock of the contact, at a
later one. What it has read is still true then, since the guarded update of the head
succeeds only at the revision and in the state that was read, and a revision never changes.
-/

namespace DContact.Governance

open Lib List Table

/-! ## Runs -/

/-- How far a transition has come: no receipt was found, or the head and the revision have
been read. -/
inductive TransitionStage where
  | opened (input : TransitionInput)
  | bound (input : TransitionInput) (head : ExceptionHead) (revision : ExceptionRow)

structure ExceptionState where
  store : ExceptionStore
  sessions : List (Session TransitionStage)

inductive ExceptionStep where
  | record (directory : ExceptionDirectory) (input : RecordExceptionInput) (ids : ExceptionIds)
      (now : Instant)
  | openTransition (pid : Nat) (input : TransitionInput)
  | bindTransition (pid : Nat)
  | finalizeTransition (pid : Nat) (votes : List VoteRow) (ids : ExceptionIds) (now : Instant)
  | abandon (pid : Nat)

/-- A command that fails leaves the tables as they were, and its session ends. -/
def ExceptionState.next (digests : ExceptionDigests) (state : ExceptionState) :
    ExceptionStep → Option ExceptionState
  | .record directory input ids now =>
      match recordException digests state.store directory input ids now with
      | .ok (store, _) => some { state with store := store }
      | .error _ => some state
  | .openTransition pid input =>
      match Session.find state.sessions pid, checkTransition input,
          findExceptionReceipt state.store.transitionReceipts input.idempotencyKey with
      | none, .ok _, none =>
          some { state with sessions := Session.replace state.sessions pid (.opened input) }
      | _, _, _ => some state
  | .bindTransition pid =>
      match Session.find state.sessions pid with
      | some (.opened input) =>
          match bindTransition state.store input with
          | .ok (head, revision) =>
              some { state with
                sessions := Session.replace state.sessions pid (.bound input head revision) }
          | .error _ => some { state with sessions := Session.drop state.sessions pid }
      | _ => none
  | .finalizeTransition pid votes ids now =>
      match Session.find state.sessions pid with
      | some (.bound input head revision) =>
          match finalizeTransition digests state.store votes input head revision ids now with
          | .ok (store, _) => some ⟨store, Session.drop state.sessions pid⟩
          | .error _ => some { state with sessions := Session.drop state.sessions pid }
      | _ => none
  | .abandon pid => some { state with sessions := Session.drop state.sessions pid }

def ExceptionStore.empty : ExceptionStore := ⟨[], [], [], [], [], []⟩

def exceptionSystem (digests : ExceptionDigests) : System ExceptionState ExceptionStep :=
  System.ofNext (fun state => state = ⟨.empty, []⟩) (ExceptionState.next digests)

/-! ## What a command changes -/

/-- What a transition has read stays true of the rows. -/
def BoundTo (store : ExceptionStore) (input : TransitionInput) (revision : ExceptionRow) : Prop :=
  revision ∈ store.exceptions ∧ revision.exceptionId = input.exceptionId ∧
    (revision.revision : Int) = input.expectedRevision

inductive Changed (store : ExceptionStore) : ExceptionStore → Prop
  | unchanged {after : ExceptionStore} (exceptions : after.exceptions = store.exceptions)
      (heads : after.heads = store.heads) (decisions : after.decisions = store.decisions) :
      Changed store after
  | recorded {after : ExceptionStore} (row : ExceptionRow)
      (exceptions : after.exceptions = store.exceptions ++ [row])
      (heads : after.heads = Table.put ExceptionHead.exceptionId store.heads (pointTo row))
      (decisions : after.decisions = store.decisions)
      (fresh : row.id ∉ store.exceptions.map ExceptionRow.id)
      (revision : ∀ other ∈ store.exceptions,
        ¬ (other.exceptionId = row.exceptionId ∧ other.revision = row.revision))
      (pending : ∀ head, store.headOf row.exceptionId = some head → head.status = .pending) :
      Changed store after
  | moved {after : ExceptionStore} (input : TransitionInput) (revision : ExceptionRow)
      (current : ExceptionHead)
      (exceptions : after.exceptions = store.exceptions)
      (heads : after.heads = Table.update ExceptionHead.exceptionId input.exceptionId
        (fun head => { head with status := (transitionRule input.action).target }) store.heads)
      (decisions : after.decisions =
        store.decisions ++ [⟨revision.id, input.action, input.actor.subjectId⟩])
      (bound : BoundTo store input revision)
      (found : store.headOf input.exceptionId = some current)
      (expected : (current.currentRevision : Int) = input.expectedRevision)
      (source : current.status = (transitionRule input.action).source)
      (checker : input.action = .approve → revision.actorRef ≠ input.actor.subjectId)
      (apart : input.action = .approve → findConflict store revision input.exceptionId = none) :
      Changed store after

variable {row : ExceptionRow}

theorem insertException_ok {rows after : List ExceptionRow}
    (ok : insertException rows row = .ok after) :
    row.id ∉ rows.map ExceptionRow.id ∧
    (∀ other ∈ rows, ¬ (other.exceptionId = row.exceptionId ∧ other.revision = row.revision)) ∧
    after = rows ++ [row] := by
  obtain ⟨_, fresh, ok⟩ := bind_ok ok
  obtain ⟨_, revision, ok⟩ := bind_ok ok
  replace ok := rest_ok ok
  cases ok
  exact ⟨ensure_ok.mp fresh, ensure_ok.mp revision, rfl⟩

variable {head : ExceptionHead} {store : ExceptionStore} {input : RecordExceptionInput}

theorem checkSeries_ok {result : Unit} (ok : checkSeries store input (some head) = .ok result) :
    head.status = .pending := by
  replace ok := rest_ok ok
  exact ensure_ok.mp ok

variable {digests : ExceptionDigests} {ids : ExceptionIds} {now : Instant} {after : ExceptionStore}
  {directory : ExceptionDirectory} {result : RecordExceptionResult}

theorem addRevision_changed {checked : CheckedException}
    (ok : addRevision digests store directory input checked ids now = .ok (after, result)) :
    Changed store after := by
  replace ok := rest_ok (rest_ok (rest_ok ok))
  obtain ⟨_, series, ok⟩ := bind_ok ok
  replace ok := rest_ok ok
  obtain ⟨exceptions, inserted, ok⟩ := bind_ok ok
  obtain ⟨receipts, -, ok⟩ := bind_ok ok
  cases ok
  obtain ⟨fresh, revision, rfl⟩ := insertException_ok inserted
  refine .recorded _ rfl rfl rfl fresh revision ?_
  intro head found
  have found : store.headOf (input.exceptionId.getD ids.exceptionId) = some head := found
  rw [found] at series
  exact checkSeries_ok series

theorem recordException_changed
    (ok : recordException digests store directory input ids now = .ok (after, result)) :
    Changed store after := by
  obtain ⟨checked, -, ok⟩ := bind_ok ok
  split at ok
  next =>
    replace ok := rest_ok ok
    cases ok
    exact .unchanged rfl rfl rfl
  next => exact addRevision_changed ok

variable {target : ExceptionWorkflowState}

theorem resolveCg4TransitionTarget_ok {action : TransitionAction} {source : ExceptionWorkflowState}
    (ok : resolveCg4TransitionTarget action source = .ok target) :
    (transitionRule action).source = source ∧ target = (transitionRule action).target := by
  obtain ⟨_, same, ok⟩ := bind_ok ok
  cases ok
  exact ⟨ensure_ok.mp same, rfl⟩

variable {input : TransitionInput} {revision : ExceptionRow}

theorem authorizeTransition_ok
    {result : Unit} (ok : authorizeTransition input revision now = .ok result)
    (approves : input.action = .approve) : revision.actorRef ≠ input.actor.subjectId := by
  unfold authorizeTransition at ok
  split at ok
  next => cases ok
  replace ok := rest_ok ok
  exact ensure_ok.mp ok (.inl approves)

variable {votes : List VoteRow}

theorem checkApproval_ok {quorum : Option QuorumEvaluation}
    (ok : checkApproval store votes input revision now = .ok quorum)
    (approves : input.action = .approve) :
    findConflict store revision input.exceptionId = none := by
  rw [checkApproval, if_pos approves] at ok
  dsimp only at ok
  split at ok
  next => cases ok
  split at ok
  next => cases ok
  next clear => exact clear

variable {seen : ExceptionHead}

theorem moveHead_ok {heads after : List ExceptionHead}
    (ok : moveHead heads input seen target = .ok after) :
    ∃ current, lookup ExceptionHead.exceptionId input.exceptionId heads = some current ∧
      (current.currentRevision : Int) = input.expectedRevision ∧ current.status = seen.status ∧
      after = update ExceptionHead.exceptionId input.exceptionId
        (fun head => { head with status := target }) heads := by
  obtain ⟨current, found, ok⟩ := bind_ok ok
  obtain ⟨_, guarded, ok⟩ := bind_ok ok
  cases ok
  obtain ⟨expected, status⟩ := ensure_ok.mp guarded
  exact ⟨current, orFail_ok.mp found, expected, status, rfl⟩

/-- What was read before the lock is either still true or refused by the guarded update. -/
theorem finalizeTransition_changed {result : ExceptionTransitionResult}
    (ok : finalizeTransition digests store votes input seen revision ids now = .ok (after, result))
    (bound : BoundTo store input revision) : Changed store after := by
  obtain ⟨target, resolved, ok⟩ := bind_ok ok
  obtain ⟨_, authorized, ok⟩ := bind_ok ok
  obtain ⟨quorum, approved, ok⟩ := bind_ok ok
  replace ok := rest_ok ok
  obtain ⟨heads, moved, ok⟩ := bind_ok ok
  obtain ⟨receipts, -, ok⟩ := bind_ok ok
  cases ok
  obtain ⟨source, rfl⟩ := resolveCg4TransitionTarget_ok resolved
  obtain ⟨current, found, expected, status, rfl⟩ := moveHead_ok moved
  exact .moved input revision current rfl rfl rfl bound found expected (status.trans source.symm)
    (authorizeTransition_ok authorized) (checkApproval_ok approved)

/-! ## Sound stores -/

/-- Two approved series of one contact do not overlap. -/
def Apart (store : ExceptionStore) : Prop :=
  ∀ left ∈ store.heads, ∀ right ∈ store.heads, left.exceptionId ≠ right.exceptionId →
    left.status = .approved → right.status = .approved →
    ∀ leftRow ∈ store.exceptions, leftRow.id = left.currentRevisionId →
    ∀ rightRow ∈ store.exceptions, rightRow.id = right.currentRevisionId →
      leftRow.contactId = rightRow.contactId → cg4ExceptionsOverlap leftRow rightRow = false

structure ExceptionsSound (store : ExceptionStore) : Prop where
  rowIds : (store.exceptions.map ExceptionRow.id).Nodup
  revisions : ∀ left ∈ store.exceptions, ∀ right ∈ store.exceptions,
    left.exceptionId = right.exceptionId → left.revision = right.revision → left = right
  series : (store.heads.map ExceptionHead.exceptionId).Nodup
  current : ∀ head ∈ store.heads, ∃ row ∈ store.exceptions, row.id = head.currentRevisionId ∧
    row.exceptionId = head.exceptionId ∧ row.revision = head.currentRevision
  apart : Apart store
  approved : ∀ head ∈ store.heads, head.status = .approved →
    ∃ decision ∈ store.decisions, decision.revisionId = head.currentRevisionId ∧
      decision.action = .approve
  checked : ∀ decision ∈ store.decisions, decision.action = .approve →
    ∃ row ∈ store.exceptions, row.id = decision.revisionId ∧ row.actorRef ≠ decision.actorRef

theorem exceptionsSound_empty : ExceptionsSound .empty where
  rowIds := .nil
  revisions := forall_mem_nil _
  series := .nil
  current := forall_mem_nil _
  apart := forall_mem_nil _
  approved := forall_mem_nil _
  checked := forall_mem_nil _

theorem cg4ExceptionsOverlap_comm (left right : ExceptionRow) :
    cg4ExceptionsOverlap left right = cg4ExceptionsOverlap right left := by
  rw [Bool.eq_iff_iff]
  simp only [cg4ExceptionsOverlap, Bool.and_eq_true, decide_eq_true_eq, any_eq_true,
    contains_iff_mem]
  constructor
  · rintro ⟨⟨⟨⟨⟨⟨identity, channel⟩, purpose⟩, type⟩, source⟩, code, here, there⟩, starts, ends⟩
    exact ⟨⟨⟨⟨⟨⟨identity.symm, channel.symm⟩, purpose.symm⟩, type.symm⟩, source.symm⟩, code, there,
      here⟩, ends, starts⟩
  · rintro ⟨⟨⟨⟨⟨⟨identity, channel⟩, purpose⟩, type⟩, source⟩, code, here, there⟩, starts, ends⟩
    exact ⟨⟨⟨⟨⟨⟨identity.symm, channel.symm⟩, purpose.symm⟩, type.symm⟩, source.symm⟩, code, there,
      here⟩, ends, starts⟩

theorem windows_of_overlap {left right : ExceptionRow}
    (overlap : cg4ExceptionsOverlap left right = true) :
    left.startsAt < right.expiresAt ∧ right.startsAt < left.expiresAt := by
  simp only [cg4ExceptionsOverlap, Bool.and_eq_true, decide_eq_true_eq] at overlap
  exact overlap.2

/-- No conflict is found only where none is: the window, the series and the state by which the
candidates are selected hold of every conflict. -/
theorem findConflict_none {exceptionId : String}
    (clear : findConflict store revision exceptionId = none)
    (mem : head ∈ store.heads) (approved : head.status = .approved)
    (listed : row ∈ store.exceptions) (points : row.id = head.currentRevisionId)
    (series : row.exceptionId = head.exceptionId) (other : row.exceptionId ≠ exceptionId)
    (contact : row.contactId = revision.contactId) : cg4ExceptionsOverlap revision row = false := by
  by_contra overlap
  rw [Bool.not_eq_false] at overlap
  obtain ⟨starts, ends⟩ := windows_of_overlap overlap
  have candidate : row ∈ overlapCandidates store revision exceptionId := by
    rw [overlapCandidates, mem_filter]
    refine ⟨listed, ?_⟩
    simp only [Bool.and_eq_true, decide_eq_true_eq]
    exact ⟨⟨⟨contact, other⟩, starts⟩, ends⟩
  have active : head ∈ activeHeads store (overlapCandidates store revision exceptionId) := by
    rw [activeHeads, mem_filter]
    refine ⟨mem, ?_⟩
    simp only [Bool.and_eq_true, decide_eq_true_eq]
    exact ⟨mem_map.mpr ⟨row, candidate, series⟩, approved⟩
  have searched := find?_eq_none.mp clear row (mem_filter.mpr ⟨candidate, by
    rw [decide_eq_true_eq, points]
    exact mem_map_of_mem active⟩)
  exact searched overlap

section Sound

theorem ExceptionsSound.recorded (sound : ExceptionsSound store)
    (exceptions : after.exceptions = store.exceptions ++ [row])
    (heads : after.heads = put ExceptionHead.exceptionId store.heads (pointTo row))
    (decisions : after.decisions = store.decisions)
    (fresh : row.id ∉ store.exceptions.map ExceptionRow.id)
    (revision : ∀ other ∈ store.exceptions,
      ¬ (other.exceptionId = row.exceptionId ∧ other.revision = row.revision)) :
    ExceptionsSound after := by
  have kept : ∀ other ∈ store.exceptions, other ∈ after.exceptions := by
    intro other mem
    rw [exceptions]
    exact mem_append_left _ mem
  have old : ∀ head ∈ after.heads, head.status = .approved → head ∈ store.heads := by
    intro head mem approved
    rw [heads] at mem
    rcases mem_put mem with new | ⟨before, -⟩
    · rw [new] at approved
      cases approved
    · exact before
  have same : ∀ head ∈ store.heads, ∀ other ∈ after.exceptions,
      other.id = head.currentRevisionId → other ∈ store.exceptions := by
    intro head mem other listed points
    rw [exceptions] at listed
    rcases mem_append.mp listed with before | new
    · exact before
    · obtain ⟨target, present, id, -⟩ := sound.current head mem
      rw [mem_singleton.mp new] at points
      exact absurd (mem_map.mpr ⟨target, present, id.trans points.symm⟩) fresh
  refine ⟨?_, ?_, ?_, ?_, ?_, ?_, ?_⟩
  · rw [exceptions]
    exact nodup_append sound.rowIds fresh
  · intro left leftMember right rightMember series number
    rw [exceptions] at leftMember rightMember
    rcases mem_append.mp leftMember with leftOld | leftNew <;>
      rcases mem_append.mp rightMember with rightOld | rightNew
    · exact sound.revisions left leftOld right rightOld series number
    · rw [mem_singleton.mp rightNew] at series number
      exact absurd ⟨series, number⟩ (revision left leftOld)
    · rw [mem_singleton.mp leftNew] at series number
      exact absurd ⟨series.symm, number.symm⟩ (revision right rightOld)
    · rw [mem_singleton.mp leftNew, mem_singleton.mp rightNew]
  · rw [heads]
    exact nodup_put sound.series
  · intro head mem
    rw [heads] at mem
    rcases mem_put mem with new | ⟨before, -⟩
    · refine ⟨row, ?_, ?_⟩
      · rw [exceptions]
        exact mem_append_right _ mem_cons_self
      · rw [new]
        exact ⟨rfl, rfl, rfl⟩
    · obtain ⟨target, present, points⟩ := sound.current head before
      exact ⟨target, kept target present, points⟩
  · intro left leftMember right rightMember distinct leftApproved rightApproved leftRow leftListed
      leftPoints rightRow rightListed rightPoints contact
    have leftOld := old left leftMember leftApproved
    have rightOld := old right rightMember rightApproved
    exact sound.apart left leftOld right rightOld distinct leftApproved rightApproved leftRow
      (same left leftOld leftRow leftListed leftPoints) leftPoints rightRow
      (same right rightOld rightRow rightListed rightPoints) rightPoints contact
  · intro head mem approved
    rw [decisions]
    exact sound.approved head (old head mem approved) approved
  · intro decision mem approves
    rw [decisions] at mem
    obtain ⟨target, present, points⟩ := sound.checked decision mem approves
    exact ⟨target, kept target present, points⟩

/-- A move changes the state of one head, which is the head of the revision that was read. -/
theorem ExceptionsSound.moved (sound : ExceptionsSound store) {current : ExceptionHead}
    (exceptions : after.exceptions = store.exceptions)
    (heads : after.heads = update ExceptionHead.exceptionId input.exceptionId
      (fun head => { head with status := (transitionRule input.action).target }) store.heads)
    (decisions : after.decisions =
      store.decisions ++ [⟨revision.id, input.action, input.actor.subjectId⟩])
    (bound : BoundTo store input revision)
    (found : store.headOf input.exceptionId = some current)
    (expected : (current.currentRevision : Int) = input.expectedRevision)
    (checker : input.action = .approve → revision.actorRef ≠ input.actor.subjectId)
    (apart : input.action = .approve → findConflict store revision input.exceptionId = none) :
    ExceptionsSound after := by
  obtain ⟨listed, series, number⟩ := bound
  have currentKey : current.exceptionId = input.exceptionId := lookup_key found
  have currentMember : current ∈ store.heads := lookup_mem found
  -- the current revision of the head is the one which the transition has read
  have points : revision.id = current.currentRevisionId := by
    obtain ⟨row, mem, id, rowSeries, rowNumber⟩ := sound.current current currentMember
    have same : row = revision := by
      apply sound.revisions row mem revision listed
      · rw [rowSeries, currentKey, series]
      · omega
    rw [← same, id]
  have before : ∀ head ∈ after.heads, ∃ old ∈ store.heads, head.exceptionId = old.exceptionId ∧
      head.currentRevisionId = old.currentRevisionId ∧
      head.currentRevision = old.currentRevision ∧
      (head.status = .approved → old.status = .approved ∧ old.exceptionId ≠ input.exceptionId ∨
        input.action = .approve ∧ old = current) := by
    intro head mem
    rw [heads] at mem
    obtain ⟨old, present, rfl⟩ := mem_update.mp mem
    refine ⟨old, present, ?_⟩
    split
    next here =>
      refine ⟨rfl, rfl, rfl, ?_⟩
      intro approved
      have isCurrent : old = current :=
        eq_of_key_eq sound.series present currentMember (here.trans currentKey.symm)
      refine .inr ⟨?_, isCurrent⟩
      cases action : input.action with
      | approve => rfl
      | _ => simp [action, transitionRule] at approved
    next other => exact ⟨rfl, rfl, rfl, fun approved => .inl ⟨approved, other⟩⟩
  -- the newly approved revision against an approved head of another series
  have against : ∀ old ∈ store.heads, old.status = .approved →
      old.exceptionId ≠ input.exceptionId → input.action = .approve →
      ∀ row ∈ store.exceptions, row.id = old.currentRevisionId →
        row.contactId = revision.contactId → cg4ExceptionsOverlap revision row = false := by
    intro old mem approved other approves row rowListed rowPoints contact
    obtain ⟨target, targetListed, targetId, targetSeries, -⟩ := sound.current old mem
    have same : row = target :=
      eq_of_key_eq sound.rowIds rowListed targetListed (rowPoints.trans targetId.symm)
    rw [← same] at targetSeries
    exact findConflict_none (apart approves) mem approved rowListed rowPoints targetSeries
      (targetSeries ▸ other) contact
  refine ⟨?_, ?_, ?_, ?_, ?_, ?_, ?_⟩
  · rw [exceptions]
    exact sound.rowIds
  · rw [exceptions]
    exact sound.revisions
  · have keys : after.heads.map ExceptionHead.exceptionId =
        store.heads.map ExceptionHead.exceptionId := by
      rw [heads]
      exact map_key_update fun _ => rfl
    rw [keys]
    exact sound.series
  · intro head mem
    obtain ⟨old, present, sameSeries, sameId, sameNumber, -⟩ := before head mem
    rw [exceptions, sameSeries, sameId, sameNumber]
    exact sound.current old present
  · intro left leftMember right rightMember distinct leftApproved rightApproved leftRow leftListed
      leftPoints rightRow rightListed rightPoints contact
    rw [exceptions] at leftListed rightListed
    obtain ⟨leftOld, leftPresent, leftSeries, leftId, -, leftCases⟩ := before left leftMember
    obtain ⟨rightOld, rightPresent, rightSeries, rightId, -, rightCases⟩ := before right rightMember
    rw [leftId] at leftPoints
    rw [rightId] at rightPoints
    rw [leftSeries, rightSeries] at distinct
    rcases leftCases leftApproved with ⟨leftWas, leftOther⟩ | ⟨leftApproves, leftCurrent⟩ <;>
      rcases rightCases rightApproved with ⟨rightWas, rightOther⟩ | ⟨rightApproves, rightCurrent⟩
    · exact sound.apart leftOld leftPresent rightOld rightPresent distinct leftWas rightWas leftRow
        leftListed leftPoints rightRow rightListed rightPoints contact
    · have isRevision : rightRow = revision := by
        apply eq_of_key_eq sound.rowIds rightListed listed
        rw [rightPoints, rightCurrent, points]
      rw [cg4ExceptionsOverlap_comm, isRevision]
      exact against leftOld leftPresent leftWas leftOther rightApproves leftRow leftListed leftPoints
        (isRevision ▸ contact)
    · have isRevision : leftRow = revision := by
        apply eq_of_key_eq sound.rowIds leftListed listed
        rw [leftPoints, leftCurrent, points]
      rw [isRevision]
      exact against rightOld rightPresent rightWas rightOther leftApproves rightRow rightListed
        rightPoints (isRevision ▸ contact.symm)
    · rw [leftCurrent, rightCurrent] at distinct
      exact absurd rfl distinct
  · intro head mem isApproved
    obtain ⟨old, present, -, sameId, -, kinds⟩ := before head mem
    rw [decisions, sameId]
    rcases kinds isApproved with ⟨was, -⟩ | ⟨approves, isCurrent⟩
    · obtain ⟨decision, known, about⟩ := sound.approved old present was
      exact ⟨decision, mem_append_left _ known, about⟩
    · refine ⟨_, mem_append_right _ mem_cons_self, ?_, approves⟩
      rw [isCurrent]
      exact points
  · intro decision mem approves
    rw [decisions] at mem
    rw [exceptions]
    rcases mem_snoc.mp mem with known | rfl
    · exact sound.checked decision known approves
    · exact ⟨revision, listed, rfl, checker approves⟩

theorem Changed.sound (changed : Changed store after) (sound : ExceptionsSound store) :
    ExceptionsSound after := by
  cases changed with
  | unchanged exceptions heads decisions =>
      refine ⟨?_, ?_, ?_, ?_, ?_, ?_, ?_⟩
      · rw [exceptions]
        exact sound.rowIds
      · rw [exceptions]
        exact sound.revisions
      · rw [heads]
        exact sound.series
      · rw [heads, exceptions]
        exact sound.current
      · rw [Apart, heads, exceptions]
        exact sound.apart
      · rw [heads, decisions]
        exact sound.approved
      · rw [decisions, exceptions]
        exact sound.checked
  | recorded row exceptions heads decisions fresh revision _ =>
      exact sound.recorded exceptions heads decisions fresh revision
  | moved input revision current exceptions heads decisions bound found expected _ checker apart =>
      exact sound.moved exceptions heads decisions bound found expected checker apart

/-! ## What lasts -/

/-- Where a head that has left `PENDING` can go: it keeps its revision, and its state as well
unless it is approved and gets revoked. -/
def HeadLasts (before after : ExceptionHead) : Prop :=
  after.exceptionId = before.exceptionId ∧ after.currentRevisionId = before.currentRevisionId ∧
    after.currentRevision = before.currentRevision ∧
    (after.status = before.status ∨ before.status = .approved ∧ after.status = .revoked)

theorem HeadLasts.refl (head : ExceptionHead) : HeadLasts head head := ⟨rfl, rfl, rfl, .inl rfl⟩

theorem HeadLasts.trans {first second third : ExceptionHead} (earlier : HeadLasts first second)
    (later : HeadLasts second third) : HeadLasts first third := by
  obtain ⟨series, id, number, status⟩ := earlier
  obtain ⟨series', id', number', status'⟩ := later
  refine ⟨series'.trans series, id'.trans id, number'.trans number, ?_⟩
  rcases status with same | ⟨approved, revoked⟩
  · rw [← same]
    exact status'
  · rcases status' with same' | ⟨approved', -⟩
    · exact .inr ⟨approved, same'.trans revoked⟩
    · rw [revoked] at approved'
      cases approved'

/-- Every revision is kept, and so is every head that has left `PENDING`. -/
structure Extends (before after : ExceptionStore) : Prop where
  rows : ∀ row ∈ before.exceptions, row ∈ after.exceptions
  heads : ∀ head ∈ before.heads, head.status ≠ .pending → ∃ next ∈ after.heads, HeadLasts head next

theorem Extends.refl (store : ExceptionStore) : Extends store store where
  rows := fun _ mem => mem
  heads := fun head mem _ => ⟨head, mem, .refl head⟩

theorem Extends.trans {first second third : ExceptionStore} (earlier : Extends first second)
    (later : Extends second third) : Extends first third where
  rows := fun row mem => later.rows row (earlier.rows row mem)
  heads := by
    intro head mem left
    obtain ⟨middle, present, lasts⟩ := earlier.heads head mem left
    have middleLeft : middle.status ≠ .pending := by
      rcases lasts.2.2.2 with same | ⟨-, revoked⟩
      · rw [same]
        exact left
      · rw [revoked]
        exact ExceptionWorkflowState.noConfusion
    obtain ⟨last, lastPresent, lasts'⟩ := later.heads middle present middleLeft
    exact ⟨last, lastPresent, lasts.trans lasts'⟩

theorem Changed.extends (changed : Changed store after) (sound : ExceptionsSound store) :
    Extends store after := by
  cases changed with
  | unchanged exceptions heads _ =>
      refine ⟨?_, ?_⟩
      · rw [exceptions]
        exact fun _ mem => mem
      · rw [heads]
        exact fun head mem _ => ⟨head, mem, .refl head⟩
  | recorded row exceptions heads _ _ _ pending =>
      refine ⟨?_, ?_⟩
      · intro other mem
        rw [exceptions]
        exact mem_append_left _ mem
      · intro head mem left
        refine ⟨head, ?_, .refl head⟩
        rw [heads]
        refine mem_put_of_ne mem ?_
        intro same
        exact left (pending head (lookup_of_member sound.series mem same))
  | moved input revision current exceptions heads _ _ found _ source _ _ =>
      refine ⟨?_, ?_⟩
      · rw [exceptions]
        exact fun _ mem => mem
      · intro head mem left
        rw [heads]
        refine ⟨_, mem_update.mpr ⟨head, mem, rfl⟩, ?_⟩
        split
        next here =>
          have isCurrent : head = current :=
            eq_of_key_eq sound.series mem (lookup_mem found)
              (here.trans (lookup_key found).symm)
          refine ⟨rfl, rfl, rfl, .inr ?_⟩
          rw [← isCurrent] at source
          cases action : input.action with
          | revoke =>
              rw [action] at source
              exact ⟨source, rfl⟩
          | _ =>
              rw [action] at source
              exact absurd source left
        next => exact .refl head

end Sound

/-! ## Runs of commands -/

theorem bindTransition_ok (sound : ExceptionsSound store)
    (ok : bindTransition store input = .ok (head, revision)) : BoundTo store input revision := by
  obtain ⟨found, isHead, ok⟩ := bind_ok ok
  obtain ⟨_, expected, ok⟩ := bind_ok ok
  obtain ⟨row, isRow, ok⟩ := bind_ok ok
  replace ok := rest_ok ok
  cases ok
  have headFound := orFail_ok.mp isHead
  have rowFound := orFail_ok.mp isRow
  obtain ⟨target, mem, id, series, number⟩ := sound.current head (lookup_mem headFound)
  have same : revision = target :=
    eq_of_key_eq sound.rowIds (lookup_mem rowFound) mem
      ((lookup_key rowFound).trans id.symm)
  refine ⟨lookup_mem rowFound, ?_, ?_⟩
  · rw [same, series, lookup_key headFound]
  · rw [same, number]
    exact ensure_ok.mp expected

/-- The store is sound, and every transition in flight has read what is still there. -/
structure StateSound (state : ExceptionState) : Prop where
  store : ExceptionsSound state.store
  sessions : ∀ session ∈ state.sessions, ∀ input head revision,
    session.work = .bound input head revision → BoundTo state.store input revision

theorem BoundTo.extends {before : ExceptionStore} (bound : BoundTo before input revision)
    (extended : Extends before after) : BoundTo after input revision :=
  ⟨extended.rows revision bound.1, bound.2⟩

variable {state : ExceptionState}

theorem next_sound {after : ExceptionState}
    {step : ExceptionStep} (sound : StateSound state) (taken : state.next digests step = some after) :
    StateSound after ∧ Extends state.store after.store := by
  have dropped : ∀ pid, StateSound { state with sessions := Session.drop state.sessions pid } :=
    fun pid => ⟨sound.store, Session.forall_drop sound.sessions⟩
  cases step with
  | record directory input ids now =>
      rw [ExceptionState.next] at taken
      split at taken
      next ok =>
        cases taken
        have changed := recordException_changed ok
        have extended := changed.extends sound.store
        refine ⟨⟨changed.sound sound.store, ?_⟩, extended⟩
        intro session mem input head revision isBound
        exact (sound.sessions session mem input head revision isBound).extends extended
      next =>
        cases taken
        exact ⟨sound, .refl _⟩
  | openTransition pid input =>
      rw [ExceptionState.next] at taken
      split at taken
      next =>
        cases taken
        refine ⟨⟨sound.store, Session.forall_replace sound.sessions ?_⟩, .refl _⟩
        intro input head revision isBound
        cases isBound
      next =>
        cases taken
        exact ⟨sound, .refl _⟩
  | bindTransition pid =>
      rw [ExceptionState.next] at taken
      split at taken
      next input _ =>
        split at taken
        next ok =>
          cases taken
          refine ⟨⟨sound.store, Session.forall_replace sound.sessions ?_⟩, .refl _⟩
          intro input head revision isBound
          cases isBound
          exact bindTransition_ok sound.store ok
        next =>
          cases taken
          exact ⟨dropped pid, .refl _⟩
      next => cases taken
  | finalizeTransition pid votes ids now =>
      rw [ExceptionState.next] at taken
      split at taken
      next input head revision found =>
        have bound := sound.sessions _ (Session.find_mem found) input head revision rfl
        split at taken
        next ok =>
          cases taken
          have changed := finalizeTransition_changed ok bound
          have extended := changed.extends sound.store
          refine ⟨⟨changed.sound sound.store, Session.forall_drop ?_⟩, extended⟩
          intro session mem input head revision isBound
          exact (sound.sessions session mem input head revision isBound).extends extended
        next =>
          cases taken
          exact ⟨dropped pid, .refl _⟩
      next => cases taken
  | abandon pid =>
      cases taken
      exact ⟨dropped pid, .refl _⟩

theorem stateSound_of_reachable
    (reachable : (exceptionSystem digests).Reachable state) : StateSound state := by
  refine reachable.invariant ?_ ?_
  · rintro state rfl
    refine ⟨exceptionsSound_empty, ?_⟩
    exact forall_mem_nil _
  · intro source step target sound taken
    exact (next_sound sound taken).1

theorem extends_of_reaches {later : ExceptionState}
    (sound : StateSound state) (run : (exceptionSystem digests).Reaches state later) :
    Extends state.store later.store := by
  let R := fun before after : ExceptionState => Extends before.store after.store
  suffices R state later from this
  refine System.Reaches.related (fun state => Extends.refl state.store)
    (fun _ _ _ earlier later => earlier.trans later) ?_ ?_ sound run
  · intro source step target sound taken
    exact (next_sound sound taken).1
  · intro source step target sound taken
    exact (next_sound sound taken).2

/-! ## Approved exceptions -/

def ExceptionWorkflowState.terminal : ExceptionWorkflowState → Bool
  | .rejected | .cancelled | .revoked => true
  | .pending | .approved => false

/-- No two approved series of a contact overlap; an approved revision was approved by somebody
other than its maker; no revision ever changes, an approved series keeps its revision, and a
series that was rejected, cancelled or revoked stays as it is. -/
theorem approved_exceptions_stay_apart {digests : ExceptionDigests} {state : ExceptionState}
    (reachable : (exceptionSystem digests).Reachable state) :
    Apart state.store ∧
    (∀ head ∈ state.store.heads, head.status = .approved →
      ∃ decision ∈ state.store.decisions, decision.revisionId = head.currentRevisionId ∧
        decision.action = .approve) ∧
    (∀ decision ∈ state.store.decisions, decision.action = .approve →
      ∃ row, state.store.revisionOf decision.revisionId = some row ∧
        row.actorRef ≠ decision.actorRef) ∧
    ∀ later, (exceptionSystem digests).Reaches state later →
      (∀ row ∈ state.store.exceptions, later.store.revisionOf row.id = some row) ∧
      (∀ head ∈ state.store.heads, head.status = .approved →
        ∃ next ∈ later.store.heads, HeadLasts head next) ∧
      ∀ head ∈ state.store.heads, head.status.terminal = true → head ∈ later.store.heads := by
  have sound := stateSound_of_reachable reachable
  refine ⟨sound.store.apart, sound.store.approved, ?_, ?_⟩
  · intro decision mem approves
    obtain ⟨row, listed, id, distinct⟩ := sound.store.checked decision mem approves
    exact ⟨row, lookup_of_member sound.store.rowIds listed id, distinct⟩
  · intro later run
    have extended := extends_of_reaches sound run
    have laterSound := stateSound_of_reachable (reachable.reaches run)
    refine ⟨?_, ?_, ?_⟩
    · intro row mem
      exact lookup_of_member laterSound.store.rowIds (extended.rows row mem) rfl
    · intro head mem approved
      refine extended.heads head mem ?_
      rw [approved]
      exact ExceptionWorkflowState.noConfusion
    · intro head mem terminal
      have left : head.status ≠ .pending := by
        intro pending
        rw [pending] at terminal
        cases terminal
      obtain ⟨next, present, series, id, number, status⟩ := extended.heads head mem left
      have same : next = head := by
        rcases status with kept | ⟨approved, -⟩
        · cases head
          cases next
          cases series
          cases id
          cases number
          cases kept
          rfl
        · rw [approved] at terminal
          cases terminal
      rw [← same]
      exact present

/-! ### Two requests for one scope -/

def sampleDigests : ExceptionDigests where
  record := fun input _ => input.idempotencyKey
  transition := fun input => input.idempotencyKey
  recorded := fun _ row => row.id
  moved := fun _ row _ => row.id

def policyDigest : String := String.ofList (List.replicate 64 'a')

def sampleDirectory : ExceptionDirectory where
  contacts := ["contact"]
  identities := [⟨"identity", "contact"⟩]
  policies := [⟨"policy", 1, .obj [("allowedOperationalRuleCodes", .arr [.str "QUIET_HOURS"])],
    policyDigest, ruleRegistryVersion, .active⟩]

def quietHoursRequest (exceptionId : String) (expectedVersion : Int) : RecordExceptionInput where
  tenantId := "tenant"
  contactId := "contact"
  identityId := some "identity"
  scopeKind := .exactIdentity
  channel := .voice
  purpose := "care"
  sourceType := "AGENT"
  sourceId := "desk"
  allowedRuleCodes := [" QUIET_HOURS"]
  policyId := "policy"
  policyVersion := 1
  policyContentDigest := policyDigest
  registryVersion := ruleRegistryVersion
  startsAt := some 0
  expiresAt := some 3600000
  tier := .standard
  reasonCode := "reason"
  ticketRef := none
  evidenceRef := "evidence"
  actorRef := "maker"
  occurredAt := some 0
  exceptionId := some exceptionId
  renewsExceptionId := none
  idempotencyKey := "record-" ++ exceptionId
  expectedVersion := expectedVersion

def checkerOf (subjectId : String) : AuthorizationSubject where
  subjectId := subjectId
  capabilities := [⟨.exceptionApproveStandard, "tenant:scope", .direct, none, none⟩]
  directComplianceAuthority := false
  emergencyAuthority := false
  authorizationEpoch := 1
  scopeVersion := 1

def approvalOf (exceptionId : String) (expectedVersion : Int) : TransitionInput where
  tenantId := "tenant"
  exceptionId := exceptionId
  expectedRevision := 1
  expectedContentDigest := "record-" ++ exceptionId
  action := .approve
  reasonCode := "reason"
  evidenceRef := "evidence"
  actor := checkerOf "checker"
  scopeKey := "tenant:scope"
  occurredAt := some 0
  expectedVersion := expectedVersion
  idempotencyKey := "approve-" ++ exceptionId

def sampleVote (exceptionId : String) : VoteRow :=
  ⟨"vote-" ++ exceptionId, ⟨exceptionId, 1⟩, .approve, "checker", "evidence", 0,
    .exceptionApproveStandard, .direct, none, false, false, 1, 1⟩

def idsOf (key : String) : ExceptionIds :=
  ⟨"mutation-" ++ key, "", "row-" ++ key, "event-" ++ key⟩

/-- The second request is recorded while the first is being approved, and then refused. -/
theorem second_request_refused :
    ∃ state, (exceptionSystem sampleDigests).Reachable state ∧
      state.store.heads.map (fun head => (head.exceptionId, head.status)) =
        [("first", .approved), ("second", .pending)] ∧
      Apart state.store := by
  have ends : System.endsWith (ExceptionState.next sampleDigests) ⟨.empty, []⟩
      [.record sampleDirectory (quietHoursRequest "first" 0) (idsOf "first") 0,
        .openTransition 1 (approvalOf "first" 2), .bindTransition 1,
        .record sampleDirectory (quietHoursRequest "second" 1) (idsOf "second") 0,
        .openTransition 2 (approvalOf "second" 3), .bindTransition 2,
        .finalizeTransition 1 [sampleVote "first"] (idsOf "approve-first") 0]
      (.finalizeTransition 2 [sampleVote "second"] (idsOf "approve-second") 0)
      (fun _ after => decide (after.store.heads.map (fun head => (head.exceptionId, head.status)) =
        [("first", .approved), ("second", .pending)])) = true := by
    decide +kernel
  obtain ⟨before, after, reachable, taken, found⟩ :=
    System.Reachable.endsWith (show (exceptionSystem sampleDigests).init ⟨.empty, []⟩ from rfl) ends
  exact ⟨after, reachable.step taken, of_decide_eq_true found,
    (approved_exceptions_stay_apart (reachable.step taken)).1⟩

end DContact.Governance

import DContact.Customer360.IdentityTransition
import DContact.Customer360.MembershipEvaluation

/-!
# Moves of a membership stream

Commits of evaluations and identity transitions write to the same streams. Whatever they do to
one stream is one of a few moves: a change is appended and the head follows it, or the head is
refreshed without a change. The moves of each operation are found here once, and every
invariant of the streams is shown of the moves.
-/

namespace DContact.Customer360

open Lib List MembershipStore SegmentMembershipHead
open Governance (Instant)

/-! ## Moves -/

/-- The state and the entry of a head after a change of a kind and with an entry. An entry that
opens has the minted identifier. -/
inductive HeadFollows (minted : String) : Option SegmentMembershipHead → ChangeKind →
    Option String → MembershipState → Option String → Prop
  | entered {old : Option SegmentMembershipHead}
      (apart : ∀ current, old = some current → current.state ≠ .inside) :
      HeadFollows minted old .entered (some minted) .inside (some minted)
  | corrected {current : SegmentMembershipHead} (inside : current.state = .inside) :
      HeadFollows minted (some current) .corrected current.entryId .inside current.entryId
  | left {current : SegmentMembershipHead} (inside : current.state = .inside) :
      HeadFollows minted (some current) .left current.entryId .outside none
  | putAside {current : SegmentMembershipHead} (invalidated : current.state = .invalidated) :
      HeadFollows minted (some current) .refilterRequired none .outside none
  | invalidated {current : SegmentMembershipHead} :
      HeadFollows minted (some current) .identityInvalidated current.entryId .invalidated
        current.entryId
  | refiltered {current : SegmentMembershipHead} :
      HeadFollows minted (some current) .refilterRequired current.entryId current.state
        current.entryId

def MembershipStore.revisionOf (store : MembershipStore) (stream : MembershipStream) : Nat :=
  ((store.head stream).map SegmentMembershipHead.membershipRevision).getD 0

variable {store : MembershipStore}

theorem MembershipStore.revisionOf_eq {stream : MembershipStream}
    {head : SegmentMembershipHead} (found : store.head stream = some head) :
    store.revisionOf stream = head.membershipRevision := by
  rw [revisionOf, found]
  rfl

structure Appends (minted : String) (before after : MembershipStore)
    (change : SegmentMembershipChange) (head : SegmentMembershipHead) : Prop where
  heads : after.heads = Table.put SegmentMembershipHead.stream before.heads head
  changes : after.changes = before.changes ++ [change]
  stream : change.stream = head.stream
  revision : change.membershipRevision = head.membershipRevision
  advances : head.membershipRevision = before.revisionOf head.stream + 1
  lineage : ∀ old, before.head head.stream = some old → old.lineageRevision ≤ head.lineageRevision
  follows : HeadFollows minted (before.head head.stream) change.changeKind change.entryId
    head.state head.entryId

structure Refreshes (before after : MembershipStore) (head : SegmentMembershipHead) : Prop where
  heads : after.heads = Table.put SegmentMembershipHead.stream before.heads head
  changes : after.changes = before.changes
  revision : head.membershipRevision = before.revisionOf head.stream
  outside : head.state = .outside
  entryId : head.entryId = none
  before_ : ∀ old, before.head head.stream = some old → old.state = .outside

/-- No stream moves. -/
structure Rests (before after : MembershipStore) : Prop where
  heads : after.heads = before.heads
  changes : after.changes = before.changes

/-- The identities and their ledger stay as they are. -/
structure SameIdentities (before after : MembershipStore) : Prop where
  identityHeads : after.identityHeads = before.identityHeads
  lineage : after.lineage = before.lineage
  contacts : after.contacts = before.contacts

theorem Rests.refl (store : MembershipStore) : Rests store store := ⟨rfl, rfl⟩

variable {first second third : MembershipStore}

theorem Rests.trans (left : Rests first second) (right : Rests second third) : Rests first third :=
  ⟨right.heads.trans left.heads, right.changes.trans left.changes⟩

theorem SameIdentities.refl (store : MembershipStore) : SameIdentities store store :=
  ⟨rfl, rfl, rfl⟩

theorem SameIdentities.trans
    (left : SameIdentities first second) (right : SameIdentities second third) :
    SameIdentities first third :=
  ⟨right.identityHeads.trans left.identityHeads, right.lineage.trans left.lineage,
    right.contacts.trans left.contacts⟩

variable {before : MembershipStore} {after : MembershipStore}

theorem Rests.head (rests : Rests before after)
    (stream : MembershipStream) : after.head stream = before.head stream := by
  rw [MembershipStore.head, MembershipStore.head, rests.heads]

theorem SameIdentities.identityHead (same : SameIdentities before after) (contactId : String) :
    after.identityHead contactId = before.identityHead contactId := by
  rw [MembershipStore.identityHead, MembershipStore.identityHead, same.identityHeads]

/-! ## Writes -/

theorem insertChange_ok {row : SegmentMembershipChange} (ok : store.insertChange row = .ok after) :
    after = { store with changes := store.changes ++ [row] } := by
  obtain ⟨_, _, rest⟩ := bind_ok ok
  obtain ⟨_, _, rest⟩ := bind_ok rest
  obtain ⟨_, _, rest⟩ := bind_ok rest
  cases rest
  rfl

theorem writeHead_ok {row : SegmentMembershipHead} (ok : store.writeHead row = .ok after) :
    after = { store with heads := Table.put stream store.heads row } ∧
      row.checked = true ∧
      ∀ old, store.head row.stream = some old → old.updatable row = true := by
  obtain ⟨_, checked, rest⟩ := bind_ok ok
  obtain ⟨_, allowed, rest⟩ := bind_ok rest
  cases rest
  refine ⟨rfl, ensure_ok.mp checked, ?_⟩
  intro old present
  have updatable := ensure_ok.mp allowed
  rw [present] at updatable
  exact updatable

theorem updatable_lineage {old new : SegmentMembershipHead} (updatable : old.updatable new = true) :
    old.lineageRevision ≤ new.lineageRevision := by
  simp only [SegmentMembershipHead.updatable, Bool.and_eq_true, decide_eq_true_eq] at updatable
  exact updatable.1.2

variable {contactId : String}

theorem ensureIdentityHead_ok
    {head : IdentityHead} (ok : ensureIdentityHead store contactId = .ok (after, head)) :
    (after = store ∧ store.identityHead contactId = some head) ∨
      (store.identityHead contactId = none ∧ head = freshIdentityHead contactId ∧
        after = { store with identityHeads := store.identityHeads ++ [head] }) := by
  unfold ensureIdentityHead at ok
  split at ok
  next existing found =>
    cases ok
    exact .inl ⟨rfl, found⟩
  next absent =>
    obtain ⟨_, _, rest⟩ := bind_ok ok
    cases rest
    exact .inr ⟨absent, rfl, rfl⟩

theorem ensureIdentityHead_rests
    {head : IdentityHead} (ok : ensureIdentityHead store contactId = .ok (after, head)) :
    Rests store after ∧ after.lineage = store.lineage := by
  rcases ensureIdentityHead_ok ok with ⟨rfl, -⟩ | ⟨-, -, rfl⟩
  · exact ⟨.refl _, rfl⟩
  · exact ⟨⟨rfl, rfl⟩, rfl⟩

variable {answer : CommitResult} {input : CommitInput}

theorem storeReceipt_ok {commandId requestHash : String} {result : CommitResult}
    (ok : storeReceipt store commandId requestHash result = .ok (after, answer)) :
    answer = result ∧ Rests store after ∧ SameIdentities store after := by
  obtain ⟨_, _, rest⟩ := bind_ok ok
  cases rest
  exact ⟨rfl, ⟨rfl, rfl⟩, ⟨rfl, rfl, rfl⟩⟩

theorem quarantineRow_rests (store : MembershipStore) (input : CommitInput)
    (requestHash errorCode : String) :
    Rests store (quarantineRow store input requestHash errorCode) ∧
      SameIdentities store (quarantineRow store input requestHash errorCode) := by
  unfold quarantineRow
  split
  · exact ⟨.refl _, .refl _⟩
  · exact ⟨⟨rfl, rfl⟩, ⟨rfl, rfl, rfl⟩⟩

theorem quarantineCommand_ok {requestHash errorCode : String}
    (ok : quarantineCommand store input requestHash errorCode = .ok (after, answer)) :
    answer = quarantinedResult input ∧ Rests store after ∧ SameIdentities store after := by
  obtain ⟨same, rests, identities⟩ := storeReceipt_ok ok
  have row := quarantineRow_rests store input requestHash errorCode
  exact ⟨same, row.1.trans rests, row.2.trans identities⟩

theorem ensureEvidence_rests (ids : CommitIds) (store : MembershipStore)
    (evaluation : StoredEvaluation) :
    Rests store (ensureEvidence ids store evaluation).1 ∧
      SameIdentities store (ensureEvidence ids store evaluation).1 := by
  unfold ensureEvidence
  split
  · exact ⟨.refl _, .refl _⟩
  · exact ⟨⟨rfl, rfl⟩, ⟨rfl, rfl, rfl⟩⟩

def MembershipStore.outcomeOf (store : MembershipStore) (host : EvaluationHost)
    (binding : EvaluationBinding) : Option EvaluationOutcome :=
  match store.evaluationOf binding with
  | some existing => some existing.outcome
  | none =>
      (store.factsOf binding).bind fun facts =>
        (host.evaluate binding facts.1.definition facts.2.facts).toOption

variable {host : EvaluationHost} {now : Instant} {ids : CommitIds}

theorem evaluateBinding_ok {binding : EvaluationBinding} {evaluation : StoredEvaluation}
    (ok : evaluateBinding host ids now store binding = .ok (after, evaluation)) :
    evaluation.binding = binding ∧ store.outcomeOf host binding = some evaluation.outcome ∧
      Rests store after ∧ SameIdentities store after := by
  unfold evaluateBinding at ok
  split at ok
  next existing found =>
    cases ok
    refine ⟨Table.lookup_key found, ?_, .refl _, .refl _⟩
    rw [outcomeOf, found]
  next absent =>
    obtain ⟨facts, found, rest⟩ := bind_ok ok
    obtain ⟨outcome, evaluated, rest⟩ := bind_ok rest
    cases rest
    refine ⟨rfl, ?_, ⟨rfl, rfl⟩, ⟨rfl, rfl, rfl⟩⟩
    rw [outcomeOf, absent, orFail_ok.mp found]
    simp only [Option.bind_some, mapError_ok.mp evaluated, Except.toOption]

/-! ## What a commit does -/

def CommitIds.minted (ids : CommitIds) : String := "entry:" ++ ids.entryId

/-- What a commit for an active contact comes to. -/
inductive CommitMove (context : CommitContext) (before after : MembershipStore)
    (answer : CommitResult) : Prop
  | rested (rests : Rests before after)
      (status : answer.status = .duplicateNoOp ∨ answer.status = .quarantined)
  | refreshed
      (refreshes : Refreshes before after (context.headAt .outside context.currentRevision none))
      (expected : context.currentRevision = context.input.expectedMembershipRevision)
      (judged : context.evaluation.outcome = .isMatch ∨ context.evaluation.outcome = .noMatch)
      (status : answer.status = .noChange)
  | appended (kind : ChangeKind) (state : MembershipState) (entryId : Option String)
      (appends : Appends context.ids.minted before after (context.changeOf kind entryId)
        (context.headAt state (context.currentRevision + 1)
          (if state = .inside then entryId else none)))
      (expected : context.currentRevision = context.input.expectedMembershipRevision)
      (judged : context.evaluation.outcome = .isMatch ∨ context.evaluation.outcome = .noMatch)
      (putAside : kind = .refilterRequired → context.evaluation.outcome = .noMatch ∧
        ∃ current, context.current = some current ∧ current.state = .invalidated)
      (status : answer.status = .transitioned)

variable {kind : ChangeKind}

namespace CommitContext

variable {context : CommitContext}

section
variable (current : context.current = store.head context.input.stream)
include current

theorem revision_of_current : context.currentRevision = store.revisionOf context.input.stream := by
  rw [currentRevision, current, revisionOf]

theorem persistTransition_ok {state : MembershipState} {entryId : Option String}
    (follows : HeadFollows context.ids.minted context.current kind entryId state
      (if state = .inside then entryId else none))
    (ok : persistTransition context store kind state entryId = .ok (after, answer)) :
    Appends context.ids.minted store after (context.changeOf kind entryId)
        (context.headAt state (context.currentRevision + 1)
          (if state = .inside then entryId else none)) ∧
      SameIdentities store after ∧ answer.status = .transitioned := by
  obtain ⟨recorded, inserted, rest⟩ := bind_ok ok
  obtain ⟨written, wrote, rest⟩ := bind_ok rest
  obtain ⟨rfl, rests, identities⟩ := storeReceipt_ok rest
  obtain ⟨rfl, -, updatable⟩ := writeHead_ok wrote
  rw [insertChange_ok inserted] at rests identities updatable
  refine ⟨?_, ⟨identities.identityHeads, identities.lineage, identities.contacts⟩, rfl⟩
  exact { rests with
    stream := rfl
    revision := rfl
    advances := congrArg (· + 1) (revision_of_current current)
    lineage := fun old present => updatable_lineage (updatable old present)
    follows := by
      rw [current] at follows
      exact follows }

theorem refreshHead_ok (outside : ∀ old, context.current = some old → old.state = .outside)
    (ok : refreshHead context store = .ok (after, answer)) :
    Refreshes store after (context.headAt .outside context.currentRevision none) ∧
      SameIdentities store after ∧ answer.status = .noChange := by
  obtain ⟨written, wrote, rest⟩ := bind_ok ok
  obtain ⟨rfl, rests, identities⟩ := storeReceipt_ok rest
  obtain ⟨rfl, -, -⟩ := writeHead_ok wrote
  refine ⟨?_, ⟨identities.identityHeads, identities.lineage, identities.contacts⟩, rfl⟩
  exact { rests with
    revision := revision_of_current current
    outside := rfl
    entryId := rfl
    before_ := by
      rw [current] at outside
      exact outside }

theorem persistMatch_ok
    (expected : context.currentRevision = context.input.expectedMembershipRevision)
    (isMatch : context.evaluation.outcome = .isMatch)
    (ok : persistMatch context store = .ok (after, answer)) :
    CommitMove context store after answer ∧ SameIdentities store after := by
  unfold persistMatch at ok
  split at ok
  next apart =>
    have follows : HeadFollows context.ids.minted context.current .entered
        (some context.ids.minted) .inside (some context.ids.minted) := by
      refine .entered fun old present inside => ?_
      rw [present] at apart
      simp [Option.filter, inside] at apart
    obtain ⟨appends, identities, status⟩ := persistTransition_ok current follows ok
    exact ⟨.appended .entered .inside _ appends expected (.inl isMatch) nofun status, identities⟩
  next old inside =>
    obtain ⟨present, isInside⟩ := Option.filter_eq_some_iff.mp inside
    have follows : HeadFollows context.ids.minted context.current .corrected old.entryId .inside
        old.entryId := by
      rw [present]
      exact .corrected (by simpa using isInside)
    obtain ⟨appends, identities, status⟩ := persistTransition_ok current follows ok
    exact ⟨.appended .corrected .inside _ appends expected (.inl isMatch) nofun status, identities⟩

theorem persistNoMatch_ok
    (expected : context.currentRevision = context.input.expectedMembershipRevision)
    (noMatch : context.evaluation.outcome = .noMatch)
    (ok : persistNoMatch context store = .ok (after, answer)) :
    CommitMove context store after answer ∧ SameIdentities store after := by
  unfold persistNoMatch at ok
  split at ok
  next absent =>
    obtain ⟨refreshes, identities, status⟩ := refreshHead_ok current (by simp [absent]) ok
    exact ⟨.refreshed refreshes expected (.inr noMatch) status, identities⟩
  next old present =>
    split at ok
    next outside =>
      obtain ⟨refreshes, identities, status⟩ :=
        refreshHead_ok current (by rw [present]; rintro _ ⟨⟩; exact outside) ok
      exact ⟨.refreshed refreshes expected (.inr noMatch) status, identities⟩
    next inside =>
      have follows : HeadFollows context.ids.minted context.current .left old.entryId .outside
          none := by
        rw [present]
        exact .left inside
      obtain ⟨appends, identities, status⟩ := persistTransition_ok current follows ok
      exact ⟨.appended .left .outside _ appends expected (.inr noMatch) nofun status, identities⟩
    next invalidated =>
      have follows : HeadFollows context.ids.minted context.current .refilterRequired none .outside
          none := by
        rw [present]
        exact .putAside invalidated
      obtain ⟨appends, identities, status⟩ := persistTransition_ok current follows ok
      exact ⟨.appended .refilterRequired .outside _ appends expected (.inr noMatch)
        (fun _ => ⟨noMatch, old, present, invalidated⟩) status, identities⟩

theorem applyEvaluation_ok (ok : applyEvaluation context store = .ok (after, answer)) :
    CommitMove context store after answer ∧ SameIdentities store after := by
  unfold applyEvaluation at ok
  split at ok
  next =>
    obtain ⟨rfl, rests, identities⟩ := quarantineCommand_ok ok
    exact ⟨.rested rests (.inr rfl), identities⟩
  next expected =>
    have expected := not_not.mp expected
    split at ok
    next =>
      obtain ⟨rfl, rests, identities⟩ := quarantineCommand_ok ok
      exact ⟨.rested rests (.inr rfl), identities⟩
    next isMatch => exact persistMatch_ok current expected isMatch ok
    next noMatch => exact persistNoMatch_ok current expected noMatch ok

end

end CommitContext

/-- What binds the context of a commit to the tables before it. -/
structure CommitContext.Reads (context : CommitContext) (host : EvaluationHost)
    (store : MembershipStore) (ids : CommitIds) (input : CommitInput) (identity : IdentityHead) :
    Prop where
  sameIds : context.ids = ids
  sameInput : context.input = input
  binding : context.evaluation.binding = input.binding
  outcome : store.outcomeOf host input.binding = some context.evaluation.outcome
  identityRevision : context.identityRevision = identity.lineageRevision
  current : context.current = store.head input.stream

variable {middle : MembershipStore} {change : SegmentMembershipChange}
  {head : SegmentMembershipHead}

theorem Appends.of_rests {minted : String} (rests : Rests before middle)
    (appends : Appends minted middle after change head) :
    Appends minted before after change head :=
  { appends with
    heads := by rw [appends.heads, rests.heads]
    changes := by rw [appends.changes, rests.changes]
    advances := by
      rw [appends.advances, revisionOf, revisionOf, rests.head]
    lineage := fun old present => appends.lineage old (by rw [rests.head]; exact present)
    follows := by
      rw [← rests.head]
      exact appends.follows }

theorem Refreshes.of_rests (rests : Rests before middle) (refreshes : Refreshes middle after head) :
    Refreshes before after head :=
  { refreshes with
    heads := by rw [refreshes.heads, rests.heads]
    changes := by rw [refreshes.changes, rests.changes]
    revision := by
      rw [refreshes.revision, revisionOf, revisionOf, rests.head]
    before_ := fun old present => refreshes.before_ old (by rw [rests.head]; exact present) }

theorem CommitMove.of_rests {context : CommitContext} (rests : Rests before middle)
    (move : CommitMove context middle after answer) : CommitMove context before after answer := by
  cases move with
  | rested still status => exact .rested (rests.trans still) status
  | refreshed refreshes expected judged status =>
      exact .refreshed (refreshes.of_rests rests) expected judged status
  | appended kind state entryId appends expected judged putAside status =>
      exact .appended kind state entryId (appends.of_rests rests) expected judged putAside status

theorem commitActive_ok {identity : IdentityHead}
    (ok : commitActive host ids now store input identity = .ok (after, answer)) :
    ∃ context : CommitContext, context.Reads host store ids input identity ∧
      CommitMove context store after answer ∧ SameIdentities store after := by
  obtain ⟨⟨evaluated, evaluation⟩, found, rest⟩ := bind_ok ok
  obtain ⟨binding, outcome, evaluatedRests, evaluatedSame⟩ := evaluateBinding_ok found
  obtain ⟨evidenceRests, evidenceSame⟩ := ensureEvidence_rests ids evaluated evaluation
  have rests := evaluatedRests.trans evidenceRests
  have same := evaluatedSame.trans evidenceSame
  refine ⟨{
    ids := ids
    input := input
    requestHash := host.hash input.request
    evaluation := evaluation
    evidenceRef := (ensureEvidence ids evaluated evaluation).2.evidenceRef
    identityRevision := identity.lineageRevision
    current := (ensureEvidence ids evaluated evaluation).1.head input.stream },
    ⟨rfl, rfl, binding, outcome, rfl, rests.head _⟩, ?_⟩
  simp only at rest
  split at rest
  next =>
    obtain ⟨rfl, still, identities⟩ := storeReceipt_ok rest
    exact ⟨.rested (rests.trans still) (.inl rfl), same.trans identities⟩
  next =>
    obtain ⟨move, identities⟩ := CommitContext.applyEvaluation_ok rfl rest
    exact ⟨move.of_rests rests, same.trans identities⟩

/-- A commit answers an old command, finds its contact standing for another, or applies the
evaluation for an active contact. -/
inductive CommitOutcome (host : EvaluationHost) (ids : CommitIds) (store : MembershipStore)
    (input : CommitInput) (after : MembershipStore) (answer : CommitResult) : Prop
  | answered (rests : Rests store after) (same : SameIdentities store after)
      (known : store.receipt input.commandId ≠ none)
  | refused (middle : MembershipStore) (identity : IdentityHead)
      (unknown : store.receipt input.commandId = none)
      (ensured : ensureIdentityHead store input.stream.contactId = .ok (middle, identity))
      (rests : Rests store after) (same : SameIdentities middle after)
      (status : answer.status = .quarantined)
  | applied (middle : MembershipStore) (identity : IdentityHead) (context : CommitContext)
      (unknown : store.receipt input.commandId = none)
      (ensured : ensureIdentityHead store input.stream.contactId = .ok (middle, identity))
      (active : identity.state = .active)
      (reads : context.Reads host middle ids input identity)
      (move : CommitMove context middle after answer) (same : SameIdentities middle after)

theorem commitUnderLocks_ok (ok : commitUnderLocks host ids now store input = .ok (after, answer)) :
    CommitOutcome host ids store input after answer := by
  unfold commitUnderLocks at ok
  split at ok
  next receipt found =>
    have known : store.receipt input.commandId ≠ none := by simp [found]
    split at ok
    next =>
      cases ok
      exact .answered (.refl _) (.refl _) known
    next =>
      cases ok
      have row := quarantineRow_rests store input (host.hash input.request) "IDEMPOTENCY_CONFLICT"
      exact .answered row.1 row.2 known
  next unknown =>
    obtain ⟨⟨middle, identity⟩, ensured, rest⟩ := bind_ok ok
    simp only at rest
    split at rest
    next =>
      obtain ⟨rfl, rests, same⟩ := quarantineCommand_ok rest
      exact .refused middle identity unknown ensured ((ensureIdentityHead_rests ensured).1.trans rests) same
        rfl
    next owner =>
      obtain ⟨context, reads, move, same⟩ := commitActive_ok rest
      have active : identity.state = .active := by
        by_contra other
        exact owner (.inl other)
      exact .applied middle identity context unknown ensured active reads move same

/-! ## What a transition does to the streams -/

/-- A run of appended changes, as one transition makes them. -/
inductive Invalidations : MembershipStore → MembershipStore → List SegmentMembershipChange → Prop
  | done (store : MembershipStore) : Invalidations store store []
  | more {before middle after : MembershipStore} {change : SegmentMembershipChange}
      {head : SegmentMembershipHead} {rest : List SegmentMembershipChange}
      (appends : ∀ minted, Appends minted before middle change head)
      (same : SameIdentities before middle)
      (kind : change.changeKind = .identityInvalidated ∨
        change.changeKind = .refilterRequired ∧ ∃ old, before.head head.stream = some old ∧
          head.state = old.state ∧ head.entryId = old.entryId)
      (others : Invalidations middle after rest) : Invalidations before after (change :: rest)

theorem Invalidations.append
    {left right : List SegmentMembershipChange} (before : Invalidations first second left)
    (after : Invalidations second third right) : Invalidations first third (left ++ right) := by
  induction before with
  | done => exact after
  | more appends same kind _ ih => exact .more appends same kind (ih after)

variable {changes : List SegmentMembershipChange}

theorem Invalidations.same (run : Invalidations before after changes) :
    SameIdentities before after := by
  induction run with
  | done => exact .refl _
  | more _ same _ _ ih => exact same.trans ih

/-- The head after its invalidation, or after the mark for a new evaluation. -/
def SegmentMembershipHead.invalidated (head : SegmentMembershipHead) (kind : ChangeKind)
    (lineageRevision : Nat) : SegmentMembershipHead :=
  { head with
    state := if kind = .identityInvalidated then .invalidated else head.state
    membershipRevision := head.membershipRevision + 1
    lineageRevision := lineageRevision }

variable {input : IdentityTransitionInput} {ids : TransitionIds}

theorem persistIdentityInvalidation_ok {lineageRevision : Nat}
    (kinds : kind = .identityInvalidated ∨ kind = .refilterRequired)
    (present : store.head head.stream = some head)
    (ok : persistIdentityInvalidation ids input kind lineageRevision store head =
      .ok (after, change)) :
    (∀ minted, Appends minted store after change (head.invalidated kind lineageRevision)) ∧
      SameIdentities store after ∧ change.changeKind = kind := by
  obtain ⟨recorded, inserted, rest⟩ := bind_ok ok
  obtain ⟨written, wrote, rest⟩ := bind_ok rest
  cases rest
  obtain ⟨rfl, -, updatable⟩ := writeHead_ok wrote
  rw [insertChange_ok inserted] at updatable ⊢
  refine ⟨fun minted => ?_, ⟨rfl, rfl, rfl⟩, rfl⟩
  exact {
    heads := rfl
    changes := rfl
    stream := rfl
    revision := rfl
    advances := congrArg (· + 1) (revisionOf_eq present).symm
    lineage := fun old found => updatable_lineage (updatable old found)
    follows := by
      have follows : HeadFollows minted (some head) kind head.entryId
          (if kind = .identityInvalidated then .invalidated else head.state) head.entryId := by
        rcases kinds with rfl | rfl
        · exact .invalidated
        · exact .refiltered
      rw [← present] at follows
      exact follows }

theorem Appends.head_eq {minted : String} (appends : Appends minted before after change head)
    (stream : MembershipStream) :
    after.head stream = if head.stream = stream then some head else before.head stream := by
  rw [MembershipStore.head, appends.heads]
  exact Table.lookup_put

/-- Some heads are invalidated, and every other one stays as it is. -/
def InvalidatesHeads (kind : ChangeKind) (lineageRevision : Nat)
    (touched : MembershipStream → Prop) (before after : MembershipStore) : Prop :=
  ∀ stream, (touched stream → after.head stream =
      (before.head stream).map fun head => head.invalidated kind lineageRevision) ∧
    (¬ touched stream → after.head stream = before.head stream)

theorem invalidateHeads_ok {lineageRevision : Nat}
    (kinds : kind = .identityInvalidated ∨ kind = .refilterRequired)
    {heads : List SegmentMembershipHead}
    (distinct : (heads.map stream).Nodup)
    (present : ∀ head ∈ heads, store.head head.stream = some head)
    (ok : invalidateHeads ids input kind lineageRevision store heads = .ok (after, changes)) :
    Invalidations store after changes ∧ InvalidatesHeads kind lineageRevision
      (· ∈ heads.map stream) store after := by
  induction heads generalizing store after changes with
  | nil =>
      cases ok
      refine ⟨.done _, fun stream => ⟨?_, fun _ => rfl⟩⟩
      intro touched
      cases touched
  | cons head rest ih =>
      obtain ⟨⟨middle, change⟩, first, others⟩ := bind_ok ok
      obtain ⟨⟨last, later⟩, run, done⟩ := bind_ok others
      cases done
      obtain ⟨fresh, distinctRest⟩ := nodup_cons.mp distinct
      have here := present head mem_cons_self
      obtain ⟨appends, same, sameKind⟩ := persistIdentityInvalidation_ok kinds here first
      have headEq := (appends "").head_eq
      have untouched : ∀ other ∈ rest, middle.head other.stream = some other := by
        intro other mem
        have apart : head.stream ≠ other.stream := by
          intro equal
          exact fresh (equal ▸ mem_map_of_mem mem)
        rw [headEq, if_neg (by exact apart)]
        exact present other (mem_cons_of_mem _ mem)
      obtain ⟨invalidations, effect⟩ := ih distinctRest untouched run
      constructor
      · refine .more appends same ?_ invalidations
        rcases kinds with rfl | rfl
        · exact .inl sameKind
        · exact .inr ⟨sameKind, head, here, rfl, rfl⟩
      · intro target
        obtain ⟨rewritten, kept⟩ := effect target
        rw [headEq] at rewritten kept
        by_cases equal : head.stream = target
        · subst equal
          refine ⟨fun _ => ?_, fun apart => absurd mem_cons_self apart⟩
          rw [kept fresh, here]
          exact if_pos rfl
        · rw [if_neg (by exact equal)] at rewritten kept
          constructor
          · intro touched
            rcases mem_cons.mp touched with same | mem
            · exact absurd same.symm equal
            · exact rewritten mem
          · exact fun apart => kept fun mem => apart (mem_cons_of_mem _ mem)

theorem mem_headsOf :
    head ∈ store.headsOf contactId ↔ head ∈ store.heads ∧ head.stream.contactId = contactId := by
  simp [headsOf, Text.mem_sortBy, mem_filter]

theorem headsOf_distinct (contactId : String)
    (distinct : (store.heads.map stream).Nodup) :
    ((store.headsOf contactId).map stream).Nodup := by
  have perm := (Text.sortBy_perm (fun head : SegmentMembershipHead => head.stream.segmentId)
    (store.heads.filter fun head => head.stream.contactId = contactId)).map
      stream
  exact perm.nodup_iff.mpr ((filter_sublist.map _).nodup distinct)

theorem head_of_mem (distinct : (store.heads.map stream).Nodup) (mem : head ∈ store.heads) :
    store.head head.stream = some head :=
  Table.lookup_of_member distinct mem rfl

theorem invalidateContact_ok {affected : AffectedContact}
    (kinds : affected.kind = .identityInvalidated ∨ affected.kind = .refilterRequired)
    (distinct : (store.heads.map stream).Nodup)
    (ok : invalidateHeads ids input affected.kind affected.revision store
      (store.headsOf affected.contactId) = .ok (after, changes)) :
    Invalidations store after changes ∧ InvalidatesHeads affected.kind affected.revision
      (fun stream => stream.contactId = affected.contactId) store after := by
  have present : ∀ head ∈ store.headsOf affected.contactId, store.head head.stream = some head :=
    fun head mem => head_of_mem distinct (mem_headsOf.mp mem).1
  obtain ⟨invalidations, effect⟩ :=
    invalidateHeads_ok kinds (headsOf_distinct affected.contactId distinct) present ok
  refine ⟨invalidations, fun stream => ⟨fun touched => ?_, fun apart => ?_⟩⟩
  · cases found : store.head stream with
    | none =>
        have missing : stream ∉ (store.headsOf affected.contactId).map SegmentMembershipHead.stream := by
          intro mem
          obtain ⟨head, here, rfl⟩ := mem_map.mp mem
          rw [present head here] at found
          cases found
        rw [(effect stream).2 missing, found]
        rfl
    | some head =>
        have same : head.stream = stream := Table.lookup_key found
        have mem : stream ∈ (store.headsOf affected.contactId).map SegmentMembershipHead.stream :=
          mem_map.mpr ⟨head, mem_headsOf.mpr ⟨Table.lookup_mem found, by rw [same]; exact touched⟩,
            same⟩
        rw [(effect stream).1 mem, found]
  · refine (effect stream).2 fun mem => apart ?_
    obtain ⟨head, here, rfl⟩ := mem_map.mp mem
    exact (mem_headsOf.mp here).2

theorem Invalidations.distinct (run : Invalidations before after changes)
    (distinct : (before.heads.map stream).Nodup) :
    (after.heads.map stream).Nodup := by
  induction run with
  | done => exact distinct
  | more appends _ _ _ ih =>
      refine ih ?_
      rw [(appends "").heads]
      exact Table.nodup_put distinct

theorem invalidateContacts_ok {affected : List AffectedContact} (kinds : ∀ contact ∈ affected,
      contact.kind = .identityInvalidated ∨ contact.kind = .refilterRequired)
    (distinct : (store.heads.map stream).Nodup)
    (contacts : (affected.map AffectedContact.contactId).Nodup)
    (ok : invalidateContacts ids input store affected = .ok (after, changes)) :
    Invalidations store after changes ∧ ∀ stream,
      (∀ contact ∈ affected, stream.contactId = contact.contactId →
        after.head stream =
          (store.head stream).map fun head => head.invalidated contact.kind contact.revision) ∧
      (stream.contactId ∉ affected.map AffectedContact.contactId →
        after.head stream = store.head stream) := by
  induction affected generalizing store after changes with
  | nil =>
      cases ok
      exact ⟨.done _, fun stream => ⟨nofun, fun _ => rfl⟩⟩
  | cons first rest ih =>
      obtain ⟨⟨middle, change⟩, here, others⟩ := bind_ok ok
      obtain ⟨⟨last, later⟩, run, done⟩ := bind_ok others
      cases done
      obtain ⟨fresh, contactsRest⟩ := nodup_cons.mp contacts
      obtain ⟨invalidations, effect⟩ :=
        invalidateContact_ok (kinds first mem_cons_self) distinct here
      obtain ⟨invalidationsRest, effectRest⟩ :=
        ih (fun contact mem => kinds contact (mem_cons_of_mem _ mem))
          (invalidations.distinct distinct) contactsRest run
      refine ⟨invalidations.append invalidationsRest, fun stream => ⟨?_, ?_⟩⟩
      · intro contact mem same
        rcases mem_cons.mp mem with rfl | later
        · rw [(effectRest stream).2 (by rw [same]; exact fresh), (effect stream).1 same]
        · have apart : stream.contactId ≠ first.contactId := by
            rw [same]
            intro equal
            exact fresh (equal ▸ mem_map_of_mem later)
          rw [(effectRest stream).1 contact later same, (effect stream).2 apart]
      · intro apart
        rw [map_cons, mem_cons, not_or] at apart
        rw [(effectRest stream).2 apart.2, (effect stream).2 apart.1]

end DContact.Customer360

import DContact.Customer360.IdentityMoves

/-!
# Runs of the membership owner

A run takes identity transitions and commits of evaluations in any order, each in the
transaction that its locks make of it. Definitions, snapshots and evaluations are also written
elsewhere, which the runs leave open. Identifiers are minted by the host and never twice.
-/

namespace DContact.Customer360

open Lib
open Governance (Instant)

structure MembershipHost where
  identityHash : IdentityTransitionInput → String
  evaluation : EvaluationHost

inductive MembershipStep where
  | transition (ids : TransitionIds) (input : IdentityTransitionInput)
  | commit (ids : CommitIds) (now : Instant) (input : CommitInput)
  | elsewhere (contacts : List String) (definitions : List SegmentDefinitionRow)
      (snapshots : List FactSnapshotRow) (evaluations : List StoredEvaluation)
      (evidence : List SegmentEvidence)

namespace MembershipStore

def unused (store : MembershipStore) (entryId : String) : Bool :=
  store.changes.all fun change => change.entryId ≠ some entryId

def next (host : MembershipHost) (store : MembershipStore) :
    MembershipStep → Option MembershipStore
  | .transition ids input =>
      (recordIdentityTransition host.identityHash ids store input).toOption.map Prod.fst
  | .commit ids now input =>
      if store.unused ids.minted then
        (commitEvaluation host.evaluation ids now store input).toOption.map Prod.fst
      else none
  | .elsewhere contacts definitions snapshots evaluations evidence =>
      some { store with
        contacts := contacts
        definitions := definitions
        snapshots := snapshots
        evaluations := evaluations
        evidence := evidence }

/-- Nothing has happened yet to the contacts that have an identity. -/
structure Fresh (store : MembershipStore) : Prop where
  identities : ∀ head ∈ store.identityHeads, head = freshIdentityHead head.contactId
  distinct : (store.identityHeads.map IdentityHead.contactId).Nodup
  lineage : store.lineage = []
  heads : store.heads = []
  changes : store.changes = []

end MembershipStore

def memberships (host : MembershipHost) : System MembershipStore MembershipStep :=
  .ofNext MembershipStore.Fresh (MembershipStore.next host)

theorem normalizeTransition_ok {input normalized : IdentityTransitionInput}
    (ok : normalizeTransition input = .ok normalized) :
    normalized.sourceContactId ≠ normalized.targetContactId ∧
      normalized.operation = input.operation := by
  obtain ⟨_, _, rest⟩ := bind_ok ok
  obtain ⟨_, _, rest⟩ := bind_ok rest
  obtain ⟨_, _, rest⟩ := bind_ok rest
  obtain ⟨_, _, rest⟩ := bind_ok rest
  obtain ⟨_, differs, rest⟩ := bind_ok rest
  cases rest
  exact ⟨ensure_ok.mp differs, rfl⟩

theorem toOption_map_fst {ε α β : Type} {computed : Except ε (α × β)} {first : α}
    (taken : computed.toOption.map Prod.fst = some first) :
    ∃ second, computed = .ok (first, second) := by
  cases computed with
  | error failure => cases taken
  | ok result =>
      cases taken
      exact ⟨result.2, rfl⟩

/-- A step answers an old transition, makes a new one, commits an evaluation, or leaves the
identities and the streams alone. -/
inductive StepOutcome (host : MembershipHost) (store after : MembershipStore) :
    MembershipStep → Prop
  | answered {ids : TransitionIds} {input : IdentityTransitionInput} (same : after = store) :
      StepOutcome host store after (.transition ids input)
  | transitioned {ids : TransitionIds} {input normalized : IdentityTransitionInput}
      {created : MembershipStore} {source target : IdentityHead}
      {changes : List SegmentMembershipChange}
      (normal : normalizeTransition input = .ok normalized)
      (differs : normalized.sourceContactId ≠ normalized.targetContactId)
      (new : NewTransition host.identityHash ids store normalized after created source target
        changes) :
      StepOutcome host store after (.transition ids input)
  | committed {ids : CommitIds} {now : Instant} {input normalized : CommitInput}
      {answer : CommitResult} (unused : store.unused ids.minted = true)
      (normal : normalizeCommit input = .ok normalized)
      (outcome : CommitOutcome host.evaluation ids store normalized after answer) :
      StepOutcome host store after (.commit ids now input)
  | elsewhere {contacts : List String} {definitions : List SegmentDefinitionRow}
      {snapshots : List FactSnapshotRow} {evaluations : List StoredEvaluation}
      {evidence : List SegmentEvidence} (rests : Rests store after)
      (identities : after.identityHeads = store.identityHeads)
      (lineage : after.lineage = store.lineage) :
      StepOutcome host store after (.elsewhere contacts definitions snapshots evaluations evidence)

variable {host : MembershipHost} {store after : MembershipStore} {step : MembershipStep}

theorem next_outcome (taken : store.next host step = some after) :
    StepOutcome host store after step := by
  cases step with
  | transition ids input =>
      obtain ⟨result, ok⟩ := toOption_map_fst taken
      obtain ⟨normalized, normal, rest⟩ := bind_ok ok
      rcases applyIdentityTransition_ok rest with ⟨same, -⟩ | ⟨created, source, target, changes, new⟩
      · exact .answered same
      · exact .transitioned normal (normalizeTransition_ok normal).1 new
  | commit ids now input =>
      simp only [MembershipStore.next] at taken
      split at taken
      next unused =>
        obtain ⟨answer, ok⟩ := toOption_map_fst taken
        obtain ⟨normalized, normal, rest⟩ := bind_ok ok
        exact .committed unused normal (commitUnderLocks_ok rest)
      next => cases taken
  | elsewhere contacts definitions snapshots evaluations evidence =>
      cases taken
      exact .elsewhere ⟨rfl, rfl⟩ rfl rfl

structure Keyed (store : MembershipStore) : Prop where
  identities : (store.identityHeads.map IdentityHead.contactId).Nodup
  heads : (store.heads.map SegmentMembershipHead.stream).Nodup

variable {before : MembershipStore}

theorem Rests.distinct (rests : Rests before after)
    (distinct : (before.heads.map SegmentMembershipHead.stream).Nodup) :
    (after.heads.map SegmentMembershipHead.stream).Nodup := by
  rw [rests.heads]
  exact distinct

variable {answer : CommitResult}

theorem CommitMove.distinct {context : CommitContext}
    (move : CommitMove context before after answer)
    (distinct : (before.heads.map SegmentMembershipHead.stream).Nodup) :
    (after.heads.map SegmentMembershipHead.stream).Nodup := by
  cases move with
  | rested rests _ => exact rests.distinct distinct
  | refreshed refreshes _ _ _ =>
      rw [refreshes.heads]
      exact Table.nodup_put distinct
  | appended _ _ _ appends _ _ _ _ =>
      rw [appends.heads]
      exact Table.nodup_put distinct

theorem CommitOutcome.keyed {host : EvaluationHost} {ids : CommitIds} {input : CommitInput}
    (outcome : CommitOutcome host ids store input after answer) (keyed : Keyed store) :
    Keyed after := by
  cases outcome with
  | answered rests same _ => exact ⟨same.identityHeads ▸ keyed.identities, rests.distinct keyed.heads⟩
  | refused middle identity _ ensured rests same _ =>
      have creates := (ensureIdentityHead_creates ensured).1
      exact ⟨same.identityHeads ▸ creates.distinct keyed.identities, rests.distinct keyed.heads⟩
  | applied middle identity context _ ensured _ _ move same =>
      have creates := (ensureIdentityHead_creates ensured).1
      exact ⟨same.identityHeads ▸ creates.distinct keyed.identities,
        move.distinct (creates.rests.distinct keyed.heads)⟩

theorem keyed_step (keyed : Keyed store) (taken : store.next host step = some after) :
    Keyed after := by
  cases next_outcome taken with
  | answered same => exact same ▸ keyed
  | transitioned normal differs new =>
      have invalidated := new.invalidations differs keyed.identities keyed.heads
      exact ⟨(new.lineage_after differs keyed.identities keyed.heads).2,
        invalidated.2.1.distinct (invalidated.1.distinct keyed.heads)⟩
  | committed _ _ outcome => exact outcome.keyed keyed
  | elsewhere rests identities _ => exact ⟨identities ▸ keyed.identities, rests.distinct keyed.heads⟩

theorem keyed_fresh (fresh : store.Fresh) : Keyed store :=
  ⟨fresh.distinct, by simp [fresh.heads]⟩

theorem keyed_of_reachable (reachable : (memberships host).Reachable store) : Keyed store := by
  refine reachable.invariant ?_ ?_
  · exact fun _ fresh => keyed_fresh fresh
  · exact fun _ _ _ keyed taken => keyed_step keyed taken

end DContact.Customer360

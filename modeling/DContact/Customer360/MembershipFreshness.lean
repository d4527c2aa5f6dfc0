import DContact.Customer360.MembershipLedger

/-!
# Facts that are overtaken

A commit names the revision that its caller last saw, and nothing else decides whether it still
applies. An evaluation that changes nothing refreshes the head without a new revision, so a
delayed commit of an older snapshot can find the revision it expects.
-/

namespace DContact.Customer360

open Lib SegmentMembershipHead
open Governance (Instant)

def FactsAdvance (before after : MembershipStore) : Prop :=
  ∀ stream head, before.head stream = some head → ∃ later, after.head stream = some later ∧
    head.segmentDefinitionVersion ≤ later.segmentDefinitionVersion ∧
    head.snapshotVersion ≤ later.snapshotVersion

theorem FactsAdvance.refl (store : MembershipStore) : FactsAdvance store store :=
  fun _ head found => ⟨head, found, le_rfl, le_rfl⟩

theorem FactsAdvance.trans {first second third : MembershipStore}
    (left : FactsAdvance first second) (right : FactsAdvance second third) :
    FactsAdvance first third :=
  Table.found_trans (fun before after => ⟨before.1.trans after.1, before.2.trans after.2⟩) left right

variable {before after : MembershipStore}

theorem Rests.factsAdvance (rests : Rests before after) : FactsAdvance before after :=
  fun stream head found => ⟨head, by rw [rests.head, found], le_rfl, le_rfl⟩

/-- The facts of the commit are at least as new as those of the head. -/
def CommitInput.upToDate (input : CommitInput) (head : SegmentMembershipHead) : Bool :=
  head.segmentDefinitionVersion ≤ input.segmentDefinitionVersion &&
    head.snapshotVersion ≤ input.snapshotVersion

/-- The commit applies older facts than those of the head. -/
def overtaken (host : EvaluationHost) (store : MembershipStore) (input : CommitInput) : Bool :=
  (store.receipt input.commandId).isNone &&
    (store.identityHead input.stream.contactId).all (fun identity => identity.state = .active) &&
    (store.head input.stream).any (fun head =>
      head.membershipRevision = input.expectedMembershipRevision && !input.upToDate head) &&
    (store.outcomeOf host input.binding = some .isMatch ||
      store.outcomeOf host input.binding = some .noMatch)

def timelyStep (host : MembershipHost) (store : MembershipStore) : MembershipStep → Bool
  | .commit _ _ input =>
      match normalizeCommit input with
      | .ok normalized => !overtaken host.evaluation store normalized
      | .error _ => true
  | .transition .. | .elsewhere .. => true

def timelyMemberships (host : MembershipHost) : System MembershipStore MembershipStep :=
  (memberships host).restrict fun store step => timelyStep host store step = true

variable {host : MembershipHost} {store : MembershipStore} {ids : CommitIds} {input : CommitInput}
  {now : Instant} {normalized : CommitInput}

theorem timely_commit (normal : normalizeCommit input = .ok normalized)
    (timely : timelyStep host store (.commit ids now input) = true)
    (unknown : store.receipt normalized.commandId = none)
    (active : (store.identityHead normalized.stream.contactId).all
      (fun identity => identity.state = .active) = true)
    (judged : store.outcomeOf host.evaluation normalized.binding = some .isMatch ∨
      store.outcomeOf host.evaluation normalized.binding = some .noMatch)
    (expected : store.revisionOf normalized.stream = normalized.expectedMembershipRevision)
    {head : SegmentMembershipHead} (found : store.head normalized.stream = some head) :
    normalized.upToDate head = true := by
  rw [MembershipStore.revisionOf_eq found] at expected
  simp only [timelyStep, normal, overtaken, unknown, active, found, expected, Option.any_some,
    Option.isNone_none, decide_true, Bool.true_and] at timely
  rcases judged with same | same <;> simpa [same] using timely

variable {identity : IdentityHead} {context : CommitContext} {answer : CommitResult}

/-- A new commit that writes a head has facts at least as new as the head had. -/
theorem CommitOutcome.upToDate {middle : MembershipStore}
    (normal : normalizeCommit input = .ok normalized)
    (timely : timelyStep host store (.commit ids now input) = true)
    (unknown : store.receipt normalized.commandId = none)
    (ensured : ensureIdentityHead store normalized.stream.contactId = .ok (middle, identity))
    (active : identity.state = .active)
    (reads : context.Reads host.evaluation middle ids normalized identity)
    (move : CommitMove context middle after answer) :
    (Rests middle after ∧ answer.status ≠ .transitioned) ∨
      ∀ head, store.head normalized.stream = some head → normalized.upToDate head = true := by
  have rests := (ensureIdentityHead_creates ensured).1.rests
  have applies : context.currentRevision = context.input.expectedMembershipRevision →
      (context.evaluation.outcome = .isMatch ∨ context.evaluation.outcome = .noMatch) →
      ∀ head, store.head normalized.stream = some head → normalized.upToDate head = true := by
    intro expected judged head found
    refine timely_commit normal timely unknown (ensureIdentityHead_active ensured active) ?_ ?_ found
    · rw [← ensureIdentityHead_outcomeOf _ ensured, reads.outcome]
      exact judged.imp (congrArg some) (congrArg some)
    · rw [← reads.sameInput, ← expected, CommitContext.currentRevision, reads.current, rests.head,
        MembershipStore.revisionOf, reads.sameInput]
  cases move with
  | rested still status =>
      refine .inl ⟨still, ?_⟩
      rcases status with same | same <;> simp [same]
  | refreshed _ expected judged _ | appended _ _ _ _ expected judged _ _ =>
      exact .inr (applies expected judged)

theorem CommitMove.factsAdvance {host : EvaluationHost}
    (reads : context.Reads host before ids input identity)
    (move : CommitMove context before after answer)
    (upToDate : ∀ head, before.head input.stream = some head → input.upToDate head = true) :
    FactsAdvance before after := by
  have advances : ∀ state revision entryId, (∀ stream, after.head stream =
        if (context.headAt state revision entryId).stream = stream then
          some (context.headAt state revision entryId)
        else before.head stream) → FactsAdvance before after := by
    intro state revision entryId heads stream head found
    have streamEq : (context.headAt state revision entryId).stream = input.stream :=
      congrArg CommitInput.stream reads.sameInput
    by_cases same : input.stream = stream
    · subst same
      have newer := upToDate head found
      simp only [CommitInput.upToDate, Bool.and_eq_true, decide_eq_true_eq] at newer
      refine ⟨_, (heads _).trans (if_pos streamEq), ?_, ?_⟩
      · exact newer.1.trans_eq (congrArg EvaluationBinding.segmentDefinitionVersion reads.binding).symm
      · exact newer.2.trans_eq (congrArg EvaluationBinding.snapshotVersion reads.binding).symm
    · exact ⟨head, (heads stream).trans ((if_neg (by rw [streamEq]; exact same)).trans found), le_rfl,
        le_rfl⟩
  cases move with
  | rested rests _ => exact rests.factsAdvance
  | refreshed refreshes _ _ _ => exact advances _ _ _ refreshes.head_eq
  | appended _ _ _ appends _ _ _ _ => exact advances _ _ _ appends.head_eq

theorem factsAdvance_step
    {step : MembershipStep} (keyed : Keyed store) (timely : timelyStep host store step = true)
    (taken : store.next host step = some after) : FactsAdvance store after := by
  cases next_outcome taken with
  | answered same => exact same ▸ .refl _
  | transitioned normal differs new =>
      intro stream head found
      rcases new.head_cases differs keyed.identities keyed.heads stream with
        ⟨contact, _, _, rewritten⟩ | ⟨_, same⟩
      · rw [found] at rewritten
        exact ⟨_, rewritten, le_rfl, le_rfl⟩
      · exact ⟨head, same.trans found, le_rfl, le_rfl⟩
  | committed unused normal outcome =>
      cases outcome with
      | answered rests _ _ => exact rests.factsAdvance
      | refused middle identity _ _ rests _ _ => exact rests.factsAdvance
      | applied middle identity context unknown ensured active reads move _ =>
          have rests := (ensureIdentityHead_creates ensured).1.rests
          refine rests.factsAdvance.trans ?_
          rcases CommitOutcome.upToDate normal timely unknown ensured active reads move with
            ⟨still, -⟩ | upToDate
          · exact still.factsAdvance
          · refine move.factsAdvance reads ?_
            intro head found
            exact upToDate head (by rw [← rests.head]; exact found)
  | elsewhere rests _ _ => exact rests.factsAdvance

theorem factsAdvance_of_reaches (reachable : (timelyMemberships host).Reachable before)
    (run : (timelyMemberships host).Reaches before after) : FactsAdvance before after := by
  have keyed : Keyed before := keyed_of_reachable reachable.of_restrict
  have preserved : ∀ source label target, Keyed source →
      (timelyMemberships host).step source label target → Keyed target :=
    fun _ _ _ keyed stepped => keyed_step keyed stepped.2
  refine System.Reaches.related FactsAdvance.refl (fun _ _ _ left right => left.trans right)
    preserved ?_ keyed run
  exact fun _ _ _ keyed stepped => factsAdvance_step keyed stepped.1 stepped.2

/-- In a run in which every commit that applies has facts at least as new as those of its head, the
versions on a head never decrease, and a new transition never comes from an older snapshot than
one that was evaluated into the head before. -/
theorem facts_never_go_back {host : MembershipHost} {before after : MembershipStore}
    (reachable : (timelyMemberships host).Reachable before)
    (run : (timelyMemberships host).Reaches before after) :
    FactsAdvance before after ∧
      ∀ ids now input normalized last answer, normalizeCommit input = .ok normalized →
        timelyStep host after (.commit ids now input) = true →
        commitEvaluation host.evaluation ids now after input = .ok (last, answer) →
        after.receipt normalized.commandId = none → answer.status = .transitioned →
        ∀ head, before.head normalized.stream = some head →
          head.snapshotVersion ≤ normalized.snapshotVersion := by
  have advances := factsAdvance_of_reaches reachable run
  refine ⟨advances, ?_⟩
  intro ids now input normalized last answer normal timely ok unknown transitioned head found
  obtain ⟨later, present, -, snapshot⟩ := advances _ head found
  obtain ⟨normalized', normal', rest⟩ := bind_ok ok
  rw [normal] at normal'
  cases normal'
  refine snapshot.trans ?_
  cases commitUnderLocks_ok rest with
  | answered _ _ known => exact absurd unknown known
  | refused _ _ _ _ _ _ status =>
      rw [transitioned] at status
      cases status
  | applied middle identity context _ ensured active reads move _ =>
      rcases CommitOutcome.upToDate normal timely unknown ensured active reads move with
        ⟨-, status⟩ | upToDate
      · exact absurd transitioned status
      · have newer := upToDate later present
        simp only [CommitInput.upToDate, Bool.and_eq_true, decide_eq_true_eq] at newer
        exact newer.2

/-- The commit of the second snapshot, which does not match, comes first. -/
def silverFirst : List MembershipStep := [goldCommit "2" 2 0]

/-- The contact is found outside on the first snapshot, and enters on the second. -/
def silverThenGold : MembershipStore :=
  { goldStore with snapshots := [⟨"a", 1, "SILVER"⟩, ⟨"a", 2, "GOLD"⟩] }

theorem silverThenGold_fresh : silverThenGold.Fresh :=
  ⟨nofun, .nil, rfl, rfl, rfl⟩

theorem facts_never_go_back_for_sample :
    ∃ before after, FactsAdvance before after ∧
      (before.head ⟨"a", "loyal"⟩).map snapshotVersion = some 1 ∧
      (after.head ⟨"a", "loyal"⟩).map snapshotVersion = some 2 := by
  have ends : System.endsWith (System.guardNext (timelyStep goldHost) (MembershipStore.next goldHost))
      silverThenGold [goldCommit "1" 1 0] (goldCommit "2" 2 0)
      (fun before after =>
        (before.head ⟨"a", "loyal"⟩).map snapshotVersion = some 1 &&
        (after.head ⟨"a", "loyal"⟩).map snapshotVersion = some 2) = true := by
    decide +kernel
  obtain ⟨before, after, reachable, last, versions⟩ :=
    System.Reachable.endsWithGuarded silverThenGold_fresh ends
  simp only [Bool.and_eq_true, decide_eq_true_eq] at versions
  have run : (timelyMemberships goldHost).Reaches before after := .single ⟨_, last⟩
  exact ⟨before, after, (facts_never_go_back reachable run).1, versions⟩

/-- The second snapshot leaves the contact outside, and the delayed commit of the first one still
enters it: it saw the revision that the head has kept. -/
theorem older_facts_override :
    ¬ ∀ host before after, (memberships host).Reachable before →
      (memberships host).Reaches before after → FactsAdvance before after := by
  intro advance
  have ends : System.endsWith (MembershipStore.next goldHost) goldStore silverFirst
      (goldCommit "1" 1 0)
      (fun before after =>
        (before.head ⟨"a", "loyal"⟩).map snapshotVersion = some 2 &&
        (after.head ⟨"a", "loyal"⟩).map (fun head => (head.state, head.snapshotVersion)) =
          some (.inside, 1)) = true := by
    decide +kernel
  obtain ⟨before, after, reachable, last, test⟩ := System.Reachable.endsWith goldStore_fresh ends
  simp only [Bool.and_eq_true, decide_eq_true_eq] at test
  obtain ⟨newer, older⟩ := test
  obtain ⟨head, found, version⟩ := Option.map_eq_some_iff.mp newer
  obtain ⟨later, present, values⟩ := Option.map_eq_some_iff.mp older
  have run : (memberships goldHost).Reaches before after := .single ⟨_, last⟩
  obtain ⟨later', present', -, snapshot⟩ :=
    advance goldHost before after reachable run ⟨"a", "loyal"⟩ head found
  rw [present] at present'
  cases present'
  rw [version, (Prod.mk.inj values).2] at snapshot
  omega

end DContact.Customer360

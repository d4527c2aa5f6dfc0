import DContact.Customer360.MembershipRuns
import DContact.Lib.MergeForest

/-!
# The forest of merged identities

The ledger says which merges have not been reversed, and following them from a contact leads to
the contact that stands for it. The head keeps only that contact. A reversal decides who moves
back by the latest merge of each contact alone, so it finds the contacts that were merged into
the source, and misses those that came under it through another one.
-/

namespace DContact.Customer360

open Lib Lib.MergeForest MembershipStore IdentityTransitionInput

/-! ## Merges that are not reversed -/

/-- One row of the ledger: a merge puts the source below the target, and its reversal takes it
away from there. -/
def recordMerge (above : String → Option String) (row : IdentityLineage) : String → Option String :=
  if row.operation = .merge then link above row.sourceContactId row.targetContactId
  else if above row.sourceContactId = some row.targetContactId then cut above row.sourceContactId
  else above

/-- The contact that a contact was merged into, by the merges not yet reversed. -/
def openMerges (lineage : List IdentityLineage) : String → Option String :=
  lineage.foldl recordMerge fun _ => none

theorem openMerges_append (lineage : List IdentityLineage) (row : IdentityLineage) :
    openMerges (lineage ++ [row]) = recordMerge (openMerges lineage) row := by
  rw [openMerges, List.foldl_append]
  rfl

/-- Every contact that stands for itself is its own canonical contact, and every merged one
points at the active contact that its open merges lead to. -/
def FlatForest (store : MembershipStore) : Prop :=
  ∀ contactId head, store.identityHead contactId = some head →
    (head.state = .active → head.canonicalContactId = contactId) ∧
    (head.state = .merged →
      (∃ canonical, store.identityHead head.canonicalContactId = some canonical ∧
        canonical.state = .active) ∧
      RootOf (openMerges store.lineage) contactId head.canonicalContactId)

def MovesBack (before after : MembershipStore) (source : String) : Prop :=
  ∀ contactId head, before.identityHead contactId = some head →
    ∃ later, after.identityHead contactId = some later ∧
      (Under (openMerges before.lineage) source contactId → later.canonicalContactId = source) ∧
      (¬ Under (openMerges before.lineage) source contactId →
        later.canonicalContactId = head.canonicalContactId)

/-! ## The condition -/

/-- The merge of the source is open and into the target, and no contact was merged into one that
was merged into the source. -/
def reversesWhole (store : MembershipStore) (source target : String) : Bool :=
  openMerges store.lineage source = some target &&
    store.identityHeads.all fun head =>
      (openMerges store.lineage head.contactId).bind (openMerges store.lineage) ≠ some source

/-- The same of the merges as a function. -/
structure Unchained (above : String → Option String) (source target : String) : Prop where
  isOpen : above source = some target
  direct : ∀ lower middle, above lower = some middle → above middle ≠ some source

variable {contactId : String}

/-- Below a source on which no chain hangs is only what was merged into it. -/
theorem Unchained.under_iff {above : String → Option String} {source target : String}
    (unchained : Unchained above source target) :
    Under above source contactId ↔ contactId = source ∨ above contactId = some source := by
  constructor
  · intro under
    rcases under.cases_last with same | ⟨middle, below, merged⟩
    · exact .inl same
    · rcases below.cases_last with rfl | ⟨lower, _, mergedLower⟩
      · exact .inr merged
      · exact absurd merged (unchained.direct _ _ mergedLower)
  · rintro (rfl | merged)
    · exact .refl
    · exact .single merged

/-- A merge, an old command, or a reversal of an open merge that no chain hangs on. -/
def soundTransition (store : MembershipStore) (input : IdentityTransitionInput) : Bool :=
  input.operation = .merge || (store.lineageOf input.commandId).isSome ||
    reversesWhole store input.sourceContactId input.targetContactId

def soundStep (store : MembershipStore) : MembershipStep → Bool
  | .transition _ input =>
      match normalizeTransition input with
      | .ok normalized => soundTransition store normalized
      | .error _ => true
  | .commit .. | .elsewhere .. => true

/-! ## Heads and ledger agree -/

/-- What the heads and the ledger keep of each other. -/
structure Rooted (store : MembershipStore) : Prop where
  own : ∀ contactId head, store.identityHead contactId = some head →
    head.state = .active ∧ head.canonicalContactId = contactId ∧
      openMerges store.lineage contactId = none ∨
    head.state = .merged ∧ openMerges store.lineage contactId ≠ none
  leads : ∀ contactId head, store.identityHead contactId = some head →
    RootOf (openMerges store.lineage) contactId head.canonicalContactId
  canonical : ∀ contactId head, store.identityHead contactId = some head →
    ∃ stands, store.identityHead head.canonicalContactId = some stands ∧ stands.state = .active
  absent : ∀ contactId, store.identityHead contactId = none →
    openMerges store.lineage contactId = none
  latest : ∀ contactId target, openMerges store.lineage contactId = some target →
    store.latestEdge contactId = some target
  revisions : ∀ row ∈ store.lineage, ∃ head, store.identityHead row.sourceContactId = some head ∧
    row.lineageRevision ≤ head.lineageRevision

variable {store : MembershipStore}

section
variable {head : IdentityHead} (rooted : Rooted store)
  (found : store.identityHead contactId = some head)
include rooted found

theorem Rooted.of_active (active : head.state = .active) :
    head.canonicalContactId = contactId ∧ openMerges store.lineage contactId = none := by
  rcases rooted.own contactId head found with ⟨-, same, top⟩ | ⟨merged, -⟩
  · exact ⟨same, top⟩
  · cases active.symm.trans merged

theorem Rooted.merged_iff : head.state = .merged ↔ openMerges store.lineage contactId ≠ none := by
  rcases rooted.own contactId head found with ⟨active, -, top⟩ | ⟨merged, opened⟩
  · simp [active, top]
  · simp [merged, opened]

end

theorem Rooted.flat (rooted : Rooted store) : FlatForest store := fun contactId head found =>
  ⟨fun active => (rooted.of_active found active).1,
    fun _ => ⟨rooted.canonical contactId head found, rooted.leads contactId head found⟩⟩

variable {before after : MembershipStore}

theorem Rooted.of_same
    (heads : after.identityHeads = before.identityHeads) (lineage : after.lineage = before.lineage)
    (rooted : Rooted before) : Rooted after := by
  have lookup : ∀ contactId, after.identityHead contactId = before.identityHead contactId := by
    intro contactId
    rw [identityHead, identityHead, heads]
  have latest : ∀ contactId, after.latestEdge contactId = before.latestEdge contactId := by
    intro contactId
    rw [latestEdge, latestEdge, lineage]
  constructor
  · simpa only [lookup, lineage] using rooted.own
  · simpa only [lookup, lineage] using rooted.leads
  · simpa only [lookup] using rooted.canonical
  · simpa only [lookup, lineage] using rooted.absent
  · simpa only [latest, lineage] using rooted.latest
  · simpa only [lookup, lineage] using rooted.revisions

/-- A head created on first use stands for itself. -/
theorem Rooted.of_creates (creates : Creates before after)
    (rooted : Rooted before) : Rooted after where
  own := by
    intro contactId head found
    rw [creates.lineage]
    rcases creates.heads contactId with same | ⟨absent, created⟩
    · exact rooted.own contactId head (same ▸ found)
    · rw [created] at found
      cases found
      exact .inl ⟨rfl, rfl, rooted.absent contactId absent⟩
  leads := by
    intro contactId head found
    rw [creates.lineage]
    rcases creates.heads contactId with same | ⟨absent, created⟩
    · exact rooted.leads contactId head (same ▸ found)
    · rw [created] at found
      cases found
      exact .top (rooted.absent contactId absent)
  canonical := by
    intro contactId head found
    rcases creates.heads contactId with same | ⟨absent, created⟩
    · obtain ⟨stands, present, active⟩ := rooted.canonical contactId head (same ▸ found)
      exact ⟨stands, creates.kept present, active⟩
    · rw [created] at found
      cases found
      exact ⟨_, created, rfl⟩
  absent := by
    intro contactId missing
    rw [creates.lineage]
    rcases creates.heads contactId with same | ⟨_, created⟩
    · exact rooted.absent contactId (same ▸ missing)
    · rw [created] at missing
      cases missing
  latest := by
    intro contactId target opened
    rw [latestEdge, creates.lineage]
    rw [creates.lineage] at opened
    exact rooted.latest contactId target opened
  revisions := by
    intro row mem
    rw [creates.lineage] at mem
    obtain ⟨head, found, bound⟩ := rooted.revisions row mem
    exact ⟨head, creates.kept found, bound⟩

/-! ## One transition -/

def followsSource (written : MembershipStore) (input : IdentityTransitionInput)
    (contactId : String) (head : IdentityHead) : Prop :=
  head.canonicalContactId = input.anchor ∧ head.state = .merged ∧
    (input.operation = .merge ∨ written.latestEdge contactId = some input.sourceContactId)

structure HeadMoves (written : MembershipStore) (input : IdentityTransitionInput)
    (sourceRevision : Nat) (contactId : String) (head later : IdentityHead) : Prop where
  atSource : contactId = input.sourceContactId →
    later.state = (if input.operation = .merge then .merged else .active) ∧
    later.canonicalContactId =
      (if input.operation = .merge then input.targetContactId else input.sourceContactId) ∧
    later.lineageRevision = sourceRevision
  atTarget : contactId = input.targetContactId →
    later.state = (if input.operation = .merge then head.state else .active) ∧
    later.canonicalContactId =
      (if input.operation = .merge then head.canonicalContactId else input.targetContactId)
  aside : contactId ≠ input.sourceContactId → contactId ≠ input.targetContactId →
    later.state = head.state ∧
    (followsSource written input contactId head → later.canonicalContactId = input.nextCanonical) ∧
    (¬ followsSource written input contactId head →
      later.canonicalContactId = head.canonicalContactId)
  revision : contactId ≠ input.sourceContactId → head.lineageRevision ≤ later.lineageRevision

namespace NewTransition

variable {hash : IdentityTransitionInput → String} {ids : TransitionIds}
  {input : IdentityTransitionInput} {created : MembershipStore}
  {source target head later : IdentityHead} {changes : List SegmentMembershipChange}

section
variable (new : NewTransition hash ids store input after created source target changes)
  (differs : input.sourceContactId ≠ input.targetContactId) (keyed : Keyed store)
include new differs keyed

theorem head_after (found : created.identityHead contactId = some head) :
    ∃ later, after.identityHead contactId = some later ∧
      HeadMoves (written hash ids input created source target) input (source.lineageRevision + 1)
        contactId head later := by
  have lookup := new.identityHead_after differs keyed.identities keyed.heads contactId
  have wrote := identityHead_written hash ids created source target differs contactId
  rw [found, Option.map_some] at wrote
  rw [wrote, Option.map_some] at lookup
  have key : head.contactId = contactId := Table.lookup_key found
  refine ⟨_, lookup, ?_⟩
  by_cases atSource : contactId = input.sourceContactId
  · have fixed : head.afterSource input (source.lineageRevision + 1) ∉
        (written hash ids input created source target).moving input :=
      fun moves => (mem_moving.mp moves).2.2.1 (key.trans atSource)
    rw [if_pos atSource, if_neg fixed]
    constructor
    · exact fun _ => ⟨rfl, rfl, rfl⟩
    · intro atTarget
      exact absurd (atSource.symm.trans atTarget) differs
    · exact fun apart => absurd atSource apart
    · exact fun apart => absurd atSource apart
  by_cases atTarget : contactId = input.targetContactId
  · have same : (head.afterTarget input (target.lineageRevision + 1)).contactId = head.contactId := by
      unfold IdentityHead.afterTarget
      split <;> rfl
    have fixed : head.afterTarget input (target.lineageRevision + 1) ∉
        (written hash ids input created source target).moving input :=
      fun moves => (mem_moving.mp moves).2.2.2.1 (same.trans (key.trans atTarget))
    have isTarget : head = target := by
      have here := new.targetHead
      rw [← atTarget, found] at here
      exact Option.some.inj here
    rw [if_neg atSource, if_pos atTarget, if_neg fixed]
    constructor
    · exact fun here => absurd here atSource
    · intro _
      unfold IdentityHead.afterTarget
      split <;> exact ⟨rfl, rfl⟩
    · exact fun _ apart => absurd atTarget apart
    · intro _
      unfold IdentityHead.afterTarget
      split
      · exact le_rfl
      · exact isTarget ▸ Nat.le_succ _
  · rw [if_neg atSource, if_neg atTarget] at wrote ⊢
    have moves_iff : head ∈ (written hash ids input created source target).moving input ↔
        followsSource (written hash ids input created source target) input contactId head := by
      rw [mem_moving, key]
      have present := Table.lookup_mem wrote
      constructor
      · exact fun ⟨_, anchored, _, _, merged, latest⟩ => ⟨anchored, merged, latest⟩
      · exact fun ⟨anchored, merged, latest⟩ =>
          ⟨present, anchored, atSource, atTarget, merged, latest⟩
    constructor
    · exact fun here => absurd here atSource
    · exact fun here => absurd here atTarget
    · intro _ _
      split
      next moves =>
        exact ⟨rfl, fun _ => rfl, fun stays => absurd (moves_iff.mp moves) stays⟩
      next stays =>
        exact ⟨rfl, fun follows => absurd (moves_iff.mpr follows) stays, fun _ => rfl⟩
    · intro _
      split
      · exact Nat.le_succ _
      · exact le_rfl

theorem head_none (missing : created.identityHead contactId = none) :
    after.identityHead contactId = none := by
  have lookup := new.identityHead_after differs keyed.identities keyed.heads contactId
  rw [identityHead_written _ _ _ _ _ differs, missing] at lookup
  exact lookup

theorem head_before (found : after.identityHead contactId = some later) :
    ∃ head, created.identityHead contactId = some head ∧
      HeadMoves (written hash ids input created source target) input (source.lineageRevision + 1)
        contactId head later := by
  cases before : created.identityHead contactId with
  | none =>
      rw [new.head_none differs keyed before] at found
      cases found
  | some head =>
      obtain ⟨later', found', moves⟩ := new.head_after differs keyed before
      rw [found] at found'
      cases found'
      exact ⟨head, rfl, moves⟩

theorem head_missing (missing : after.identityHead contactId = none) :
    created.identityHead contactId = none := by
  cases before : created.identityHead contactId with
  | none => rfl
  | some head =>
      obtain ⟨_, present, _⟩ := new.head_after differs keyed before
      cases missing.symm.trans present

omit differs keyed in
theorem state_aside (targetActive : target.state = .active)
    (found : created.identityHead contactId = some head)
    (moves : HeadMoves (written hash ids input created source target) input
      (source.lineageRevision + 1) contactId head later)
    (apart : contactId ≠ input.sourceContactId) : later.state = head.state := by
  by_cases atTarget : contactId = input.targetContactId
  · subst atTarget
    cases found.symm.trans new.targetHead
    rw [(moves.atTarget rfl).1, targetActive, ite_self]
  · exact (moves.aside apart atTarget).1

/-- Whoever stands for itself, but for the source, goes on to do so. -/
theorem stands_after (targetActive : target.state = .active)
    (found : created.identityHead contactId = some head) (active : head.state = .active)
    (apart : contactId ≠ input.sourceContactId) :
    ∃ later, after.identityHead contactId = some later ∧ later.state = .active := by
  obtain ⟨later, present, moves⟩ := new.head_after differs keyed found
  exact ⟨later, present, (new.state_aside targetActive found moves apart).trans active⟩

/-- The heads stay ahead of the ledger. -/
theorem revisions_after (rooted : Rooted created) :
    ∀ row ∈ after.lineage, ∃ head, after.identityHead row.sourceContactId = some head ∧
      row.lineageRevision ≤ head.lineageRevision := by
  intro row mem
  rw [(new.lineage_after differs keyed.identities keyed.heads).1, ← new.creates.lineage] at mem
  rcases List.mem_append.mp mem with old | fresh
  · obtain ⟨head, found, bound⟩ := rooted.revisions row old
    obtain ⟨later, found', moves⟩ := new.head_after differs keyed found
    refine ⟨later, found', ?_⟩
    by_cases atSource : row.sourceContactId = input.sourceContactId
    · rw [(moves.atSource atSource).2.2]
      rw [atSource] at found
      cases found.symm.trans new.sourceHead
      exact Nat.le_succ_of_le bound
    · exact bound.trans (moves.revision atSource)
  · rw [List.mem_singleton.mp fresh]
    obtain ⟨later, found', moves⟩ := new.head_after differs keyed new.sourceHead
    exact ⟨later, found', (moves.atSource rfl).2.2.ge⟩

/-- The ledger after the transition, in terms of the merges open before. -/
theorem openMerges_after :
    openMerges after.lineage =
      recordMerge (openMerges created.lineage) (newLineage ids (hash input) input source) := by
  rw [(new.lineage_after differs keyed.identities keyed.heads).1, openMerges_append,
    new.creates.lineage]

end

/-- The merges of another contact, or a reversal, leave the latest merge as it is. -/
theorem latestEdge_of_lineage {later : MembershipStore} {row : IdentityLineage}
    (lineage : later.lineage = before.lineage ++ [row])
    (other : ¬ (row.operation = .merge ∧ row.sourceContactId = contactId)) :
    later.latestEdge contactId = before.latestEdge contactId := by
  rw [latestEdge, latestEdge, lineage, List.filter_append]
  simp [other]

theorem rooted_merge (new : NewTransition hash ids store input after created source target changes)
    (differs : input.sourceContactId ≠ input.targetContactId) (keyed : Keyed store)
    (rooted : Rooted created) (merge : input.operation = .merge) : Rooted after := by
  obtain ⟨-, active, -⟩ := transitionAllowed_ok new.allowed
  obtain ⟨sourceActive, targetActive⟩ := active merge
  have sourceTop := rooted.of_active new.sourceHead sourceActive
  have targetTop := rooted.of_active new.targetHead targetActive
  have opened : openMerges after.lineage =
      link (openMerges created.lineage) input.sourceContactId input.targetContactId := by
    rw [new.openMerges_after differs keyed]
    exact if_pos merge
  -- whoever pointed at the source points at the target now
  have canonical : ∀ contactId head later, created.identityHead contactId = some head →
      HeadMoves (written hash ids input created source target) input (source.lineageRevision + 1)
        contactId head later →
      later.canonicalContactId =
        (if head.canonicalContactId = input.sourceContactId then input.targetContactId
        else head.canonicalContactId) := by
    intro contactId head later found moves
    by_cases atSource : contactId = input.sourceContactId
    · subst atSource
      cases found.symm.trans new.sourceHead
      rw [if_pos sourceTop.1, (moves.atSource rfl).2.1, if_pos merge]
    by_cases atTarget : contactId = input.targetContactId
    · subst atTarget
      cases found.symm.trans new.targetHead
      rw [(moves.atTarget rfl).2, if_pos merge, if_neg]
      rw [targetTop.1]
      exact Ne.symm differs
    · obtain ⟨-, follows, stays⟩ := moves.aside atSource atTarget
      by_cases points : head.canonicalContactId = input.sourceContactId
      · rw [if_pos points, follows ?_, nextCanonical, if_pos merge]
        refine ⟨?_, ?_, .inl merge⟩
        · rw [points, anchor, if_pos merge]
        · refine (rooted.merged_iff found).mpr fun top => atSource ?_
          exact ((rooted.leads _ _ found).of_top top).symm.trans points
      · rw [if_neg points, stays]
        rintro ⟨anchored, -⟩
        rw [anchor, if_pos merge] at anchored
        exact points anchored
  constructor
  · intro contactId later found
    obtain ⟨head, before, moves⟩ := new.head_before differs keyed found
    rw [opened]
    by_cases atSource : contactId = input.sourceContactId
    · subst atSource
      refine .inr ⟨?_, by rw [link_self]; nofun⟩
      rw [(moves.atSource rfl).1, if_pos merge]
    · rw [link_of_ne atSource, new.state_aside targetActive before moves atSource]
      rcases rooted.own _ _ before with ⟨isActive, same, top⟩ | merged
      · refine .inl ⟨isActive, ?_, top⟩
        rw [canonical _ _ _ before moves, if_neg (by rw [same]; exact atSource), same]
      · exact .inr merged
  · intro contactId later found
    obtain ⟨head, before, moves⟩ := new.head_before differs keyed found
    rw [opened, canonical _ _ _ before moves]
    exact (rooted.leads _ _ before).link sourceTop.2 targetTop.2 differs
  · intro contactId later found
    obtain ⟨head, before, moves⟩ := new.head_before differs keyed found
    rw [canonical _ _ _ before moves]
    by_cases points : head.canonicalContactId = input.sourceContactId
    · rw [if_pos points]
      exact new.stands_after differs keyed targetActive new.targetHead targetActive (Ne.symm differs)
    · rw [if_neg points]
      obtain ⟨stands, present, isActive⟩ := rooted.canonical _ _ before
      exact new.stands_after differs keyed targetActive present isActive points
  · intro contactId missing
    have missed := new.head_missing differs keyed missing
    have apart : contactId ≠ input.sourceContactId := by
      rintro rfl
      cases missed.symm.trans new.sourceHead
    rw [opened, link_of_ne apart]
    exact rooted.absent _ missed
  · intro contactId upper above
    rw [opened] at above
    have lineage := (new.lineage_after differs keyed.identities keyed.heads).1
    rw [← new.creates.lineage] at lineage
    by_cases atSource : contactId = input.sourceContactId
    · subst atSource
      rw [link_self] at above
      cases above
      rw [latestEdge, lineage, List.filter_append]
      have kept : [newLineage ids (hash input) input source].filter (fun row =>
          row.operation = .merge ∧ row.sourceContactId = input.sourceContactId) =
          [newLineage ids (hash input) input source] := by
        simp [newLineage, merge]
      rw [kept, Table.latest_append]
      · rfl
      · intro row mem
        obtain ⟨old, isEdge⟩ := List.mem_filter.mp mem
        obtain ⟨head, found, bound⟩ := rooted.revisions row old
        have edge : row.operation = .merge ∧ row.sourceContactId = input.sourceContactId := by
          simpa using isEdge
        rw [edge.2, new.sourceHead] at found
        cases found
        exact Nat.lt_succ_of_le bound
    · rw [link_of_ne atSource] at above
      rw [latestEdge_of_lineage lineage fun edge => atSource edge.2.symm]
      exact rooted.latest _ _ above
  · exact new.revisions_after differs keyed rooted

variable (new : NewTransition hash ids store input after created source target changes)
  (differs : input.sourceContactId ≠ input.targetContactId) (keyed : Keyed store)
  (rooted : Rooted created) (back : input.operation ≠ .merge)
  (whole : Unchained (openMerges created.lineage) input.sourceContactId input.targetContactId)

include new rooted back in
theorem target_active : target.state = .active := by
  have reversed := (transitionAllowed_ok new.allowed).2.2 back
  have leads := rooted.leads _ _ new.sourceHead
  rw [reversed.2] at leads
  rcases rooted.own _ _ new.targetHead with ⟨active, -, -⟩ | ⟨-, merged⟩
  · exact active
  · exact absurd leads.isTop merged

include new differs keyed rooted back whole

omit keyed in
/-- Exactly what is below the source moves back to it. -/
theorem canonical_after_reversal (found : created.identityHead contactId = some head)
    (moves : HeadMoves (written hash ids input created source target) input
      (source.lineageRevision + 1) contactId head later) :
    (Under (openMerges created.lineage) input.sourceContactId contactId →
      later.canonicalContactId = input.sourceContactId) ∧
    (¬ Under (openMerges created.lineage) input.sourceContactId contactId →
      later.canonicalContactId = head.canonicalContactId) := by
  have reversed := (transitionAllowed_ok new.allowed).2.2 back
  obtain ⟨targetOwn, targetTop⟩ :=
    rooted.of_active new.targetHead (new.target_active rooted back)
  by_cases atSource : contactId = input.sourceContactId
  · rw [(moves.atSource atSource).2.1, if_neg back]
    exact ⟨fun _ => rfl, fun apart => absurd (atSource ▸ .refl) apart⟩
  by_cases atTarget : contactId = input.targetContactId
  · subst atTarget
    cases found.symm.trans new.targetHead
    rw [(moves.atTarget rfl).2, if_neg back]
    exact ⟨fun under => absurd ((under_top_iff targetTop).mp under) (Ne.symm differs),
      fun _ => targetOwn.symm⟩
  · obtain ⟨-, follows, stays⟩ := moves.aside atSource atTarget
    have latest : (written hash ids input created source target).latestEdge contactId =
        created.latestEdge contactId :=
      latestEdge_of_lineage writeTransition_rests.2 fun edge => back edge.1
    constructor
    · intro under
      have merged := (whole.under_iff.mp under).resolve_left atSource
      rw [follows ?_, nextCanonical, if_neg back]
      refine ⟨?_, ?_, .inr (by rw [latest]; exact rooted.latest _ _ merged)⟩
      · rw [anchor, if_neg back, ← reversed.2]
        exact ((rooted.leads _ _ found).of_merged merged).unique (rooted.leads _ _ new.sourceHead)
      · exact (rooted.merged_iff found).mpr (Option.ne_none_iff_exists'.mpr ⟨_, merged⟩)
    · intro apart
      refine stays ?_
      rintro ⟨-, isMerged, edge⟩
      have edge := edge.resolve_left back
      rw [latest] at edge
      obtain ⟨upper, opened⟩ :=
        Option.ne_none_iff_exists'.mp ((rooted.merged_iff found).mp isMerged)
      cases edge.symm.trans (rooted.latest _ _ opened)
      exact apart (.single opened)

theorem rooted_reversal : Rooted after := by
  have opened : openMerges after.lineage =
      cut (openMerges created.lineage) input.sourceContactId := by
    rw [new.openMerges_after differs keyed]
    exact (if_neg back).trans (if_pos whole.isOpen)
  have merged : openMerges created.lineage input.sourceContactId ≠ none := by
    rw [whole.isOpen]
    nofun
  have targetActive := new.target_active rooted back
  constructor
  · intro contactId later found
    obtain ⟨head, before, moves⟩ := new.head_before differs keyed found
    obtain ⟨_, stays⟩ := new.canonical_after_reversal differs rooted back whole before moves
    rw [opened]
    by_cases atSource : contactId = input.sourceContactId
    · subst atSource
      obtain ⟨isActive, own, -⟩ := moves.atSource rfl
      rw [if_neg back] at isActive own
      exact .inl ⟨isActive, own, cut_self⟩
    · rw [cut_of_ne atSource, new.state_aside targetActive before moves atSource]
      rcases rooted.own _ _ before with ⟨isActive, same, top⟩ | isMerged
      · refine .inl ⟨isActive, ?_, top⟩
        rw [stays fun under => atSource ((under_top_iff top).mp under), same]
      · exact .inr isMerged
  · intro contactId later found
    obtain ⟨head, before, moves⟩ := new.head_before differs keyed found
    obtain ⟨follows, stays⟩ :=
      new.canonical_after_reversal differs rooted back whole before moves
    obtain ⟨below, aside⟩ := (rooted.leads _ _ before).cut merged
    rw [opened]
    by_cases under : Under (openMerges created.lineage) input.sourceContactId contactId
    · rw [follows under]
      exact below under
    · rw [stays under]
      exact aside under
  · intro contactId later found
    obtain ⟨head, before, moves⟩ := new.head_before differs keyed found
    obtain ⟨follows, stays⟩ :=
      new.canonical_after_reversal differs rooted back whole before moves
    by_cases under : Under (openMerges created.lineage) input.sourceContactId contactId
    · rw [follows under]
      obtain ⟨laterSource, present, sourceMoves⟩ := new.head_after differs keyed new.sourceHead
      have isActive := (sourceMoves.atSource rfl).1
      rw [if_neg back] at isActive
      exact ⟨laterSource, present, isActive⟩
    · rw [stays under]
      obtain ⟨stands, present, isActive⟩ := rooted.canonical _ _ before
      exact new.stands_after differs keyed targetActive present isActive fun same =>
        merged (same ▸ (rooted.leads _ _ before).isTop)
  · intro contactId missing
    rw [opened]
    by_cases atSource : contactId = input.sourceContactId
    · rw [atSource, cut_self]
    · rw [cut_of_ne atSource]
      exact rooted.absent _ (new.head_missing differs keyed missing)
  · intro contactId upper above
    have lineage := (new.lineage_after differs keyed.identities keyed.heads).1
    rw [← new.creates.lineage] at lineage
    rw [opened] at above
    rw [latestEdge_of_lineage lineage fun edge => back edge.1]
    by_cases atSource : contactId = input.sourceContactId
    · rw [atSource, cut_self] at above
      cases above
    · rw [cut_of_ne atSource] at above
      exact rooted.latest _ _ above
  · exact new.revisions_after differs keyed rooted

end NewTransition

/-! ## Runs -/

theorem Rooted.unchained (rooted : Rooted store) {source target : String}
    (whole : reversesWhole store source target = true) :
    Unchained (openMerges store.lineage) source target := by
  obtain ⟨isOpen, direct⟩ := Bool.and_eq_true_iff.mp whole
  refine ⟨by simpa using isOpen, ?_⟩
  intro lower middle mergedLower merged
  cases found : store.identityHead lower with
  | none =>
      rw [rooted.absent _ found] at mergedLower
      cases mergedLower
  | some head =>
      have apart := List.all_eq_true.mp direct head (Table.lookup_mem found)
      have key : head.contactId = lower := Table.lookup_key found
      rw [key, mergedLower, Option.bind_some, merged] at apart
      simp at apart

theorem rooted_fresh (fresh : store.Fresh) : Rooted store := by
  have none_ : ∀ contactId, openMerges store.lineage contactId = none := by
    intro contactId
    rw [fresh.lineage]
    rfl
  have own : ∀ contactId head, store.identityHead contactId = some head →
      head = freshIdentityHead contactId := by
    intro contactId head found
    have key : head.contactId = contactId := Table.lookup_key found
    rw [← key]
    exact fresh.identities head (Table.lookup_mem found)
  constructor
  · intro contactId head found
    rw [own contactId head found]
    exact .inl ⟨rfl, rfl, none_ contactId⟩
  · intro contactId head found
    rw [own contactId head found]
    exact .top (none_ contactId)
  · intro contactId head found
    have same := own contactId head found
    rw [same] at found ⊢
    exact ⟨_, found, rfl⟩
  · exact fun contactId _ => none_ contactId
  · intro contactId target opened
    rw [none_] at opened
    cases opened
  · intro row mem
    rw [fresh.lineage] at mem
    cases mem

variable {host : MembershipHost}

theorem rooted_step {step : MembershipStep} (keyed : Keyed store) (rooted : Rooted store)
    (sound : soundStep store step = true) (taken : store.next host step = some after) :
    Rooted after := by
  cases next_outcome taken with
  | answered same => exact same ▸ rooted
  | @transitioned ids input normalized created source target changes normal differs new =>
      have created := rooted.of_creates new.creates
      by_cases merge : normalized.operation = .merge
      · exact new.rooted_merge differs keyed created merge
      · simp only [soundStep, normal, soundTransition, new.unknown, merge, decide_false,
          Option.isSome_none, Bool.or_false, Bool.false_or] at sound
        have whole := rooted.unchained sound
        rw [← new.creates.lineage] at whole
        exact new.rooted_reversal differs keyed created merge whole
  | committed unused normal outcome =>
      cases outcome with
      | answered _ same _ => exact rooted.of_same same.identityHeads same.lineage
      | refused middle identity _ ensured _ same _
      | applied middle identity context _ ensured _ _ _ same =>
          exact (rooted.of_creates (ensureIdentityHead_creates ensured).1).of_same
            same.identityHeads same.lineage
  | elsewhere _ identities lineage => exact rooted.of_same identities lineage

def soundMemberships (host : MembershipHost) : System MembershipStore MembershipStep :=
  (memberships host).restrict fun store step => soundStep store step = true

structure KeyedForest (store : MembershipStore) : Prop where
  keyed : Keyed store
  rooted : Rooted store

theorem keyedForest_of_reachable (reachable : (soundMemberships host).Reachable store) :
    KeyedForest store := by
  refine reachable.invariant ?_ ?_
  · exact fun _ fresh => ⟨keyed_fresh fresh, rooted_fresh fresh⟩
  · rintro source label target ⟨keyed, rooted⟩ ⟨sound, taken⟩
    exact ⟨keyed_step keyed taken, rooted_step keyed rooted sound taken⟩

/-- In a run whose reversals undo open merges that no chain hangs on, the merges form a flat
forest, and a reversal moves back exactly what came under the source. -/
theorem merges_form_a_flat_forest {host : MembershipHost} {store : MembershipStore}
    (reachable : (soundMemberships host).Reachable store) :
    FlatForest store ∧
      ∀ ids input normalized after, normalizeTransition input = .ok normalized →
        normalized.operation ≠ .merge → store.lineageOf normalized.commandId = none →
        (soundMemberships host).step store (.transition ids input) after →
        MovesBack store after normalized.sourceContactId := by
  obtain ⟨keyed, rooted⟩ := keyedForest_of_reachable reachable
  refine ⟨rooted.flat, ?_⟩
  intro ids input normalized after normal back unknown stepped
  obtain ⟨sound, taken⟩ := stepped
  obtain ⟨result, ok⟩ := toOption_map_fst taken
  obtain ⟨normalized', normal', rest⟩ := bind_ok ok
  rw [normal] at normal'
  cases normal'
  rcases applyIdentityTransition_ok rest with ⟨-, known⟩ | ⟨created, source, target, changes, new⟩
  · exact absurd unknown known
  simp only [soundStep, normal, soundTransition, unknown, back, decide_false, Option.isSome_none,
    Bool.or_false, Bool.false_or] at sound
  have whole := rooted.unchained sound
  rw [← new.creates.lineage] at whole
  have differs := (normalizeTransition_ok normal).1
  intro contactId head found
  obtain ⟨later, present, moves⟩ := new.head_after differs keyed (new.creates.kept found)
  refine ⟨later, present, ?_⟩
  rw [← new.creates.lineage]
  exact new.canonical_after_reversal differs (rooted.of_creates new.creates) back whole
    (new.creates.kept found) moves

/-! ## Runs on samples -/

def sampleHost : MembershipHost where
  identityHash input := input.commandId
  evaluation := { hash := fun _ => "hash", evaluate := fun _ _ _ => .ok .isMatch }

def sampleStore : MembershipStore where
  contacts := ["a", "b", "s", "t"]
  identityHeads := []
  lineage := []
  heads := []
  changes := []
  definitions := []
  snapshots := []
  evaluations := []
  evidence := []
  receipts := []
  quarantine := []

def sampleTransition (commandId : String) (operation : IdentityOperation) (source target : String)
    (expected : Nat) : MembershipStep :=
  .transition ⟨commandId, fun stream => commandId ++ stream.contactId⟩
    ⟨commandId, operation, source, target, expected, "correlation"⟩

theorem sampleStore_fresh : sampleStore.Fresh :=
  ⟨nofun, .nil, rfl, rfl, rfl⟩

def mergedTwice : List MembershipStep :=
  [sampleTransition "1" .merge "a" "b" 0, sampleTransition "2" .merge "b" "t" 0]

/-- A chain of three merges. -/
def mergedThrice : List MembershipStep :=
  [sampleTransition "1" .merge "a" "b" 0, sampleTransition "2" .merge "b" "s" 0,
    sampleTransition "3" .merge "s" "t" 0]

/-- The contact comes back with the one that it was merged into. -/
theorem merges_form_a_flat_forest_for_sample :
    ∃ store, FlatForest store ∧ (store.identityHead "a").map IdentityHead.canonicalContactId =
      some "b" := by
  have ends : System.endsWith (System.guardNext soundStep (next sampleHost))
      sampleStore mergedTwice (sampleTransition "3" .unmerge "b" "t" 1)
      (fun _ after => (after.identityHead "a").map IdentityHead.canonicalContactId = some "b") =
      true := by decide +kernel
  obtain ⟨before, after, reachable, last, back⟩ :=
    System.Reachable.endsWithGuarded sampleStore_fresh ends
  have arrived : (soundMemberships sampleHost).Reachable after := reachable.step last
  exact ⟨after, (merges_form_a_flat_forest arrived).1, of_decide_eq_true back⟩

/-- The contact at the end of the chain stays behind when the last merge is reversed. -/
theorem merged_chain_is_torn :
    ¬ ∀ host store, (memberships host).Reachable store → FlatForest store := by
  intro flat
  have ends : System.endsWith (next sampleHost) sampleStore mergedThrice
      (sampleTransition "4" .unmerge "s" "t" 1)
      (fun _ after =>
        (after.identityHead "a").map (fun head => (head.state, head.canonicalContactId)) =
          some (.merged, "t") &&
        openMerges after.lineage "a" = some "b" && openMerges after.lineage "b" = some "s" &&
        openMerges after.lineage "s" = none) = true := by decide +kernel
  obtain ⟨before, after, reachable, last, test⟩ := System.Reachable.endsWith sampleStore_fresh ends
  simp only [Bool.and_eq_true, decide_eq_true_eq] at test
  obtain ⟨⟨⟨pointed, first⟩, second⟩, third⟩ := test
  obtain ⟨head, found, states⟩ := Option.map_eq_some_iff.mp pointed
  obtain ⟨merged, points⟩ := Prod.mk.inj states
  have arrived : (memberships sampleHost).Reachable after := reachable.step last
  have leads := ((flat sampleHost after arrived "a" head found).2 merged).2
  have root : RootOf (openMerges after.lineage) "a" "s" := .up first (.up second (.top third))
  rw [points] at leads
  exact absurd (root.unique leads) (by decide)

end DContact.Customer360

import DContact.Customer360.MembershipMoves

/-!
# Moves of identities

What a transition does to the identity heads: the source and the target are written, the
contacts that were merged before are pointed at the new canonical contact, and nothing else
changes. The ledger gains one row.
-/

namespace DContact.Customer360

open Lib List MembershipStore IdentityHead AffectedContact

/-! ## Heads created on first use -/

structure Creates (before after : MembershipStore) : Prop where
  rests : Rests before after
  lineage : after.lineage = before.lineage
  heads : ∀ contactId, after.identityHead contactId = before.identityHead contactId ∨
    before.identityHead contactId = none ∧
      after.identityHead contactId = some (freshIdentityHead contactId)
  distinct : (before.identityHeads.map IdentityHead.contactId).Nodup →
    (after.identityHeads.map IdentityHead.contactId).Nodup

theorem Creates.refl (store : MembershipStore) : Creates store store :=
  ⟨.refl _, rfl, fun _ => .inl rfl, id⟩

variable {after store : MembershipStore} {contactId : String} {head : IdentityHead}

theorem Creates.kept {before : MembershipStore} (creates : Creates before after)
    (found : before.identityHead contactId = some head) :
    after.identityHead contactId = some head := by
  rcases creates.heads contactId with same | ⟨absent, -⟩
  · rw [same, found]
  · rw [found] at absent
    cases absent

theorem Creates.trans {first second third : MembershipStore} (left : Creates first second)
    (right : Creates second third) : Creates first third where
  rests := left.rests.trans right.rests
  lineage := right.lineage.trans left.lineage
  heads := by
    intro contactId
    rcases left.heads contactId with same | ⟨absent, created⟩
    · rw [← same]
      exact right.heads contactId
    · exact .inr ⟨absent, right.kept created⟩
  distinct := fun distinct => right.distinct (left.distinct distinct)

theorem ensureIdentityHead_creates (ok : ensureIdentityHead store contactId = .ok (after, head)) :
    Creates store after ∧ after.identityHead contactId = some head := by
  rcases ensureIdentityHead_ok ok with ⟨rfl, found⟩ | ⟨absent, rfl, rfl⟩
  · exact ⟨.refl _, found⟩
  · have created : ∀ other, identityHead { store with
        identityHeads := store.identityHeads ++ [freshIdentityHead contactId] } other =
        if other = contactId then some (freshIdentityHead contactId)
        else store.identityHead other := by
      intro other
      rw [identityHead, Table.lookup, find?_append]
      by_cases same : other = contactId
      · subst same
        rw [identityHead, Table.lookup] at absent
        rw [absent, if_pos rfl]
        simp [freshIdentityHead]
      · rw [if_neg same]
        have apart : ¬ contactId = other := fun equal => same equal.symm
        simp [freshIdentityHead, apart, identityHead, Table.lookup]
    refine ⟨⟨⟨rfl, rfl⟩, rfl, ?_, ?_⟩, ?_⟩
    · intro other
      rw [created]
      by_cases same : other = contactId
      · subst same
        exact .inr ⟨absent, if_pos rfl⟩
      · exact .inl (if_neg same)
    · intro distinct
      refine Table.nodup_append distinct ?_
      intro known
      obtain ⟨other, mem, same⟩ := mem_map.mp known
      exact find?_eq_none.mp absent other mem (decide_eq_true same)
    · rw [created, if_pos rfl]

/-! ## Heads pointed at another contact -/

theorem updateIdentityHead_lookup (store : MembershipStore) (contactId : String)
    (rewrite : IdentityHead → IdentityHead)
    (keeps : ∀ row, (rewrite row).contactId = row.contactId) (other : String) :
    (store.updateIdentityHead contactId rewrite).identityHead other =
      (store.identityHead other).map fun row => if other = contactId then rewrite row else row := by
  rw [updateIdentityHead, identityHead, Table.lookup_update keeps, identityHead]
  cases found : Table.lookup IdentityHead.contactId other store.identityHeads with
  | none => rfl
  | some row =>
      rw [Option.map_some, Option.map_some, Table.lookup_key found]

theorem updateIdentityHead_distinct {rewrite : IdentityHead → IdentityHead}
    (keeps : ∀ row, (rewrite row).contactId = row.contactId) :
    (store.updateIdentityHead contactId rewrite).identityHeads.map IdentityHead.contactId =
      store.identityHeads.map IdentityHead.contactId :=
  Table.map_key_update keeps

def IdentityHead.repointed (head : IdentityHead) (canonicalContactId : String) : IdentityHead :=
  { head with
    canonicalContactId := canonicalContactId
    lineageRevision := head.lineageRevision + 1 }

/-- One step of the loop over the contacts that move. -/
def repointOne (nextCanonical : String) (acc : MembershipStore × List AffectedContact)
    (head : IdentityHead) : MembershipStore × List AffectedContact :=
  (acc.1.updateIdentityHead head.contactId fun row =>
      { row with
        canonicalContactId := nextCanonical
        lineageRevision := head.lineageRevision + 1 },
    acc.2 ++ [⟨head.contactId, .identityInvalidated, head.lineageRevision + 1⟩])

/-- The loop points exactly the given heads at the new contact. -/
theorem repointOne_foldl {nextCanonical : String} {heads : List IdentityHead}
    (acc : MembershipStore × List AffectedContact)
    (distinct : (heads.map IdentityHead.contactId).Nodup)
    (present : ∀ head ∈ heads, acc.1.identityHead head.contactId = some head) :
    (∀ contactId, (heads.foldl (repointOne nextCanonical) acc).1.identityHead contactId =
      (acc.1.identityHead contactId).map fun row =>
        if row ∈ heads then row.repointed nextCanonical else row) ∧
    (heads.foldl (repointOne nextCanonical) acc).1.identityHeads.map IdentityHead.contactId =
      acc.1.identityHeads.map IdentityHead.contactId ∧
    (heads.foldl (repointOne nextCanonical) acc).2 =
      acc.2 ++ heads.map (fun head =>
        ⟨head.contactId, .identityInvalidated, head.lineageRevision + 1⟩) ∧
    Rests acc.1 (heads.foldl (repointOne nextCanonical) acc).1 ∧
    (heads.foldl (repointOne nextCanonical) acc).1.lineage = acc.1.lineage := by
  induction heads generalizing acc with
  | nil => exact ⟨fun contactId => by simp, rfl, by simp, .refl _, rfl⟩
  | cons head rest ih =>
      obtain ⟨fresh, distinctRest⟩ := nodup_cons.mp distinct
      have stepped := updateIdentityHead_lookup acc.1 head.contactId
        (fun row => { row with
          canonicalContactId := nextCanonical
          lineageRevision := head.lineageRevision + 1 }) (fun _ => rfl)
      have others : ∀ other ∈ rest,
          (repointOne nextCanonical acc head).1.identityHead other.contactId = some other := by
        intro other mem
        have apart : other.contactId ≠ head.contactId := fun equal =>
          fresh (equal ▸ mem_map_of_mem mem)
        rw [repointOne, stepped, present other (mem_cons_of_mem _ mem)]
        simp [apart]
      obtain ⟨lookups, keys, affected, rests, lineage⟩ := ih _ distinctRest others
      rw [foldl_cons]
      refine ⟨fun contactId => ?_, ?_, ?_, ?_, ?_⟩
      · rw [lookups, repointOne, stepped]
        by_cases same : contactId = head.contactId
        · subst same
          rw [present head mem_cons_self]
          have gone : ∀ row ∈ rest, row.contactId ≠ head.contactId := fun row mem equal =>
            fresh (equal ▸ mem_map_of_mem mem)
          have written : ({ head with
              canonicalContactId := nextCanonical
              lineageRevision := head.lineageRevision + 1 } : IdentityHead) ∉ rest :=
            fun mem => gone _ mem rfl
          simp [written, repointed]
        · cases found : acc.1.identityHead contactId with
          | none => rfl
          | some row =>
              have apart : row ≠ head := by
                rintro rfl
                exact same (Table.lookup_key found).symm
              simp [same, apart]
      · rw [keys]
        exact updateIdentityHead_distinct fun _ => rfl
      · rw [affected, repointOne, append_assoc]
        rfl
      · exact (⟨rfl, rfl⟩ : Rests acc.1 (repointOne nextCanonical acc head).1).trans rests
      · exact lineage

theorem mem_moving {input : IdentityTransitionInput} :
    head ∈ store.moving input ↔ head ∈ store.identityHeads ∧
      head.canonicalContactId = input.anchor ∧ head.contactId ≠ input.sourceContactId ∧
      head.contactId ≠ input.targetContactId ∧ head.state = .merged ∧
      (input.operation = .merge ∨ store.latestEdge head.contactId = some input.sourceContactId) := by
  simp only [moving, candidates, mem_filter, Text.mem_sortBy, decide_eq_true_eq, Bool.or_eq_true]
  tauto

theorem moving_distinct (input : IdentityTransitionInput)
    (distinct : (store.identityHeads.map IdentityHead.contactId).Nodup) :
    ((store.moving input).map IdentityHead.contactId).Nodup := by
  have candidates : ((store.candidates input).map IdentityHead.contactId).Nodup :=
    ((Text.sortBy_perm IdentityHead.contactId _).map IdentityHead.contactId).nodup_iff.mpr
      ((filter_sublist.map _).nodup distinct)
  exact (filter_sublist.map _).nodup candidates

/-- `repointMergeChain` points exactly the moving heads at the new contact. -/
theorem repointMergeChain_spec (input : IdentityTransitionInput)
    (distinct : (store.identityHeads.map IdentityHead.contactId).Nodup) :
    (∀ contactId, (repointMergeChain store input).1.identityHead contactId =
      (store.identityHead contactId).map fun row =>
        if row ∈ store.moving input then row.repointed input.nextCanonical else row) ∧
    (repointMergeChain store input).1.identityHeads.map IdentityHead.contactId =
      store.identityHeads.map IdentityHead.contactId ∧
    (repointMergeChain store input).2 = (store.moving input).map (fun head =>
      ⟨head.contactId, .identityInvalidated, head.lineageRevision + 1⟩) ∧
    Rests store (repointMergeChain store input).1 ∧
    (repointMergeChain store input).1.lineage = store.lineage := by
  refine repointOne_foldl (store, []) (moving_distinct input distinct) ?_
  intro head mem
  exact Table.lookup_of_member distinct (mem_moving.mp mem).1 rfl

/-! ## The transition -/

theorem transitionAllowed_ok {input : IdentityTransitionInput} {source target : IdentityHead}
    (ok : transitionAllowed store input source target = .ok ⟨⟩) :
    source.lineageRevision = input.expectedSourceLineageRevision ∧
      (input.operation = .merge → source.state = .active ∧ target.state = .active) ∧
      (input.operation ≠ .merge →
        source.state = .merged ∧ source.canonicalContactId = input.targetContactId) := by
  obtain ⟨_, revision, rest⟩ := bind_ok ok
  refine ⟨ensure_ok.mp revision, ?_, ?_⟩
  · intro merge
    rw [if_pos merge] at rest
    exact ensure_ok.mp rest
  · intro back
    rw [if_neg back] at rest
    obtain ⟨_, merged, _⟩ := bind_ok rest
    exact ensure_ok.mp merged

def IdentityHead.afterSource (head : IdentityHead) (input : IdentityTransitionInput)
    (lineageRevision : Nat) : IdentityHead :=
  { head with
    state := if input.operation = .merge then .merged else .active
    canonicalContactId :=
      if input.operation = .merge then input.targetContactId else input.sourceContactId
    lineageRevision := lineageRevision }

def IdentityHead.afterTarget (head : IdentityHead) (input : IdentityTransitionInput)
    (lineageRevision : Nat) : IdentityHead :=
  if input.operation = .merge then head
  else
    { head with
      state := .active
      canonicalContactId := input.targetContactId
      lineageRevision := lineageRevision }

variable {ids : TransitionIds} {requestHash : String} {input : IdentityTransitionInput}
  {store : MembershipStore} {source target : IdentityHead}

theorem writeTransition_lookup (differs : input.sourceContactId ≠ input.targetContactId)
    (contactId : String) :
    (writeTransition store (newLineage ids requestHash input source) target).identityHead contactId =
      (store.identityHead contactId).map fun head =>
        if contactId = input.sourceContactId then head.afterSource input (source.lineageRevision + 1)
        else if contactId = input.targetContactId then
          head.afterTarget input (target.lineageRevision + 1)
        else head := by
  have written := fun (recorded : MembershipStore) => updateIdentityHead_lookup recorded
    input.sourceContactId (fun head => head.afterSource input (source.lineageRevision + 1))
    (fun _ => rfl) contactId
  have recorded : identityHead
      { store with lineage := store.lineage ++ [newLineage ids requestHash input source] }
      contactId = store.identityHead contactId := rfl
  by_cases merge : input.operation = .merge
  · have same : writeTransition store (newLineage ids requestHash input source) target =
        updateIdentityHead
          { store with lineage := store.lineage ++ [newLineage ids requestHash input source] }
          input.sourceContactId
          (fun head => head.afterSource input (source.lineageRevision + 1)) := if_pos merge
    rw [same, written, recorded]
    cases store.identityHead contactId with
    | none => rfl
    | some head => simp [afterTarget, merge]
  · have same : writeTransition store (newLineage ids requestHash input source) target =
        (updateIdentityHead
          { store with lineage := store.lineage ++ [newLineage ids requestHash input source] }
          input.sourceContactId
          (fun head => head.afterSource input (source.lineageRevision + 1))).updateIdentityHead
          input.targetContactId
          (fun head => { head with
            state := .active
            canonicalContactId := input.targetContactId
            lineageRevision := target.lineageRevision + 1 }) := if_neg merge
    rw [same, updateIdentityHead_lookup _ _ _ (by intro; rfl), written, recorded]
    cases store.identityHead contactId with
    | none => rfl
    | some head =>
        by_cases atSource : contactId = input.sourceContactId
        · simp [atSource, differs]
        · simp [atSource, afterTarget, merge]

theorem writeTransition_keys :
    (writeTransition store (newLineage ids requestHash input source) target).identityHeads.map
      IdentityHead.contactId = store.identityHeads.map IdentityHead.contactId := by
  unfold writeTransition
  simp only
  split
  · rw [updateIdentityHead_distinct (by intro; rfl)]
  · rw [updateIdentityHead_distinct (by intro; rfl), updateIdentityHead_distinct (by intro; rfl)]

theorem writeTransition_rests :
    Rests store (writeTransition store (newLineage ids requestHash input source) target) ∧
      (writeTransition store (newLineage ids requestHash input source) target).lineage =
        store.lineage ++ [newLineage ids requestHash input source] := by
  unfold writeTransition
  simp only
  split <;> exact ⟨⟨rfl, rfl⟩, rfl⟩

def NewTransition.written (hash : IdentityTransitionInput → String) (ids : TransitionIds)
    (input : IdentityTransitionInput) (created : MembershipStore) (source target : IdentityHead) :
    MembershipStore :=
  writeTransition created (newLineage ids (hash input) input source) target

def NewTransition.affected (hash : IdentityTransitionInput → String) (ids : TransitionIds)
    (input : IdentityTransitionInput) (created : MembershipStore) (source target : IdentityHead) :
    List AffectedContact :=
  affectedContacts (newLineage ids (hash input) input source) target
    (repointMergeChain (NewTransition.written hash ids input created source target) input).2

/-- A transition that is new: what it reads, the tables after its identity writes, and the
streams that it invalidates then. -/
structure NewTransition (hash : IdentityTransitionInput → String) (ids : TransitionIds)
    (store : MembershipStore) (input : IdentityTransitionInput) (after created : MembershipStore)
    (source target : IdentityHead) (changes : List SegmentMembershipChange) : Prop where
  creates : Creates store created
  unknown : store.lineageOf input.commandId = none
  sourceHead : created.identityHead input.sourceContactId = some source
  targetHead : created.identityHead input.targetContactId = some target
  allowed : transitionAllowed created input source target = .ok ⟨⟩
  invalidated : invalidateContacts ids input
    (repointMergeChain (NewTransition.written hash ids input created source target) input).1
    (NewTransition.affected hash ids input created source target) = .ok (after, changes)

theorem applyIdentityTransition_ok {hash : IdentityTransitionInput → String}
    {result : IdentityTransitionResult}
    (ok : applyIdentityTransition hash ids store input = .ok (after, result)) :
    (after = store ∧ store.lineageOf input.commandId ≠ none) ∨
      ∃ created source target changes,
        NewTransition hash ids store input after created source target changes := by
  unfold applyIdentityTransition at ok
  split at ok
  next existing found =>
    obtain ⟨_, _, rest⟩ := bind_ok ok
    cases rest
    exact .inl ⟨rfl, by simp [found]⟩
  next unknown =>
    obtain ⟨⟨first, source⟩, ensured, rest⟩ := bind_ok ok
    obtain ⟨⟨created, target⟩, ensured', rest⟩ := bind_ok rest
    obtain ⟨⟨⟩, allowed, rest⟩ := bind_ok rest
    obtain ⟨⟨last, changes⟩, invalidated, rest⟩ := bind_ok rest
    cases rest
    obtain ⟨createsSource, sourceHead⟩ := ensureIdentityHead_creates ensured
    obtain ⟨createsTarget, targetHead⟩ := ensureIdentityHead_creates ensured'
    exact .inr ⟨created, source, target, changes, {
      creates := createsSource.trans createsTarget
      unknown := unknown
      sourceHead := createsTarget.kept sourceHead
      targetHead := targetHead
      allowed := allowed
      invalidated := invalidated }⟩

namespace NewTransition

variable {hash : IdentityTransitionInput → String} {created : MembershipStore}
  {changes : List SegmentMembershipChange}

theorem identityHead_written (hash : IdentityTransitionInput → String) (ids : TransitionIds)
    (created : MembershipStore) (source target : IdentityHead)
    (differs : input.sourceContactId ≠ input.targetContactId) (contactId : String) :
    (written hash ids input created source target).identityHead contactId =
      (created.identityHead contactId).map fun head =>
        if contactId = input.sourceContactId then head.afterSource input (source.lineageRevision + 1)
        else if contactId = input.targetContactId then
          head.afterTarget input (target.lineageRevision + 1)
        else head :=
  writeTransition_lookup differs contactId

theorem distinct_written (hash : IdentityTransitionInput → String) (ids : TransitionIds)
    (input : IdentityTransitionInput) (source target : IdentityHead)
    (distinct : (created.identityHeads.map IdentityHead.contactId).Nodup) :
    ((written hash ids input created source target).identityHeads.map
      IdentityHead.contactId).Nodup := by
  rw [written, writeTransition_keys]
  exact distinct

theorem mem_affected (distinct : (created.identityHeads.map IdentityHead.contactId).Nodup)
    {contact : AffectedContact} :
    contact ∈ affected hash ids input created source target ↔
      contact = ⟨input.sourceContactId, .identityInvalidated, source.lineageRevision + 1⟩ ∨
      contact = (if input.operation = .merge then
          ⟨input.targetContactId, .refilterRequired, target.lineageRevision⟩
        else ⟨input.targetContactId, .identityInvalidated, target.lineageRevision + 1⟩) ∨
      ∃ head ∈ (written hash ids input created source target).moving input,
        contact = ⟨head.contactId, .identityInvalidated, head.lineageRevision + 1⟩ := by
  have repointed := (repointMergeChain_spec input
    (distinct_written hash ids input source target distinct)).2.2.1
  rw [affected, affectedContacts, Text.mem_sortBy, repointed, mem_cons, mem_cons]
  refine or_congr Iff.rfl (or_congr Iff.rfl ?_)
  constructor
  · intro mem
    obtain ⟨head, moves, rfl⟩ := mem_map.mp mem
    exact ⟨head, moves, rfl⟩
  · rintro ⟨head, moves, rfl⟩
    exact mem_map_of_mem moves

theorem affected_kinds (distinct : (created.identityHeads.map IdentityHead.contactId).Nodup) :
    ∀ contact ∈ affected hash ids input created source target,
      contact.kind = .identityInvalidated ∨ contact.kind = .refilterRequired := by
  intro contact mem
  rcases (mem_affected distinct).mp mem with rfl | rfl | ⟨_, _, rfl⟩
  · exact .inl rfl
  · by_cases merge : input.operation = .merge
    · exact .inr (by rw [if_pos merge])
    · exact .inl (by rw [if_neg merge])
  · exact .inl rfl

theorem affected_distinct (differs : input.sourceContactId ≠ input.targetContactId)
    (distinct : (created.identityHeads.map IdentityHead.contactId).Nodup) :
    ((affected hash ids input created source target).map AffectedContact.contactId).Nodup := by
  have keys := distinct_written hash ids input source target distinct
  have repointed := (repointMergeChain_spec input keys).2.2.1
  have perm := (Text.sortBy_perm AffectedContact.contactId
    (⟨input.sourceContactId, .identityInvalidated, source.lineageRevision + 1⟩ ::
      (if input.operation = .merge then
        ⟨input.targetContactId, .refilterRequired, target.lineageRevision⟩
      else ⟨input.targetContactId, .identityInvalidated, target.lineageRevision + 1⟩) ::
      (repointMergeChain (written hash ids input created source target) input).2)).map
      AffectedContact.contactId
  refine perm.nodup_iff.mpr ?_
  rw [map_cons, map_cons, repointed, map_map]
  have target_ : (if input.operation = .merge then
        (⟨input.targetContactId, .refilterRequired, target.lineageRevision⟩ : AffectedContact)
      else ⟨input.targetContactId, .identityInvalidated, target.lineageRevision + 1⟩).contactId =
      input.targetContactId := by
    split <;> rfl
  rw [target_]
  refine nodup_cons.mpr ⟨?_, nodup_cons.mpr ⟨?_, moving_distinct input keys⟩⟩
  · intro mem
    rcases mem_cons.mp mem with same | moved
    · exact differs same
    · obtain ⟨head, moves, same⟩ := mem_map.mp moved
      exact (mem_moving.mp moves).2.2.1 same
  · intro moved
    obtain ⟨head, moves, same⟩ := mem_map.mp moved
    exact (mem_moving.mp moves).2.2.2.1 same

variable (new : NewTransition hash ids store input after created source target changes)
  (differs : input.sourceContactId ≠ input.targetContactId)
  (identities : (store.identityHeads.map IdentityHead.contactId).Nodup)
  (heads : (store.heads.map SegmentMembershipHead.stream).Nodup)

include new differs identities heads

/-- What the transition does to the streams, after the writes to the identities. -/
theorem invalidations :
    Rests store (repointMergeChain (written hash ids input created source target) input).1 ∧
    Invalidations (repointMergeChain (written hash ids input created source target) input).1 after
      changes ∧ ∀ stream,
      (∀ contact ∈ affected hash ids input created source target,
        stream.contactId = contact.contactId → after.head stream =
          (store.head stream).map fun head => head.invalidated contact.kind contact.revision) ∧
      (stream.contactId ∉ (affected hash ids input created source target).map
          AffectedContact.contactId → after.head stream = store.head stream) := by
  have distinct := new.creates.distinct identities
  have repointed := (repointMergeChain_spec input
    (distinct_written hash ids input source target distinct)).2.2.2.1
  have rests := (new.creates.rests.trans writeTransition_rests.1).trans repointed
  obtain ⟨invalidations, effect⟩ := invalidateContacts_ok (affected_kinds distinct)
    (by rw [rests.heads]; exact heads) (affected_distinct differs distinct) new.invalidated
  refine ⟨rests, invalidations, fun stream => ?_⟩
  rw [← rests.head stream]
  exact effect stream

theorem head_cases (stream : MembershipStream) :
    (∃ contact ∈ affected hash ids input created source target,
      stream.contactId = contact.contactId ∧ after.head stream =
        (store.head stream).map fun head => head.invalidated contact.kind contact.revision) ∨
    stream.contactId ∉ (affected hash ids input created source target).map
        AffectedContact.contactId ∧ after.head stream = store.head stream := by
  obtain ⟨touched, untouched⟩ := (new.invalidations differs identities heads).2.2 stream
  by_cases mem : stream.contactId ∈ (affected hash ids input created source target).map
      AffectedContact.contactId
  · obtain ⟨contact, present, same⟩ := mem_map.mp mem
    exact .inl ⟨contact, present, same.symm, touched contact present same.symm⟩
  · exact .inr ⟨mem, untouched mem⟩

theorem identityHead_after (contactId : String) :
    after.identityHead contactId =
      ((written hash ids input created source target).identityHead contactId).map fun head =>
        if head ∈ (written hash ids input created source target).moving input then
          head.repointed input.nextCanonical
        else head := by
  rw [(new.invalidations differs identities heads).2.1.same.identityHead]
  exact (repointMergeChain_spec input
    (distinct_written _ _ _ _ _ (new.creates.distinct identities))).1 contactId

theorem lineage_after :
    after.lineage = store.lineage ++ [newLineage ids (hash input) input source] ∧
      (after.identityHeads.map IdentityHead.contactId).Nodup := by
  have distinct := distinct_written hash ids input source target (new.creates.distinct identities)
  have repointed := repointMergeChain_spec input distinct
  have same := (new.invalidations differs identities heads).2.1.same
  constructor
  · rw [same.lineage]
    exact repointed.2.2.2.2.trans (writeTransition_rests.2.trans (by rw [new.creates.lineage]))
  · rw [same.identityHeads, repointed.2.1]
    exact distinct

end NewTransition

end DContact.Customer360

import DContact.Customer360.MembershipRuns

/-!
# The ledger of a membership stream

A consumer that lost its projection reads the changes of a stream again and rebuilds the state
and the entry from them. Commits and identity transitions append to the same stream, and each
appended change has to say enough for the fold to follow the head.
-/

namespace DContact.Customer360

open Lib List MembershipStore
open Governance (Instant)

/-! ## Rebuilding -/

/-- The state and the entry that a consumer holds of a stream. -/
structure Standing where
  state : MembershipState
  entryId : Option String

namespace Standing

/-- Nobody is in a segment before the first change. -/
def initial : Standing := ⟨.outside, none⟩

def apply (standing : Standing) (change : SegmentMembershipChange) : Standing :=
  match change.changeKind with
  | .entered | .corrected => ⟨.inside, change.entryId⟩
  | .left => ⟨.outside, none⟩
  | .identityInvalidated => { standing with state := .invalidated }
  | .refilterRequired => standing

/-- The stored head, as a consumer would hold it. -/
def ofHead (head : Option SegmentMembershipHead) : Standing :=
  match head with
  | none => initial
  | some head => ⟨head.state, head.entryId⟩

end Standing

def rebuild (changes : List SegmentMembershipChange) : Standing :=
  changes.foldl Standing.apply Standing.initial

def openEntries (changes : List SegmentMembershipChange) : List (Option String) :=
  changes.foldl (fun open_ change =>
    match change.changeKind with
    | .entered => open_ ++ [change.entryId]
    | .left | .identityInvalidated => open_.filter fun entryId => entryId ≠ change.entryId
    | .corrected | .refilterRequired => open_) []

def entryOfHead (head : Option SegmentMembershipHead) : List (Option String) :=
  match head with
  | none => []
  | some head => if head.state = .inside then [head.entryId] else []

variable {old : Option SegmentMembershipHead} {minted : String}

theorem HeadFollows.entered_minted
    {entryId : Option String} {state : MembershipState} {headEntry : Option String}
    (follows : HeadFollows minted old .entered entryId state headEntry) :
    entryId = some minted := by
  cases follows with
  | entered => rfl

variable {change : SegmentMembershipChange} {head : SegmentMembershipHead}

theorem HeadFollows.rebuilt
    (follows : HeadFollows minted old change.changeKind change.entryId head.state head.entryId)
    (kept : change.changeKind = .refilterRequired →
      ∃ current, old = some current ∧ head.state = current.state ∧
        head.entryId = current.entryId) :
    (Standing.ofHead old).apply change = Standing.ofHead (some head) := by
  obtain ⟨_, _, _, kind, entryId, _, _, _, _, _, _, _, _, _⟩ := change
  obtain ⟨_, state, _, headEntry, _, _, _, _, _, _⟩ := head
  cases follows with
  | putAside invalidated =>
      obtain ⟨current, same, state, entry⟩ := kept rfl
      cases same
      rw [Standing.apply, Standing.ofHead, Standing.ofHead]
      exact congrArg₂ Standing.mk state.symm entry.symm
  | _ => rfl

variable {changes : List SegmentMembershipChange}

theorem HeadFollows.opened
    (follows : HeadFollows minted old change.changeKind change.entryId head.state head.entryId)
    (before : openEntries changes = entryOfHead old) :
    openEntries (changes ++ [change]) = entryOfHead (some head) := by
  rw [openEntries, foldl_append]
  change (match change.changeKind with
    | .entered => openEntries changes ++ [change.entryId]
    | .left | .identityInvalidated =>
        (openEntries changes).filter fun entryId => entryId ≠ change.entryId
    | .corrected | .refilterRequired => openEntries changes) = _
  rw [before]
  obtain ⟨_, _, _, kind, entryId, _, _, _, _, _, _, _, _, _⟩ := change
  obtain ⟨_, state, _, headEntry, _, _, _, _, _, _⟩ := head
  cases follows with
  | entered apart =>
      cases old with
      | none => rfl
      | some current => simp [entryOfHead, apart current rfl]
  | corrected inside | left inside => simp [entryOfHead, inside]
  | putAside invalidated => simp [entryOfHead, invalidated]
  | @invalidated current =>
      by_cases inside : current.state = .inside <;> simp [entryOfHead, inside]
  | refiltered => rfl

/-! ## The ledger of one stream -/

/-- The changes of a stream are numbered from one on, and no entry opens while another one is
open. -/
structure StreamLedger (changes : List SegmentMembershipChange)
    (head : Option SegmentMembershipHead) : Prop where
  numbered : changes.map SegmentMembershipChange.membershipRevision =
    List.range' 1 ((head.map SegmentMembershipHead.membershipRevision).getD 0)
  alone : ∀ front entered back, changes = front ++ entered :: back →
    entered.changeKind = .entered → openEntries front = []
  opened : openEntries changes = entryOfHead head
  vacant : ∀ current, head = some current → current.state = .outside → current.entryId = none

theorem StreamLedger.append (ledger : StreamLedger changes old)
    (revision : change.membershipRevision = head.membershipRevision)
    (advances : head.membershipRevision =
      (old.map SegmentMembershipHead.membershipRevision).getD 0 + 1)
    (follows : HeadFollows minted old change.changeKind change.entryId head.state head.entryId) :
    StreamLedger (changes ++ [change]) (some head) where
  numbered := by
    rw [map_append, ledger.numbered, map_singleton, revision, Option.map_some,
      Option.getD_some, advances, List.range'_concat, Nat.one_mul, Nat.add_comm 1]
  alone := by
    intro front entered back split kind
    rcases eq_nil_or_concat back with rfl | ⟨before, last, rfl⟩
    · obtain ⟨rfl, same⟩ := append_inj' split rfl
      obtain rfl := (List.cons.inj same).1
      rw [ledger.opened]
      rw [kind] at follows
      generalize change.entryId = entryId, head.state = state, head.entryId = headEntry at follows
      cases follows with
      | entered apart =>
          cases old with
          | none => rfl
          | some current => simp [entryOfHead, apart current rfl]
    · rw [concat_eq_append, ← cons_append, ← append_assoc] at split
      exact ledger.alone front entered before (append_inj' split rfl).1 kind
  opened := follows.opened ledger.opened
  vacant := by
    rintro _ ⟨⟩ outside
    generalize change.changeKind = kind, change.entryId = entryId, head.state = state,
      head.entryId = headEntry at follows outside ⊢
    cases follows with
    | entered | corrected | invalidated => cases outside
    | left | putAside => rfl
    | refiltered => exact ledger.vacant _ rfl outside

theorem StreamLedger.refresh (ledger : StreamLedger changes old)
    (revision : head.membershipRevision =
      (old.map SegmentMembershipHead.membershipRevision).getD 0)
    (outside : head.state = .outside) (vacant : head.entryId = none)
    (before : ∀ current, old = some current → current.state = .outside) :
    StreamLedger changes (some head) where
  numbered := by
    rw [ledger.numbered, ← revision]
    rfl
  alone := ledger.alone
  opened := by
    rw [ledger.opened]
    cases old with
    | none => simp [entryOfHead, outside]
    | some current => simp [entryOfHead, outside, before current rfl]
  vacant := by
    rintro _ ⟨⟩ _
    exact vacant

/-! ## The tables -/

structure Ledgered (store : MembershipStore) : Prop where
  streams : ∀ stream, StreamLedger (store.changesOf stream) (store.head stream)
  entries : ((store.changes.filter fun change => change.changeKind = .entered).map
    SegmentMembershipChange.entryId).Nodup

def Rebuilt (store : MembershipStore) : Prop :=
  ∀ stream, rebuild (store.changesOf stream) = Standing.ofHead (store.head stream)

variable {before after : MembershipStore}

theorem Rests.changesOf (rests : Rests before after)
    (stream : MembershipStream) : after.changesOf stream = before.changesOf stream := by
  rw [MembershipStore.changesOf, MembershipStore.changesOf, rests.changes]

theorem Rests.ledgered (rests : Rests before after)
    (ledgered : Ledgered before) : Ledgered after where
  streams stream := by
    rw [rests.changesOf, rests.head]
    exact ledgered.streams stream
  entries := by
    rw [rests.changes]
    exact ledgered.entries

theorem Rests.rebuilt (rests : Rests before after) (rebuilt : Rebuilt before) : Rebuilt after := by
  intro stream
  rw [rests.changesOf, rests.head]
  exact rebuilt stream

section Appends

section
variable (appends : Appends minted before after change head)
include appends

theorem Appends.changesOf (stream : MembershipStream) :
    after.changesOf stream =
      if head.stream = stream then before.changesOf stream ++ [change]
      else before.changesOf stream := by
  rw [MembershipStore.changesOf, appends.changes, filter_append]
  by_cases same : head.stream = stream
  · rw [if_pos same, filter_singleton, appends.stream, decide_eq_true same, cond_true]
    rfl
  · rw [if_neg same, filter_singleton, appends.stream, decide_eq_false same, cond_false, append_nil]
    rfl

theorem Appends.streamLedger (ledgered : Ledgered before) (stream : MembershipStream) :
    StreamLedger (after.changesOf stream) (after.head stream) := by
  rw [appends.changesOf, appends.head_eq]
  by_cases same : head.stream = stream
  · rw [if_pos same, if_pos same, ← same]
    exact (ledgered.streams head.stream).append appends.revision appends.advances appends.follows
  · rw [if_neg same, if_neg same]
    exact ledgered.streams stream

/-- An entry that opens is new to the ledger. -/
theorem Appends.ledgered (unused : change.changeKind = .entered → before.unused minted = true)
    (ledgered : Ledgered before) : Ledgered after where
  streams := appends.streamLedger ledgered
  entries := by
    rw [appends.changes, filter_append, filter_singleton]
    by_cases kind : change.changeKind = .entered
    · rw [decide_eq_true kind, cond_true]
      refine Table.nodup_append ledgered.entries ?_
      intro known
      obtain ⟨other, mem, same⟩ := mem_map.mp known
      have fresh := all_eq_true.mp (unused kind) other (mem_filter.mp mem).1
      have follows := appends.follows
      rw [kind] at follows
      rw [follows.entered_minted] at same
      simp [same] at fresh
    · rw [decide_eq_false kind, cond_false, append_nil]
      exact ledgered.entries

theorem Appends.rebuilt (kept : change.changeKind = .refilterRequired → ∃ current,
      before.head head.stream = some current ∧ head.state = current.state ∧
        head.entryId = current.entryId) (rebuilt : Rebuilt before) : Rebuilt after := by
  intro stream
  rw [appends.changesOf, appends.head_eq]
  by_cases same : head.stream = stream
  · rw [if_pos same, if_pos same, rebuild, foldl_append]
    change (rebuild (before.changesOf stream)).apply change = _
    rw [rebuilt stream, ← same]
    exact appends.follows.rebuilt kept
  · rw [if_neg same, if_neg same]
    exact rebuilt stream

end

end Appends

section Refreshes

section
variable (refreshes : Refreshes before after head)
include refreshes

theorem Refreshes.head_eq (stream : MembershipStream) :
    after.head stream = if head.stream = stream then some head else before.head stream := by
  rw [MembershipStore.head, refreshes.heads]
  exact Table.lookup_put

theorem Refreshes.changesOf (stream : MembershipStream) :
    after.changesOf stream = before.changesOf stream := by
  rw [MembershipStore.changesOf, MembershipStore.changesOf, refreshes.changes]

theorem Refreshes.ledgered (ledgered : Ledgered before) :
    Ledgered after where
  streams stream := by
    rw [refreshes.changesOf, refreshes.head_eq]
    by_cases same : head.stream = stream
    · rw [if_pos same, ← same]
      exact (ledgered.streams head.stream).refresh refreshes.revision refreshes.outside
        refreshes.entryId refreshes.before_
    · rw [if_neg same]
      exact ledgered.streams stream
  entries := by
    rw [refreshes.changes]
    exact ledgered.entries

/-- A head that is outside has no entry, as long as its ledger rebuilds it. -/
theorem Refreshes.rebuilt (ledgered : Ledgered before) (rebuilt : Rebuilt before) :
    Rebuilt after := by
  intro stream
  rw [refreshes.changesOf, refreshes.head_eq, rebuilt stream]
  by_cases same : head.stream = stream
  · subst same
    rw [if_pos rfl]
    cases found : before.head head.stream with
    | none => simp [Standing.ofHead, Standing.initial, refreshes.outside, refreshes.entryId]
    | some old =>
        have outside := refreshes.before_ old found
        have vacant := (ledgered.streams head.stream).vacant old found outside
        simp [Standing.ofHead, refreshes.outside, refreshes.entryId, outside, vacant]
  · rw [if_neg same]

end

end Refreshes

/-! ## Runs -/

def putsAside (host : EvaluationHost) (store : MembershipStore) (input : CommitInput) : Bool :=
  (store.receipt input.commandId).isNone &&
    (store.identityHead input.stream.contactId).all (fun identity => identity.state = .active) &&
    (store.head input.stream).any (fun head =>
      head.state = .invalidated && head.membershipRevision = input.expectedMembershipRevision) &&
    store.outcomeOf host input.binding = some .noMatch

def calmStep (host : MembershipHost) (store : MembershipStore) : MembershipStep → Bool
  | .commit _ _ input =>
      match normalizeCommit input with
      | .ok normalized => !putsAside host.evaluation store normalized
      | .error _ => true
  | .transition .. | .elsewhere .. => true

def calmMemberships (host : MembershipHost) : System MembershipStore MembershipStep :=
  (memberships host).restrict fun store step => calmStep host store step = true

variable {store : MembershipStore}

theorem ledgered_fresh (fresh : store.Fresh) : Ledgered store where
  streams stream := by
    have changes : store.changesOf stream = [] := by
      rw [changesOf, fresh.changes]
      rfl
    have head : store.head stream = none := by
      rw [MembershipStore.head, fresh.heads]
      rfl
    rw [changes, head]
    refine ⟨rfl, ?_, rfl, by simp⟩
    intro front entered back split
    simp at split
  entries := by
    rw [fresh.changes]
    exact nodup_nil

theorem rebuilt_fresh (fresh : store.Fresh) : Rebuilt store := by
  intro stream
  rw [MembershipStore.changesOf, fresh.changes, MembershipStore.head, fresh.heads]
  rfl

theorem Invalidations.ledgered (run : Invalidations before after changes)
    (ledgered : Ledgered before) : Ledgered after := by
  induction run with
  | done => exact ledgered
  | more appends same kind _ ih =>
      refine ih ((appends "").ledgered ?_ ledgered)
      intro entered
      rcases kind with invalidated | ⟨refiltered, -⟩
      · rw [entered] at invalidated
        cases invalidated
      · rw [entered] at refiltered
        cases refiltered

theorem Invalidations.rebuilt (run : Invalidations before after changes)
    (rebuilt : Rebuilt before) : Rebuilt after := by
  induction run with
  | done => exact rebuilt
  | more appends same kind _ ih =>
      refine ih ((appends "").rebuilt ?_ rebuilt)
      intro refilter
      rcases kind with invalidated | ⟨-, kept⟩
      · rw [refilter] at invalidated
        cases invalidated
      · exact kept

variable {context : CommitContext} {answer : CommitResult}

theorem CommitMove.ledgered (move : CommitMove context before after answer)
    (unused : before.unused context.ids.minted = true) (ledgered : Ledgered before) :
    Ledgered after := by
  cases move with
  | rested rests _ => exact rests.ledgered ledgered
  | refreshed refreshes _ _ _ => exact refreshes.ledgered ledgered
  | appended _ _ _ appends _ _ _ _ => exact appends.ledgered (fun _ => unused) ledgered

theorem CommitMove.rebuilt (move : CommitMove context before after answer)
    (calm : ¬ (context.evaluation.outcome = .noMatch ∧ (∃ current, context.current = some current ∧
      current.state = .invalidated) ∧
      context.currentRevision = context.input.expectedMembershipRevision))
    (ledgered : Ledgered before) (rebuilt : Rebuilt before) : Rebuilt after := by
  cases move with
  | rested rests _ => exact rests.rebuilt rebuilt
  | refreshed refreshes _ _ _ => exact refreshes.rebuilt ledgered rebuilt
  | appended kind state entryId appends expected _ putAside _ =>
      refine appends.rebuilt ?_ rebuilt
      intro refilter
      obtain ⟨noMatch, aside⟩ := putAside refilter
      exact absurd ⟨noMatch, aside, expected⟩ calm

variable {contactId : String} {identity : IdentityHead}

theorem ensureIdentityHead_outcomeOf {host : EvaluationHost} (binding : EvaluationBinding)
    (ok : ensureIdentityHead store contactId = .ok (after, identity)) :
    after.outcomeOf host binding = store.outcomeOf host binding := by
  rcases ensureIdentityHead_ok ok with ⟨rfl, -⟩ | ⟨-, -, rfl⟩
  · rfl
  · rfl

theorem ensureIdentityHead_active (ok : ensureIdentityHead store contactId = .ok (after, identity))
    (active : identity.state = .active) :
    (store.identityHead contactId).all (fun identity => identity.state = .active) = true := by
  rcases ensureIdentityHead_ok ok with ⟨-, found⟩ | ⟨absent, -, -⟩
  · simp [found, active]
  · simp [absent]

variable {host : MembershipHost} {step : MembershipStep}

theorem ledgered_step (keyed : Keyed store) (ledgered : Ledgered store)
    (taken : store.next host step = some after) : Ledgered after := by
  cases next_outcome taken with
  | answered same => exact same ▸ ledgered
  | transitioned normal differs new =>
      have invalidated := new.invalidations differs keyed.identities keyed.heads
      exact invalidated.2.1.ledgered (invalidated.1.ledgered ledgered)
  | committed unused normal outcome =>
      cases outcome with
      | answered rests _ _ | refused middle identity _ _ rests _ _ => exact rests.ledgered ledgered
      | applied middle identity context _ ensured _ reads move _ =>
          have rests := (ensureIdentityHead_creates ensured).1.rests
          refine move.ledgered ?_ (rests.ledgered ledgered)
          rw [reads.sameIds, MembershipStore.unused, rests.changes]
          exact unused
  | elsewhere rests _ _ => exact rests.ledgered ledgered

theorem rebuilt_step (keyed : Keyed store) (ledgered : Ledgered store) (rebuilt : Rebuilt store)
    (calm : calmStep host store step = true) (taken : store.next host step = some after) :
    Rebuilt after := by
  cases next_outcome taken with
  | answered same => exact same ▸ rebuilt
  | transitioned normal differs new =>
      have invalidated := new.invalidations differs keyed.identities keyed.heads
      exact invalidated.2.1.rebuilt (invalidated.1.rebuilt rebuilt)
  | @committed ids now input normalized answer unused normal outcome =>
      cases outcome with
      | answered rests _ _ | refused middle identity _ _ rests _ _ => exact rests.rebuilt rebuilt
      | applied middle identity context unknown ensured active reads move _ =>
          have creates := (ensureIdentityHead_creates ensured).1
          refine move.rebuilt ?_ (creates.rests.ledgered ledgered) (creates.rests.rebuilt rebuilt)
          rintro ⟨noMatch, ⟨current, present, invalidated⟩, expected⟩
          have found : store.head normalized.stream = some current := by
            rw [← creates.rests.head, ← reads.current]
            exact present
          have same : current.membershipRevision = normalized.expectedMembershipRevision := by
            rw [← reads.sameInput, ← expected, CommitContext.currentRevision, present]
            rfl
          have judged : store.outcomeOf host.evaluation normalized.binding = some .noMatch := by
            rw [← ensureIdentityHead_outcomeOf _ ensured, reads.outcome, noMatch]
          simp [calmStep, normal, putsAside, unknown, ensureIdentityHead_active ensured active, found,
            invalidated, same, judged] at calm
  | elsewhere rests _ _ => exact rests.rebuilt rebuilt

structure KeyedLedger (store : MembershipStore) : Prop where
  keyed : Keyed store
  ledgered : Ledgered store
  rebuilt : Rebuilt store

theorem keyedLedger_of_reachable
    (reachable : (calmMemberships host).Reachable store) : KeyedLedger store := by
  refine reachable.invariant ?_ ?_
  · exact fun _ fresh => ⟨keyed_fresh fresh, ledgered_fresh fresh, rebuilt_fresh fresh⟩
  · rintro source label target ⟨keyed, ledgered, rebuilt⟩ ⟨calm, taken⟩
    exact ⟨keyed_step keyed taken, ledgered_step keyed ledgered taken,
      rebuilt_step keyed ledgered rebuilt calm taken⟩

/-- The changes of a stream are numbered from one to the revision of its head, no entry opens
while another one is open, and the fold of the changes is the head. -/
structure LedgerDetermines (store : MembershipStore) (stream : MembershipStream) : Prop where
  numbered : (store.changesOf stream).map SegmentMembershipChange.membershipRevision =
    List.range' 1 (store.revisionOf stream)
  alone : ∀ front entered back, store.changesOf stream = front ++ entered :: back →
    entered.changeKind = .entered → openEntries front = []
  rebuilds : ∀ head, store.head stream = some head → 1 ≤ head.membershipRevision →
    rebuild (store.changesOf stream) = ⟨head.state, head.entryId⟩

/-- In a run in which no commit finds an invalidated membership without a match, the ledger of a
stream determines its head, and no two entries that open are the same. -/
theorem ledger_determines_head {host : MembershipHost} {store : MembershipStore}
    (reachable : (calmMemberships host).Reachable store) :
    (∀ stream, LedgerDetermines store stream) ∧
      ((store.changes.filter fun change => change.changeKind = .entered).map
        SegmentMembershipChange.entryId).Nodup := by
  obtain ⟨-, ledgered, rebuilt⟩ := keyedLedger_of_reachable reachable
  refine ⟨fun stream => ?_, ledgered.entries⟩
  have ledger := ledgered.streams stream
  refine ⟨ledger.numbered, ledger.alone, ?_⟩
  intro head found _
  rw [rebuilt stream, found]
  rfl

/-! ## Runs on samples -/

def goldHost : MembershipHost where
  identityHash input := input.commandId
  evaluation := {
    hash := fun request => toString request.binding.snapshotVersion
    evaluate := fun _ _ facts => .ok (if facts = "GOLD" then .isMatch else .noMatch) }

def goldStore : MembershipStore where
  contacts := ["a", "b"]
  identityHeads := []
  lineage := []
  heads := []
  changes := []
  definitions := [⟨"loyal", 1, .published, "tier = GOLD"⟩]
  snapshots := [⟨"a", 1, "GOLD"⟩, ⟨"a", 2, "SILVER"⟩]
  evaluations := []
  evidence := []
  receipts := []
  quarantine := []

theorem goldStore_fresh : goldStore.Fresh :=
  ⟨nofun, .nil, rfl, rfl, rfl⟩

def goldCommit (commandId : String) (snapshotVersion expected : Nat) : MembershipStep :=
  .commit ⟨commandId, commandId, commandId, commandId⟩ 0
    ⟨⟨"a", "loyal"⟩, 1, snapshotVersion, expected, commandId, "correlation", none⟩

def goldTransition (commandId : String) (operation : IdentityOperation) (expected : Nat) :
    MembershipStep :=
  .transition ⟨commandId, fun stream => commandId ++ stream.contactId⟩
    ⟨commandId, operation, "a", "b", expected, "correlation"⟩

/-- The contact enters the segment, and leaves it on the next snapshot. -/
theorem ledger_determines_head_of_left :
    ∃ store, ((∀ stream, LedgerDetermines store stream) ∧
        ((store.changes.filter fun change => change.changeKind = .entered).map
          SegmentMembershipChange.entryId).Nodup) ∧
      store.revisionOf ⟨"a", "loyal"⟩ = 2 := by
  have ends : System.endsWith (System.guardNext (calmStep goldHost) (next goldHost))
      goldStore [goldCommit "1" 1 0] (goldCommit "2" 2 1)
      (fun _ after => after.revisionOf ⟨"a", "loyal"⟩ = 2) = true := by decide +kernel
  obtain ⟨before, after, reachable, last, revision⟩ :=
    System.Reachable.endsWithGuarded goldStore_fresh ends
  have arrived : (calmMemberships goldHost).Reachable after := reachable.step last
  exact ⟨after, ledger_determines_head arrived, of_decide_eq_true revision⟩

/-- The membership is invalidated by a merge and its reversal, and is found without a match then:
the head is outside, and the fold of the changes still invalidated. -/
theorem ledger_loses_head :
    ¬ ∀ host store, (memberships host).Reachable store →
      ∀ stream, LedgerDetermines store stream := by
  intro determines
  have ends : System.endsWith (next goldHost) goldStore
      [goldCommit "1" 1 0, goldTransition "2" .merge 0, goldTransition "3" .unmerge 1]
      (goldCommit "4" 2 3)
      (fun _ after =>
        (after.head ⟨"a", "loyal"⟩).map (fun head => (head.state, head.membershipRevision)) =
          some (.outside, 4) &&
        (rebuild (after.changesOf ⟨"a", "loyal"⟩)).state = .invalidated) = true := by
    decide +kernel
  obtain ⟨before, after, reachable, last, test⟩ := System.Reachable.endsWith goldStore_fresh ends
  simp only [Bool.and_eq_true, decide_eq_true_eq] at test
  obtain ⟨stored, folded⟩ := test
  obtain ⟨head, found, values⟩ := Option.map_eq_some_iff.mp stored
  obtain ⟨outside, revision⟩ := Prod.mk.inj values
  have arrived : (memberships goldHost).Reachable after := reachable.step last
  have same := (determines goldHost after arrived ⟨"a", "loyal"⟩).rebuilds head found (by omega)
  rw [same, outside] at folded
  cases folded

end DContact.Customer360

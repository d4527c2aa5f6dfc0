import DContact.Governance.PreferenceRepository

/-!
# Superseded preferences

The loader keeps the rows in force and then takes the latest of each scope. A row that has
been superseded is therefore out of sight as long as some later row of its scope is in
force, and it comes back when the later rows end before it does. A history in which every
new row outlasts the preference that it hides never brings one back; a row that does not
outlast it always does, at the instant of its end.
-/

namespace DContact.Governance

open Lib List Nat Table

def PreferenceRow.sameScope (left right : PreferenceRow) : Prop :=
  left.contactId = right.contactId ∧ left.scopeHash = right.scopeHash

theorem PreferenceRow.sameScope.symm {left right : PreferenceRow} (same : left.sameScope right) :
    right.sameScope left := ⟨same.1.symm, same.2.symm⟩

def PreferenceRow.inForceAt (row : PreferenceRow) (now : Instant) : Prop :=
  inForce row.effectiveFrom row.effectiveTo now = true

variable {row : PreferenceRow} {now : Instant}

theorem PreferenceRow.inForceAt_iff :
    row.inForceAt now ↔ row.effectiveFrom ≤ now ∧ ∀ ends ∈ row.effectiveTo, now < ends := by
  unfold PreferenceRow.inForceAt inForce
  cases row.effectiveTo <;> simp

def Versioned (rows : List PreferenceRow) : Prop :=
  ∀ left ∈ rows, ∀ right ∈ rows, left.sameScope right → left.version = right.version → left = right

structure Current (rows : List PreferenceRow) (now : Instant) (row : PreferenceRow) : Prop where
  mem : row ∈ rows
  live : row.inForceAt now
  isSet : row.mutationKind = .set
  last : ∀ other ∈ rows, other.sameScope row → other.inForceAt now → other.version ≤ row.version

variable {rows : List PreferenceRow} {contactId : String}

theorem mem_preferencesInForce : row ∈ preferencesInForce rows contactId now ↔
      row ∈ rows ∧ row.contactId = contactId ∧ row.inForceAt now := by
  rw [preferencesInForce, mem_insertionSort, mem_filter, Bool.and_eq_true, beq_iff_eq]
  rfl

theorem preferencesInForce_ordered (rows : List PreferenceRow) (contactId : String) (now : Instant) :
    (preferencesInForce rows contactId now).Pairwise
      fun left right => right.version ≤ left.version := by
  have total : Std.Total fun left right : PreferenceRow => right.version ≤ left.version :=
    ⟨fun left right => le_total right.version left.version⟩
  have transitive : IsTrans PreferenceRow fun left right => right.version ≤ left.version :=
    ⟨fun _ _ _ first second => le_trans second first⟩
  exact pairwise_insertionSort _ _

theorem mem_loadPreferences (versioned : Versioned rows) :
    row ∈ loadPreferences rows contactId now ↔ row.contactId = contactId ∧ Current rows now row := by
  rw [loadPreferences, mem_filter, beq_iff_eq]
  constructor
  · rintro ⟨first, isSet⟩
    obtain ⟨mem, ofContact, live⟩ := mem_preferencesInForce.mp (firsts_subset first)
    refine ⟨ofContact, mem, live, isSet, ?_⟩
    intro other present same otherLive
    have listed := mem_preferencesInForce.mpr ⟨present, same.1.trans ofContact, otherLive⟩
    rcases firsts_first (preferencesInForce_ordered rows contactId now) first listed same.2 with
      rfl | below
    · exact le_refl _
    · exact below
  · rintro ⟨ofContact, current⟩
    refine ⟨?_, current.isSet⟩
    have listed := mem_preferencesInForce.mpr ⟨current.mem, ofContact, current.live⟩
    obtain ⟨kept, first, sameHash⟩ : ∃ kept ∈ firsts PreferenceRow.scopeHash
        (preferencesInForce rows contactId now), kept.scopeHash = row.scopeHash :=
      exists_first listed
    obtain ⟨mem, keptContact, live⟩ := mem_preferencesInForce.mp (firsts_subset first)
    have same : kept.sameScope row := ⟨keptContact.trans ofContact.symm, sameHash⟩
    have above : row.version ≤ kept.version := by
      rcases firsts_first (preferencesInForce_ordered rows contactId now) first listed
        sameHash.symm with rfl | above
      · exact le_refl _
      · exact above
    have equal := le_antisymm (current.last kept mem same live) above
    rwa [versioned kept mem row current.mem same equal] at first

def Names (rows : List PreferenceRow) (later row : PreferenceRow) : Prop :=
  later ∈ rows ∧ row ∈ rows ∧ later.supersedesId = some row.id

/-- The later row supersedes the other, directly or through rows in between. -/
def Supersedes (rows : List PreferenceRow) : PreferenceRow → PreferenceRow → Prop :=
  Relation.TransGen (Names rows)

def StaysAway (rows : List PreferenceRow) : Prop :=
  ∀ now row, Current rows now row → ∀ later ∈ rows, later.sameScope row →
    row.version < later.version → now < later.effectiveFrom

def Outlasts (rows : List PreferenceRow) (row : PreferenceRow) : Prop :=
  ∀ ends, row.effectiveTo = some ends → ∀ now, ends ≤ now → ∀ other, Current rows now other →
    ¬ other.sameScope row

/-- The order in which the rows have been written. -/
structure History (rows : List PreferenceRow) : Prop where
  ids : (rows.map PreferenceRow.id).Nodup
  versioned : Versioned rows
  periods : ∀ row ∈ rows, ∀ ends, row.effectiveTo = some ends → row.effectiveFrom < ends
  links : ∀ later ∈ rows, ∀ id, later.supersedesId = some id →
    ∃ row ∈ rows, row.id = id ∧ row.sameScope later ∧ row.version < later.version

/-- A new row comes after all rows of its scope and names the latest of them. -/
structure NextOfScope (rows : List PreferenceRow) (row : PreferenceRow) : Prop where
  fresh : ∀ other ∈ rows, other.id ≠ row.id
  period : ∀ ends, row.effectiveTo = some ends → row.effectiveFrom < ends
  later : ∀ other ∈ rows, other.sameScope row → other.version < row.version
  supersedes : ∀ id, row.supersedesId = some id → ∃ other ∈ rows, other.id = id ∧ other.sameScope row

variable {other : PreferenceRow}

section Rows

theorem History.supersedes {later : PreferenceRow} (history : History rows)
    (isOver : Supersedes rows later row) : later.sameScope row ∧ row.version < later.version := by
  have step : ∀ {later row}, Names rows later row → later.sameScope row ∧ row.version < later.version := by
    rintro later row ⟨mem, present, names⟩
    obtain ⟨other, known, sameId, same, less⟩ := history.links later mem row.id names
    rw [eq_of_key_eq history.ids known present sameId] at same less
    exact ⟨same.symm, less⟩
  induction isOver with
  | single named => exact step named
  | tail _ named ih =>
      obtain ⟨same, less⟩ := step named
      exact ⟨⟨ih.1.1.trans same.1, ih.1.2.trans same.2⟩, lt_trans less ih.2⟩

theorem History.extend (history : History rows) (new : NextOfScope rows row) :
    History (rows ++ [row]) := by
  have versioned : Versioned (rows ++ [row]) := by
    intro left hleft right hright same equal
    rcases mem_append.mp hleft with leftOld | leftNew <;>
      rcases mem_append.mp hright with rightOld | rightNew
    · exact history.versioned left leftOld right rightOld same equal
    · rw [mem_singleton.mp rightNew] at same equal
      exact absurd equal (Nat.ne_of_lt (new.later left leftOld same))
    · rw [mem_singleton.mp leftNew] at same equal
      exact absurd equal.symm (Nat.ne_of_lt (new.later right rightOld same.symm))
    · rw [mem_singleton.mp leftNew, mem_singleton.mp rightNew]
  refine ⟨?_, versioned, ?_, ?_⟩
  · apply nodup_append history.ids
    intro known
    obtain ⟨other, mem, same⟩ := mem_map.mp known
    exact new.fresh other mem same
  · intro other mem
    rcases mem_snoc.mp mem with old | rfl
    · exact history.periods other old
    · exact new.period
  · intro later mem id names
    rcases mem_snoc.mp mem with old | rfl
    · obtain ⟨other, known, found⟩ := history.links later old id names
      exact ⟨other, mem_append_left _ known, found⟩
    · obtain ⟨other, known, sameId, same⟩ := new.supersedes id names
      exact ⟨other, mem_append_left _ known, sameId, same, new.later other known same⟩

theorem Current.extend (current : Current rows now other)
    (hidden : row.sameScope other → ¬ row.inForceAt now) : Current (rows ++ [row]) now other := by
  refine ⟨mem_append_left _ current.mem, current.live, current.isSet, ?_⟩
  intro third mem same live
  rcases mem_snoc.mp mem with old | rfl
  · exact current.last third old same live
  · exact absurd live (hidden same)

theorem Current.restrict
    (current : Current (rows ++ [row]) now other) (old : other ∈ rows) : Current rows now other :=
  ⟨old, current.live, current.isSet, fun third mem =>
    current.last third (mem_append_left _ mem)⟩

theorem StaysAway.extend_iff (stays : StaysAway rows) (new : NextOfScope rows row) :
    StaysAway (rows ++ [row]) ↔ Outlasts rows row := by
  constructor
  · intro after ends isEnd now past other current same
    have began := new.period ends isEnd
    have ended : ¬ row.inForceAt now := by
      intro live
      exact absurd ((PreferenceRow.inForceAt_iff.mp live).2 ends isEnd) (not_lt.mpr past)
    have begins := after now other (current.extend fun _ => ended) row
      (mem_append_right _ (mem_singleton.mpr rfl)) same.symm
      (new.later other current.mem same)
    exact absurd (began.trans_le past) (not_lt.mpr begins.le)
  · intro outlasts now other current later mem same less
    rcases mem_snoc.mp current.mem with old | rfl
    · have before := current.restrict old
      rcases mem_append.mp mem with laterOld | laterNew
      · exact stays now other before later laterOld same less
      · -- the new row is not in force, so it has not begun, or it has ended and hides nothing
        rw [mem_singleton.mp laterNew] at same less ⊢
        by_contra begun
        have notLive : ¬ row.inForceAt now := by
          intro live
          have above := current.last row (mem_append_right _ (mem_singleton.mpr rfl))
            same live
          exact absurd less (not_lt.mpr above)
        rw [PreferenceRow.inForceAt_iff] at notLive
        simp only [not_and, not_forall] at notLive
        obtain ⟨ends, isEnd, past⟩ := notLive (not_lt.mp begun)
        exact outlasts ends isEnd now (not_lt.mp past) other before same.symm
    · rcases mem_snoc.mp mem with laterOld | rfl
      · exact absurd less (not_lt.mpr (le_of_lt (new.later later laterOld same)))
      · exact absurd less (lt_irrefl _)

theorem StaysAway.outlasts_of_latest (history : History rows) (stays : StaysAway rows)
    {target : PreferenceRow} (mem : target ∈ rows) (same : target.sameScope row)
    (latest : ∀ other ∈ rows, other.sameScope row → other.version ≤ target.version)
    (sameEnd : row.effectiveTo = target.effectiveTo) : Outlasts rows row := by
  intro ends isEnd now past other current inScope
  rw [sameEnd] at isEnd
  have between : other.sameScope target := ⟨inScope.1.trans same.1.symm, inScope.2.trans same.2.symm⟩
  have different : other.version ≠ target.version := by
    intro equal
    have isTarget := history.versioned other current.mem target mem between equal
    rw [isTarget] at current
    exact absurd ((PreferenceRow.inForceAt_iff.mp current.live).2 ends isEnd) (not_lt.mpr past)
  have less := lt_of_le_of_ne (latest other current.mem inScope) different
  have begins := stays now other current target mem between.symm less
  exact absurd ((history.periods target mem ends isEnd).trans_le past) (not_lt.mpr begins.le)

end Rows

section Commands

variable {zones : ZoneDatabase} {digests : PreferenceDigests} {state after : PreferenceState}
  {result : PreferenceMutationResult} {ids : PreferenceIds} {scopeHash : String}

theorem latestInScope_some (found : latestInScope rows contactId scopeHash = some row) :
    row ∈ rows ∧ row.contactId = contactId ∧ row.scopeHash = scopeHash := by
  obtain ⟨mem, inScope⟩ := mem_filter.mp (latest_mem found)
  simp only [Bool.and_eq_true, beq_iff_eq] at inScope
  exact ⟨mem, inScope⟩

theorem le_latestInScope (mem : other ∈ rows) (ofContact : other.contactId = contactId)
    (inScope : other.scopeHash = scopeHash) :
    other.version ≤ ((latestInScope rows contactId scopeHash).map PreferenceRow.version).getD 0 := by
  have listed : other ∈ rows.filter
      fun row => row.contactId == contactId && row.scopeHash == scopeHash :=
    mem_filter.mpr ⟨mem, by simp [ofContact, inScope]⟩
  cases found : latestInScope rows contactId scopeHash with
  | none =>
      rw [latest_none.mp found] at listed
      cases listed
  | some row => exact le_latest found listed

variable {operation : PreferenceMutation} {idempotencyKey : String}

theorem recordPreference_ok {aggregateVersion : Nat}
    (ok : recordPreference digests state operation idempotencyKey aggregateVersion row ids =
      .ok (result, after)) :
    after.tables.preferences = state.tables.preferences ++ [row] ∧
      (∀ other ∈ state.tables.preferences, other.id ≠ row.id) ∧
      ∀ ends, row.effectiveTo = some ends → row.effectiveFrom < ends := by
  obtain ⟨rows, inserted, ok⟩ := bind_ok ok
  obtain ⟨_, fresh, inserted⟩ := bind_ok inserted
  obtain ⟨_, period, inserted⟩ := bind_ok inserted
  replace inserted := rest_ok (rest_ok (rest_ok inserted))
  cases inserted
  cases ok
  exact ⟨rfl, ensure_ok.mp fresh, ensure_ok.mp period⟩

theorem answered_ok {requestHash : String}
    {otherwise : Except PreferenceError (PreferenceMutationResult × PreferenceState)}
    (ok : state.answered operation idempotencyKey requestHash otherwise = .ok (result, after)) :
    after = state ∨ (state.receipt operation idempotencyKey = none ∧ otherwise = .ok (result, after)) := by
  unfold PreferenceState.answered at ok
  split at ok
  next =>
    split at ok
    next => cases ok
    cases ok
    exact .inl rfl
  next unanswered => exact .inr ⟨unanswered, ok⟩

/-- Setting a preference repeats an answer or continues the scope with a new row. -/
theorem append_ok {input : AppendPreferenceInput}
    (ok : PreferenceRepository.append zones digests state input ids = .ok (result, after)) :
    after = state ∨ ∃ checked row, checkAppend zones input = .ok checked ∧
      state.receipt .set input.idempotencyKey = none ∧
      after.tables.preferences = state.tables.preferences ++ [row] ∧
      NextOfScope state.tables.preferences row ∧ row.contactId = input.contactId ∧
      row.scopeHash = digests.scope checked.scope ∧ row.effectiveTo = checked.effectiveTo := by
  obtain ⟨checked, isChecked, ok⟩ := bind_ok ok
  rcases answered_ok ok with same | ⟨unanswered, ok⟩
  · exact .inl same
  · replace ok := rest_ok ok
    obtain ⟨actualVersion, -, ok⟩ := bind_ok ok
    replace ok := rest_ok ok
    obtain ⟨rows, fresh, period⟩ := recordPreference_ok ok
    refine .inr ⟨checked, _, isChecked, unanswered, rows, ⟨fresh, period, ?_, ?_⟩, rfl, rfl, rfl⟩
    · intro other mem same
      have below := le_latestInScope mem same.1 same.2
      exact lt_succ_of_le (le_trans below (le_max_left _ _))
    · intro id names
      obtain ⟨latest, found, sameId⟩ := Option.map_eq_some_iff.mp names
      obtain ⟨mem, inScope⟩ := latestInScope_some found
      exact ⟨latest, mem, sameId, inScope⟩

/-- Revoking a preference repeats an answer or continues the scope with a row that ends with
the latest one. -/
theorem revoke_ok {input : RevokePreferenceInput} (history : History state.tables.preferences)
    (ok : PreferenceRepository.revoke digests state input ids = .ok (result, after)) :
    after = state ∨ ∃ target row, after.tables.preferences = state.tables.preferences ++ [row] ∧
      NextOfScope state.tables.preferences row ∧ target ∈ state.tables.preferences ∧
      target.sameScope row ∧ row.effectiveTo = target.effectiveTo ∧
      ∀ other ∈ state.tables.preferences, other.sameScope row → other.version ≤ target.version := by
  obtain ⟨occurredAt, -, ok⟩ := bind_ok ok
  rcases answered_ok ok with same | ⟨-, ok⟩
  · exact .inl same
  · obtain ⟨target, isTarget, ok⟩ := bind_ok ok
    obtain ⟨actualVersion, -, ok⟩ := bind_ok ok
    obtain ⟨_, isLatest, ok⟩ := bind_ok ok
    obtain ⟨rows, fresh, period⟩ := recordPreference_ok ok
    have found := orFail_ok.mp isTarget
    have present := mem_of_find?_eq_some found
    have named := find?_some found
    simp only [Bool.and_eq_true, beq_iff_eq] at named
    obtain ⟨latest, isLatest, sameId⟩ := Option.map_eq_some_iff.mp (ensure_ok.mp isLatest)
    have same : latest = target :=
      eq_of_key_eq history.ids (latestInScope_some isLatest).1 present sameId
    have above : ∀ other ∈ state.tables.preferences, other.contactId = input.contactId →
        other.scopeHash = target.scopeHash → other.version ≤ target.version := by
      intro other mem ofContact inScope
      have below := le_latestInScope mem ofContact inScope
      rwa [isLatest, same] at below
    refine .inr ⟨target, _, rows, ⟨fresh, period, ?_, ?_⟩, present, ⟨named.2, rfl⟩, rfl, ?_⟩
    · intro other mem inScope
      exact lt_succ_of_le (above other mem inScope.1 inScope.2)
    · intro id names
      cases names
      exact ⟨target, present, rfl, named.2, rfl⟩
    · intro other mem inScope
      exact above other mem inScope.1 inScope.2

end Commands

inductive PreferenceAction where
  | append (input : AppendPreferenceInput) (ids : PreferenceIds)
  | revoke (input : RevokePreferenceInput) (ids : PreferenceIds)
  | change (tables : FactTables)

/-- The state after a command, which leaves nothing behind when it fails. -/
def PreferenceState.after (state : PreferenceState)
    (result : Except PreferenceError (PreferenceMutationResult × PreferenceState)) :
    PreferenceState :=
  match result with
  | .ok (_, after) => after
  | .error _ => state

/-- Contacts, heads and everything else may change between the commands. -/
def preferenceNext (zones : ZoneDatabase) (digests : PreferenceDigests) (state : PreferenceState) :
    PreferenceAction → Option PreferenceState
  | .append input ids => some (state.after (PreferenceRepository.append zones digests state input ids))
  | .revoke input ids => some (state.after (PreferenceRepository.revoke digests state input ids))
  | .change tables =>
      some { state with tables := { tables with preferences := state.tables.preferences } }

def preferences (zones : ZoneDatabase) (digests : PreferenceDigests) :
    System PreferenceState PreferenceAction :=
  .ofNext (fun state => state.tables.preferences = []) (preferenceNext zones digests)

/-- A new preference with an end has it at an instant from which on no preference of the scope
would be loaded. -/
def LastsLongEnough (zones : ZoneDatabase) (digests : PreferenceDigests) (state : PreferenceState) :
    PreferenceAction → Prop
  | .append input _ => state.receipt .set input.idempotencyKey = none →
      ∀ checked, checkAppend zones input = .ok checked →
      ∀ ends, checked.effectiveTo = some ends → ∀ now, ends ≤ now →
      ∀ row ∈ loadPreferences state.tables.preferences input.contactId now,
        row.scopeHash ≠ digests.scope checked.scope
  | _ => True

/-- The rows are in order and no superseded row comes back. -/
structure Orderly (state : PreferenceState) : Prop where
  history : History state.tables.preferences
  stays : StaysAway state.tables.preferences

section Runs

variable {zones : ZoneDatabase} {digests : PreferenceDigests} {state : PreferenceState}

theorem orderly_extend {after : PreferenceState} (orderly : Orderly state)
    (rows : after.tables.preferences = state.tables.preferences ++ [row])
    (new : NextOfScope state.tables.preferences row) (outlasts : Outlasts state.tables.preferences row) :
    Orderly after := by
  constructor
  · rw [rows]
    exact orderly.history.extend new
  · rw [rows]
    exact (orderly.stays.extend_iff new).mpr outlasts

theorem orderly_append {input : AppendPreferenceInput} {ids : PreferenceIds} (orderly : Orderly state)
    (lasts : LastsLongEnough zones digests state (.append input ids)) :
    Orderly (state.after (PreferenceRepository.append zones digests state input ids)) := by
  unfold PreferenceState.after
  split
  next result after ok =>
    rcases append_ok ok with rfl | ⟨checked, row, isChecked, unanswered, rows, new, ofContact, inScope,
      sameEnd⟩
    · exact orderly
    · refine orderly_extend orderly rows new ?_
      intro ends isEnd now past other current same
      have loaded := (mem_loadPreferences orderly.history.versioned).mpr ⟨rfl, current⟩
      rw [same.1, ofContact] at loaded
      exact lasts unanswered checked isChecked ends (sameEnd ▸ isEnd) now past other loaded
        (same.2.trans inScope)
  next => exact orderly

theorem orderly_revoke {input : RevokePreferenceInput} {ids : PreferenceIds} (orderly : Orderly state) :
    Orderly (state.after (PreferenceRepository.revoke digests state input ids)) := by
  unfold PreferenceState.after
  split
  next result after ok =>
    rcases revoke_ok orderly.history ok with rfl | ⟨target, row, rows, new, present, same, sameEnd,
      latest⟩
    · exact orderly
    · exact orderly_extend orderly rows new
        (orderly.stays.outlasts_of_latest orderly.history present same latest sameEnd)
  next => exact orderly

theorem orderly_reachable
    (reachable : ((preferences zones digests).restrict (LastsLongEnough zones digests)).Reachable
      state) : Orderly state := by
  refine reachable.invariant ?_ ?_
  · intro start initial
    have empty : start.tables.preferences = [] := initial
    constructor
    · rw [empty]
      exact ⟨nodup_nil, by simp [Versioned], by simp, by simp⟩
    · rw [empty]
      intro now row current
      exact absurd current.mem (by simp)
  · rintro source action target before ⟨lasts, taken⟩
    cases action with
    | append input ids =>
        cases taken
        exact orderly_append before lasts
    | revoke input ids =>
        cases taken
        exact orderly_revoke before
    | change tables =>
        cases taken
        exact ⟨before.history, before.stays⟩

/-- In every history of preferences that last long enough, a row that is loaded has not been
superseded by a row that has begun. -/
theorem superseded_stay_away
    (reachable : ((preferences zones digests).restrict (LastsLongEnough zones digests)).Reachable
      state) {contactId : String} {now : Instant} {row later : PreferenceRow}
    (loaded : row ∈ loadPreferences state.tables.preferences contactId now)
    (supersedes : Supersedes state.tables.preferences later row) : now < later.effectiveFrom := by
  have orderly := orderly_reachable reachable
  obtain ⟨same, less⟩ := orderly.history.supersedes supersedes
  have mem : later ∈ state.tables.preferences := by
    obtain ⟨next, named, -⟩ := Relation.TransGen.head'_iff.mp supersedes
    exact named.1
  have current := ((mem_loadPreferences orderly.history.versioned).mp loaded).2
  exact orderly.stays now row current later mem same less

end Runs

def samplePreferenceDigests : PreferenceDigests where
  scope := fun scope => scope.purpose.getD "every purpose"
  append := AppendPreferenceInput.idempotencyKey
  revoke := RevokePreferenceInput.idempotencyKey
  state := fun _ row => row.id

def noZones : ZoneDatabase := fun _ => none

def contactOnly : PreferenceState := ⟨{ FactTables.empty with contacts := ["contact"] }, []⟩

/-- A preference for every purpose and channel, from one instant to another. -/
def setPreference (name : String) (expectedVersion : Int) (decision : PreferenceDecision)
    (effectiveFrom : Instant) (effectiveTo : Option Instant) : PreferenceAction :=
  .append
    { tenantId := "tenant"
      contactId := "contact"
      identityId := none
      seriesId := none
      channel := none
      purpose := none
      contactKind := none
      decision := decision
      timezone := none
      preferredWindows := .arr []
      sourceKind := .customer
      sourceVersion := none
      occurredAt := some effectiveFrom
      effectiveFrom := some effectiveFrom
      effectiveTo := effectiveTo.map some
      evidenceRef := "call"
      actorClass := "CUSTOMER"
      actorRef := "contact"
      idempotencyKey := name
      expectedVersion := expectedVersion
      correlationId := name }
    ⟨"series", name ++ "-mutation", name, name ++ "-event"⟩

def revokePreference (name target : String) (expectedVersion : Int) (occurredAt : Instant) :
    PreferenceAction :=
  .revoke
    { tenantId := "tenant"
      contactId := "contact"
      preferenceId := target
      sourceKind := none
      sourceVersion := none
      occurredAt := some occurredAt
      evidenceRef := "call"
      actorClass := "CUSTOMER"
      actorRef := "contact"
      idempotencyKey := name
      expectedVersion := expectedVersion
      correlationId := name }
    ⟨"series", name ++ "-mutation", name, name ++ "-event"⟩

def replacedBeforeItEnds : PreferenceState :=
  let first := preferenceNext noZones samplePreferenceDigests contactOnly
    (setPreference "first" 0 .allow 0 (some 100))
  (first.bind fun state => preferenceNext noZones samplePreferenceDigests state
    (setPreference "second" 1 .block 10 none)).getD contactOnly

theorem replaced_reachable :
    ((preferences noZones samplePreferenceDigests).restrict
      (LastsLongEnough noZones samplePreferenceDigests)).Reachable replacedBeforeItEnds := by
  have start : ((preferences noZones samplePreferenceDigests).restrict
      (LastsLongEnough noZones samplePreferenceDigests)).Reachable contactOnly := .of_init rfl
  have first := start.step (show ((preferences noZones samplePreferenceDigests).restrict
    (LastsLongEnough noZones samplePreferenceDigests)).step contactOnly
      (setPreference "first" 0 .allow 0 (some 100)) _ from
    ⟨fun _ _ _ _ _ _ _ row loaded => absurd loaded not_mem_nil, rfl⟩)
  refine first.step (show ((preferences noZones samplePreferenceDigests).restrict
    (LastsLongEnough noZones samplePreferenceDigests)).step _
      (setPreference "second" 1 .block 10 none) _ from ⟨?_, rfl⟩)
  intro _ checked isChecked ends isEnd
  cases isChecked
  cases isEnd

/-- The first preference is loaded while the second has not begun. -/
theorem replaced_preference_stays_away :
    ∃ row later, row ∈ loadPreferences replacedBeforeItEnds.tables.preferences "contact" 5 ∧
      Supersedes replacedBeforeItEnds.tables.preferences later row ∧ 5 < later.effectiveFrom := by
  have found : ∃ row ∈ loadPreferences replacedBeforeItEnds.tables.preferences "contact" 5,
      row ∈ replacedBeforeItEnds.tables.preferences ∧
      ∃ later ∈ replacedBeforeItEnds.tables.preferences, later.supersedesId = some row.id := by
    decide +kernel
  obtain ⟨row, loaded, present, later, mem, names⟩ := found
  have supersedes : Supersedes replacedBeforeItEnds.tables.preferences later row :=
    .single ⟨mem, present, names⟩
  exact ⟨row, later, loaded, supersedes, superseded_stay_away replaced_reachable loaded supersedes⟩

/-- The first preference comes back when the revocation of the second has run out. -/
theorem preference_resurfaces_after_revocation :
    ¬ ∀ (zones : ZoneDatabase) (digests : PreferenceDigests) (state : PreferenceState),
      (preferences zones digests).Reachable state →
      ∀ (contactId : String) (now : Instant) (row later : PreferenceRow),
        row ∈ loadPreferences state.tables.preferences contactId now →
        Supersedes state.tables.preferences later row → now < later.effectiveFrom := by
  intro away
  have ends : System.endsWith (preferenceNext noZones samplePreferenceDigests) contactOnly
      [setPreference "first" 0 .allow 0 none, setPreference "second" 1 .block 10 (some 100)]
      (revokePreference "third" "second" 2 50) (fun _ after =>
        decide (loadPreferences after.tables.preferences "contact" 60 = [] ∧
          ∃ row ∈ loadPreferences after.tables.preferences "contact" 150,
            row ∈ after.tables.preferences ∧ ∃ later ∈ after.tables.preferences,
              later.supersedesId = some row.id ∧ later.effectiveFrom ≤ 150)) = true := by
    decide +kernel
  have initial : (preferences noZones samplePreferenceDigests).init contactOnly := rfl
  obtain ⟨before, after, reachable, taken, found⟩ := System.Reachable.endsWith initial ends
  obtain ⟨-, row, loaded, present, later, mem, names, begun⟩ := of_decide_eq_true found
  have begins := away noZones samplePreferenceDigests after
    (System.Reachable.step reachable taken) "contact" 150 row later loaded
    (.single ⟨mem, present, names⟩)
  exact absurd begins (not_lt.mpr begun)

end DContact.Governance

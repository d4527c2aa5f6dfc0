import DContact.Governance.PolicyScope

/-!
# The resolution of a scope

Two keys of equal specificity are ambiguous exactly when some request matches both.
So heads with distinct keys, none ambiguous with another, have at most one winner for
any request, and the winner does not depend on the order in which the heads are read.
-/

namespace DContact.Governance

open Lib List

def commonRequest (left right : ScopeDimensions) : RequestScope where
  channel := left .channel <|> right .channel
  contactKind := left .contactKind <|> right .contactKind
  purpose := left .purpose <|> right .purpose
  sourceType := left .sourceType <|> right .sourceType

theorem commonRequest_dimension (left right : ScopeDimensions) (dimension : ScopeDimension) :
    (commonRequest left right).dimension dimension = (left dimension <|> right dimension) := by
  cases dimension <;> rfl

theorem commonRequest_matches_left (left right : ScopeDimensions) :
    matchesDimensions left (commonRequest left right) = true := by
  simp only [matchesDimensions, all_eq_true, Bool.or_eq_true, beq_iff_eq]
  intro dimension _
  rw [commonRequest_dimension]
  cases left dimension with
  | none => exact .inl rfl
  | some bound => exact .inr rfl

variable {left right : ScopeDimensions}

theorem commonRequest_matches_right (agreeing : agree left right = true) :
    matchesDimensions right (commonRequest left right) = true := by
  simp only [agree, matchesDimensions, all_eq_true, Bool.or_eq_true, beq_iff_eq] at agreeing ⊢
  intro dimension mem
  rw [commonRequest_dimension]
  rcases agreeing dimension mem with (leftOpen | rightOpen) | same
  · rw [Option.isNone_iff_eq_none.mp leftOpen]
    exact .inr rfl
  · exact .inl rightOpen
  · rw [same]
    cases right dimension with
    | none => exact .inl rfl
    | some bound => exact .inr rfl

/-- Keys agree where both bind exactly when some request matches both. -/
theorem agree_iff_matches :
    agree left right = true ↔
      ∃ request, matchesDimensions left request = true ∧
        matchesDimensions right request = true := by
  constructor
  · intro agreeing
    exact ⟨commonRequest left right, commonRequest_matches_left left right,
      commonRequest_matches_right agreeing⟩
  · rintro ⟨request, leftMatches, rightMatches⟩
    exact agree_of_matches leftMatches rightMatches

variable {scopeKey : String} {request : RequestScope}

theorem cg4PolicyScopeMatches_ok_iff {answer : Bool} :
    cg4PolicyScopeMatches scopeKey request = .ok answer ↔
      ∃ dimensions, parseCg4PolicyScopeKey scopeKey = .ok dimensions ∧
        matchesDimensions dimensions request = answer := by
  simp only [cg4PolicyScopeMatches, bind_ok_iff, Except.ok.injEq]

theorem cg4PolicyScopeSpecificity_ok_iff {bound : Nat} :
    cg4PolicyScopeSpecificity scopeKey = .ok bound ↔
      ∃ dimensions, parseCg4PolicyScopeKey scopeKey = .ok dimensions ∧
        specificity dimensions = bound := by
  simp only [cg4PolicyScopeSpecificity, bind_ok_iff, Except.ok.injEq]

theorem cg4PolicyScopesAmbiguous_iff {left right : String} :
    cg4PolicyScopesAmbiguous left right = .ok true ↔
      left ≠ right ∧
        (∃ bound, cg4PolicyScopeSpecificity left = .ok bound ∧
          cg4PolicyScopeSpecificity right = .ok bound) ∧
        ∃ request, cg4PolicyScopeMatches left request = .ok true ∧
          cg4PolicyScopeMatches right request = .ok true := by
  constructor
  · intro ambiguous
    unfold cg4PolicyScopesAmbiguous at ambiguous
    split at ambiguous
    · cases ambiguous
    next different =>
      obtain ⟨a, leftParsed, ambiguous⟩ := bind_ok ambiguous
      obtain ⟨b, rightParsed, ambiguous⟩ := bind_ok ambiguous
      simp only [Except.ok.injEq, Bool.and_eq_true, beq_iff_eq] at ambiguous
      obtain ⟨request, leftMatches, rightMatches⟩ := agree_iff_matches.mp ambiguous.2
      exact ⟨different,
        ⟨specificity b, cg4PolicyScopeSpecificity_ok_iff.mpr ⟨a, leftParsed, ambiguous.1⟩,
          cg4PolicyScopeSpecificity_ok_iff.mpr ⟨b, rightParsed, rfl⟩⟩,
        request, cg4PolicyScopeMatches_ok_iff.mpr ⟨a, leftParsed, leftMatches⟩,
        cg4PolicyScopeMatches_ok_iff.mpr ⟨b, rightParsed, rightMatches⟩⟩
  · rintro ⟨different, ⟨bound, leftBound, rightBound⟩, request, leftMatches, rightMatches⟩
    obtain ⟨a, leftParsed, leftMatches⟩ := cg4PolicyScopeMatches_ok_iff.mp leftMatches
    obtain ⟨b, rightParsed, rightMatches⟩ := cg4PolicyScopeMatches_ok_iff.mp rightMatches
    simp only [cg4PolicyScopeSpecificity, leftParsed, rightParsed, bind, Except.bind,
      Except.ok.injEq] at leftBound rightBound
    simp only [cg4PolicyScopesAmbiguous, if_neg different, leftParsed, rightParsed, bind,
      Except.bind, agree_of_matches leftMatches rightMatches, Bool.and_true, leftBound,
      rightBound, beq_self_eq_true]

/-- Ambiguity is symmetric. -/
theorem ambiguous_symm {left right : String}
    (ambiguous : cg4PolicyScopesAmbiguous left right = .ok true) :
    cg4PolicyScopesAmbiguous right left = .ok true := by
  rw [cg4PolicyScopesAmbiguous_iff] at ambiguous ⊢
  obtain ⟨different, ⟨bound, ofLeft, ofRight⟩, request, onLeft, onRight⟩ := ambiguous
  exact ⟨different.symm, ⟨bound, ofRight, ofLeft⟩, request, onRight, onLeft⟩

variable {α : Type} {holds : α → Except ContentError Bool} {items : List α}

/-- Where every check succeeds, the kept items are an ordinary filter. -/
theorem filterOk_eq_filter {keeps : α → Bool}
    (succeeds : ∀ item ∈ items, holds item = .ok (keeps item)) :
    filterOk holds items = .ok (items.filter keeps) := by
  induction items with
  | nil => rfl
  | cons first rest ih =>
      have tail := ih fun item mem => succeeds item (mem_cons_of_mem first mem)
      simp only [filterOk, succeeds first mem_cons_self, tail, bind, Except.bind, filter_cons]

/-- Where checks fail in one way only, one failing check fails the whole. -/
theorem filterOk_eq_error {failure : ContentError}
    (alike : ∀ item ∈ items, ∀ error, holds item = .error error → error = failure)
    (fails : ∃ item ∈ items, ∃ error, holds item = .error error) :
    filterOk holds items = .error failure := by
  induction items with
  | nil =>
      obtain ⟨item, mem, -⟩ := fails
      cases mem
  | cons first rest ih =>
      cases checked : holds first with
      | error error =>
          rw [alike first mem_cons_self error checked] at checked
          simp only [filterOk, checked, bind, Except.bind]
      | ok passes =>
          have failsLater : ∃ item ∈ rest, ∃ error, holds item = .error error := by
            obtain ⟨item, mem, error, failed⟩ := fails
            rcases mem_cons.mp mem with rfl | later
            · rw [checked] at failed
              cases failed
            · exact ⟨item, later, error, failed⟩
          have tail := ih (fun item mem => alike item (mem_cons_of_mem first mem)) failsLater
          simp only [filterOk, checked, tail, bind, Except.bind]

theorem readAll_eq_map {β : Type} {read : α → Except ContentError β} {value : α → β}
    (succeeds : ∀ item ∈ items, read item = .ok (value item)) :
    readAll read items = .ok (items.map value) := by
  induction items with
  | nil => rfl
  | cons first rest ih =>
      have tail := ih fun item mem => succeeds item (mem_cons_of_mem first mem)
      simp only [readAll, succeeds first mem_cons_self, tail, bind, Except.bind, map_cons]

/-- What a canonical key binds; for any other key, nothing. -/
def boundBy (scopeKey : String) : ScopeDimensions :=
  match parseCg4PolicyScopeKey scopeKey with
  | .ok dimensions => dimensions
  | .error _ => fun _ => none

def matchingHeads (heads : List ScopeHeadFacts) (request : RequestScope) : List ScopeHeadFacts :=
  heads.filter fun head => matchesDimensions (boundBy head.scopeKey) request

def bestSpecificity (heads : List ScopeHeadFacts) : Nat :=
  (heads.map fun head => specificity (boundBy head.scopeKey)).foldr max 0

def winningHeads (heads : List ScopeHeadFacts) (request : RequestScope) : List ScopeHeadFacts :=
  (matchingHeads heads request).filter fun head =>
    specificity (boundBy head.scopeKey) == bestSpecificity (matchingHeads heads request)

/-- What a request is resolved to by its winners. -/
def resolveWinners (winners : List ScopeHeadFacts) (now : Instant) (cacheTtlSeconds : Nat) :
    Except ContentError PolicyResolution :=
  match winners with
  | [] => .ok .unconfigured
  | [head] => .ok (resolveHead head now cacheTtlSeconds)
  | first :: second :: _ => resolveTie first second

def KeysCanonical (heads : List ScopeHeadFacts) : Prop :=
  ∀ head ∈ heads, parseCg4PolicyScopeKey head.scopeKey = .ok (boundBy head.scopeKey)

/-- The one way in which a key is refused. -/
def notCanonicalError : ContentError := ⟨.scopeInvalid, "scopeKey ไม่ใช่ canonical form"⟩

variable {error : ContentError}

theorem scopePart_error {expected : ScopeDimension} {part : String}
    (failed : scopePart expected part = .error error) : error = notCanonicalError := by
  unfold scopePart at failed
  split at failed
  · exact (Except.error.inj failed).symm
  · split at failed
    · exact (Except.error.inj failed).symm
    · cases failed

theorem parseCg4PolicyScopeKey_error (failed : parseCg4PolicyScopeKey scopeKey = .error error) :
    error = notCanonicalError := by
  unfold parseCg4PolicyScopeKey at failed
  split at failed
  · rcases bind_error failed with refused | ⟨_, _, failed⟩
    · exact scopePart_error refused
    rcases bind_error failed with refused | ⟨_, _, failed⟩
    · exact scopePart_error refused
    rcases bind_error failed with refused | ⟨_, _, failed⟩
    · exact scopePart_error refused
    rcases bind_error failed with refused | ⟨_, _, failed⟩
    · exact scopePart_error refused
    · cases failed
  · exact (Except.error.inj failed).symm

theorem resolve_canonical {heads : List ScopeHeadFacts} {now : Instant} {cacheTtlSeconds : Nat}
    (canonical : KeysCanonical heads) :
    resolveCg4ActivePolicy heads request now cacheTtlSeconds =
      resolveWinners (winningHeads heads request) now cacheTtlSeconds := by
  have matching : filterOk (fun head => cg4PolicyScopeMatches head.scopeKey request) heads =
      .ok (matchingHeads heads request) :=
    filterOk_eq_filter fun head mem =>
      cg4PolicyScopeMatches_ok_iff.mpr ⟨_, canonical head mem, rfl⟩
  have bound : ∀ head ∈ matchingHeads heads request,
      cg4PolicyScopeSpecificity head.scopeKey = .ok (specificity (boundBy head.scopeKey)) :=
    fun head mem => cg4PolicyScopeSpecificity_ok_iff.mpr
      ⟨_, canonical head (mem_of_mem_filter mem), rfl⟩
  have winners : filterOk (fun head => do
      let own ← cg4PolicyScopeSpecificity head.scopeKey
      .ok (own == bestSpecificity (matchingHeads heads request))) (matchingHeads heads request) =
        .ok (winningHeads heads request) := by
    refine filterOk_eq_filter fun head mem => ?_
    rw [bound head mem]
    rfl
  simp only [resolveCg4ActivePolicy, matching, readAll_eq_map bound, bind, Except.bind]
  simp only [bind, Except.bind, bestSpecificity] at winners
  rw [winners]
  rfl

theorem resolve_not_canonical {heads : List ScopeHeadFacts} {now : Instant} {cacheTtlSeconds : Nat}
    (broken : ¬ KeysCanonical heads) :
    resolveCg4ActivePolicy heads request now cacheTtlSeconds = .error notCanonicalError := by
  have fails : ∃ head ∈ heads, ∃ error, cg4PolicyScopeMatches head.scopeKey request =
      .error error := by
    simp only [KeysCanonical, not_forall] at broken
    obtain ⟨head, mem, unparsed⟩ := broken
    cases parsed : parseCg4PolicyScopeKey head.scopeKey with
    | ok dimensions =>
        exfalso
        apply unparsed
        simp only [boundBy, parsed]
    | error error =>
        refine ⟨head, mem, error, ?_⟩
        simp only [cg4PolicyScopeMatches, parsed, bind, Except.bind]
  have alike : ∀ head ∈ heads, ∀ error,
      cg4PolicyScopeMatches head.scopeKey request = .error error → error = notCanonicalError := by
    intro head _ error failed
    rcases bind_error failed with refused | ⟨_, _, failed⟩
    · exact parseCg4PolicyScopeKey_error refused
    · cases failed
  simp only [resolveCg4ActivePolicy, filterOk_eq_error alike fails, bind, Except.bind]

section
variable {heads other : List ScopeHeadFacts} {request : RequestScope} {now : Instant}
  {cacheTtlSeconds : Nat}

section
variable (distinct : (heads.map ScopeHeadFacts.scopeKey).Nodup)
  (unambiguous : ∀ left ∈ heads, ∀ right ∈ heads,
    cg4PolicyScopesAmbiguous left.scopeKey right.scopeKey ≠ .ok true)
include distinct unambiguous

variable (request) in
theorem winningHeads_length_le (canonical : KeysCanonical heads) :
    (winningHeads heads request).length ≤ 1 := by
  have order : (winningHeads heads request).Sublist heads :=
    filter_sublist.trans filter_sublist
  match winners : winningHeads heads request with
  | [] => exact Nat.zero_le 1
  | [_] => exact Nat.le_refl 1
  | left :: right :: rest =>
      exfalso
      have keys := (order.map ScopeHeadFacts.scopeKey).nodup distinct
      rw [winners] at keys
      simp only [map_cons, nodup_cons, mem_cons, not_or] at keys
      have won : ∀ head ∈ left :: right :: rest, head ∈ heads ∧
          cg4PolicyScopeMatches head.scopeKey request = .ok true ∧
          cg4PolicyScopeSpecificity head.scopeKey =
            .ok (bestSpecificity (matchingHeads heads request)) := by
        intro head mem
        rw [← winners] at mem
        obtain ⟨matched, best⟩ := mem_filter.mp mem
        obtain ⟨listed, matched⟩ := mem_filter.mp matched
        exact ⟨listed, cg4PolicyScopeMatches_ok_iff.mpr ⟨_, canonical head listed, matched⟩,
          cg4PolicyScopeSpecificity_ok_iff.mpr ⟨_, canonical head listed, beq_iff_eq.mp best⟩⟩
      obtain ⟨leftListed, leftMatches, leftBest⟩ := won left mem_cons_self
      obtain ⟨rightListed, rightMatches, rightBest⟩ :=
        won right (mem_cons_of_mem left mem_cons_self)
      exact unambiguous left leftListed right rightListed (cg4PolicyScopesAmbiguous_iff.mpr
        ⟨keys.1.1, ⟨_, leftBest, rightBest⟩, request, leftMatches, rightMatches⟩)

theorem resolve_ne_ambiguous {detail : String} :
    resolveCg4ActivePolicy heads request now cacheTtlSeconds ≠
      .ok (.failClosed .governanceStateUnavailable detail) := by
  by_cases canonical : KeysCanonical heads
  · rw [resolve_canonical canonical]
    have one := winningHeads_length_le request distinct unambiguous canonical
    match winningHeads heads request, one with
    | [], _ => exact nofun
    | [head], _ =>
        simp only [resolveWinners, resolveHead]
        split
        · exact nofun
        · split
          · exact nofun
          · split <;> exact nofun
  · rw [resolve_not_canonical canonical]
    exact nofun

end

variable (request) in
theorem winningHeads_perm (order : heads.Perm other) :
    (winningHeads heads request).Perm (winningHeads other request) := by
  have matching : (matchingHeads heads request).Perm (matchingHeads other request) :=
    order.filter _
  have best : bestSpecificity (matchingHeads heads request) =
      bestSpecificity (matchingHeads other request) := (matching.map _).foldr_eq 0
  unfold winningHeads
  rw [best]
  exact matching.filter _

theorem KeysCanonical.perm (order : heads.Perm other) (canonical : KeysCanonical heads) :
    KeysCanonical other :=
  fun head mem => canonical head (order.mem_iff.mpr mem)

/-- At most one winner is resolved alike in any order of the heads. -/
theorem resolve_perm (order : heads.Perm other)
    (distinct : (heads.map ScopeHeadFacts.scopeKey).Nodup)
    (unambiguous : ∀ left ∈ heads, ∀ right ∈ heads,
      cg4PolicyScopesAmbiguous left.scopeKey right.scopeKey ≠ .ok true) :
    resolveCg4ActivePolicy other request now cacheTtlSeconds =
      resolveCg4ActivePolicy heads request now cacheTtlSeconds := by
  by_cases canonical : KeysCanonical heads
  · rw [resolve_canonical canonical, resolve_canonical (canonical.perm order)]
    have one := winningHeads_length_le request distinct unambiguous canonical
    have same := winningHeads_perm request order
    match winningHeads heads request, one, same with
    | [], _, same => rw [nil_perm.mp same]
    | [head], _, same => rw [singleton_perm.mp same]
  · have brokenToo : ¬ KeysCanonical other := fun holds => canonical (holds.perm order.symm)
    rw [resolve_not_canonical canonical, resolve_not_canonical brokenToo]

/-- Ambiguity means that some request matches both of two equally specific keys; without
it a request is never resolved as ambiguous, and alike in any order of the heads. -/
theorem scope_resolution_is_order_free
    (distinct : (heads.map ScopeHeadFacts.scopeKey).Nodup)
    (unambiguous : ∀ left ∈ heads, ∀ right ∈ heads,
      cg4PolicyScopesAmbiguous left.scopeKey right.scopeKey ≠ .ok true) :
    (∀ left right : String, cg4PolicyScopesAmbiguous left right = .ok true ↔
      left ≠ right ∧
        (∃ bound, cg4PolicyScopeSpecificity left = .ok bound ∧
          cg4PolicyScopeSpecificity right = .ok bound) ∧
        ∃ request, cg4PolicyScopeMatches left request = .ok true ∧
          cg4PolicyScopeMatches right request = .ok true) ∧
      ∀ request now cacheTtlSeconds,
        (∀ detail, resolveCg4ActivePolicy heads request now cacheTtlSeconds ≠
          .ok (.failClosed .governanceStateUnavailable detail)) ∧
        ∀ other, heads.Perm other →
          resolveCg4ActivePolicy other request now cacheTtlSeconds =
            resolveCg4ActivePolicy heads request now cacheTtlSeconds :=
  ⟨fun _ _ => cg4PolicyScopesAmbiguous_iff, fun _ _ _ =>
    ⟨fun _ => resolve_ne_ambiguous distinct unambiguous,
      fun _ order => resolve_perm order distinct unambiguous⟩⟩

end

def sampleHead (scopeKey : String) : ScopeHeadFacts where
  scopeKey := scopeKey
  policyId := "policy"
  policyVersionId := "policy:1"
  policyVersion := 1
  policyContentDigest := "content"
  schemaVersion := policySchemaVersion
  registryVersion := ruleRegistryVersion
  evaluatorVersion := evaluatorVersion
  headVersion := 1
  headDigest := "head"
  nextActivationAt := none

def sampleHeads : List ScopeHeadFacts :=
  ["channel=*|contactKind=*|purpose=*|sourceType=*",
    "channel=VOICE|contactKind=*|purpose=*|sourceType=*",
    "channel=VOICE|contactKind=*|purpose=MARKETING|sourceType=*"].map sampleHead

def sampleVoiceRequest : RequestScope := ⟨some "VOICE", none, some "MARKETING", none⟩

theorem scope_resolution_is_order_free_for_sample :
    resolveCg4ActivePolicy sampleHeads.reverse sampleVoiceRequest 0 60 =
      resolveCg4ActivePolicy sampleHeads sampleVoiceRequest 0 60 :=
  ((scope_resolution_is_order_free (by decide +kernel) (by decide +kernel)).2
    sampleVoiceRequest 0 60).2 _ (reverse_perm sampleHeads).symm

end DContact.Governance

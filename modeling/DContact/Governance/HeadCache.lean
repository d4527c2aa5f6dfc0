import DContact.Governance.PolicyScope

/-!
# Cached policy heads

A cached head is usable strictly before its `validUntil`, the earlier of its time to live and
its own next activation. The activations of other scopes that match do not bound it.
-/

namespace DContact.Governance

open Lib

/-- `validUntil` is the instant that the entry's text denotes, if it denotes one. -/
structure Cg4CachedHead where
  version : Nat
  digest : String
  validUntil : Option Instant
  nextActivationAt : Option Instant

inductive HeadUnusable where
  | miss
  | expired
  | malformed

def resolveCg4CachedHead (entry : Option Cg4CachedHead) (now : Instant) :
    Except HeadUnusable Cg4CachedHead :=
  match entry with
  | none => .error .miss
  | some entry =>
      match entry.validUntil with
      | none => .error .malformed
      | some validUntil => if now ≥ validUntil then .error .expired else .ok entry

def cg4HeadValidUntil (now : Instant) (ttlSeconds : Nat) (nextActivationAt : Option Instant) :
    Instant :=
  let ttlBound := now + ttlSeconds * 1000
  match nextActivationAt with
  | none => ttlBound
  | some next => min ttlBound next

/-- The entry that `setHead` writes. -/
def setHead (now : Instant) (headTtlSeconds version : Nat) (digest : String)
    (nextActivationAt : Option Instant) : Cg4CachedHead where
  version := version
  digest := digest
  validUntil := some (cg4HeadValidUntil now headTtlSeconds nextActivationAt)
  nextActivationAt := nextActivationAt

def Served (entry : Cg4CachedHead) (now : Instant) : Prop :=
  resolveCg4CachedHead (some entry) now = .ok entry

variable {written : Instant} {next : Option Instant}

theorem lt_validUntil_iff {now : Instant} {ttl : Nat} :
    now < cg4HeadValidUntil written ttl next ↔
      now < written + ttl * 1000 ∧ ∀ activation ∈ next, now < activation := by
  cases next with
  | none => simp [cg4HeadValidUntil]
  | some activation => simp [cg4HeadValidUntil]

theorem served_setHead {now : Instant} {ttl version : Nat} {digest : String} :
    Served (setHead written ttl version digest next) now ↔
      now < cg4HeadValidUntil written ttl next := by
  simp [Served, resolveCg4CachedHead, setHead]

variable {heads : List ScopeHeadFacts} {request : RequestScope} {now : Instant} {ttl : Nat}
  {head found : ScopeHeadFacts} {validUntil : Instant}

theorem resolveHead_resolved (resolved : resolveHead found now ttl = .resolved head validUntil) :
    found = head ∧ validUntil = cg4HeadValidUntil now ttl head.nextActivationAt ∧
      ∀ later, now ≤ later → later < validUntil →
        resolveHead head later ttl =
          .resolved head (cg4HeadValidUntil later ttl head.nextActivationAt) := by
  unfold resolveHead at resolved
  split at resolved
  next => cases resolved
  next supported =>
    dsimp only at resolved
    split at resolved
    next unscheduled =>
      cases resolved
      refine ⟨rfl, by rw [unscheduled]; rfl, fun later _ _ => ?_⟩
      rw [resolveHead, if_neg supported]
      simp only [unscheduled, cg4HeadValidUntil]
    next next scheduled =>
      split at resolved
      next => cases resolved
      next pending =>
        cases resolved
        refine ⟨rfl, by rw [scheduled]; rfl, fun later _ inside => ?_⟩
        rw [resolveHead, if_neg supported]
        have before : ¬ next ≤ later := Int.not_le.mpr (lt_of_lt_of_le inside (min_le_right _ _))
        simp only [scheduled, cg4HeadValidUntil, if_neg before]

/-- The winner does not depend on the instant. -/
theorem resolveCg4ActivePolicy_winner
    (resolved : resolveCg4ActivePolicy heads request now ttl = .ok (.resolved head validUntil)) :
    resolveHead head now ttl = .resolved head validUntil ∧
      ∀ later, resolveCg4ActivePolicy heads request later ttl = .ok (resolveHead head later ttl) := by
  unfold resolveCg4ActivePolicy at resolved ⊢
  simp only [bind_ok_iff] at resolved
  obtain ⟨matching, matches_, specificities, read, winners, won, resolved⟩ := resolved
  simp only [matches_, read, bind, Except.bind] at won ⊢
  simp only [won]
  split at resolved
  next => cases resolved
  next winner =>
    have own := Except.ok.inj resolved
    obtain ⟨rfl, -⟩ := resolveHead_resolved own
    exact ⟨own, fun _ => rfl⟩
  next first second _ =>
    obtain ⟨ambiguous, -, ⟨⟩⟩ := bind_ok resolved

/-- Until its `validUntil` the same heads resolve to the same head. A cached head is served
until its time to live is over or its own next activation is due. -/
theorem resolved_head_until_validUntil
    (resolved : resolveCg4ActivePolicy heads request now ttl = .ok (.resolved head validUntil)) :
    (∀ later, now ≤ later → later < validUntil →
      resolveCg4ActivePolicy heads request later ttl =
        .ok (.resolved head (cg4HeadValidUntil later ttl head.nextActivationAt))) ∧
    ∀ headTtl version digest later,
      Served (setHead now headTtl version digest head.nextActivationAt) later ↔
        later < now + headTtl * 1000 ∧ ∀ activation ∈ head.nextActivationAt, later < activation := by
  obtain ⟨own, always⟩ := resolveCg4ActivePolicy_winner resolved
  obtain ⟨-, -, kept⟩ := resolveHead_resolved own
  refine ⟨fun later from_ inside => ?_, fun headTtl version digest later => ?_⟩
  · rw [always, kept later from_ inside]
  · rw [served_setHead, lt_validUntil_iff]

/-- A head of the scope given, as the current evaluator supports it. -/
def plainHead (scopeKey : String) (nextActivationAt : Option Instant) : ScopeHeadFacts where
  scopeKey := scopeKey
  policyId := "policy"
  policyVersionId := "version"
  policyVersion := 1
  policyContentDigest := "content"
  schemaVersion := policySchemaVersion
  registryVersion := ruleRegistryVersion
  evaluatorVersion := evaluatorVersion
  headVersion := 1
  headDigest := "head"
  nextActivationAt := nextActivationAt

def lineHeads (lineActivation openActivation : Option Instant) : List ScopeHeadFacts :=
  [plainHead "channel=LINE|contactKind=*|purpose=*|sourceType=*" lineActivation,
    plainHead "channel=*|contactKind=*|purpose=*|sourceType=*" openActivation]

theorem lineHeads_until_activation :
    resolveCg4ActivePolicy (lineHeads (some 20000) none) ⟨some "LINE", none, none, none⟩ 15000 30 =
      .ok (.resolved (plainHead "channel=LINE|contactKind=*|purpose=*|sourceType=*" (some 20000))
        20000) := by
  have resolved : resolveCg4ActivePolicy (lineHeads (some 20000) none)
      ⟨some "LINE", none, none, none⟩ 0 30 = .ok (.resolved _ 20000) := rfl
  exact (resolved_head_until_validUntil resolved).1 15000 (by decide) (by decide)

/-- The head of the channel is served past the activation that is due for the open scope. -/
theorem cached_head_outlives_matching_activation :
    ¬ ∀ heads request now ttl head validUntil,
      resolveCg4ActivePolicy heads request now ttl = .ok (.resolved head validUntil) →
      ∀ other ∈ heads, cg4PolicyScopeMatches other.scopeKey request = .ok true →
      ∀ next, other.nextActivationAt = some next → now < next →
      ∀ headTtl version digest later, next ≤ later →
        ¬ Served (setHead now headTtl version digest head.nextActivationAt) later := by
  intro bounded
  exact bounded (lineHeads none (some 10000)) ⟨some "LINE", none, none, none⟩ 0 30 _ _ rfl _
    (List.mem_cons_of_mem _ List.mem_cons_self) rfl 10000 rfl (by decide) 30 1 "head" 15000
    (by decide) rfl

end DContact.Governance

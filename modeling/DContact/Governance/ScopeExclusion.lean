import DContact.Governance.PolicyTransactions

/-!
# Unambiguous heads under concurrency

A publish and a due activation check that no active scope is ambiguous with their own,
and they hold the lock of their own scope only. Two of them on ambiguous scopes can
both pass the check before either commits. As long as no check is made while another
transaction on an ambiguous scope stands between its check and its commit, the active
scopes stay pairwise unambiguous and resolution is never ambiguous.
-/

namespace DContact.Governance

open Lib List Session

/-! ## Claims on a scope -/

def scopesClash (left right : String) : Bool :=
  match cg4PolicyScopesAmbiguous left right with
  | .ok ambiguous => ambiguous
  | .error _ => false

theorem scopesClash_iff {left right : String} :
    scopesClash left right = true ↔ cg4PolicyScopesAmbiguous left right = .ok true := by
  unfold scopesClash
  cases cg4PolicyScopesAmbiguous left right with
  | error failure => simp
  | ok ambiguous => simp

def publishesLater (input : PublishInput) (row : PolicyRow) : Bool :=
  input.occurredAt.any fun occurredAt => row.activateAt.any fun activateAt => occurredAt < activateAt

/-- The scope that the next statement checks for an activation. -/
def Transaction.checks : Transaction → Option String
  | .publish input _ (.admitted candidate) =>
      if publishesLater input candidate.row then none else some candidate.row.scopeKey
  | .activate _ _ (.headed reads _) => some reads.row.scopeKey
  | _ => none

/-- The scope that a transaction goes on to activate, its check being passed. -/
def Transaction.claims : Transaction → Option String
  | .publish input _ stage =>
      match stage with
      | .unambiguous candidate | .unlatched candidate | .counted candidate _ =>
          if publishesLater input candidate.row then none else some candidate.row.scopeKey
      | _ => none
  | .activate _ _ stage =>
      match stage with
      | .unambiguous reads _ | .counted reads _ _ => some reads.row.scopeKey
      | _ => none
  | _ => none

def TransactionState.checksAgainstRival (state : TransactionState) : TransactionStep → Bool
  | .advance pid =>
      ((Session.find state.sessions pid).bind Transaction.checks).any fun scopeKey =>
        Session.others state.sessions pid fun other => other.claims.any (scopesClash scopeKey)
  | _ => false

variable {store : PolicyStore} {transaction : Transaction} {further : Transaction}

/-- A statement makes a claim only by the check, and no statement changes one. -/
theorem claims_advance {engine : PolicyEngine} (ok : transaction.advance engine store = .ok further)
    {scopeKey : String} (claimed : further.claims = some scopeKey) :
    transaction.claims = some scopeKey ∨
      (transaction.checks = some scopeKey ∧ ∃ result, assertScopeUnambiguous store scopeKey = .ok result) := by
  cases transaction with
  | amend input now stage =>
      cases stage with
      | begun =>
          obtain ⟨_, -, ok⟩ := bind_ok ok
          cases ok
          cases claimed
      | read | locked =>
          cases ok
          cases claimed
  | test input now stage =>
      cases stage with
      | loading progress =>
          cases progress with
          | done candidate =>
              cases ok
              cases claimed
          | begun | rowRead | headRead =>
              obtain ⟨_, -, ok⟩ := bind_ok ok
              cases ok
              cases claimed
      | locked candidate =>
          cases ok
          cases claimed
  | publish input now stage =>
      obtain ⟨next, advanced, ok⟩ := bind_ok ok
      cases ok
      cases stage with
      | loading progress =>
          cases progress with
          | done candidate =>
              cases advanced
              cases claimed
          | begun | rowRead | headRead =>
              obtain ⟨_, -, ok⟩ := bind_ok advanced
              cases ok
              cases claimed
      | locked candidate =>
          have ok := rest_ok advanced
          cases ok
          cases claimed
      | admitted candidate =>
          obtain ⟨result, checked, ok⟩ := bind_ok advanced
          cases ok
          have scope : candidate.row.scopeKey = scopeKey := by
            simp only [Transaction.claims] at claimed
            split at claimed
            next => cases claimed
            next => exact Option.some.inj claimed
          exact .inr ⟨claimed, result, scope ▸ checked⟩
      | unambiguous | unlatched =>
          obtain ⟨_, -, ok⟩ := bind_ok advanced
          cases ok
          exact .inl claimed
      | counted =>
          cases advanced
          exact .inl claimed
  | activate input now stage =>
      obtain ⟨next, advanced, ok⟩ := bind_ok ok
      cases ok
      cases stage with
      | begun =>
          obtain ⟨_, -, ok⟩ := bind_ok advanced
          cases ok
          cases claimed
      | read row =>
          cases advanced
          cases claimed
      | locked row =>
          obtain ⟨_, -, ok⟩ := bind_ok advanced
          obtain ⟨_, -, ok⟩ := bind_ok ok
          obtain ⟨_, -, ok⟩ := bind_ok ok
          cases ok
          cases claimed
      | found reads =>
          cases advanced
          cases claimed
      | headed reads head =>
          obtain ⟨result, checked, ok⟩ := bind_ok advanced
          cases ok
          cases claimed
          exact .inr ⟨rfl, result, checked⟩
      | unambiguous reads head =>
          obtain ⟨_, -, ok⟩ := bind_ok advanced
          cases ok
          exact .inl claimed
      | counted =>
          cases advanced
          exact .inl claimed

/-! ## Active scopes after a commit -/

theorem mem_activeScopes {scopeKey : String} : scopeKey ∈ activeScopes store ↔
      ∃ row ∈ store.policies, row.status = .active ∧ row.scopeKey = scopeKey := by
  simp [activeScopes, and_assoc]

/-- The effect of a commit on active scopes and heads: one claim at most becomes active,
and every head stands on an active scope. -/
structure ActivatesOnly (before after : PolicyStore) (claim : Option String) : Prop where
  active : ∀ scopeKey ∈ activeScopes after, scopeKey ∈ activeScopes before ∨ claim = some scopeKey
  heads : (∀ head ∈ before.heads, head.scopeKey ∈ activeScopes before) →
    ∀ head ∈ after.heads, head.scopeKey ∈ activeScopes after

section Commits

variable {engine : PolicyEngine} {before after : PolicyStore}

theorem activeScopes_rewrite {rewrite : PolicyRow → PolicyRow}
    (policies : after.policies = before.policies.map rewrite)
    (scopes : ∀ row ∈ before.policies, (rewrite row).scopeKey = row.scopeKey)
    (same : ∀ row ∈ before.policies, (rewrite row).status = .active ↔ row.status = .active)
    (scopeKey : String) : scopeKey ∈ activeScopes after ↔ scopeKey ∈ activeScopes before := by
  rw [mem_activeScopes, mem_activeScopes, policies]
  constructor
  · rintro ⟨row, mem, active, scope⟩
    obtain ⟨old, present, rfl⟩ := mem_map.mp mem
    exact ⟨old, present, (same old present).mp active, (scopes old present).symm.trans scope⟩
  · rintro ⟨row, mem, active, scope⟩
    exact ⟨rewrite row, mem_map_of_mem mem, (same row mem).mpr active, (scopes row mem).trans scope⟩

theorem ActivatesOnly.same (scopes : ∀ scopeKey, scopeKey ∈ activeScopes after ↔
      scopeKey ∈ activeScopes before)
    (heads : ∀ head ∈ after.heads, ∃ old ∈ before.heads, old.scopeKey = head.scopeKey)
    (claim : Option String) : ActivatesOnly before after claim where
  active scopeKey mem := .inl ((scopes scopeKey).mp mem)
  heads live head mem := by
    obtain ⟨old, present, scope⟩ := heads head mem
    rw [scopes, ← scope]
    exact live old present

variable {row : PolicyRow}

theorem Edit.active_iff {later : PolicyRow} (edit : Edit engine before row later) :
    later.status = .active ↔ row.status = .active := by
  cases edit with
  | untouched => rfl
  | amended => rfl
  | stamped => rfl
  | reviewed _ source target =>
      rcases source with source | source <;> rcases target with target | target | target <;>
        simp [source, target]

theorem Change.activeScopes_quiet (change : Change engine before none none after)
    (scopeKey : String) : scopeKey ∈ activeScopes after ↔ scopeKey ∈ activeScopes before := by
  cases change with
  | side policies | worked policies => rw [activeScopes, activeScopes, policies]
  | drafted row policies _ _ _ _ draft =>
      rw [activeScopes, activeScopes, policies, filter_append]
      simp [draft]
  | edited rewrite policies _ _ edits =>
      exact activeScopes_rewrite policies (fun row mem => (edits row mem).sameVersion.scopeKey)
        (fun row mem => (edits row mem).active_iff) scopeKey
  | scheduled _ _ row => cases row
  | published _ row => cases row
  | activated _ _ _ row => cases row

theorem Change.activatesOnly (change : Change engine before none none after)
    (claim : Option String) : ActivatesOnly before after claim := by
  refine .same change.activeScopes_quiet ?_ claim
  intro head mem
  rw [change.heads_quiet] at mem
  exact ⟨head, mem, rfl⟩

/-- A version that was read is the only one of its identifier, on its scope. -/
theorem Snapshot.scopeKey {other : PolicyRow} (seen : Snapshot before row) (keyed : Keyed before)
    (mem : other ∈ before.policies) (same : other.id = row.id) : other.scopeKey = row.scopeKey := by
  obtain ⟨later, present, id, scope⟩ := seen.version
  rw [Table.eq_of_key_eq keyed.ids mem present (same.trans id.symm)]
  exact scope

variable {move : HeadMove}

theorem Activated.activatesOnly {jobs : List JobRow}
    (written : Activated engine { before with jobs := jobs } move after) (keyed : Keyed before)
    (snapshot : Snapshot before move.row) (headSeen : HeadSeen before move.row.scopeKey move.head) :
    ActivatesOnly before after (some move.row.scopeKey) where
  active scopeKey mem := by
    obtain ⟨row, present, active, scope⟩ := mem_activeScopes.mp mem
    rw [written.policies] at present
    obtain ⟨old, there, rfl⟩ := mem_map.mp present
    rw [core_scopeKey (moved_core move old).1] at scope
    rcases moved_active active with was | here
    · exact .inl (mem_activeScopes.mpr ⟨old, there, was, scope⟩)
    · rw [← scope, snapshot.scopeKey keyed there here]
      exact .inr rfl
  heads live head mem := by
    rcases (written.heads.mem keyed.heads).mp mem with rfl | ⟨present, other⟩
    · obtain ⟨row, there, here, waits⟩ := written.candidate
      refine mem_activeScopes.mpr ⟨moved move row, ?_, moved_candidate here waits, ?_⟩
      · rw [written.policies]
        exact mem_map_of_mem there
      · rw [core_scopeKey (moved_core move row).1]
        exact snapshot.scopeKey keyed there here
    · -- the active version of another scope is neither on the move nor superseded
      have other : head.scopeKey ≠ move.row.scopeKey := other
      obtain ⟨row, there, active, scope⟩ := mem_activeScopes.mp (live head present)
      have apart : row.id ≠ move.row.id := by
        intro same
        exact other (scope.symm.trans (snapshot.scopeKey keyed there same))
      have away : ∀ current, move.head.current = some current → row.id ≠ current.revisionId := by
        intro current points same
        obtain ⟨-, old, known, id, here⟩ := headSeen current points
        have this : row = old := Table.eq_of_key_eq keyed.ids there known (same.trans id.symm)
        exact other (scope.symm.trans (this ▸ here))
      refine mem_activeScopes.mpr ⟨row, ?_, active, scope⟩
      rw [written.policies]
      exact mem_map.mpr ⟨row, there, moved_other apart away⟩

theorem scheduledRow_active (rowId : String) (row : PolicyRow) :
    (scheduledRow rowId row).status = .active ↔ row.status = .active := by
  by_cases approved : row.status = .approved
  · unfold scheduledRow rewriteWhere
    split <;> simp [approved]
  · rw [scheduledRow_settled approved]

theorem Scheduled.activatesOnly {jobId : String} (written : Scheduled before move jobId after)
    (keyed : Keyed before) (headSeen : HeadSeen before move.row.scopeKey move.head)
    (claim : Option String) : ActivatesOnly before after claim := by
  refine .same (activeScopes_rewrite written.policies
    (fun row _ => core_scopeKey (scheduledRow_core _ row).1)
    (fun row _ => scheduledRow_active _ row)) ?_ claim
  intro head mem
  obtain ⟨current, points, marked⟩ := written.marked
  rcases (marked.mem keyed.heads).mp mem with rfl | ⟨present, -⟩
  · -- a mark is written only over a head that is there
    rcases marked with ⟨zero, -, -⟩ | ⟨-, ⟨old, present, key, -⟩, -⟩
    · exact absurd zero (headSeen current points).1
    · exact ⟨old, present, key⟩
  · exact ⟨head, present, rfl⟩

theorem testedRow_status (candidate : Candidate) (preview : Preview) (row : PolicyRow) :
    (testedRow candidate preview row).status = row.status := by
  unfold testedRow
  split <;> rfl

theorem Commit.activatesOnly
    (commit : Commit engine before transaction after) (keyed : Keyed before)
    (seen : Seen before transaction.reads) :
    ActivatesOnly before after transaction.claims := by
  cases commit with
  | amended change => exact change.activatesOnly _
  | tested artifactId _ =>
      refine .same (activeScopes_rewrite (recordTest_policies _ _ _)
        (fun row _ => (testedRow_endures _ _ row).evolves.same.scopeKey)
        (fun row _ => by rw [testedRow_status])) ?_ _
      exact fun head mem => ⟨head, mem, rfl⟩
  | scheduled written =>
      exact written.activatesOnly keyed ((seen _ _ rfl).2 _ rfl) _
  | @published input now occurredAt candidate quorum _ time arrived written =>
      have atOnce : publishesLater input candidate.row = false := by
        rw [publishesLater, time, Option.any_some]
        cases later : candidate.row.activateAt with
        | none => rfl
        | some activateAt => simpa [later] using arrived
      have claims : (Transaction.publish input now (.counted candidate quorum)).claims =
          some candidate.row.scopeKey := by
        simp [Transaction.claims, atOnce]
      rw [claims]
      exact written.activatesOnly keyed (seen _ _ rfl).1 ((seen _ _ rfl).2 _ rfl)
  | activated _ written =>
      exact written.activatesOnly keyed (seen _ _ rfl).1 ((seen _ _ rfl).2 _ rfl)

end Commits

/-! ## Runs -/

structure Exclusive (state : TransactionState) : Prop where
  grounded : Grounded state
  heads : ∀ head ∈ state.studio.store.heads, head.scopeKey ∈ activeScopes state.studio.store
  active : ∀ left ∈ activeScopes state.studio.store, ∀ right ∈ activeScopes state.studio.store,
    cg4PolicyScopesAmbiguous left right ≠ .ok true
  claimed : ∀ session ∈ state.sessions, ∀ scopeKey, session.work.claims = some scopeKey →
    ∀ other ∈ activeScopes state.studio.store, cg4PolicyScopesAmbiguous scopeKey other ≠ .ok true
  rivals : ∀ session ∈ state.sessions, ∀ rival ∈ state.sessions, session.pid ≠ rival.pid →
    ∀ scopeKey other, session.work.claims = some scopeKey → rival.work.claims = some other →
      cg4PolicyScopesAmbiguous scopeKey other ≠ .ok true

theorem not_ambiguous_self (scopeKey : String) :
    cg4PolicyScopesAmbiguous scopeKey scopeKey ≠ .ok true := by
  simp [cg4PolicyScopesAmbiguous]

variable {state : TransactionState}

theorem Exclusive.activates {after : TransactionState} {claim : Option String}
    (exclusive : Exclusive state) (grounded : Grounded after)
    (only : ActivatesOnly state.studio.store after.studio.store claim)
    (sessions : ∀ session ∈ after.sessions, session ∈ state.sessions)
    (against : ∀ scopeKey, claim = some scopeKey →
      (∀ other ∈ activeScopes state.studio.store,
        cg4PolicyScopesAmbiguous scopeKey other ≠ .ok true) ∧
      ∀ session ∈ after.sessions, ∀ other, session.work.claims = some other →
        cg4PolicyScopesAmbiguous scopeKey other ≠ .ok true) : Exclusive after := by
  refine ⟨grounded, only.heads exclusive.heads, ?_, ?_, ?_⟩
  · intro left leftActive right rightActive
    rcases only.active left leftActive with leftWas | leftClaim <;>
      rcases only.active right rightActive with rightWas | rightClaim
    · exact exclusive.active left leftWas right rightWas
    · exact fun ambiguous => (against right rightClaim).1 left leftWas (ambiguous_symm ambiguous)
    · exact (against left leftClaim).1 right rightWas
    · rw [leftClaim] at rightClaim
      cases rightClaim
      exact not_ambiguous_self left
  · intro session mem scopeKey claims other isActive
    rcases only.active other isActive with was | claim
    · exact exclusive.claimed session (sessions session mem) scopeKey claims other was
    · exact fun ambiguous =>
        (against other claim).2 session mem scopeKey claims (ambiguous_symm ambiguous)
  · intro session mem rival present
    exact exclusive.rivals session (sessions session mem) rival (sessions rival present)

theorem Exclusive.replace {pid : Nat} (exclusive : Exclusive state)
    (grounded : Grounded { state with sessions := Session.replace state.sessions pid further })
    (free : ∀ scopeKey, further.claims = some scopeKey →
      (∀ other ∈ activeScopes state.studio.store,
        cg4PolicyScopesAmbiguous scopeKey other ≠ .ok true) ∧
      ∀ rival ∈ state.sessions, rival.pid ≠ pid → ∀ other, rival.work.claims = some other →
        cg4PolicyScopesAmbiguous scopeKey other ≠ .ok true) :
    Exclusive { state with sessions := Session.replace state.sessions pid further } := by
  refine ⟨grounded, exclusive.heads, exclusive.active, ?_, ?_⟩
  · refine forall_replace exclusive.claimed ?_
    exact fun scopeKey claims => (free scopeKey claims).1
  · refine pairs_replace exclusive.rivals (fun apart => absurd rfl apart)
      fun session known away => ⟨?_, ?_⟩
    · exact fun _ scopeKey other claims => (free scopeKey claims).2 session known away other
    · exact fun _ scopeKey other claims rivalClaims ambiguous =>
        (free other rivalClaims).2 session known away scopeKey claims (ambiguous_symm ambiguous)

theorem ofCommand_claims {now : Instant} {command : LifecycleCommand}
    (begun : Transaction.ofCommand now command = some transaction) : transaction.claims = none := by
  cases command <;> cases begun <;> rfl

theorem Exclusive.progress {engine : PolicyEngine} {after : TransactionState}
    {step : TransactionStep} (exclusive : Exclusive state)
    (alone : state.checksAgainstRival step = false) (progress : Progress engine state step after) :
    Exclusive after := by
  have grounded := exclusive.grounded.progress progress
  cases progress with
  | other change sessions =>
      refine exclusive.activates grounded (change.activatesOnly none) ?_ ?_
      · rw [sessions]
        exact fun _ mem => mem
      · intro scopeKey none
        cases none
  | started begun =>
      refine exclusive.replace grounded ?_
      intro scopeKey claims
      rw [ofCommand_claims begun] at claims
      cases claims
  | @advanced pid transaction further found ok =>
      have known := find_mem found
      refine exclusive.replace grounded ?_
      intro scopeKey claims
      rcases claims_advance ok claims with already | ⟨checks, _, checked⟩
      · refine ⟨exclusive.claimed _ known scopeKey already, ?_⟩
        intro rival mem apart other rivalClaims
        exact exclusive.rivals _ known rival mem (Ne.symm apart) scopeKey other already
          rivalClaims
      · refine ⟨assertScopeUnambiguous_ok checked, ?_⟩
        intro rival mem apart other rivalClaims ambiguous
        -- the guard rules out a rival that claims an ambiguous scope
        rw [TransactionState.checksAgainstRival, found, Option.bind_some, checks, Option.any_some]
          at alone
        have clear := others_eq_false.mp alone rival mem apart
        rw [rivalClaims, Option.any_some, scopesClash_iff.mpr ambiguous] at clear
        cases clear
  | dropped pid =>
      refine exclusive.activates grounded
        (.same (fun _ => Iff.rfl) (fun head mem => ⟨head, mem, rfl⟩) none) ?_ ?_
      · exact fun session mem => (mem_drop.mp mem).1
      · intro scopeKey none
        cases none
  | @committed pid _ transaction _ found commit sessions =>
      have known := find_mem found
      have seen := exclusive.grounded.seen _ known
      refine exclusive.activates grounded (commit.activatesOnly exclusive.grounded.keyed seen) ?_ ?_
      · rw [sessions]
        exact fun session mem => (mem_drop.mp mem).1
      · intro scopeKey claims
        refine ⟨exclusive.claimed _ known scopeKey claims, ?_⟩
        rw [sessions]
        intro session mem other otherClaims
        obtain ⟨present, apart⟩ := mem_drop.mp mem
        exact exclusive.rivals _ known session present (Ne.symm apart) scopeKey other claims
          otherClaims

theorem exclusive_of_reachable {options : StudioOptions}
    (reachable : ((transactionSystem options).restrict fun state step =>
      !state.checksAgainstRival step).Reachable state) : Exclusive state := by
  refine reachable.invariant ?_ ?_
  · rintro _ rfl
    refine ⟨grounded_empty, ?_, ?_, ?_, ?_⟩
    · exact forall_mem_nil _
    · exact forall_mem_nil _
    · exact forall_mem_nil _
    · exact forall_mem_nil _
  · intro source step target exclusive ⟨alone, taken⟩
    have alone : source.checksAgainstRival step = false := by simpa using alone
    exact exclusive.progress alone (next_progress exclusive.grounded.keyed taken)

theorem headFacts_scopeKeys {heads : List HeadRow}
    {facts : List ScopeHeadFacts} (ok : headFacts store heads = .ok facts) :
    facts.map ScopeHeadFacts.scopeKey = heads.map HeadRow.scopeKey := by
  induction heads generalizing facts with
  | nil =>
      cases ok
      rfl
  | cons first rest ih =>
      obtain ⟨row, -, ok⟩ := bind_ok ok
      obtain ⟨tail, tailOk, ok⟩ := bind_ok ok
      cases ok
      rw [map_cons, map_cons, ih tailOk]
      rfl

/-- No two active scopes and no two heads are ambiguous with each other, and the heads
that match a request are never resolved as ambiguous. -/
theorem active_heads_unambiguous {options : StudioOptions} {state : TransactionState}
    (reachable : ((transactionSystem options).restrict fun state step =>
      !state.checksAgainstRival step).Reachable state) :
    (∀ left ∈ activeScopes state.studio.store, ∀ right ∈ activeScopes state.studio.store,
      cg4PolicyScopesAmbiguous left right ≠ .ok true) ∧
    (∀ left ∈ state.studio.store.heads, ∀ right ∈ state.studio.store.heads,
      cg4PolicyScopesAmbiguous left.scopeKey right.scopeKey ≠ .ok true) ∧
    ∀ request now cacheTtlSeconds facts detail,
      headFacts state.studio.store (state.studio.store.heads.filter fun head =>
        scopeKeyMatches head.scopeKey request) = .ok facts →
      resolveCg4ActivePolicy facts request now cacheTtlSeconds ≠
        .ok (.failClosed .governanceStateUnavailable detail) := by
  have exclusive := exclusive_of_reachable reachable
  have heads : ∀ left ∈ state.studio.store.heads, ∀ right ∈ state.studio.store.heads,
      cg4PolicyScopesAmbiguous left.scopeKey right.scopeKey ≠ .ok true := by
    intro left leftMember right rightMember
    exact exclusive.active _ (exclusive.heads left leftMember) _ (exclusive.heads right rightMember)
  refine ⟨exclusive.active, heads, ?_⟩
  intro request now cacheTtlSeconds facts detail isFacts
  apply resolve_ne_ambiguous
  · rw [headFacts_scopeKeys isFacts]
    exact (filter_sublist.map HeadRow.scopeKey).nodup exclusive.grounded.keyed.heads
  · intro left leftMember right rightMember
    obtain ⟨leftHead, leftListed, _, rfl⟩ := (headFacts_mem isFacts).2 left leftMember
    obtain ⟨rightHead, rightListed, _, rfl⟩ := (headFacts_mem isFacts).2 right rightMember
    exact heads leftHead (mem_filter.mp leftListed).1 rightHead
      (mem_filter.mp rightListed).1

/-! ## Two publishes at once -/

def versionOn (policyId scopeKey : String) : SampleVersion :=
  { looseVersion with policyId := policyId, scopeKey := scopeKey }

def voiceVersion : SampleVersion := versionOn "voice" sampleScope

def smsVersion : SampleVersion := versionOn "sms" otherScope

def marketingVersion : SampleVersion :=
  versionOn "marketing" "channel=*|contactKind=*|purpose=MARKETING|sourceType=*"

def publishBoth (first second : SampleVersion) : List TransactionStep :=
  (first.prepare ++ second.prepare).map .other ++
    [.start 1 (publishCommand first) 0, .start 2 (publishCommand second) 0] ++
    List.replicate 8 (.advance 1) ++ List.replicate 8 (.advance 2) ++ [.commit 1 ⟨"", "", ""⟩]

/-- Scopes that differ in the channel may be published side by side. -/
theorem side_by_side_unambiguous :
    ∃ state, ((transactionSystem sampleOptions).restrict fun state step =>
        !state.checksAgainstRival step).Reachable state ∧
      activeScopes state.studio.store = [sampleScope, otherScope] ∧
      ∀ left ∈ activeScopes state.studio.store, ∀ right ∈ activeScopes state.studio.store,
        cg4PolicyScopesAmbiguous left right ≠ .ok true := by
  have ends : System.endsWith (System.guardNext (fun state step => !state.checksAgainstRival step)
      (TransactionState.next sampleOptions)) .empty (publishBoth voiceVersion smsVersion)
      (.commit 2 ⟨"", "", ""⟩) (fun _ after =>
        decide (activeScopes after.studio.store = [sampleScope, otherScope])) = true := by
    decide +kernel
  obtain ⟨before, after, reachable, taken, found⟩ :=
    System.Reachable.endsWithGuarded (emptyTransactions_fresh sampleOptions) ends
  exact ⟨after, reachable.step taken, of_decide_eq_true found,
    (active_heads_unambiguous (reachable.step taken)).1⟩

/-- A voice scope and a marketing scope pass their checks before either commits, and a
voice call for marketing can then not be resolved. -/
theorem ambiguous_heads_published :
    ∃ state, (transactionSystem sampleOptions).Reachable state ∧
      (∃ left ∈ state.studio.store.heads, ∃ right ∈ state.studio.store.heads,
        left.scopeKey ∈ activeScopes state.studio.store ∧
        right.scopeKey ∈ activeScopes state.studio.store ∧
        cg4PolicyScopesAmbiguous left.scopeKey right.scopeKey = .ok true) ∧
      ∃ detail, loadCg4PolicyFacts sampleOptions.engine state.studio.store
        ⟨some "VOICE", none, some "MARKETING", none⟩ 2 =
          .failClosed .governanceStateUnavailable detail := by
  have ends : System.endsWith (TransactionState.next sampleOptions) .empty
      (publishBoth voiceVersion marketingVersion) (.commit 2 ⟨"", "", ""⟩) (fun _ after =>
        decide ((∃ left ∈ after.studio.store.heads, ∃ right ∈ after.studio.store.heads,
          left.scopeKey ∈ activeScopes after.studio.store ∧
          right.scopeKey ∈ activeScopes after.studio.store ∧
          scopesClash left.scopeKey right.scopeKey = true) ∧
        loadCg4PolicyFacts sampleOptions.engine after.studio.store
          ⟨some "VOICE", none, some "MARKETING", none⟩ 2 =
          .failClosed .governanceStateUnavailable ("scope " ++ voiceVersion.scopeKey ++ " และ " ++
            marketingVersion.scopeKey ++ " กำกวมที่ specificity เดียวกัน"))) = true := by
    decide +kernel
  obtain ⟨before, after, reachable, taken, found⟩ :=
    System.Reachable.endsWith (emptyTransactions_fresh sampleOptions) ends
  obtain ⟨⟨left, leftMember, right, rightMember, leftActive, rightActive, clash⟩, read⟩ :=
    of_decide_eq_true found
  exact ⟨after, reachable.step taken, ⟨left, leftMember, right, rightMember, leftActive, rightActive,
    scopesClash_iff.mp clash⟩, _, read⟩

end DContact.Governance

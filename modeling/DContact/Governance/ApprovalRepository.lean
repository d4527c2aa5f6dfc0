import DContact.Governance.AuthorizationEngine

/-!
# Recording votes

A checker votes on one revision of an exception or on one version of a policy. The
command records the vote and answers with the quorum evaluation. Exceptions and
policies differ in how the revision is found and in which capability and quorum it
needs; everything else is `recordVote`.
-/

namespace DContact.Governance

open Lib List

inductive ApprovalDecision where
  | approve
  | reject
  deriving DecidableEq

/-- The revision of an exception, or the version of a policy, that is voted on. -/
structure ApprovalTarget where
  subjectId : String
  revision : Nat
  deriving DecidableEq

structure VoteRow where
  id : String
  target : ApprovalTarget
  decision : ApprovalDecision
  approverRef : String
  evidenceRef : String
  decidedAt : Instant
  capability : Capability
  capabilitySource : GrantSource
  delegationId : Option String
  directCompliance : Bool
  emergencyAuthority : Bool
  authorizationEpoch : Nat
  scopeVersion : Nat

def toRecordedApproval (row : VoteRow) : RecordedApproval where
  checkerSubjectId := row.approverRef
  capability := row.capability
  directComplianceAuthority := row.directCompliance
  emergencyAuthority := row.emergencyAuthority
  source := row.capabilitySource
  delegationId := row.delegationId.filter fun delegationId => delegationId != ""
  authorizationEpoch := row.authorizationEpoch
  scopeVersion := row.scopeVersion
  decidedAt := row.decidedAt

/-- The fields which both commands have. -/
structure VoteInput where
  target : ApprovalTarget
  expectedContentDigest : String
  decision : ApprovalDecision
  evidenceRef : String
  makerSubjectId : String
  scopeKey : String
  checker : AuthorizationSubject
  idempotencyKey : String

inductive ApprovalCommand where
  | exception (input : VoteInput)
  | policy (input : VoteInput) (diffClass : DiffClass)

def ApprovalCommand.input : ApprovalCommand → VoteInput
  | .exception input | .policy input _ => input

structure ApprovalResult where
  approvalId : String
  quorum : QuorumEvaluation

/-- The receipts of the two commands live under different operations. -/
structure ApprovalReceipt where
  isPolicy : Bool
  idempotencyKey : String
  requestHash : String
  response : ApprovalResult

structure ExceptionHeadRow where
  exceptionId : String
  currentRevision : Nat
  currentRevisionId : String

structure ExceptionRevisionRow where
  id : String
  requestHash : String
  tier : RiskTier

structure PolicyVersionRow where
  policyId : String
  version : Nat
  contentDigest : String

structure ApprovalStore where
  exceptionHeads : List ExceptionHeadRow
  exceptions : List ExceptionRevisionRow
  policies : List PolicyVersionRow
  exceptionVotes : List VoteRow
  policyVotes : List VoteRow
  receipts : List ApprovalReceipt

inductive ApprovalError where
  | textBlank (field : String)
  | idempotencyConflict (idempotencyKey : String)
  | resourceNotFound
  | versionConflict (expected current : Nat)
  | authorization (failure : AuthorizationError)

/-- The votes on one revision, in the order in which they were recorded. -/
def votesOn (votes : List VoteRow) (target : ApprovalTarget) : List VoteRow :=
  votes.filter fun vote => vote.target == target

def voteOf (input : VoteInput) (capability : Capability) (grant : CapabilityGrant) (now : Instant)
    (voteId : String) : VoteRow where
  id := voteId
  target := input.target
  decision := input.decision
  approverRef := input.checker.subjectId
  evidenceRef := input.evidenceRef
  decidedAt := now
  capability := capability
  capabilitySource := grant.source
  delegationId := grant.delegationId
  directCompliance := input.checker.directComplianceAuthority
  emergencyAuthority := input.checker.emergencyAuthority
  authorizationEpoch := input.checker.authorizationEpoch
  scopeVersion := input.checker.scopeVersion

/-- Authorize the checker, add the vote and evaluate the quorum over all votes of the
revision; the vote at hand alone decides whether the evaluation says rejected. -/
def recordVote (votes : List VoteRow) (input : VoteInput) (capability : Capability)
    (requirement : QuorumRequirement) (now : Instant) (voteId : String) :
    Except ApprovalError (List VoteRow × ApprovalResult) :=
  let existingApprovals := (votesOn votes input.target).map toRecordedApproval
  match assertCg4ApprovalAuthorization capability input.checker input.scopeKey
    input.makerSubjectId existingApprovals now with
  | .error failure => .error (.authorization failure)
  | .ok grant =>
      let vote := voteOf input capability grant now voteId
      let quorum := evaluateCg4Quorum requirement (existingApprovals ++ [toRecordedApproval vote])
        (decide (input.decision = .reject)) now
      .ok (votes ++ [vote], ⟨vote.id, quorum⟩)

def findExceptionRevision (store : ApprovalStore) (input : VoteInput) :
    Except ApprovalError RiskTier :=
  match store.exceptionHeads.find? fun head => head.exceptionId == input.target.subjectId with
  | none => .error .resourceNotFound
  | some head =>
      if head.currentRevision ≠ input.target.revision then
        .error (.versionConflict input.target.revision head.currentRevision)
      else
        match store.exceptions.find? fun row => row.id == head.currentRevisionId with
        | none => .error .resourceNotFound
        | some row =>
            if row.requestHash ≠ input.expectedContentDigest then
              .error (.versionConflict input.target.revision head.currentRevision)
            else
              .ok row.tier

/-- The version exists with the content that the checker has seen. -/
def findPolicyVersion (store : ApprovalStore) (input : VoteInput) : Except ApprovalError Unit :=
  match store.policies.find? fun row =>
    row.policyId == input.target.subjectId && row.version == input.target.revision with
  | none => .error .resourceNotFound
  | some row =>
      if row.contentDigest ≠ input.expectedContentDigest then
        .error (.versionConflict input.target.revision row.version)
      else
        .ok ()

def recordExceptionApproval (store : ApprovalStore) (input : VoteInput) (now : Instant)
    (voteId : String) : Except ApprovalError (ApprovalStore × ApprovalResult) := do
  let tier ← findExceptionRevision store input
  let (votes, result) ← recordVote store.exceptionVotes input
    (resolveCg4RequiredExceptionCapability tier) (resolveCg4ExceptionQuorum tier) now voteId
  .ok ({ store with exceptionVotes := votes }, result)

def recordPolicyApproval (store : ApprovalStore) (input : VoteInput) (diffClass : DiffClass)
    (now : Instant) (voteId : String) : Except ApprovalError (ApprovalStore × ApprovalResult) := do
  findPolicyVersion store input
  let (votes, result) ← recordVote store.policyVotes input
    (resolveCg4RequiredPolicyCapability diffClass) (resolveCg4PolicyQuorum diffClass) now voteId
  .ok ({ store with policyVotes := votes }, result)

def ApprovalCommand.isPolicy : ApprovalCommand → Bool
  | .exception _ => false
  | .policy .. => true

/-- The first of the required texts which is blank. -/
def ApprovalCommand.blankField (command : ApprovalCommand) : Option String :=
  let input := command.input
  [(if command.isPolicy then "policyId" else "exceptionId", input.target.subjectId),
    ("evidenceRef", input.evidenceRef), ("makerSubjectId", input.makerSubjectId),
    ("scopeKey", input.scopeKey), ("idempotencyKey", input.idempotencyKey)].findSome? fun entry =>
      if Text.isBlank entry.2 then some entry.1 else none

def findApprovalReceipt (store : ApprovalStore) (command : ApprovalCommand) :
    Option ApprovalReceipt :=
  store.receipts.find? fun receipt =>
    receipt.isPolicy == command.isPolicy &&
      receipt.idempotencyKey == command.input.idempotencyKey

def ApprovalCommand.record (command : ApprovalCommand) (store : ApprovalStore) (now : Instant)
    (voteId : String) : Except ApprovalError (ApprovalStore × ApprovalResult) :=
  match command with
  | .exception input => recordExceptionApproval store input now voteId
  | .policy input diffClass => recordPolicyApproval store input diffClass now voteId

def recordApproval (requestHash : ApprovalCommand → String) (store : ApprovalStore)
    (command : ApprovalCommand) (now : Instant) (voteId : String) :
    Except ApprovalError (ApprovalStore × ApprovalResult) :=
  match command.blankField with
  | some field => .error (.textBlank field)
  | none =>
      match findApprovalReceipt store command with
      | some receipt =>
          if receipt.requestHash ≠ requestHash command then
            .error (.idempotencyConflict command.input.idempotencyKey)
          else
            .ok (store, receipt.response)
      | none => do
          let (recorded, result) ← command.record store now voteId
          let receipt : ApprovalReceipt :=
            ⟨command.isPolicy, command.input.idempotencyKey, requestHash command, result⟩
          .ok ({ recorded with receipts := recorded.receipts ++ [receipt] }, result)

/-- The evaluation of recorded votes, as the policy lifecycle counts them: only votes
that approve are approvals, and one vote that rejects is final. -/
def quorumOf (requirement : QuorumRequirement) (votes : List VoteRow) (now : Instant) :
    QuorumEvaluation :=
  evaluateCg4Quorum requirement
    ((votes.filter fun vote => vote.decision == .approve).map toRecordedApproval)
    (votes.any fun vote => vote.decision == .reject) now

def ApprovalStore.votesFor (store : ApprovalStore) (command : ApprovalCommand) : List VoteRow :=
  votesOn (if command.isPolicy then store.policyVotes else store.exceptionVotes)
    command.input.target

def requirementFor (store : ApprovalStore) : ApprovalCommand → Except ApprovalError QuorumRequirement
  | .exception input => return resolveCg4ExceptionQuorum (← findExceptionRevision store input)
  | .policy _ diffClass => .ok (resolveCg4PolicyQuorum diffClass)

theorem decision_ne_reject {decision : ApprovalDecision} :
    decision ≠ .reject ↔ decision = .approve := by
  cases decision <;> simp

section Counting

variable {requirement : QuorumRequirement} {votes : List VoteRow} {now : Instant}

theorem recorded_subjects (votes : List VoteRow) :
    (votes.map toRecordedApproval).map RecordedApproval.checkerSubjectId =
      votes.map VoteRow.approverRef := by
  rw [map_map]
  rfl

/-- Counting every vote as an approval agrees with the law only while nobody rejects. -/
theorem evaluateAll_eq_quorumOf_iff (distinct : (votes.map VoteRow.approverRef).Nodup)
    {rejected : Bool} (current : (∀ vote ∈ votes, vote.decision = .approve) → rejected = false) :
    evaluateCg4Quorum requirement (votes.map toRecordedApproval) rejected now =
        quorumOf requirement votes now ↔
      ∀ vote ∈ votes, vote.decision = .approve := by
  have kept : ((votes.filter fun vote => vote.decision == .approve).map
      VoteRow.approverRef).Nodup :=
    distinct.sublist (filter_sublist.map VoteRow.approverRef)
  constructor
  · intro same
    have counts := congrArg QuorumEvaluation.current same
    rw [quorumOf, evaluateCg4Quorum_current (by rwa [recorded_subjects]),
      evaluateCg4Quorum_current (by rwa [recorded_subjects]), length_map,
      length_map] at counts
    intro vote mem
    have every := length_filter_eq_length_iff.mp counts.symm vote mem
    simpa using every
  · intro approve
    have all : votes.filter (fun vote => vote.decision == .approve) = votes := by
      rw [filter_eq_self]
      intro vote mem
      simp [approve vote mem]
    have none : votes.any (fun vote => vote.decision == .reject) = false := by
      rw [any_eq_false]
      intro vote mem
      simp [approve vote mem]
    rw [quorumOf, all, none, current approve]

/-- The status agrees with the law unless an earlier rejection is forgotten. -/
theorem evaluateAll_status_iff {earlier : List VoteRow} {vote : VoteRow}
    (distinct : ((earlier ++ [vote]).map VoteRow.approverRef).Nodup) :
    (evaluateCg4Quorum requirement ((earlier ++ [vote]).map toRecordedApproval)
        (decide (vote.decision = .reject)) now).status =
        (quorumOf requirement (earlier ++ [vote]) now).status ↔
      (∀ other ∈ earlier, other.decision = .approve) ∨ vote.decision = .reject := by
  by_cases rejects : vote.decision = .reject
  · have left : (evaluateCg4Quorum requirement ((earlier ++ [vote]).map toRecordedApproval)
        (decide (vote.decision = .reject)) now).status = .rejected :=
      evaluateCg4Quorum_rejected_iff.mpr (by simp [rejects])
    have right : (quorumOf requirement (earlier ++ [vote]) now).status = .rejected :=
      evaluateCg4Quorum_rejected_iff.mpr (by simp [rejects])
    exact ⟨fun _ => .inr rejects, fun _ => left.trans right.symm⟩
  · have approves := decision_ne_reject.mp rejects
    constructor
    · intro same
      left
      intro other mem
      -- the code's status is not rejected, so the law's is not either
      have clear : (quorumOf requirement (earlier ++ [vote]) now).status ≠ .rejected := by
        rw [← same]
        intro final
        exact rejects (by simpa using evaluateCg4Quorum_rejected_iff.mp final)
      by_contra refused
      apply clear
      refine evaluateCg4Quorum_rejected_iff.mpr (any_eq_true.mpr ⟨other, ?_, ?_⟩)
      · exact mem_append_left _ mem
      · cases held : other.decision with
        | approve => exact absurd held refused
        | reject => rfl
    · rintro (every | final)
      · have all : ∀ other ∈ earlier ++ [vote], other.decision = .approve := by
          intro other mem
          rcases mem_snoc.mp mem with before | rfl
          · exact every other before
          · exact approves
        rw [(evaluateAll_eq_quorumOf_iff distinct fun _ => by simp [rejects]).mpr all]
      · exact absurd final rejects

end Counting

def DistinctCheckers (votes : List VoteRow) : Prop :=
  ∀ target, ((votesOn votes target).map VoteRow.approverRef).Nodup

theorem votesOn_append (votes : List VoteRow) (vote : VoteRow) :
    votesOn (votes ++ [vote]) vote.target = votesOn votes vote.target ++ [vote] := by
  simp [votesOn]

variable {voteId : String} {result : ApprovalResult}

theorem recordVote_ok {votes recorded : List VoteRow} {input : VoteInput} {capability : Capability}
    {requirement : QuorumRequirement} {now : Instant}
    (ok : recordVote votes input capability requirement now voteId = .ok (recorded, result)) :
    ∃ vote, recorded = votes ++ [vote] ∧ vote.target = input.target ∧
      vote.decision = input.decision ∧
      (∀ other ∈ votesOn votes input.target, other.approverRef ≠ vote.approverRef) ∧
      result.quorum = evaluateCg4Quorum requirement
        ((votesOn votes input.target ++ [vote]).map toRecordedApproval)
        (decide (vote.decision = .reject)) now := by
  unfold recordVote at ok
  dsimp only at ok
  split at ok
  · cases ok
  next grant authorized =>
    cases ok
    refine ⟨_, rfl, rfl, rfl, ?_, ?_⟩
    · unfold assertCg4ApprovalAuthorization at authorized
      simp only [guard_ok_iff] at authorized
      intro other mem same
      apply authorized.2.1
      rw [any_map, any_eq_true]
      exact ⟨other, mem, by simpa [toRecordedApproval, voteOf] using same⟩
    · rw [map_append]
      rfl

theorem DistinctCheckers.append {votes : List VoteRow} {vote : VoteRow}
    (distinct : DistinctCheckers votes)
    (fresh : ∀ other ∈ votesOn votes vote.target, other.approverRef ≠ vote.approverRef) :
    DistinctCheckers (votes ++ [vote]) := by
  intro target
  by_cases same : vote.target = target
  · subst same
    rw [votesOn_append, map_append]
    refine nodup_append.mpr ⟨distinct vote.target, by simp, ?_⟩
    intro left hleft right hright
    obtain ⟨other, mem, rfl⟩ := mem_map.mp hleft
    simp only [map_cons, map_nil, mem_singleton] at hright
    exact hright ▸ fresh other mem
  · have unchanged : votesOn (votes ++ [vote]) target = votesOn votes target := by
      simp [votesOn, same]
    rw [unchanged]
    exact distinct target

structure VotesSound (store : ApprovalStore) : Prop where
  exceptions : DistinctCheckers store.exceptionVotes
  policies : DistinctCheckers store.policyVotes

variable {requestHash : ApprovalCommand → String} {store after : ApprovalStore}

theorem recordApproval_vote {command : ApprovalCommand} {now : Instant} (sound : VotesSound store)
    (fresh : findApprovalReceipt store command = none)
    (ok : recordApproval requestHash store command now voteId = .ok (after, result)) :
    VotesSound after ∧ ∃ requirement vote, requirementFor store command = .ok requirement ∧
      vote.decision = command.input.decision ∧
      after.votesFor command = store.votesFor command ++ [vote] ∧
      ((store.votesFor command ++ [vote]).map VoteRow.approverRef).Nodup ∧
      result.quorum = evaluateCg4Quorum requirement
        ((store.votesFor command ++ [vote]).map toRecordedApproval)
        (decide (vote.decision = .reject)) now := by
  unfold recordApproval at ok
  split at ok
  · cases ok
  · rw [fresh] at ok
    obtain ⟨⟨recorded, response⟩, records, ok⟩ := bind_ok ok
    cases ok
    cases command with
    | exception input =>
        obtain ⟨tier, found, records⟩ := bind_ok records
        obtain ⟨⟨votes, answered⟩, votesOk, records⟩ := bind_ok records
        cases records
        obtain ⟨vote, rfl, aimed, decision, unseen, quorum⟩ := recordVote_ok votesOk
        rw [← aimed] at unseen
        have grown := sound.exceptions.append unseen
        have listed := votesOn_append store.exceptionVotes vote
        refine ⟨⟨grown, sound.policies⟩, _, vote, ?_, decision, ?_, ?_, quorum⟩
        · simp only [requirementFor, found]
          rfl
        · rw [aimed] at listed
          exact listed
        · have nodup := grown vote.target
          rwa [listed, aimed] at nodup
    | policy input diffClass =>
        obtain ⟨_, found, records⟩ := bind_ok records
        obtain ⟨⟨votes, answered⟩, votesOk, records⟩ := bind_ok records
        cases records
        obtain ⟨vote, rfl, aimed, decision, unseen, quorum⟩ := recordVote_ok votesOk
        rw [← aimed] at unseen
        have grown := sound.policies.append unseen
        have listed := votesOn_append store.policyVotes vote
        refine ⟨⟨sound.exceptions, grown⟩, _, vote, rfl, decision, ?_, ?_, quorum⟩
        · rw [aimed] at listed
          exact listed
        · have nodup := grown vote.target
          rwa [listed, aimed] at nodup

/-- Votes, and changes of the revisions they are about by other commands. -/
inductive ApprovalStep where
  | record (command : ApprovalCommand) (now : Instant) (voteId : String)
  | revise (exceptionHeads : List ExceptionHeadRow) (exceptions : List ExceptionRevisionRow)
      (policies : List PolicyVersionRow)

def ApprovalStore.next (requestHash : ApprovalCommand → String) (store : ApprovalStore) :
    ApprovalStep → Option ApprovalStore
  | .record command now voteId =>
      match recordApproval requestHash store command now voteId with
      | .ok (after, _) => some after
      | .error _ => none
  | .revise exceptionHeads exceptions policies =>
      some { store with
        exceptionHeads := exceptionHeads, exceptions := exceptions, policies := policies }

def approvalSystem (requestHash : ApprovalCommand → String) : System ApprovalStore ApprovalStep :=
  System.ofNext (fun store => store.exceptionVotes = [] ∧ store.policyVotes = [])
    (ApprovalStore.next requestHash)

theorem VotesSound.next {step : ApprovalStep} (sound : VotesSound store)
    (taken : store.next requestHash step = some after) : VotesSound after := by
  cases step with
  | record command now voteId =>
      simp only [ApprovalStore.next] at taken
      split at taken
      next result ok =>
        cases taken
        cases seen : findApprovalReceipt store command with
        | none => exact (recordApproval_vote sound seen ok).1
        | some receipt =>
            unfold recordApproval at ok
            split at ok
            · cases ok
            · simp only [seen, guard_ok_iff] at ok
              cases ok.2
              exact sound
      next => cases taken
  | revise exceptionHeads exceptions policies =>
      cases taken
      exact ⟨sound.exceptions, sound.policies⟩

theorem votesSound_of_reachable (reachable : (approvalSystem requestHash).Reachable store) :
    VotesSound store := by
  refine reachable.invariant ?_ ?_
  · rintro start ⟨noExceptions, noPolicies⟩
    refine ⟨?_, ?_⟩
    · simp [DistinctCheckers, noExceptions, votesOn]
    · simp [DistinctCheckers, noPolicies, votesOn]
  · intro source step target sound taken
    exact sound.next taken

/-- After any run of votes, the evaluation which a new vote is answered with is the
one of the votes that approve, final once somebody has rejected, exactly when nobody
has rejected so far; and its status alone is right exactly when nobody has rejected
before, or this vote rejects. -/
theorem recordApproval_quorum_iff (requestHash : ApprovalCommand → String)
    (store after : ApprovalStore) (command : ApprovalCommand) (now : Instant) (voteId : String)
    (result : ApprovalResult) (reachable : (approvalSystem requestHash).Reachable store)
    (fresh : findApprovalReceipt store command = none)
    (ok : recordApproval requestHash store command now voteId = .ok (after, result)) :
    ∃ requirement, requirementFor store command = .ok requirement ∧
      (result.quorum = quorumOf requirement (after.votesFor command) now ↔
        ∀ vote ∈ after.votesFor command, vote.decision = .approve) ∧
      (result.quorum.status = (quorumOf requirement (after.votesFor command) now).status ↔
        (∀ vote ∈ store.votesFor command, vote.decision = .approve) ∨
          command.input.decision = .reject) := by
  obtain ⟨-, requirement, vote, required, decision, votes, distinct, quorum⟩ :=
    recordApproval_vote (votesSound_of_reachable reachable) fresh ok
  refine ⟨requirement, required, ?_, ?_⟩
  · rw [quorum, votes]
    refine evaluateAll_eq_quorumOf_iff distinct fun approve => ?_
    simp [approve vote (mem_append_right _ (mem_singleton_self vote))]
  · rw [quorum, votes, ← decision]
    exact evaluateAll_status_iff distinct

def complianceChecker (subjectId : String) : AuthorizationSubject where
  subjectId := subjectId
  capabilities := [⟨.exceptionApproveHigh, "scope", .direct, none, none⟩]
  directComplianceAuthority := true
  emergencyAuthority := false
  authorizationEpoch := 1
  scopeVersion := 1

def highVote (subjectId : String) (decision : ApprovalDecision) : ApprovalCommand :=
  .exception ⟨⟨"exception", 1⟩, "digest", decision, "evidence", "maker", "scope",
    complianceChecker subjectId, subjectId⟩

def highStore : ApprovalStore where
  exceptionHeads := [⟨"exception", 1, "revision"⟩]
  exceptions := [⟨"revision", "digest", .high⟩]
  policies := []
  exceptionVotes := []
  policyVotes := []
  receipts := []

def keyOf (command : ApprovalCommand) : String := command.input.idempotencyKey

/-- The store after votes at time 0, or the last store at which a vote was accepted. -/
def votedStore (commands : List ApprovalCommand) : ApprovalStore :=
  commands.foldl (fun store command =>
    (store.next keyOf (.record command 0 (keyOf command))).getD store) highStore

theorem votedStore_reachable (first : ApprovalDecision) :
    (approvalSystem keyOf).Reachable (votedStore [highVote "first" first]) := by
  have initial : (approvalSystem keyOf).Reachable highStore := .of_init ⟨rfl, rfl⟩
  cases first with
  | approve =>
      exact initial.step (show (approvalSystem keyOf).step highStore
        (.record (highVote "first" .approve) 0 "first") _ from rfl)
  | reject =>
      exact initial.step (show (approvalSystem keyOf).step highStore
        (.record (highVote "first" .reject) 0 "first") _ from rfl)

/-- Two approvals are answered as the law counts them. -/
theorem two_approvals_counted :
    ∃ result, recordApproval keyOf (votedStore [highVote "first" .approve])
        (highVote "second" .approve) 0 "second" =
          .ok (votedStore [highVote "first" .approve, highVote "second" .approve], result) ∧
      result.quorum = quorumOf (resolveCg4ExceptionQuorum .high)
        ((votedStore [highVote "first" .approve, highVote "second" .approve]).votesFor
          (highVote "second" .approve)) 0 := by
  refine ⟨_, rfl, ?_⟩
  obtain ⟨requirement, required, whole, -⟩ := recordApproval_quorum_iff keyOf _ _
    (highVote "second" .approve) 0 "second" _ (votedStore_reachable .approve) rfl rfl
  cases required
  exact whole.mpr (by decide)

/-- An approval after a rejection is answered as a quorum of two, one of whom has
rejected. -/
theorem rejection_counted_as_approval :
    ∃ store after command result, (approvalSystem keyOf).Reachable store ∧
      findApprovalReceipt store command = none ∧
      recordApproval keyOf store command 0 "second" = .ok (after, result) ∧
      result.quorum = ⟨.met, 2, 2, ["first", "second"]⟩ ∧
      quorumOf (resolveCg4ExceptionQuorum .high) (after.votesFor command) 0 =
        ⟨.rejected, 2, 1, ["second"]⟩ :=
  ⟨votedStore [highVote "first" .reject], _, highVote "second" .approve, _,
    votedStore_reachable .reject, rfl, rfl, by decide, by decide⟩

end DContact.Governance

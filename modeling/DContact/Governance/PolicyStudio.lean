import DContact.Governance.PolicyLifecycle

/-!
# The policy studio as a transition system

Commands with their receipts, votes, the activation worker and the rollout freeze.
Each step is one transaction. What a step may do to the policy rows, the heads and the
jobs is said once, in the module on changes, and every later invariant is derived from
it.
-/

namespace DContact.Governance

open Lib

inductive LifecycleCommand where
  | createDraft (input : CreateDraftInput)
  | amendDraft (input : AmendDraftInput)
  | runTests (input : RunTestsInput)
  | submit (input : SubmitInput)
  | finalizeApproval (input : FinalizeApprovalInput)
  | publish (input : PublishInput)
  | activateDue (input : ActivateDueInput)
  | rollback (input : RollbackInput)
  | killSwitch (input : KillSwitchInput)

inductive LifecycleOperation where
  | draftCreate
  | draftAmend
  | test
  | submit
  | approve
  | publish
  | activate
  | rollback
  | killSwitch
  deriving DecidableEq

def LifecycleCommand.operation : LifecycleCommand → LifecycleOperation
  | .createDraft _ => .draftCreate
  | .amendDraft _ => .draftAmend
  | .runTests _ => .test
  | .submit _ => .submit
  | .finalizeApproval _ => .approve
  | .publish _ => .publish
  | .activateDue _ => .activate
  | .rollback _ => .rollback
  | .killSwitch _ => .killSwitch

def LifecycleCommand.idempotencyKey : LifecycleCommand → String
  | .createDraft input => input.idempotencyKey
  | .amendDraft input => input.idempotencyKey
  | .runTests input => input.idempotencyKey
  | .submit input => input.idempotencyKey
  | .finalizeApproval input => input.idempotencyKey
  | .publish input => input.idempotencyKey
  | .activateDue input => input.idempotencyKey
  | .rollback input => input.idempotencyKey
  | .killSwitch input => input.idempotencyKey

/-- The texts that must not be blank, with the names they are reported under. -/
def LifecycleCommand.requiredTexts (command : LifecycleCommand) : List (String × String) :=
  let key := ("idempotencyKey", command.idempotencyKey)
  match command with
  | .createDraft input => [("scopeKey", input.scopeKey), ("evidenceRef", input.evidenceRef), key]
  | .amendDraft input => [("policyId", input.policyId), key]
  | .activateDue input => [key, ("leaseOwner", input.leaseOwner)]
  | .rollback input => [key, ("reasonCode", input.reasonCode)]
  | .killSwitch input => [("scopeKey", input.scopeKey), ("reasonCode", input.reasonCode), key]
  | _ => [key]

def LifecycleCommand.timestamps : LifecycleCommand → List (String × Option Instant)
  | .createDraft input => [("occurredAt", input.occurredAt), ("effectiveFrom", input.effectiveFrom)]
  | .amendDraft input => [("occurredAt", input.occurredAt)]
  | .runTests input => [("occurredAt", input.occurredAt)]
  | .submit input => [("occurredAt", input.occurredAt)]
  | .finalizeApproval input => [("occurredAt", input.occurredAt), ("activateAt", input.activateAt)]
  | .publish input => [("occurredAt", input.occurredAt)]
  | .activateDue input => [("occurredAt", input.occurredAt)]
  | .rollback input => [("occurredAt", input.occurredAt)]
  | .killSwitch input => [("occurredAt", input.occurredAt)]

/-- What a command checks before its transaction begins. -/
def validate (engine : PolicyEngine) (command : LifecycleCommand) : Except LifecycleError Unit :=
  match command.requiredTexts.find? fun entry => Text.isBlank entry.2 with
  | some entry => .error (.textBlank entry.1)
  | none =>
      match command.timestamps.find? fun entry => entry.2.isNone with
      | some entry => .error (.timestampInvalid entry.1)
      | none =>
          match command with
          | .createDraft input =>
              (onContent (compileCg4Policy engine.zones input.content 1)).map fun _ => ()
          | .amendDraft input =>
              (onContent (compileCg4Policy engine.zones input.content input.version)).map fun _ => ()
          | _ => .ok ()

structure LifecycleReceipt where
  operation : LifecycleOperation
  idempotencyKey : String
  requestHash : String
  response : LifecycleResponse

/-- The store of one tenant together with the receipts of the commands on it. -/
structure PolicyStudio where
  store : PolicyStore
  receipts : List LifecycleReceipt
  approvalReceipts : List ApprovalReceipt

/-- The caller's parts of the studio: the engine, the digests of requests, and the
settings of the activation worker. -/
structure StudioOptions where
  engine : PolicyEngine
  requestHash : LifecycleCommand → String
  voteHash : ApprovalCommand → String
  leaseSeconds : Nat
  maxAttempts : Nat
  backoffMs : Nat → Nat

/-- `Math.min(2 ** attempts * 1_000, 300_000)`. -/
def defaultBackoffMs (attempts : Nat) : Nat := min (2 ^ attempts * 1000) 300000

def handle (engine : PolicyEngine) (store : PolicyStore) (command : LifecycleCommand)
    (now : Instant) (ids : NewIds) : Except LifecycleError (PolicyStore × LifecycleResponse) :=
  match command with
  | .createDraft input => (createDraft engine store input now ids).map (Prod.map id .draft)
  | .amendDraft input => (amendDraft engine store input now).map (Prod.map id .draft)
  | .runTests input =>
      (runTests engine store input now ids).map
        (Prod.map id fun preview => .test ids.rowId preview.artifactDigest preview.diffClass)
  | .submit input => (submit engine store input now).map (Prod.map id .draft)
  | .finalizeApproval input => (finalizeApproval engine store input now).map (Prod.map id .draft)
  | .publish input => (publish engine store input now ids).map (Prod.map id .publish)
  | .activateDue input => (activateDue engine store input now).map (Prod.map id .publish)
  | .rollback input => (rollback engine store input now ids).map (Prod.map id .draft)
  | .killSwitch input =>
      (killSwitch store input now ids).map
        (Prod.map id fun killSwitchId => .killSwitch killSwitchId input.scopeKey input.activate)

def findLifecycleReceipt (studio : PolicyStudio) (command : LifecycleCommand) :
    Option LifecycleReceipt :=
  studio.receipts.find? fun receipt =>
    decide (receipt.operation = command.operation) &&
      receipt.idempotencyKey == command.idempotencyKey

/-- One command in its transaction; a replay is answered from its receipt. -/
def perform (options : StudioOptions) (studio : PolicyStudio) (command : LifecycleCommand)
    (now : Instant) (ids : NewIds) : Except LifecycleError (PolicyStudio × LifecycleResponse) := do
  validate options.engine command
  match findLifecycleReceipt studio command with
  | some receipt =>
      ensure (receipt.requestHash = options.requestHash command)
        (.idempotencyConflict command.idempotencyKey)
      .ok (studio, receipt.response)
  | none =>
      let (store, response) ← handle options.engine studio.store command now ids
      .ok ({ studio with
          store := store
          receipts := studio.receipts ++
            [⟨command.operation, command.idempotencyKey, options.requestHash command, response⟩] },
        response)

def PolicyStudio.approvalStore (studio : PolicyStudio) : ApprovalStore where
  exceptionHeads := []
  exceptions := []
  policies := studio.store.policies.map fun row => ⟨row.policyId, row.version, row.contentDigest⟩
  exceptionVotes := []
  policyVotes := studio.store.votes
  receipts := studio.approvalReceipts

def castVote (options : StudioOptions) (studio : PolicyStudio) (input : VoteInput)
    (diffClass : DiffClass) (now : Instant) (voteId : String) : Option PolicyStudio :=
  match recordApproval options.voteHash studio.approvalStore (.policy input diffClass) now voteId with
  | .error _ => none
  | .ok (recorded, _) =>
      some { studio with
        store := { studio.store with votes := recorded.policyVotes }
        approvalReceipts := recorded.receipts }

def PolicyStudio.updateJob (studio : PolicyStudio) (jobId : String) (rewrite : JobRow → JobRow) :
    PolicyStudio :=
  { studio with
    store := { studio.store with jobs := Table.update JobRow.id jobId rewrite studio.store.jobs } }

def claimJob (options : StudioOptions) (studio : PolicyStudio) (jobId leaseOwner : String)
    (now : Instant) : Option PolicyStudio :=
  match studio.store.jobs.find? fun job => job.id == jobId with
  | none => none
  | some job =>
      if job.isOpen && decide (job.scheduledFor ≤ now) &&
          (job.leaseExpiresAt.all fun expiresAt => decide (expiresAt ≤ now)) then
        some (studio.updateJob jobId fun current =>
          { current with
            state := .claimed
            leaseOwner := some leaseOwner
            leaseExpiresAt := some (now + options.leaseSeconds * 1000) })
      else none

/-- The activation that a worker asks for. -/
def activationOf (job : JobRow) (leaseOwner : String) (now : Instant) : LifecycleCommand :=
  .activateDue ⟨job.policyId, job.policyVersion, leaseOwner, some now, "cg4-activation:" ++ job.id⟩

/-- A failed attempt parks the job or puts its due time off by the backoff. -/
def failJob (options : StudioOptions) (attempts : Nat) (now : Instant) (job : JobRow) : JobRow :=
  if job.state ≠ .claimed then job
  else if options.maxAttempts ≤ attempts then
    { job with state := .failed, attempts := attempts, leaseOwner := none, leaseExpiresAt := none }
  else
    { job with
      state := .pending
      attempts := attempts
      leaseOwner := none
      leaseExpiresAt := none
      scheduledFor := now + options.backoffMs attempts }

/-- The worker's attempt on a job it has claimed when `attempts` had been made. -/
def attemptJob (options : StudioOptions) (studio : PolicyStudio) (jobId leaseOwner : String)
    (attempts : Nat) (now : Instant) (ids : NewIds) : Option PolicyStudio :=
  match studio.store.jobs.find? fun job => job.id == jobId with
  | none => none
  | some job =>
      match perform options studio (activationOf job leaseOwner now) now ids with
      | .ok (after, _) => some after
      | .error _ => some (studio.updateJob jobId (failJob options (attempts + 1) now))

inductive StudioStep where
  | command (command : LifecycleCommand) (now : Instant) (ids : NewIds)
  | vote (input : VoteInput) (diffClass : DiffClass) (now : Instant) (voteId : String)
  | claim (jobId leaseOwner : String) (now : Instant)
  | attempt (jobId leaseOwner : String) (attempts : Nat) (now : Instant) (ids : NewIds)
  | freeze (frozen : Bool)

def PolicyStudio.next (options : StudioOptions) (studio : PolicyStudio) :
    StudioStep → Option PolicyStudio
  | .command command now ids =>
      match perform options studio command now ids with
      | .ok (after, _) => some after
      | .error _ => none
  | .vote input diffClass now voteId => castVote options studio input diffClass now voteId
  | .claim jobId leaseOwner now => claimJob options studio jobId leaseOwner now
  | .attempt jobId leaseOwner attempts now ids =>
      attemptJob options studio jobId leaseOwner attempts now ids
  | .freeze frozen => some { studio with store := { studio.store with mutationFrozen := frozen } }

def PolicyStudio.empty : PolicyStudio := ⟨.empty, [], []⟩

/-- Every run of a tenant begins without policies. -/
def studioSystem (options : StudioOptions) : System PolicyStudio StudioStep :=
  System.ofNext (fun studio => studio = .empty) (PolicyStudio.next options)

end DContact.Governance

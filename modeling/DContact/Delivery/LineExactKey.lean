import DContact.Delivery.LinePushes

/-!
# One key, and no more attempts than allowed

Whatever the workers do, a delivery is pushed under one key and with the same messages, and never
before the barrier. How often it is pushed hangs on the numbers of its attempts: the number of an
attempt is counted from the receipts, and a worker that has pushed and not recorded leaves its number
to the next one.
-/

namespace DContact.Delivery

open Lib List Workers
open Governance (Instant)

def pushesOf (world : LineWorld) (deliveryId : String) : List (LinePushOccasion × LinePushRequest) :=
  (world.journal.filterMap push?).filter fun push => push.1.deliveryId = deliveryId

/-- Every push of a delivery carries one key and the same messages, and comes after governance has
accepted that key and the entry has left the queue. -/
structure PushedUnderOneKey (world : LineWorld) : Prop where
  same : ∀ deliveryId, ∀ left ∈ pushesOf world deliveryId, ∀ right ∈ pushesOf world deliveryId,
    left.2.retryKey = right.2.retryKey ∧ left.2.messages = right.2.messages
  barred : Follows (fun earlier step => ∀ occasion request,
    push? step = some (occasion, request) →
      (∃ begun ∈ earlier, accepts occasion.deliveryId request.retryKey begun = true) ∧
        ∃ left ∈ earlier, leavesQueue occasion.deliveryId left = true) world.journal

def PushedWithinAttempts (world : LineWorld) : Prop :=
  ∀ deliveryId, ∀ push ∈ pushesOf world deliveryId, ∃ run,
    world.store.control.findRun push.1.runAuthorizationId = some run ∧
      (pushesOf world deliveryId).length ≤ run.capProviderAttempts

def numbersOnce (workers : LineWorkers) (step : LineStep) : Bool :=
  match workers.requestOf step with
  | some (_, .push occasion _) =>
      (pushesOf workers.world occasion.deliveryId).all fun earlier =>
        earlier.1.attemptNo ≠ occasion.attemptNo
  | _ => true

section Runs

variable {host : LineHost} {digest : LineRunProposalDigestInput → String} {world : LineWorld}
  {workers : LineWorkers} {deliveryId : String} {push : LinePushOccasion × LinePushRequest}

theorem lineInv_of_reachable (reachable : (lineDeliveries host digest).Reachable workers) :
    LineInv host False workers.world := by
  have governs : (lineDiscipline host digest False).Governs (LineStore.Fresh host)
      fun _ _ => True := lineGoverns False.elim
  exact (governs.supervised (reachable.restrict fun _ _ => trivial)).inv

variable {bound : Prop}

/-- Whatever stands behind the pushes of a delivery. -/
theorem LineInv.pushedOf (inv : LineInv host bound world) (mem : push ∈ pushesOf world deliveryId) :
    push.1.deliveryId = deliveryId ∧ ∃ earlier pid,
      Pushed host bound world.store earlier pid push.1 push.2 := by
  obtain ⟨listed, named⟩ := mem_filter.mp mem
  obtain ⟨step, present, pushes⟩ := mem_filterMap.mp listed
  obtain ⟨earlier, later, split⟩ := append_of_mem present
  exact ⟨of_decide_eq_true named, earlier, step.pid,
    inv.pushed earlier step later split push.1 push.2 pushes⟩

theorem LineInv.pushedUnderOneKey (inv : LineInv host bound world) :
    PushedUnderOneKey world where
  same := by
    intro deliveryId left leftMember right rightMember
    obtain ⟨named, _, _, pushed⟩ := inv.pushedOf leftMember
    obtain ⟨named', _, _, pushed'⟩ := inv.pushedOf rightMember
    obtain ⟨entry, content, known, -, key, fixture, messages, -⟩ := pushed.entry
    obtain ⟨entry', content', known', -, key', fixture', messages', -⟩ := pushed'.entry
    rw [named] at known
    rw [named', known] at known'
    cases known'
    rw [fixture] at fixture'
    cases fixture'
    exact ⟨key.trans key'.symm, messages.trans messages'.symm⟩
  barred := inv.pushed.mono fun _ _ holds occasion request pushes =>
    ⟨(holds occasion request pushes).accepted, (holds occasion request pushes).left⟩

theorem pushesOf_performing {pid : Nat} {request : LineRequest}
    {reply : Except LineError request.Reply} {store : LineStore} :
    pushesOf (world.performing pid request reply store) deliveryId =
      pushesOf world deliveryId ++
        (push? ⟨pid, request, reply⟩).toList.filter fun push => push.1.deliveryId = deliveryId := by
  simp only [pushesOf, World.performing, filterMap_append, filter_append]
  cases found : push? ⟨pid, request, reply⟩ <;> simp [found]

def NumberedOnce (workers : LineWorkers) : Prop :=
  ∀ deliveryId, ((pushesOf workers.world deliveryId).map fun push => push.1.attemptNo).Nodup

theorem NumberedOnce.next {step : LineStep} {after : LineWorkers} (numbered : NumberedOnce workers)
    (guarded : numbersOnce workers step = true)
    (taken : workers.next (lineMachine host digest) step = some after) : NumberedOnce after := by
  cases step with
  | start call =>
      cases taken
      exact numbered
  | elsewhere label =>
      obtain ⟨store, -, rfl⟩ := Option.map_eq_some_iff.mp taken
      exact numbered
  | perform pid tick =>
      simp only [Workers.next] at taken
      split at taken
      next request rest running =>
        obtain ⟨answer, -, rfl⟩ := Option.map_eq_some_iff.mp taken
        intro deliveryId
        rw [put_world, pushesOf_performing, map_append]
        cases request with
        | push occasion asked =>
            simp only [numbersOnce, requestOf, running, all_eq_true, decide_eq_true_eq] at guarded
            by_cases own : occasion.deliveryId = deliveryId
            · subst own
              simp only [push?, Option.toList_some, decide_true, filter_cons_of_pos,
                filter_nil, map_cons, map_nil]
              refine List.Nodup.append (numbered _) (nodup_singleton _) ?_
              rw [disjoint_singleton]
              intro known
              obtain ⟨earlier, mem, same⟩ := mem_map.mp known
              exact guarded earlier mem same
            · simpa [push?, own] using numbered deliveryId
        | _ => simpa [push?] using numbered deliveryId
      next => cases taken
  | _ =>
      simp only [Workers.next] at taken
      split at taken
      · cases taken
        exact numbered
      · cases taken

theorem numberedOnce_of_reachable
    (reachable : ((lineDeliveries host digest).restrict fun workers step =>
      numbersOnce workers step = true).Reachable workers) : NumberedOnce workers := by
  refine reachable.invariant ?_ ?_
  · rintro _ ⟨store, -, rfl⟩ deliveryId
    simp [pushesOf, idle]
  · intro source step target numbered taken
    exact numbered.next taken.1 taken.2

/-- Attempts that are numbered apart are no more than the units that were reserved for them. -/
theorem LineInv.pushes_le (inv : LineInv host bound workers.world) (numbered : NumberedOnce workers) :
    (pushesOf workers.world deliveryId).length ≤
      attemptsOf deliveryId workers.world.store.control.ledger := by
  have within : (pushesOf workers.world deliveryId).map (fun push => push.1.attemptNo) ⊆
      (workers.world.store.control.ledger.filter fun row =>
        row.capKind = .providerAttempt && row.deliveryId = deliveryId).map
          DlLineCapLedgerEntry.attemptNo := by
    intro number known
    obtain ⟨push, mem, rfl⟩ := mem_map.mp known
    obtain ⟨named, _, _, pushed⟩ := inv.pushedOf mem
    obtain ⟨row, present, key, -⟩ := pushed.unit
    simp only [DlLineCapLedgerEntry.key, Prod.mk.injEq] at key
    refine mem_map.mpr ⟨row, mem_filter.mpr ⟨present, ?_⟩, key.2.2⟩
    simp [key.1, key.2.1, named]
  have fits := (subperm_of_subset (numbered deliveryId) within).length_le
  rwa [length_map, length_map, ← countP_eq_length_filter] at fits

/-- In every run the pushes of a delivery carry one key and the same messages, behind the barrier; in
every run that uses no number twice, they are no more than the run allows. -/
theorem line_submits_under_one_key (host : LineHost) (digest : LineRunProposalDigestInput → String) :
    (∀ workers : LineWorkers, (lineDeliveries host digest).Reachable workers →
      PushedUnderOneKey workers.world) ∧
    ∀ workers : LineWorkers, ((lineDeliveries host digest).restrict fun workers step =>
      numbersOnce workers step = true).Reachable workers → PushedWithinAttempts workers.world := by
  refine ⟨fun workers reachable => (lineInv_of_reachable reachable).pushedUnderOneKey, ?_⟩
  intro workers reachable deliveryId push mem
  have inv := lineInv_of_reachable reachable.of_restrict
  obtain ⟨-, _, _, pushed⟩ := inv.pushedOf mem
  obtain ⟨row, present, key, runId, -⟩ := pushed.unit
  have unit := inv.attempts row present (congrArg (fun key => key.2.1) key)
  obtain ⟨run, found, -, most⟩ := unit.run
  refine ⟨run, runId ▸ found, ?_⟩
  have named : row.deliveryId = deliveryId :=
    (congrArg Prod.fst key).trans (inv.pushedOf mem).1
  exact Nat.le_trans (inv.pushes_le (numberedOnce_of_reachable reachable)) (named ▸ most)

end Runs

namespace Pilot

def host : LineHost where
  tenantId := "tenant"
  runtime := Governance.lineOptions
  actor := ⟨.platformOperator, "operator"⟩
  configDigest := "config"
  content ref := if ref = "content" then some ⟨"content", 1, ["hello"], "digest"⟩ else none
  payloadDigest _ _ := "payload"
  deriveLineRetryKey _ _ := "request"

def digest (_ : LineRunProposalDigestInput) : String := "proposal"

def scope : LineGateScope := ⟨"channel", "line-oa", "MARKETING", "CUSTOMER"⟩

def operator : LineControlActor := ⟨.platformOperator, "operator"⟩

def tenantAdmin : LineControlActor := ⟨.tenantAdmin, "admin"⟩

def compliance : LineControlActor := ⟨.compliance, "compliance"⟩

/-- The gate as a caller has read it. -/
def gate (state : LineRolloutState) (configDigest : Option String) (version : Nat) :
    DlLineScopeGate where
  id := "gate"
  killed := false
  scope := scope
  businessState := state
  technicalSwitchOn := false
  configDigest := configDigest
  version := version
  killReason := none
  killedAt := none
  killClearedRef := none

def listed : RegisterLineAllowlistCommand :=
  ⟨"gate", scope, "fingerprint", "recipient", "content", "digest", "config", 0, 1000⟩

def allowlistEntry : DlLineAllowlistEntry :=
  ⟨"entry", "gate", "fingerprint", "recipient", "content", "digest", "config", 0, 1000, none⟩

def credential : DlLineCredentialRef :=
  ⟨"credential", "channel", .channelAccessTokenV21, 1, .active, none⟩

def proposal (attempts : Nat) : ProposeLineRunCommand :=
  ⟨gate .cappedPilot (some "config") 5, allowlistEntry, credential, "pilot", 10, some attempts⟩

/-- The delivery as it is queued. -/
def entry : DlOutboxEntry where
  id := "entry"
  command :=
    { tenantId := "tenant"
      source := "JOURNEY"
      actionKey := "action"
      reservationId := "reservation"
      channel := .line
      contactId := "contact"
      identityId := none
      contentRef := "content"
      correlationId := "correlation"
      causationId := none
      purpose := "MARKETING"
      senderIdentityId := "line-oa"
      leaseExpiresAt := 50 }
  deliveryId := "delivery"
  providerRequestKey := "request"
  adapter := .lineMessagingApi
  inputHash := "input"
  leaseVersion := 1
  state := .queued
  submittedAt := none
  settledAt := none
  outcome := none
  outcomeRef := none

def store : LineStore := ⟨[], [], [], ⟨[], [], [], [], []⟩, Governance.lineStore⟩

theorem store_fresh : store.Fresh host := by
  refine ⟨rfl, rfl, rfl, rfl, ⟨by decide, ?_⟩, rfl⟩
  intro row mem
  rw [mem_singleton.mp mem]
  exact ⟨rfl, rfl, rfl, rfl, rfl, rfl, rfl⟩

/-- What a request of the sample is answered; the provider does not answer in time. -/
def tick (id : String) : LineTick := ⟨10, id, "attempt", "touch", some "user", some "token", .timeout⟩

/-- The next requests of a worker, each with an identifier for what it creates. -/
def requests (pid : Nat) (ids : List String) : List LineStep :=
  ids.map fun id => .perform pid (tick id)

/-- A gate that is open, with an entry, a credential and a run that two others have approved. -/
def approved (attempts : Nat) : List LineStep :=
  [.start (.ensureScope operator scope)] ++ requests 0 ["gate", "gate"] ++
  [.start (.advanceState compliance (gate .disabled none 1) .dryRun none)] ++ requests 1 [""] ++
  [.start (.advanceState compliance (gate .dryRun none 2) .providerConformance (some "config"))] ++
  requests 2 [""] ++
  [.start (.advanceState compliance (gate .providerConformance (some "config") 3) .cappedPilot none)] ++
  requests 3 [""] ++
  [.start (.setTechnicalSwitch operator (gate .cappedPilot (some "config") 4) true)] ++
  requests 4 [""] ++
  [.start (.registerAllowlistEntry tenantAdmin listed)] ++ requests 5 ["entry", "entry"] ++
  [.start (.registerCredential operator ⟨"channel", .channelAccessTokenV21, 1, none⟩)] ++
  requests 6 ["credential", "credential"] ++
  [.start (.verifyAndActivateCredential operator "credential" "channel" 10)] ++
  requests 7 ["", ""] ++
  [.start (.proposeRun operator (proposal attempts))] ++ requests 8 ["run", "run"] ++
  [.start (.approveRun tenantAdmin "run" 10)] ++ requests 9 ["", ""] ++
  [.start (.approveRun compliance "run" 10)] ++ requests 10 ["", ""]

def queued : List LineStep :=
  [.elsewhere (.runtime (Governance.lineStep Governance.lineClaim)), .elsewhere (.enqueued entry)]

def command (recipientProtectedRef : String) : LineSubmitCommand :=
  ⟨"delivery", scope, "run", "fingerprint", recipientProtectedRef, "correlation",
    some ⟨false, none, 0, 10⟩⟩

/-- A first worker is about to push. -/
def beforePush (attempts : Nat) (recipientProtectedRef : String) : List LineStep :=
  approved attempts ++ queued ++ [.start (.submit (command recipientProtectedRef))] ++
    requests 11 (List.replicate 9 "a" ++ List.replicate 2 "b" ++ List.replicate 16 "c")

/-- A second worker is about to push, after the first has stopped and not recorded its attempt. -/
def beforeRepeat (attempts : Nat) : List LineStep :=
  beforePush attempts "recipient" ++ [.perform 11 (tick "c"), .crash 11,
    .start (.reconcile (command "recipient"))] ++ requests 12 (List.replicate 17 "d")

end Pilot

open Pilot in
theorem line_submits_for_sample : ∃ workers : LineWorkers,
    (pushesOf workers.world "delivery").length = 1 ∧ PushedUnderOneKey workers.world ∧
      PushedWithinAttempts workers.world := by
  have ends : System.endsWith (System.guardNext numbersOnce (next (lineMachine host digest)))
      (idle store) (beforePush 1 "recipient") (.perform 11 (tick "c"))
      (fun _ after => (pushesOf after.world "delivery").length = 1) = true := by
    decide +kernel
  obtain ⟨before, workers, reachable, last, once⟩ := endsWithGuarded store_fresh ends
  have both := line_submits_under_one_key host digest
  have reached := reachable.step last
  exact ⟨workers, of_decide_eq_true once, both.1 workers reached.of_restrict, both.2 workers reached⟩

open Pilot in
/-- A worker has pushed the only attempt that the run allows and stopped. Nothing is recorded, so the
next one counts no attempt, is answered with the attempt that is reserved already, and pushes again. -/
theorem unrecorded_attempt_is_repeated :
    ¬ ∀ (host : LineHost) (digest : LineRunProposalDigestInput → String) (workers : LineWorkers),
      (lineDeliveries host digest).Reachable workers →
      PushedUnderOneKey workers.world ∧ PushedWithinAttempts workers.world := by
  intro claimed
  have ends : System.endsWith (next (lineMachine host digest)) (idle store)
      (beforeRepeat 1) (.perform 12 (tick "d"))
      (fun _ after => (pushesOf after.world "delivery").length = 2 &&
        (pushesOf after.world "delivery").all (fun push => push.1.runAuthorizationId = "run") &&
        (after.world.store.control.findRun "run").all fun run => run.capProviderAttempts = 1) =
        true := by
    decide +kernel
  obtain ⟨before, workers, reachable, last, test⟩ := endsWith store_fresh ends
  simp only [Bool.and_eq_true, decide_eq_true_eq, all_eq_true] at test
  obtain ⟨⟨twice, under⟩, allowed⟩ := test
  have within := (claimed host digest workers (reachable.step last)).2
  obtain ⟨push, mem⟩ := exists_mem_of_length_pos (Nat.lt_of_lt_of_eq Nat.two_pos twice.symm)
  obtain ⟨run, found, most⟩ := within "delivery" push mem
  rw [under push mem] at found
  rw [found, Option.all_some, decide_eq_true_eq] at allowed
  rw [twice, allowed] at most
  exact absurd most (by decide)

end DContact.Delivery

import DContact.Delivery.CapTransactions

/-!
# The caps hold in every window

A row that is added was counted against all the rows that share a window with it, whenever they were
reserved. So the caps hold over every day, and not only over the one that ends with the latest
reservation.
-/

namespace DContact.Delivery

open Lib List DlLineCapLedgerEntry LineCapLimit
open Governance (Instant)

def DlLineCapLedgerEntry.spends (entry : DlLineCapLedgerEntry) (gateId : String)
    (capKind : LineCapKind) : Bool :=
  entry.gateId = gateId && entry.capKind = capKind && entry.counted

def DlLineCapLedgerEntry.holds (entry : DlLineCapLedgerEntry) (gateId : String)
    (capKind : LineCapKind) : Bool :=
  entry.gateId = gateId && entry.capKind = capKind && entry.state = .reserved

def DlLineCapLedgerEntry.within (entry : DlLineCapLedgerEntry) (start : Instant) : Bool :=
  start ≤ entry.reservedAt && entry.reservedAt ≤ start + dayMs

def CapHost.caps (host : CapHost) (gateId : String) : LineDeliveryCaps :=
  (host.deliveryCaps gateId).getD linePilotDeliveryCaps

def CapHost.attempts (host : CapHost) (deliveryId : String) : Nat :=
  min ((host.runCapProviderAttempts deliveryId).getD providerAttemptsPerLogicalDelivery)
    providerAttemptsPerLogicalDelivery

structure CapsKept (host : CapHost) (ledger : List DlLineCapLedgerEntry) : Prop where
  per24h : ∀ gateId start,
    ledger.countP (fun entry => entry.spends gateId .logicalDelivery && entry.within start) ≤
      (host.caps gateId).per24h
  perRecipientPer24h : ∀ gateId recipientFingerprint start,
    ledger.countP (fun entry => entry.spends gateId .logicalDelivery && entry.within start &&
        entry.recipientFingerprint = recipientFingerprint) ≤
      (host.caps gateId).perRecipientPer24h
  perRun : ∀ gateId runAuthorizationId,
    ledger.countP (fun entry => entry.spends gateId .logicalDelivery &&
        entry.runAuthorizationId = runAuthorizationId) ≤
      (host.caps gateId).perRun
  lifetime : ∀ gateId,
    ledger.countP (fun entry => entry.spends gateId .logicalDelivery) ≤ (host.caps gateId).lifetime
  attempts : ∀ gateId deliveryId,
    ledger.countP (fun entry => entry.spends gateId .providerAttempt &&
        entry.deliveryId = deliveryId) ≤
      host.attempts deliveryId
  submissions : ∀ gateId,
    ledger.countP (fun entry => entry.holds gateId .concurrentSubmission) ≤ concurrentSubmissions
  unknown : ∀ gateId,
    ledger.countP (fun entry => entry.holds gateId .concurrentUnknown) ≤
      concurrentUnknownReconciling

structure GrowsOpenly (before after : CapWorld) : Prop where
  replayed : ∀ request entry, after.answered = before.answered ++ [(request, .ok (.reserved entry true))] →
    entry ∈ before.ledger ∧ after.ledger = before.ledger
  added : ∀ entry ∈ after.ledger, entry.key ∉ before.ledger.map DlLineCapLedgerEntry.key →
    (before.gate entry.gateId).map GateLatch.killed = some false

section Steps

variable {host : CapHost} {before after : CapWorld}

/-- A step leaves the ledger and may answer, settles rows, or adds a row that all its limits had
room for. -/
inductive Moved (host : CapHost) (before after : CapWorld) : Prop where
  | silent (ledger : after.ledger = before.ledger) (answered : after.answered = before.answered)
  | answered (request : ReserveRequest) (answer : CapAnswer)
      (ledger : after.ledger = before.ledger)
      (answered : after.answered = before.answered ++ [(request, answer)])
      (known : ∀ entry, answer = .ok (.reserved entry true) → entry ∈ before.ledger)
  | settled (rewrite : DlLineCapLedgerEntry → DlLineCapLedgerEntry)
      (fades : ∀ entry, Fades entry (rewrite entry) ∧ (rewrite entry).key = entry.key)
      (ledger : after.ledger = before.ledger.map rewrite)
      (answered : after.answered = before.answered)
  | reserved (request : ReserveRequest)
      (isOpen : (before.gate request.gateId).map GateLatch.killed = some false)
      (room : ∀ limit ∈ (host.input request).limits,
        limit.used (host.input request) before.ledger < limit.max)
      (ledger : after.ledger = before.ledger ++ [(host.input request).entry])
      (answered : after.answered =
        before.answered ++ [(request, .ok (.reserved (host.input request).entry false))])

theorem replayed_ok {input : ReserveLineCapInput} {existing entry : DlLineCapLedgerEntry}
    {replay : Bool} (ok : replayed input existing = .ok (.reserved entry replay)) :
    entry = existing := by
  rw [replayed, guard_ok_iff] at ok
  cases ok.2
  rfl

theorem CapInv.moved {step : CapStep} (inv : CapInv host before)
    (taken : before.next host step = some after) : Moved host before after := by
  cases step with
  | lock pid request =>
      simp only [CapWorld.next] at taken
      split at taken
      next => cases taken
      split at taken <;> cases taken
      · exact .answered request _ rfl rfl (by simp)
      · exact .silent rfl rfl
  | look pid =>
      simp only [CapWorld.next] at taken
      split at taken
      next request killed _ =>
        split at taken
        next existing found =>
          cases taken
          refine .answered request _ rfl rfl fun entry ok => ?_
          rw [replayed_ok ok]
          exact Table.lookup_mem found
        next =>
          split at taken <;> cases taken
          · exact .answered request _ rfl rfl (by simp)
          · exact .silent rfl rfl
      next => cases taken
  | count pid =>
      simp only [CapWorld.next] at taken
      split at taken
      next request limit remaining _ =>
        split at taken <;> cases taken
        · exact .answered request _ rfl rfl (by simp)
        · exact .silent rfl rfl
      next => cases taken
  | insert pid =>
      simp only [CapWorld.next] at taken
      split at taken
      next request found =>
        split at taken
        next ledger ok =>
          cases taken
          obtain ⟨isOpen, passed⟩ := inv.informed _ (Session.find_mem found)
          refine .reserved request isOpen (fun limit mem => ?_) (insertReserved_ok ok) rfl
          exact (passed limit mem).resolve_left not_mem_nil
        next =>
          cases taken
          exact .answered request _ rfl rfl (by simp)
      next => cases taken
  | abort pid =>
      simp only [CapWorld.next] at taken
      split at taken
      next =>
        cases taken
        exact .silent rfl rfl
      next => cases taken
  | settle deliveryId capKind attemptNo settlement now =>
      simp only [CapWorld.next] at taken
      split at taken
      next settled ledger ok =>
        cases taken
        obtain ⟨rewrite, fades, same⟩ := settleCap_ok ok
        exact .settled rewrite fades same rfl
      next =>
        cases taken
        exact .silent rfl rfl
  | ensure gateId =>
      simp only [CapWorld.next] at taken
      split at taken <;> cases taken <;> exact .silent rfl rfl
  | latch gateId killed =>
      simp only [CapWorld.next] at taken
      split at taken
      next => cases taken
      cases taken
      exact .silent rfl rfl

theorem Moved.growsOpenly (moved : Moved host before after) : GrowsOpenly before after := by
  cases moved with
  | silent ledger answered =>
      refine ⟨fun request entry grown => ?_, fun entry mem fresh => ?_⟩
      · simp [answered] at grown
      · exact absurd (mem_map_of_mem (ledger ▸ mem)) fresh
  | answered request answer ledger answered known =>
      refine ⟨fun request' entry grown => ⟨?_, ledger⟩, fun entry mem fresh => ?_⟩
      · have same := append_cancel_left (answered.symm.trans grown)
        simp only [List.cons.injEq, Prod.mk.injEq, and_true] at same
        exact known entry same.2
      · exact absurd (mem_map_of_mem (ledger ▸ mem)) fresh
  | settled rewrite fades ledger answered =>
      refine ⟨fun request entry grown => ?_, fun entry mem fresh => ?_⟩
      · simp [answered] at grown
      · rw [ledger] at mem
        obtain ⟨earlier, present, rfl⟩ := mem_map.mp mem
        rw [(fades earlier).2] at fresh
        exact absurd (mem_map_of_mem present) fresh
  | reserved request isOpen room ledger answered =>
      refine ⟨fun request' entry grown => ?_, fun entry mem fresh => ?_⟩
      · have same := append_cancel_left (answered.symm.trans grown)
        simp at same
      · rw [ledger] at mem
        rcases mem_snoc.mp mem with old | rfl
        · exact absurd (mem_map_of_mem old) fresh
        · exact isOpen

/-- Rows any of which, when it is added, is counted by one limit with all the others. -/
structure Capped (host : CapHost) (group : DlLineCapLedgerEntry → Bool) (max : Nat) : Prop where
  fades : ∀ before after, Fades before after → group after = true → group before = true
  counted : ∀ request, group (host.input request).entry = true →
    ∃ limit ∈ (host.input request).limits, limit.max = max ∧
      ∀ entry, group entry = true → limit.counts (host.input request) entry = true

variable {group : DlLineCapLedgerEntry → Bool} {max : Nat}

theorem Capped.moved (capped : Capped host group max) (moved : Moved host before after)
    (kept : before.ledger.countP group ≤ max) : after.ledger.countP group ≤ max := by
  cases moved with
  | silent ledger _ => exact ledger ▸ kept
  | answered _ _ ledger _ _ => exact ledger ▸ kept
  | settled rewrite fades ledger _ =>
      rw [ledger]
      exact (countP_fades_le (fun entry => (fades entry).1) capped.fades).trans kept
  | reserved request _ room ledger _ =>
      rw [ledger, countP_append, countP_singleton]
      split
      next grouped =>
        obtain ⟨limit, mem, same, counted⟩ := capped.counted request grouped
        have fewer : before.ledger.countP group ≤ limit.used (host.input request) before.ledger :=
          countP_mono_left fun entry _ => counted entry
        have under := room limit mem
        omega
      next => exact kept

/-- The transactions know what they know, and the group is small. -/
structure CappedInv (host : CapHost) (group : DlLineCapLedgerEntry → Bool) (max : Nat)
    (world : CapWorld) : Prop where
  inv : CapInv host world
  kept : world.ledger.countP group ≤ max

theorem Capped.reachable {world : CapWorld} (capped : Capped host group max)
    (reachable : (capTransactions host).Reachable world) : world.ledger.countP group ≤ max := by
  have both : CappedInv host group max world := by
    refine reachable.invariant ?_ ?_
    · rintro world ⟨empty, idle, -⟩
      exact ⟨capInv_of_idle idle, by simp [empty]⟩
    · rintro before step after ⟨inv, kept⟩ taken
      exact ⟨inv.next taken, capped.moved (inv.moved taken) kept⟩
  exact both.kept

end Steps

variable {capKind : LineCapKind}

section Groups

variable {host : CapHost} {gateId : String}

theorem spends_fades {before after : DlLineCapLedgerEntry}
    (fades : Fades before after) (spends : after.spends gateId capKind = true) :
    before.spends gateId capKind = true := by
  simp only [DlLineCapLedgerEntry.spends, fades.gateId, fades.capKind, Bool.and_eq_true] at spends ⊢
  exact ⟨spends.1, fades.counted spends.2⟩

theorem holds_fades {before after : DlLineCapLedgerEntry}
    (fades : Fades before after) (holds : after.holds gateId capKind = true) :
    before.holds gateId capKind = true := by
  simp only [DlLineCapLedgerEntry.holds, fades.gateId, fades.capKind, Bool.and_eq_true,
    decide_eq_true_eq] at holds ⊢
  exact ⟨holds.1, fades.reserved holds.2⟩

variable {request : ReserveRequest}

/-- A unit is asked for at the gate, and is of the kind, that its row counts for. -/
theorem spends_input (spends : (host.input request).entry.spends gateId capKind = true) :
    request.gateId = gateId ∧ request.capKind = capKind := by
  simp only [DlLineCapLedgerEntry.spends, Bool.and_eq_true, decide_eq_true_eq] at spends
  exact spends.1

theorem holds_input (holds : (host.input request).entry.holds gateId capKind = true) :
    request.gateId = gateId ∧ request.capKind = capKind := by
  simp only [DlLineCapLedgerEntry.holds, Bool.and_eq_true, decide_eq_true_eq] at holds
  exact holds.1

theorem capped_per24h (start : Instant) :
    Capped host (fun entry => entry.spends gateId .logicalDelivery && entry.within start)
      (host.caps gateId).per24h where
  fades before after fades grouped := by
    simp only [Bool.and_eq_true, within, fades.reservedAt] at grouped ⊢
    exact ⟨spends_fades fades grouped.1, grouped.2⟩
  counted request grouped := by
    rw [Bool.and_eq_true] at grouped
    obtain ⟨spends, within⟩ := grouped
    obtain ⟨id, gate, run, delivery, kind, attempt, recipient, now⟩ := request
    obtain ⟨rfl, rfl⟩ := spends_input spends
    refine ⟨_, mem_of_getElem? (i := 2) rfl, rfl, fun entry grouped => ?_⟩
    simp only [DlLineCapLedgerEntry.spends, DlLineCapLedgerEntry.within, Bool.and_eq_true,
      decide_eq_true_eq] at within grouped
    obtain ⟨⟨same, counted⟩, late, -⟩ := grouped
    have since : now - dayMs ≤ entry.reservedAt :=
      Int.le_trans (Int.sub_right_le_of_le_add within.2) late
    simp [counts, CapHost.input, same, counted, since]

theorem capped_perRecipientPer24h (recipientFingerprint : String) (start : Instant) :
    Capped host (fun entry => entry.spends gateId .logicalDelivery && entry.within start &&
        entry.recipientFingerprint = recipientFingerprint)
      (host.caps gateId).perRecipientPer24h where
  fades before after fades grouped := by
    simp only [Bool.and_eq_true, within, fades.reservedAt, fades.recipientFingerprint] at grouped ⊢
    exact ⟨⟨spends_fades fades grouped.1.1, grouped.1.2⟩, grouped.2⟩
  counted request grouped := by
    rw [Bool.and_eq_true, Bool.and_eq_true, decide_eq_true_eq] at grouped
    obtain ⟨⟨spends, within⟩, recipient⟩ := grouped
    obtain ⟨id, gate, run, delivery, kind, attempt, fingerprint, now⟩ := request
    obtain ⟨rfl, rfl⟩ := spends_input spends
    subst recipient
    refine ⟨_, mem_of_getElem? (i := 1) rfl, rfl, fun entry grouped => ?_⟩
    simp only [DlLineCapLedgerEntry.spends, DlLineCapLedgerEntry.within, Bool.and_eq_true,
      decide_eq_true_eq] at within grouped
    obtain ⟨⟨⟨same, counted⟩, late, -⟩, recipient⟩ := grouped
    have since : now - dayMs ≤ entry.reservedAt :=
      Int.le_trans (Int.sub_right_le_of_le_add within.2) late
    simp [counts, CapHost.input, ReserveLineCapInput.entry, same, counted, since, recipient]

theorem capped_perRun (runAuthorizationId : String) :
    Capped host (fun entry => entry.spends gateId .logicalDelivery &&
        entry.runAuthorizationId = runAuthorizationId) (host.caps gateId).perRun where
  fades before after fades grouped := by
    simp only [Bool.and_eq_true, fades.runAuthorizationId] at grouped ⊢
    exact ⟨spends_fades fades grouped.1, grouped.2⟩
  counted request grouped := by
    rw [Bool.and_eq_true, decide_eq_true_eq] at grouped
    obtain ⟨spends, sameRun⟩ := grouped
    obtain ⟨id, gate, run, delivery, kind, attempt, recipient, now⟩ := request
    obtain ⟨rfl, rfl⟩ := spends_input spends
    subst sameRun
    refine ⟨_, mem_of_getElem? (i := 0) rfl, rfl, fun entry grouped => ?_⟩
    simp only [DlLineCapLedgerEntry.spends, Bool.and_eq_true, decide_eq_true_eq] at grouped
    simp [counts, grouped, CapHost.input, ReserveLineCapInput.entry]

theorem capped_lifetime :
    Capped host (fun entry => entry.spends gateId .logicalDelivery)
      (host.caps gateId).lifetime where
  fades before after fades grouped := spends_fades fades grouped
  counted request spends := by
    obtain ⟨id, gate, run, delivery, kind, attempt, recipient, now⟩ := request
    obtain ⟨rfl, rfl⟩ := spends_input spends
    refine ⟨_, mem_of_getElem? (i := 3) rfl, rfl, fun entry grouped => ?_⟩
    simp only [DlLineCapLedgerEntry.spends, Bool.and_eq_true, decide_eq_true_eq] at grouped
    simp [counts, CapHost.input, grouped]

theorem capped_attempts (deliveryId : String) :
    Capped host (fun entry => entry.spends gateId .providerAttempt &&
        entry.deliveryId = deliveryId) (host.attempts deliveryId) where
  fades before after fades grouped := by
    simp only [Bool.and_eq_true, fades.deliveryId] at grouped ⊢
    exact ⟨spends_fades fades grouped.1, grouped.2⟩
  counted request grouped := by
    rw [Bool.and_eq_true, decide_eq_true_eq] at grouped
    obtain ⟨spends, sameDelivery⟩ := grouped
    obtain ⟨id, gate, run, delivery, kind, attempt, recipient, now⟩ := request
    obtain ⟨rfl, rfl⟩ := spends_input spends
    subst sameDelivery
    refine ⟨_, mem_of_getElem? (i := 0) rfl, rfl, fun entry grouped => ?_⟩
    simp only [DlLineCapLedgerEntry.spends, Bool.and_eq_true, decide_eq_true_eq] at grouped
    simp [counts, grouped, CapHost.input, ReserveLineCapInput.entry]

theorem capped_submissions :
    Capped host (fun entry => entry.holds gateId .concurrentSubmission)
      concurrentSubmissions where
  fades before after fades grouped := holds_fades fades grouped
  counted request holds := by
    obtain ⟨id, gate, run, delivery, kind, attempt, recipient, now⟩ := request
    obtain ⟨rfl, rfl⟩ := holds_input holds
    refine ⟨_, mem_of_getElem? (i := 0) rfl, rfl, fun entry grouped => ?_⟩
    simp only [DlLineCapLedgerEntry.holds, Bool.and_eq_true, decide_eq_true_eq] at grouped
    simp [counts, CapHost.input, grouped]

theorem capped_unknown :
    Capped host (fun entry => entry.holds gateId .concurrentUnknown)
      concurrentUnknownReconciling where
  fades before after fades grouped := holds_fades fades grouped
  counted request holds := by
    obtain ⟨id, gate, run, delivery, kind, attempt, recipient, now⟩ := request
    obtain ⟨rfl, rfl⟩ := holds_input holds
    refine ⟨_, mem_of_getElem? (i := 0) rfl, rfl, fun entry grouped => ?_⟩
    simp only [DlLineCapLedgerEntry.holds, Bool.and_eq_true, decide_eq_true_eq] at grouped
    simp [counts, CapHost.input, grouped]

end Groups

/-- In every run of reservations and settlements, whatever the times they carry, the caps hold over
every window, a replay adds nothing, and a row is added only at a gate that is not killed. -/
theorem caps_hold_in_every_window (host : CapHost) (world : CapWorld)
    (reachable : (capTransactions host).Reachable world) :
    CapsKept host world.ledger ∧
      ∀ step after, (capTransactions host).step world step after → GrowsOpenly world after where
  left := {
    per24h := fun _ start => (capped_per24h start).reachable reachable
    perRecipientPer24h := fun _ recipient start =>
      (capped_perRecipientPer24h recipient start).reachable reachable
    perRun := fun _ run => (capped_perRun run).reachable reachable
    lifetime := fun _ => capped_lifetime.reachable reachable
    attempts := fun _ delivery => (capped_attempts delivery).reachable reachable
    submissions := fun _ => capped_submissions.reachable reachable
    unknown := fun _ => capped_unknown.reachable reachable }
  right _ _ taken := ((capInv_of_reachable reachable).moved taken).growsOpenly

def pilotHost : CapHost := ⟨fun _ => none, fun _ => none⟩

def pilotRequest (name : String) (now : Instant) : ReserveRequest :=
  ⟨name, "gate", name, name, .logicalDelivery, none, name, now⟩

/-- One reservation up to its insert. -/
def counted (pid : Nat) (request : ReserveRequest) : List CapStep :=
  [.lock pid request, .look pid, .count pid, .count pid, .count pid, .count pid]

/-- The second reservation is stamped before the first one. -/
theorem caps_hold_for_late_reservation :
    ∃ world : CapWorld, CapsKept pilotHost world.ledger ∧
      world.ledger.map DlLineCapLedgerEntry.reservedAt = [100, 50] := by
  have ends : System.endsWith (CapWorld.next pilotHost) ⟨[], [], [], []⟩
      (.ensure "gate" :: counted 0 (pilotRequest "first" 100) ++ .insert 0 ::
        counted 1 (pilotRequest "second" 50)) (.insert 1)
      (fun _ after => after.ledger.map reservedAt = [100, 50]) = true := by
    decide +kernel
  have fresh : CapWorld.Fresh ⟨[], [], [], []⟩ := ⟨rfl, rfl, rfl⟩
  obtain ⟨before, world, reachable, last, stamped⟩ := System.Reachable.endsWith fresh ends
  exact ⟨world, (caps_hold_in_every_window pilotHost world (reachable.step last)).1,
    of_decide_eq_true stamped⟩

end DContact.Delivery

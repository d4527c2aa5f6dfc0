import DContact.Governance.LocalTime
import DContact.Lib.Table
import DContact.Lib.Transition

/-!
# The cap ledger of the LINE gates

Every unit that a delivery takes is a row: the delivery itself, a provider attempt, or a slot that
is held while a submission or an unknown outcome is open. A reservation is made once for a delivery,
a kind and an attempt; made again it answers with the row that is there.
-/

namespace DContact.Delivery

open Lib
open Governance (Instant)

inductive LineCapKind where
  | logicalDelivery
  | providerAttempt
  | concurrentSubmission
  | concurrentUnknown
  deriving DecidableEq

inductive LineCapReservationState where
  | reserved
  | committed
  | released
  deriving DecidableEq

/-- How a settlement ends a reservation. -/
inductive LineCapSettlement where
  | committed
  | released
  deriving DecidableEq

def LineCapSettlement.state : LineCapSettlement → LineCapReservationState
  | .committed => .committed
  | .released => .released

inductive LineGateErrorCode where
  | lineGateAuthorizationDenied
  | lineGateScopeNotAllowed
  | lineGateInvalidTransition
  | lineGateKilled
  | lineGateTechnicalSwitchOff
  | submissionWindowCapExceeded
  | concurrentSubmissionCapExceeded
  | contactWindowCapExceeded
  | concurrentUnknownReconcilingCapExceeded
  | runDeliveryCapExceeded
  | lifetimeCapExceeded
  | providerAttemptCapExceeded
  | capAccountingInconsistency
  | runAuthorizationMissing
  | runAuthorizationExpired
  | runAuthorizationConsumed
  | credentialUnavailable
  | credentialVersionMismatch
  | configDigestMismatch
  deriving DecidableEq

structure DlLineCapLedgerEntry where
  id : String
  gateId : String
  runAuthorizationId : String
  deliveryId : String
  capKind : LineCapKind
  attemptNo : Nat
  recipientFingerprint : String
  state : LineCapReservationState
  reservedAt : Instant
  settledAt : Option Instant

/-- The unique key of a reservation. -/
def DlLineCapLedgerEntry.key (entry : DlLineCapLedgerEntry) : String × LineCapKind × Nat :=
  (entry.deliveryId, entry.capKind, entry.attemptNo)

/-- A row that is not released counts. -/
def DlLineCapLedgerEntry.counted (entry : DlLineCapLedgerEntry) : Bool :=
  entry.state = .reserved || entry.state = .committed

structure LineCapLimit where
  code : LineGateErrorCode
  capKind : LineCapKind
  max : Nat
  sameRecipient : Bool
  sameRun : Bool
  sameDelivery : Bool
  since : Option Instant
  activeOnly : Bool
  deriving DecidableEq

structure ReserveLineCapInput where
  id : String
  gateId : String
  runAuthorizationId : String
  deliveryId : String
  capKind : LineCapKind
  attemptNo : Option Nat
  recipientFingerprint : String
  reservedAt : Instant
  limits : List LineCapLimit
  deriving DecidableEq

def ReserveLineCapInput.key (input : ReserveLineCapInput) : String × LineCapKind × Nat :=
  (input.deliveryId, input.capKind, input.attemptNo.getD 0)

/-- The row that a reservation creates. -/
def ReserveLineCapInput.entry (input : ReserveLineCapInput) : DlLineCapLedgerEntry where
  id := input.id
  gateId := input.gateId
  runAuthorizationId := input.runAuthorizationId
  deliveryId := input.deliveryId
  capKind := input.capKind
  attemptNo := input.attemptNo.getD 0
  recipientFingerprint := input.recipientFingerprint
  state := .reserved
  reservedAt := input.reservedAt
  settledAt := none

inductive ReserveLineCapResult where
  | reserved (entry : DlLineCapLedgerEntry) (replay : Bool)
  | denied (code : LineGateErrorCode)

inductive LineCapError where
  | bindingRejected
  | idempotencyConflict
  | uniqueViolation
  | checkViolation

variable {input : ReserveLineCapInput} {limit : LineCapLimit} {ledger : List DlLineCapLedgerEntry}

/-- The `where` of the count for one limit. -/
def LineCapLimit.counts (limit : LineCapLimit) (input : ReserveLineCapInput)
    (entry : DlLineCapLedgerEntry) : Bool :=
  entry.gateId = input.gateId && entry.capKind = limit.capKind &&
    (if limit.activeOnly then decide (entry.state = .reserved) else entry.counted) &&
    (!limit.sameRecipient || entry.recipientFingerprint = input.recipientFingerprint) &&
    (!limit.sameRun || entry.runAuthorizationId = input.runAuthorizationId) &&
    (!limit.sameDelivery || entry.deliveryId = input.deliveryId) &&
    limit.since.all fun since => since ≤ entry.reservedAt

def LineCapLimit.used (limit : LineCapLimit) (input : ReserveLineCapInput)
    (ledger : List DlLineCapLedgerEntry) : Nat :=
  ledger.countP (limit.counts input)

def findReserved (ledger : List DlLineCapLedgerEntry) (input : ReserveLineCapInput) :
    Option DlLineCapLedgerEntry :=
  Table.lookup DlLineCapLedgerEntry.key input.key ledger

/-- What is known of a reservation that was made before. -/
def replayed (input : ReserveLineCapInput) (existing : DlLineCapLedgerEntry) :
    Except LineCapError ReserveLineCapResult :=
  if existing.gateId ≠ input.gateId ∨ existing.runAuthorizationId ≠ input.runAuthorizationId ∨
      existing.recipientFingerprint ≠ input.recipientFingerprint then
    .error .idempotencyConflict
  else .ok (.reserved existing true)

/-- The check on the values of a row: the attempts are numbered from one to four, and nothing else
is numbered. -/
def DlLineCapLedgerEntry.valid (entry : DlLineCapLedgerEntry) : Bool :=
  decide (entry.capKind = .providerAttempt) = decide (1 ≤ entry.attemptNo ∧ entry.attemptNo ≤ 4) &&
    (entry.capKind = .providerAttempt || entry.attemptNo = 0)

def insertReserved (ledger : List DlLineCapLedgerEntry) (input : ReserveLineCapInput) :
    Except LineCapError (List DlLineCapLedgerEntry) :=
  if input.entry.valid = false then .error .checkViolation
  else if ledger.any fun entry => entry.key = input.key || entry.id = input.id then
    .error .uniqueViolation
  else .ok (ledger ++ [input.entry])

/-- `reserveCap` as one step: what it answers under the lock of the gate, and the ledger after. -/
def reserveCap (killed : Bool) (ledger : List DlLineCapLedgerEntry) (input : ReserveLineCapInput) :
    Except LineCapError (ReserveLineCapResult × List DlLineCapLedgerEntry) :=
  match findReserved ledger input with
  | some existing => (replayed input existing).map fun answer => (answer, ledger)
  | none =>
      if killed then .ok (.denied .lineGateKilled, ledger)
      else
        match input.limits.find? fun limit => limit.max ≤ limit.used input ledger with
        | some limit => .ok (.denied limit.code, ledger)
        | none => (insertReserved ledger input).map fun after => (.reserved input.entry false, after)

def DlLineCapLedgerEntry.settle (settlement : LineCapSettlement) (now : Instant)
    (entry : DlLineCapLedgerEntry) : DlLineCapLedgerEntry :=
  if entry.state = .reserved then
    { entry with state := settlement.state, settledAt := some now }
  else entry

@[simp] theorem DlLineCapLedgerEntry.settle_key (settlement : LineCapSettlement) (now : Instant)
    (entry : DlLineCapLedgerEntry) : (entry.settle settlement now).key = entry.key := by
  unfold settle
  split <;> rfl

/-- `settleCap`: whether a reserved row was settled, once. A settlement before the reservation is a
check violation. -/
def settleCap (ledger : List DlLineCapLedgerEntry) (deliveryId : String) (capKind : LineCapKind)
    (attemptNo : Nat) (settlement : LineCapSettlement) (now : Instant) :
    Except LineCapError (Bool × List DlLineCapLedgerEntry) :=
  match (Table.lookup DlLineCapLedgerEntry.key (deliveryId, capKind, attemptNo) ledger).filter
      fun entry => entry.state = .reserved with
  | none => .ok (false, ledger)
  | some entry =>
      if now < entry.reservedAt then .error .checkViolation
      else .ok (true, Table.update DlLineCapLedgerEntry.key (deliveryId, capKind, attemptNo)
        (DlLineCapLedgerEntry.settle settlement now) ledger)

/-- A later version of a row: it is the same reservation, and takes no more than before. -/
structure Fades (before after : DlLineCapLedgerEntry) : Prop where
  gateId : after.gateId = before.gateId
  runAuthorizationId : after.runAuthorizationId = before.runAuthorizationId
  deliveryId : after.deliveryId = before.deliveryId
  capKind : after.capKind = before.capKind
  recipientFingerprint : after.recipientFingerprint = before.recipientFingerprint
  reservedAt : after.reservedAt = before.reservedAt
  counted : after.counted = true → before.counted = true
  reserved : after.state = .reserved → before.state = .reserved

theorem Fades.refl (entry : DlLineCapLedgerEntry) : Fades entry entry :=
  ⟨rfl, rfl, rfl, rfl, rfl, rfl, fun counted => counted, fun reserved => reserved⟩

theorem DlLineCapLedgerEntry.fades_settle (settlement : LineCapSettlement) (now : Instant)
    (entry : DlLineCapLedgerEntry) : Fades entry (entry.settle settlement now) := by
  unfold settle
  split
  next reserved =>
    refine ⟨rfl, rfl, rfl, rfl, rfl, rfl, fun _ => ?_, fun _ => reserved⟩
    simp [counted, reserved]
  next => exact .refl entry

theorem LineCapLimit.counts_fades {before after : DlLineCapLedgerEntry} (fades : Fades before after)
    (counted : limit.counts input after = true) : limit.counts input before = true := by
  simp only [counts, fades.gateId, fades.capKind, fades.recipientFingerprint,
    fades.runAuthorizationId, fades.deliveryId, fades.reservedAt, Bool.and_eq_true] at counted ⊢
  refine ⟨⟨⟨⟨⟨counted.1.1.1.1.1, ?_⟩, counted.1.1.1.2⟩, counted.1.1.2⟩, counted.1.2⟩, counted.2⟩
  have active := counted.1.1.1.1.2
  split at active <;> simp_all [fades.counted, fades.reserved]

variable {after : List DlLineCapLedgerEntry}

theorem insertReserved_ok
    (ok : insertReserved ledger input = .ok after) : after = ledger ++ [input.entry] := by
  simp only [insertReserved, guard_ok_iff] at ok
  exact (Except.ok.inj ok.2.2).symm

/-- A reservation answers with the row that is there, refuses, or adds a row that no limit forbids. -/
inductive CapReserved (killed : Bool) (ledger : List DlLineCapLedgerEntry)
    (input : ReserveLineCapInput) : ReserveLineCapResult → List DlLineCapLedgerEntry → Prop where
  | replay {existing : DlLineCapLedgerEntry} (mem : existing ∈ ledger)
      (key : existing.key = input.key) (gateId : existing.gateId = input.gateId)
      (runAuthorizationId : existing.runAuthorizationId = input.runAuthorizationId) :
      CapReserved killed ledger input (.reserved existing true) ledger
  | refused (code : LineGateErrorCode) (absent : input.key ∉ ledger.map DlLineCapLedgerEntry.key) :
      CapReserved killed ledger input (.denied code) ledger
  | taken (isOpen : killed = false)
      (room : ∀ limit ∈ input.limits, limit.used input ledger < limit.max)
      (absent : input.key ∉ ledger.map DlLineCapLedgerEntry.key) (valid : input.entry.valid = true) :
      CapReserved killed ledger input (.reserved input.entry false) (ledger ++ [input.entry])

theorem findReserved_none (missing : findReserved ledger input = none) :
    input.key ∉ ledger.map DlLineCapLedgerEntry.key := by
  intro known
  obtain ⟨entry, mem, same⟩ := List.mem_map.mp known
  have absent := List.find?_eq_none.mp missing entry mem
  simp [same] at absent

theorem reserveCap_reserved {killed : Bool} {answer : ReserveLineCapResult}
    (ok : reserveCap killed ledger input = .ok (answer, after)) :
    CapReserved killed ledger input answer after := by
  unfold reserveCap at ok
  split at ok
  next existing found =>
    simp only [replayed, Except.map] at ok
    split at ok
    next => cases ok
    next result replays =>
      rw [guard_ok_iff] at replays
      obtain ⟨same, answered⟩ := replays
      simp only [not_or, ne_eq, not_not] at same
      cases answered
      cases ok
      exact .replay (Table.lookup_mem found) (Table.lookup_key found) same.1 same.2.1
  next missing =>
    have absent := findReserved_none missing
    split at ok
    next =>
      cases ok
      exact .refused _ absent
    next isOpen =>
      split at ok
      next limit _ =>
        cases ok
        exact .refused _ absent
      next room =>
        simp only [Except.map] at ok
        split at ok
        next => cases ok
        next inserted =>
          cases ok
          simp only [insertReserved, guard_ok_iff] at inserted
          rw [← Except.ok.inj inserted.2.2]
          refine .taken (by simpa using isOpen) (fun limit mem => ?_) absent
            (by simpa using inserted.1)
          have free := List.find?_eq_none.mp room limit mem
          simpa using free

/-- A settlement ends a reservation that is still open, or finds none. -/
inductive CapSettled (ledger : List DlLineCapLedgerEntry) (key : String × LineCapKind × Nat)
    (settlement : LineCapSettlement) (now : Instant) : Bool → List DlLineCapLedgerEntry → Prop where
  | idle (closed : ∀ entry, Table.lookup DlLineCapLedgerEntry.key key ledger = some entry →
      entry.state ≠ .reserved) : CapSettled ledger key settlement now false ledger
  | settled {entry : DlLineCapLedgerEntry}
      (found : Table.lookup DlLineCapLedgerEntry.key key ledger = some entry)
      (reserved : entry.state = .reserved) :
      CapSettled ledger key settlement now true
        (Table.update DlLineCapLedgerEntry.key key (DlLineCapLedgerEntry.settle settlement now) ledger)

variable {deliveryId : String} {capKind : LineCapKind} {attemptNo : Nat}
  {settlement : LineCapSettlement} {now : Instant} {settled : Bool}

theorem settleCap_settled
    (ok : settleCap ledger deliveryId capKind attemptNo settlement now = .ok (settled, after)) :
    CapSettled ledger (deliveryId, capKind, attemptNo) settlement now settled after := by
  unfold settleCap at ok
  split at ok
  next none_ =>
    cases ok
    refine .idle fun entry found reserved => ?_
    simp [found, reserved] at none_
  next entry some_ =>
    obtain ⟨found, reserved⟩ := Option.filter_eq_some_iff.mp some_
    rw [guard_ok_iff] at ok
    cases ok.2
    exact .settled found (of_decide_eq_true reserved)

/-- A settlement rewrites rows to later versions of themselves. -/
theorem settleCap_ok
    (ok : settleCap ledger deliveryId capKind attemptNo settlement now = .ok (settled, after)) :
    ∃ rewrite : DlLineCapLedgerEntry → DlLineCapLedgerEntry,
      (∀ entry, Fades entry (rewrite entry) ∧ (rewrite entry).key = entry.key) ∧
        after = ledger.map rewrite := by
  cases settleCap_settled ok with
  | idle => exact ⟨id, fun entry => ⟨.refl entry, rfl⟩, (List.map_id _).symm⟩
  | settled found reserved =>
      refine ⟨fun entry => if entry.key = (deliveryId, capKind, attemptNo) then
        entry.settle settlement now else entry, fun entry => ?_, rfl⟩
      dsimp only
      split
      · exact ⟨entry.fades_settle settlement now, entry.settle_key settlement now⟩
      · exact ⟨.refl entry, rfl⟩

end DContact.Delivery

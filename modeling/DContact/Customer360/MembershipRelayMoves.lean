import DContact.Customer360.MembershipRelay

/-!
# What a step of the membership relay does

Each step in one case, with what it requires and the world it leaves. Rows keep what was
committed with them, a row that no longer waits stays as it is, and a new row comes after every
row of its stream. So once everything before a revision is settled, it stays settled.
-/

namespace DContact.Customer360

open Lib
open Governance (Instant)
open RelayWorld

inductive RelayMoved (host : RelayHost) (world : RelayWorld) (worker : Nat) (call : RelayCall) :
    RelayStep → RelayWorld → Prop where
  | skipped {record ahead other} (selecting : call.stage = .selecting (record :: ahead))
      (held : world.takeable worker call.now record = false) :
      RelayMoved host world worker call (.skip other)
        (world.advance worker { call with stage := .selecting ahead } [])
  | took {record ahead other} (selecting : call.stage = .selecting (record :: ahead))
      (live : call.live = true) (free : world.takeable worker call.now record = true) :
      RelayMoved host world worker call (.take other)
        (world.advance worker { call with stage := .locked record } [.took worker record])
  | idled {other} (selecting : call.stage = .selecting []) (live : call.live = true) :
      RelayMoved host world worker call (.idle other) (world.finish worker (.idle worker))
  | composed {record envelope other} (locked : call.stage = .locked record) (live : call.live = true)
      (valid : composeEnvelope host.contract record = .ok envelope) :
      RelayMoved host world worker call (.compose other)
        (world.advance worker { call with stage := .composed record envelope } [])
  | refused {record error other} (locked : call.stage = .locked record) (live : call.live = true)
      (invalid : composeEnvelope host.contract record = .error error) :
      RelayMoved host world worker call (.compose other)
        (world.advance worker { call with stage := .settling record error.verdict } [])
  | sent {record envelope other} (composed : call.stage = .composed record envelope) :
      RelayMoved host world worker call (.send other)
        (world.advance worker { call with stage := .sending record envelope }
          [.sent worker record envelope])
  | acknowledged {record envelope other} (sending : call.stage = .sending record envelope) :
      RelayMoved host world worker call (.answer other true)
        (world.advance worker { call with stage := .settling record .published }
          [.acknowledged worker record])
  | failed {record envelope other} (sending : call.stage = .sending record envelope) :
      RelayMoved host world worker call (.answer other false)
        (world.advance worker { call with stage := .settling record .failed } [])
  | committed {record verdict other} (settling : call.stage = .settling record verdict)
      (live : call.live = true) :
      RelayMoved host world worker call (.commit other)
        ((world.write record.id (SegmentMembershipOutbox.settle host call.now verdict)).finish
          worker (.settled worker record verdict))
  | lapsed {other} (live : call.live = true) :
      RelayMoved host world worker call (.lapse other)
        (world.advance worker { call with live := false } [.broke worker call.stage.record?])
  | crashed {other} :
      RelayMoved host world worker call (.crash other)
        (world.finish worker (.broke worker (if call.live then call.stage.record? else none)))

variable {host : RelayHost} {world after : RelayWorld} {step : RelayStep}

theorem moved_of_proceed {worker : Nat} {call : RelayCall}
    (taken : proceed host world worker call step = some after) :
    RelayMoved host world worker call step after := by
  cases step with
  | skip _ =>
      simp only [proceed] at taken
      split at taken
      next record ahead stage =>
        split at taken
        · cases taken
        · next held =>
          cases taken
          exact .skipped stage (Bool.not_eq_true _ ▸ held)
      · cases taken
  | take _ =>
      simp only [proceed] at taken
      split at taken
      next record ahead stage =>
        split at taken
        · next free =>
          cases taken
          rw [Bool.and_eq_true] at free
          exact .took stage free.1 free.2
        · cases taken
      · cases taken
  | idle _ =>
      simp only [proceed] at taken
      split at taken
      next stage =>
        split at taken
        · next live =>
          cases taken
          exact .idled stage live
        · cases taken
      · cases taken
  | compose _ =>
      simp only [proceed] at taken
      split at taken
      next record stage =>
        split at taken
        · next live =>
          split at taken
          next envelope valid =>
            cases taken
            exact .composed stage live valid
          next error invalid =>
            cases taken
            exact .refused stage live invalid
        · cases taken
      · cases taken
  | send _ =>
      simp only [proceed] at taken
      split at taken
      next record envelope stage =>
        cases taken
        exact .sent stage
      · cases taken
  | answer _ acknowledged =>
      simp only [proceed] at taken
      split at taken
      next record envelope stage =>
        cases taken
        cases acknowledged with
        | true => exact .acknowledged stage
        | false => exact .failed stage
      · cases taken
  | commit _ =>
      simp only [proceed] at taken
      split at taken
      next record verdict stage =>
        split at taken
        · next live =>
          cases taken
          exact .committed stage live
        · cases taken
      · cases taken
  | lapse _ =>
      simp only [proceed] at taken
      split at taken
      · next live =>
        cases taken
        exact .lapsed live
      · cases taken
  | crash _ =>
      cases taken
      exact .crashed
  | append _ _ => cases taken
  | begin _ _ => cases taken

inductive RelayNext (host : RelayHost) (world : RelayWorld) : RelayStep → RelayWorld → Prop where
  | appended {record availableAt} (next : world.appendable record = true) :
      RelayNext host world (.append record availableAt)
        { world with rows := world.rows ++ [.fresh record availableAt] }
  | began {worker now} (absent : Session.find world.calls worker = none) :
      RelayNext host world (.begin worker now)
        (world.advance worker ⟨now, true, .selecting (world.candidates now)⟩ [.began worker now])
  | moved {step after worker call} (mine : step.worker? = some worker)
      (found : Session.find world.calls worker = some call)
      (moved : RelayMoved host world worker call step after) : RelayNext host world step after

theorem next_of_step (taken : (membershipRelay host).step world step after) :
    RelayNext host world step after := by
  replace taken : relayNext host world step = some after := taken
  cases step with
  | append record availableAt =>
      simp only [relayNext] at taken
      split at taken
      · next next =>
        cases taken
        exact .appended next
      · cases taken
  | begin worker now =>
      simp only [relayNext] at taken
      split at taken
      next absent =>
        cases taken
        exact .began absent
      · cases taken
  | _ =>
      simp only [relayNext, RelayStep.worker?] at taken
      split at taken
      · cases taken
      next call found => exact .moved rfl found (moved_of_proceed taken)

@[simp] theorem settle_record (host : RelayHost) (now : Instant) (verdict : RelayVerdict)
    (row : SegmentMembershipOutbox) : (row.settle host now verdict).record = row.record := by
  cases verdict <;> rfl

theorem settle_waiting (host : RelayHost) (now : Instant) (verdict : RelayVerdict)
    (row : SegmentMembershipOutbox) :
    (row.settle host now verdict).waiting = decide (verdict = .failed) := by
  cases verdict <;> rfl

def FollowsAll (rows : List SegmentMembershipOutbox) (record : OutboxRecord) : Prop :=
  ∀ row ∈ rows, row.record.stream = record.stream →
    row.record.membershipRevision < record.membershipRevision

structure OutboxGrows (rows later : List SegmentMembershipOutbox) : Prop where
  kept : ∀ row ∈ rows, ∃ found ∈ later, found.record = row.record ∧
    (row.waiting = false → found = row)
  recent : ∀ row ∈ later,
    (∃ old ∈ rows, old.record = row.record ∧ (old.waiting = false → row = old)) ∨
      FollowsAll rows row.record

theorem OutboxGrows.refl (rows : List SegmentMembershipOutbox) : OutboxGrows rows rows where
  kept row mem := ⟨row, mem, rfl, fun _ => rfl⟩
  recent row mem := .inl ⟨row, mem, rfl, fun _ => rfl⟩

variable {rows : List SegmentMembershipOutbox}

theorem OutboxGrows.append {row : SegmentMembershipOutbox}
    (follows : FollowsAll rows row.record) : OutboxGrows rows (rows ++ [row]) where
  kept old mem := ⟨old, List.mem_append_left _ mem, rfl, fun _ => rfl⟩
  recent new mem := by
    rcases List.mem_append.mp mem with old | last
    · exact .inl ⟨new, old, rfl, fun _ => rfl⟩
    · rw [List.mem_singleton] at last
      exact .inr (last ▸ follows)

/-- The rows of one identifier are settled, provided that they waited. -/
theorem OutboxGrows.settle {id : Nat} {now : Instant} {verdict : RelayVerdict}
    (waits : ∀ row ∈ rows, row.record.id = id → row.waiting = true) :
    OutboxGrows rows (Table.update (fun row => row.record.id) id
      (SegmentMembershipOutbox.settle host now verdict) rows) where
  kept row mem := by
    by_cases same : row.record.id = id
    · refine ⟨row.settle host now verdict, Table.mem_update.mpr ⟨row, mem, by rw [if_pos same]⟩,
        settle_record .., fun settled => ?_⟩
      rw [waits row mem same] at settled
      cases settled
    · exact ⟨row, Table.mem_update.mpr ⟨row, mem, by rw [if_neg same]⟩, rfl, fun _ => rfl⟩
  recent row mem := by
    obtain ⟨before, old, rfl⟩ := Table.mem_update.mp mem
    refine .inl ⟨before, old, ?_⟩
    by_cases same : before.record.id = id
    · rw [if_pos same, waits before old same]
      exact ⟨(settle_record ..).symm, nofun⟩
    · rw [if_neg same]
      exact ⟨rfl, fun _ => rfl⟩

structure Cleared (rows : List SegmentMembershipOutbox) (record : OutboxRecord) : Prop where
  stored : ∃ row ∈ rows, row.record = record
  settled : ∀ earlier ∈ rows, earlier.record.stream = record.stream →
    earlier.record.membershipRevision < record.membershipRevision → earlier.waiting = false

theorem Cleared.mono {later : List SegmentMembershipOutbox} {record : OutboxRecord}
    (cleared : Cleared rows record) (grows : OutboxGrows rows later) : Cleared later record := by
  obtain ⟨row, mem, same⟩ := cleared.stored
  constructor
  · obtain ⟨found, inside, kept, -⟩ := grows.kept row mem
    exact ⟨found, inside, kept.trans same⟩
  · intro earlier inside stream lower
    rcases grows.recent earlier inside with ⟨old, oldMember, sameRecord, unchanged⟩ | follows
    · have done : old.waiting = false :=
        cleared.settled old oldMember (sameRecord ▸ stream) (sameRecord ▸ lower)
      exact unchanged done ▸ done
    · have above := follows row mem (by rw [same, stream])
      rw [same] at above
      exact absurd lower (Nat.not_lt.mpr (Nat.le_of_lt above))

end DContact.Customer360

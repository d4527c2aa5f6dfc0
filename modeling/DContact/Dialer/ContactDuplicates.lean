import DContact.Dialer.RecordMoves

/-!
# No contact is admitted twice

The lock under which a callback is scheduled is that of its contact, so the look for a pending
callback sees every other one; but a call that fails returns its callback without a look. The lock
under which a target is admitted is that of its campaign and its contact, so admissions of one
contact to two campaigns do not see one another.
-/

namespace DContact.Dialer

open Lib List Workers
open Governance (Instant)
open Journey (OwnerCommandPayload OwnerCommandType)

/-! ## Callbacks -/

/-- Two callbacks of one contact that are both scheduled and not expired. -/
def rivals (now : Instant) (left right : ObCallback) : Bool :=
  pendingFor left.contactId now left && pendingFor left.contactId now right

def foundNoPending (history : DialerHistory) (contactId : String) : Bool :=
  history.any fun
    | ⟨.findPendingCallback contact _, .ok none⟩ => contact == contactId
    | _ => false

variable {contactId : String} {history : DialerHistory}

theorem foundNoPending_iff : foundNoPending history contactId = true ↔
      ∃ now, Told history (.findPendingCallback contactId now) none := by
  rw [foundNoPending, any_eq_true]
  constructor
  · rintro ⟨exchange, mem, found⟩
    split at found
    next contact now =>
      rw [beq_iff_eq.mp found] at mem
      exact ⟨now, mem⟩
    next => cases found
  · rintro ⟨now, told⟩
    exact ⟨_, told, beq_self_eq_true contactId⟩

/-- A callback that is returned to the queue is expired, or no other callback of its contact is
pending or about to be scheduled. -/
def returnsAlone : DialerCondition where
  asks world _ _ request :=
    match request with
    | .moveCallback id _ .scheduled _ =>
        (Table.lookup ObCallback.id id world.store.db.tables.callbacks).all fun row =>
          decide (row.expiresAt ≤ world.store.now) ||
            (!(world.store.db.tables.callbacks.any fun other =>
                other.id != id && pendingFor row.contactId world.store.now other) &&
              !(world.store.db.sessions.any fun session =>
                foundNoPending (world.history session.pid) row.contactId))
    | _ => true
  elsewhere _ _ := true

/-- What the callbacks are, and what the workers know of them. -/
structure CallbacksApart (store : DialerStore) (history : Nat → DialerHistory) : Prop where
  apart : ∀ left ∈ store.db.tables.callbacks, ∀ right ∈ store.db.tables.callbacks,
    rivals store.now left right = true → left.id = right.id
  clock : ∀ pid (now : Instant), Told (history pid) .clock now → now ≤ store.now
  searched : ∀ pid contactId now,
    Told (history pid) (.findPendingCallback contactId now) none →
    ∀ work, transactionOf (history pid) = some work → .callbackDedupe contactId ∈ work.locks ∧
      ∀ row ∈ store.db.tables.callbacks, pendingFor contactId store.now row = false
  pending : ∀ pid row, Changing (history pid) (.createCallback row) →
    ∃ now, Told (history pid) (.findPendingCallback row.contactId now) none

variable {now : Instant} {row : ObCallback}

theorem pendingFor_later {later : Instant}
    (after : now ≤ later) (pending : pendingFor contactId later row = true) :
    pendingFor contactId now row = true := by
  simp only [pendingFor, Bool.and_eq_true, decide_eq_true_eq] at pending ⊢
  exact ⟨pending.1, Int.lt_of_le_of_lt after pending.2⟩

theorem pendingFor_scheduled (pending : pendingFor contactId now row = true) :
    row.contactId = contactId ∧ row.state = .scheduled ∧ now < row.expiresAt := by
  simp only [pendingFor, Bool.and_eq_true, decide_eq_true_eq, beq_iff_eq] at pending
  exact ⟨pending.1.1, pending.1.2, pending.2⟩

theorem rivals_iff {left right : ObCallback} : rivals now left right = true ↔
      pendingFor left.contactId now left = true ∧ pendingFor left.contactId now right = true :=
  Bool.and_eq_true_iff

section Callbacks

variable {host : DialerHost} {world : DialerWorld} {pid : Nat} {call : DialerCall}
  {tick : DialerTick} {request : DialerRequest} {reply : Except DialerError request.Reply}
  {store : DialerStore}

theorem callbacks_step (kept : RecordsKept host world)
    (permitted : (dialerProtocol host).permits call (world.history pid) request)
    (performed : performDialer host pid tick request world.store = some (reply, store)) :
    store.db.tables.callbacks = world.store.db.tables.callbacks ∨
      (∃ row, (⟨request, reply⟩ : DialerExchange) = ⟨.commit, .ok ()⟩ ∧
        Changing (world.history pid) (.createCallback row) ∧
        store.db.tables.callbacks = world.store.db.tables.callbacks ++ [row]) ∨
      ∃ id state data, store.db.tables.callbacks =
          Table.update ObCallback.id id (ObCallback.move state data)
            world.store.db.tables.callbacks ∧
        (state = .scheduled → ∃ expected row, (⟨request, reply⟩ : DialerExchange) =
          ⟨.moveCallback id expected .scheduled data, .ok (some row)⟩) := by
  rcases records_step kept.1 (kept.2.single pid) performed with same | ⟨change, -, same, changing⟩
  · exact .inl same.callbacks
  · cases change with
    | createCallback row =>
        rcases changing with ⟨commits, changing⟩ | ⟨outside, writes⟩
        · exact .inr (.inl ⟨row, commits, changing, same.callbacks⟩)
        · obtain ⟨work, inside⟩ := created_inside permitted writes rfl
          cases outside.symm.trans inside
    | moveCallback id state data =>
        refine .inr (.inr ⟨id, state, data, same.callbacks, ?_⟩)
        rintro rfl
        rcases changing with ⟨commits, changing⟩ | ⟨outside, writes⟩
        · have withdraws := kept.1.withdraws changing
          simp [withdrawnCallbackStates] at withdraws
        · obtain ⟨expected, row, same⟩ := produces_effect writes
          exact ⟨expected, row, same⟩
    | _ => exact .inl same.callbacks

theorem not_pendingFor_move {state : ObCallbackState}
    {data : RecordData} (other : state ≠ .scheduled) :
    pendingFor contactId now (row.move state data) = false := by
  simp [pendingFor, other]

theorem returned_alone (kept : RecordsKept host world) {id : String}
    {expected : Expected ObCallbackState} {data : RecordData} {moved : ObCallback}
    (met : returnsAlone.asks world pid tick (.moveCallback id expected .scheduled data) = true)
    (performed : performDialer host pid tick (.moveCallback id expected .scheduled data)
      world.store = some (.ok (some moved), store))
    (mem : row ∈ world.store.db.tables.callbacks) (named : row.id = id) {later : Instant}
    (after : world.store.now ≤ later) (unexpired : later < row.expiresAt) :
    (∀ other ∈ world.store.db.tables.callbacks, other.id ≠ id →
      pendingFor row.contactId world.store.now other = false) ∧
    ∀ other now, Told (world.history other) (.findPendingCallback row.contactId now) none →
      transactionOf (world.history other) = none := by
  rcases (updateCallback_moved (answer_of_ok performed)).2 with ⟨same, -⟩ | ⟨first, found, -⟩
  · cases same
  · cases Table.eq_of_key_eq (kept.2.ids .callback) mem (Table.lookup_mem found)
      (named.trans (Table.lookup_key found).symm)
    simp only [returnsAlone, found, Option.all_some, Bool.or_eq_true, decide_eq_true_eq,
      Bool.and_eq_true, Bool.not_eq_true'] at met
    rcases met with expired | ⟨alone, unsearched⟩
    · exact absurd (Int.lt_of_le_of_lt after unexpired) (Int.not_lt.mpr expired)
    · refine ⟨fun other present differs => ?_, fun other now told => ?_⟩
      · have away := any_eq_false.mp alone other present
        simpa [differs] using away
      · by_contra open_
        obtain ⟨work, inside⟩ := Option.ne_none_iff_exists'.mp open_
        have session := Session.find_mem ((kept.1.inside other).trans inside)
        have away := any_eq_false.mp unsearched _ session
        exact away (foundNoPending_iff.mpr ⟨now, told⟩)

/-- Who has found no pending callback of a contact, under its lock, stays right. -/
theorem searched_rows (kept : RecordsKept host world)
    (inv : CallbacksApart world.store world.history)
    (permitted : (dialerProtocol host).permits call (world.history pid) request)
    (met : returnsAlone.asks world pid tick request = true)
    (performed : performDialer host pid tick request world.store = some (reply, store))
    {other : Nat} {work : DialerTransaction}
    (told : Told (world.history other) (.findPendingCallback contactId now) none)
    (inside : transactionOf (world.history other) = some work)
    (running : other = pid → (⟨request, reply⟩ : DialerExchange) ≠ ⟨.commit, .ok ()⟩) :
    ∀ row ∈ store.db.tables.callbacks, pendingFor contactId store.now row = false := by
  obtain ⟨held, absent⟩ := inv.searched other contactId now told work inside
  have later := (performDialer_now performed).1
  have absentLater : ∀ row ∈ world.store.db.tables.callbacks,
      pendingFor contactId store.now row = false := by
    intro row mem
    by_contra pending
    have before := pendingFor_later later (Bool.not_eq_false _ ▸ pending)
    rw [absent row mem] at before
    cases before
  intro row mem
  rcases callbacks_step kept permitted performed with same | ⟨created, commits, changing, grown⟩ |
    ⟨id, state, data, updated, returned⟩
  · exact absentLater row (same ▸ mem)
  · rw [grown] at mem
    rcases mem_snoc.mp mem with old | rfl
    · exact absentLater row old
    · by_cases own : row.contactId = contactId
      · obtain ⟨found, searched⟩ := inv.pending pid row changing
        obtain ⟨mine, opened, -⟩ := changing
        have lock := (inv.searched pid row.contactId found searched mine opened).1
        have same := kept.1.same ⟨work, inside, held⟩ ⟨mine, opened, own ▸ lock⟩
        exact absurd commits (running same)
      · simp [pendingFor, own]
  · rw [updated] at mem
    obtain ⟨old, present, rfl⟩ := mem_map.mp mem
    split
    next named =>
      by_cases scheduled : state = .scheduled
      · by_contra pending
        obtain ⟨contact, -, unexpired⟩ := pendingFor_scheduled (Bool.not_eq_false _ ▸ pending)
        rw [ObCallback.move_contactId] at contact
        rw [ObCallback.move_expiresAt] at unexpired
        obtain ⟨expected, moved, same⟩ := returned scheduled
        cases same
        subst contact
        have closed := (returned_alone kept met performed present named later unexpired).2 other
          now told
        cases closed.symm.trans inside
      · exact not_pendingFor_move scheduled
    next => exact absentLater old present

theorem mem_updated {rows : List ObCallback} {id : String} {rewrite : ObCallback → ObCallback}
    (mem : row ∈ Table.update ObCallback.id id rewrite rows) :
    (row ∈ rows ∧ row.id ≠ id) ∨ ∃ old, old ∈ rows ∧ old.id = id ∧ row = rewrite old := by
  obtain ⟨old, present, rfl⟩ := mem_map.mp mem
  split
  next named => exact .inr ⟨old, present, named, rfl⟩
  next away => exact .inl ⟨present, away⟩

section
variable (kept : RecordsKept host world) (inv : CallbacksApart world.store world.history)
  (permitted : (dialerProtocol host).permits call (world.history pid) request)
include kept inv permitted

theorem rivals_step (met : returnsAlone.asks world pid tick request = true)
    (performed : performDialer host pid tick request world.store = some (reply, store))
    {left right : ObCallback} (leftMember : left ∈ store.db.tables.callbacks)
    (rightMember : right ∈ store.db.tables.callbacks) (rivalry : rivals store.now left right = true) :
    left.id = right.id := by
  have later := (performDialer_now performed).1
  obtain ⟨leftPending, rightPending⟩ := rivals_iff.mp rivalry
  have leftBefore := pendingFor_later later leftPending
  have rightBefore := pendingFor_later later rightPending
  have old : left ∈ world.store.db.tables.callbacks → right ∈ world.store.db.tables.callbacks →
      left.id = right.id :=
    fun leftOld rightOld => inv.apart left leftOld right rightOld
      (rivals_iff.mpr ⟨leftBefore, rightBefore⟩)
  have contact := (pendingFor_scheduled rightPending).1
  rcases callbacks_step kept permitted performed with same | ⟨created, commits, changing, grown⟩ |
    ⟨id, state, data, updated, returned⟩
  · exact old (same ▸ leftMember) (same ▸ rightMember)
  · have absent : ∀ other ∈ world.store.db.tables.callbacks,
        pendingFor created.contactId world.store.now other = false := by
      obtain ⟨now, told⟩ := inv.pending pid created changing
      obtain ⟨work, inside, -⟩ := changing
      exact (inv.searched pid created.contactId now told work inside).2
    rw [grown] at leftMember rightMember
    rcases mem_snoc.mp leftMember with leftOld | rfl
    · rcases mem_snoc.mp rightMember with rightOld | rfl
      · exact old leftOld rightOld
      · rw [← contact, absent left leftOld] at leftBefore
        cases leftBefore
    · rcases mem_append.mp rightMember with rightOld | rightNew
      · rw [absent right rightOld] at rightBefore
        cases rightBefore
      · rw [mem_singleton.mp rightNew]
  · have alone : ∀ {moved other contactId}, moved ∈ world.store.db.tables.callbacks → moved.id = id →
        other ∈ world.store.db.tables.callbacks → other.id ≠ id →
        pendingFor contactId store.now (moved.move state data) = true →
        pendingFor contactId world.store.now other = false := by
      intro moved other contactId present named otherOld otherAway pending
      by_cases scheduled : state = .scheduled
      · obtain ⟨expected, _, same⟩ := returned scheduled
        cases same
        obtain ⟨rfl, -, unexpired⟩ := pendingFor_scheduled pending
        rw [ObCallback.move_expiresAt] at unexpired
        rw [ObCallback.move_contactId]
        exact (returned_alone kept met performed present named later unexpired).1 other otherOld
          otherAway
      · rw [not_pendingFor_move scheduled] at pending
        cases pending
    rw [updated] at leftMember rightMember
    rcases mem_updated leftMember with ⟨leftOld, leftAway⟩ | ⟨leftOld, leftPresent, leftNamed, rfl⟩
    · rcases mem_updated rightMember with ⟨rightOld, -⟩ | ⟨rightOld, rightPresent, rightNamed, rfl⟩
      · exact old leftOld rightOld
      · rw [alone rightPresent rightNamed leftOld leftAway rightPending] at leftBefore
        cases leftBefore
    · rcases mem_updated rightMember with ⟨rightOld, rightAway⟩ | ⟨rightOld, -, rightNamed, rfl⟩
      · rw [alone leftPresent leftNamed rightOld rightAway leftPending] at rightBefore
        cases rightBefore
      · rw [ObCallback.move_id, ObCallback.move_id, leftNamed, rightNamed]

theorem callbacksApart_performs (met : returnsAlone.asks world pid tick request = true)
    (performed : performDialer host pid tick request world.store = some (reply, store)) :
    CallbacksApart store (world.performing pid request reply store).history := by
  obtain ⟨later, toldNow⟩ := performDialer_now performed
  constructor
  · intro left leftMember right rightMember rivalry
    exact rivals_step kept inv permitted met performed leftMember rightMember rivalry
  · intro other now told
    rcases told_performing told with old | ⟨-, same⟩
    · exact Int.le_trans (inv.clock other now old) later
    · exact toldNow now same
  · intro other contactId now told work inside
    rcases told_performing told with old | ⟨rfl, same⟩
    · obtain ⟨before, found, locks, running⟩ := open_before permitted old inside
      exact ⟨locks (inv.searched other contactId now old before found).1,
        searched_rows kept inv permitted met performed old found running⟩
    · cases same
      rw [World.history_performing, if_pos rfl, transactionOf_append] at inside
      obtain ⟨command, -, asked, before, found, held, -⟩ : ∃ command, call = .persist command ∧
            persistPermits command (world.history other) (.findPendingCallback contactId now) :=
        permits_inside inside permitted
      rw [found] at inside
      cases inside
      obtain ⟨same, absent⟩ := look_answered performed rfl
      refine ⟨held, fun row mem => ?_⟩
      rw [same] at mem
      by_contra pending
      have none := filter_eq_nil_iff.mp (anyOf_none absent.symm) row mem
      exact none (pendingFor_later (Int.le_trans (inv.clock other now asked) later)
        (Bool.not_eq_false _ ▸ pending))
  · intro other row changing
    rcases changing_performing changing with old | ⟨rfl, writes⟩
    · obtain ⟨now, told⟩ := inv.pending other row old
      exact ⟨now, told.performing⟩
    · cases produces_effect writes
      obtain ⟨command, -, -, -, now, told⟩ := permits_ofCommand rfl permitted
      exact ⟨now, told.performing⟩

end

theorem callbacksApart_preserves :
    PreservesBeside (dialerMachine host) returnsAlone (dialerProtocol host) (RecordsKept host)
      fun world => CallbacksApart world.store world.history := by
  refine preservesBeside_made (fun store history _ => CallbacksApart store history)
    (fun _ _ _ _ _ inv _ _ => inv) ?_ ?_
  · intro world pid call tick request reply store kept inv called permitted met performed
    exact callbacksApart_performs kept inv permitted met performed
  · intro world label store kept inv met moved
    have same := elsewhere_alone moved
    have still := same.now
    constructor
    · rw [same.callbacks, still]
      exact inv.apart
    · rw [still]
      exact inv.clock
    · rw [same.callbacks, still]
      exact inv.searched
    · exact inv.pending

end Callbacks

/-! ## Campaign targets -/

def foundNoCross (history : DialerHistory) (campaignId contactId : String) : Bool :=
  history.any fun
    | ⟨.findCrossCampaign campaign contact, .ok none⟩ =>
        campaign != campaignId && contact == contactId
    | _ => false

theorem foundNoCross_of_told {campaignId other : String}
    (told : Told history (.findCrossCampaign other contactId) none) (differs : other ≠ campaignId) :
    foundNoCross history campaignId contactId = true :=
  any_eq_true.mpr ⟨_, told, by simp [differs]⟩

def forbids (policies : List ObCampaignAdmissionPolicy) : Bool :=
  policies.all fun policy => !policy.allowCrossCampaignDuplicate

/-- Every policy forbids targets in two campaigns, and who finds no target of a contact in another
campaign finds none while somebody else who has found none, for another campaign, is about to admit
the contact. -/
def admitsApart : DialerCondition where
  asks world pid _ request :=
    match request with
    | .findCrossCampaign campaignId contactId =>
        (world.store.db.tables.targets.any fun row =>
          row.contactId == contactId && row.campaignId != campaignId) ||
        !(world.store.db.sessions.any fun session => session.pid != pid &&
          foundNoCross (world.history session.pid) campaignId contactId)
    | _ => true
  elsewhere _ label :=
    match label with
    | .policies rows => forbids rows
    | _ => true

/-- The worker has found no target of a contact outside a campaign, and its transaction is open. -/
def Admitting (history : DialerHistory) (campaignId contactId : String) : Prop :=
  Told history (.findCrossCampaign campaignId contactId) none ∧
    ∃ work, transactionOf history = some work

/-- What the targets are, and what the workers know of them. -/
structure TargetsApart (tables : DialerTables) (history : Nat → DialerHistory) : Prop where
  policies : forbids tables.policies = true
  told : ∀ pid campaignId policy, Told (history pid) (.findPolicy campaignId) policy →
    allowsDuplicate policy = false
  pending : ∀ pid row, Changing (history pid) (.createTarget row) →
    Told (history pid) (.findCrossCampaign row.campaignId row.contactId) none
  searched : ∀ pid campaignId contactId, Admitting (history pid) campaignId contactId →
    ∀ row ∈ tables.targets, row.contactId = contactId → row.campaignId = campaignId
  alone : ∀ left right leftCampaign rightCampaign contactId, left ≠ right →
    Admitting (history left) leftCampaign contactId →
    Admitting (history right) rightCampaign contactId → leftCampaign = rightCampaign
  apart : ∀ left ∈ tables.targets, ∀ right ∈ tables.targets, left.contactId = right.contactId →
    left.campaignId = right.campaignId

section Targets

variable {host : DialerHost} {world : DialerWorld} {pid : Nat} {call : DialerCall}
  {tick : DialerTick} {request : DialerRequest} {reply : Except DialerError request.Reply}
  {store : DialerStore}

/-- What a request does to the targets: a target keeps its contact and its campaign, and a new one
was created by the transaction that is committed. -/
theorem targets_step (kept : RecordsKept host world)
    (permitted : (dialerProtocol host).permits call (world.history pid) request)
    (performed : performDialer host pid tick request world.store = some (reply, store))
    {row : ObCampaignTarget} (mem : row ∈ store.db.tables.targets) :
    (∃ old ∈ world.store.db.tables.targets,
      old.contactId = row.contactId ∧ old.campaignId = row.campaignId) ∨
    (⟨request, reply⟩ : DialerExchange) = ⟨.commit, .ok ()⟩ ∧
      Changing (world.history pid) (.createTarget row) := by
  rcases records_step kept.1 (kept.2.single pid) performed with same | ⟨change, -, same, changing⟩
  · exact .inl ⟨row, same.targets ▸ mem, rfl, rfl⟩
  · rw [same.targets] at mem
    cases change with
    | createTarget created =>
        rcases mem_snoc.mp mem with old | rfl
        · exact .inl ⟨row, old, rfl, rfl⟩
        · rcases changing with committed | ⟨outside, writes⟩
          · exact .inr committed
          · obtain ⟨work, inside⟩ := created_inside permitted writes rfl
            cases outside.symm.trans inside
    | moveTarget id state data =>
        obtain ⟨old, present, rfl⟩ := mem_map.mp mem
        refine .inl ⟨old, present, ?_⟩
        split
        next => exact ⟨(ObCampaignTarget.move_contactId ..).symm,
            (ObCampaignTarget.move_campaignId ..).symm⟩
        next => exact ⟨rfl, rfl⟩
    | _ => exact .inl ⟨row, mem, rfl, rfl⟩

/-- Who is admitting a contact after a request was doing so before, or has just looked. -/
theorem admitting_step (permitted : (dialerProtocol host).permits call (world.history pid) request)
    {other : Nat} {campaignId : String}
    (admitting : Admitting ((world.performing pid request reply store).history other) campaignId
      contactId) :
    (Admitting (world.history other) campaignId contactId ∧
      (other = pid → (⟨request, reply⟩ : DialerExchange) ≠ ⟨.commit, .ok ()⟩)) ∨
    other = pid ∧ (⟨request, reply⟩ : DialerExchange) =
      ⟨.findCrossCampaign campaignId contactId, .ok none⟩ := by
  obtain ⟨told, next, inside⟩ := admitting
  rcases told_performing told with old | same
  · obtain ⟨work, found, -, running⟩ := open_before permitted old inside
    exact .inl ⟨⟨old, work, found⟩, running⟩
  · exact .inr same

theorem targetsApart_performs (kept : RecordsKept host world)
    (inv : TargetsApart world.store.db.tables world.history)
    (permitted : (dialerProtocol host).permits call (world.history pid) request)
    (met : admitsApart.asks world pid tick request = true)
    (performed : performDialer host pid tick request world.store = some (reply, store)) :
    TargetsApart store.db.tables (world.performing pid request reply store).history := by
  have creating : ∀ row, Changing (world.history pid) (.createTarget row) →
      Admitting (world.history pid) row.campaignId row.contactId := by
    intro row changing
    have told := inv.pending pid row changing
    obtain ⟨work, inside, -⟩ := changing
    exact ⟨told, work, inside⟩
  constructor
  · rw [policies_performed performed]
    exact inv.policies
  · intro other campaignId policy told
    rcases told_performing told with old | ⟨-, same⟩
    · exact inv.told other campaignId policy old
    · cases same
      cases policy with
      | none => rfl
      | some policy =>
          have mem := Table.lookup_mem (look_answered performed rfl).2.symm
          simpa [allowsDuplicate] using all_eq_true.mp inv.policies policy mem
  · intro other row changing
    rcases changing_performing changing with old | ⟨rfl, writes⟩
    · exact (inv.pending other row old).performing
    · cases produces_effect writes
      obtain ⟨command, -, -, -, policy, told, alone⟩ := permits_ofCommand rfl permitted
      exact (alone (inv.told other row.campaignId policy told)).performing
  · intro other campaignId contactId admitting row mem contact
    rcases admitting_step permitted admitting with ⟨before, running⟩ | ⟨rfl, looked⟩
    · rcases targets_step kept permitted performed mem with
        ⟨old, present, sameContact, sameCampaign⟩ | ⟨commits, changing⟩
      · rw [← sameCampaign]
        exact inv.searched other campaignId contactId before old present (sameContact.trans contact)
      · by_cases own : other = pid
        · exact absurd commits (running own)
        · exact inv.alone pid other row.campaignId campaignId contactId (Ne.symm own)
            (contact ▸ creating row changing) before
    · cases looked
      obtain ⟨same, absent⟩ := look_answered performed rfl
      have none := filter_eq_nil_iff.mp (anyOf_none absent.symm) row (same ▸ mem)
      simpa [contact] using none
  · intro left right leftCampaign rightCampaign contactId differs leftAdmits rightAdmits
    have looked : ∀ other campaignId otherCampaign, other ≠ pid →
        (⟨request, reply⟩ : DialerExchange) = ⟨.findCrossCampaign campaignId contactId, .ok none⟩ →
        Admitting (world.history other) otherCampaign contactId → otherCampaign = campaignId := by
      intro other campaignId otherCampaign away looked admits
      cases looked
      by_contra cross
      obtain ⟨told, work, inside⟩ := admits
      have session := Session.find_mem ((kept.1.inside other).trans inside)
      obtain ⟨-, absent⟩ := look_answered performed rfl
      have none := filter_eq_nil_iff.mp (anyOf_none absent.symm)
      simp only [admitsApart, Bool.or_eq_true, Bool.not_eq_true', any_eq_false, any_eq_true] at met
      rcases met with ⟨row, mem, found⟩ | unsearched
      · exact none row mem found
      · refine unsearched _ session ?_
        rw [foundNoCross_of_told told cross]
        simpa using away
    rcases admitting_step permitted leftAdmits with ⟨leftBefore, -⟩ | ⟨rfl, leftLooked⟩
    · rcases admitting_step permitted rightAdmits with ⟨rightBefore, -⟩ | ⟨rfl, rightLooked⟩
      · exact inv.alone left right _ _ contactId differs leftBefore rightBefore
      · exact looked left rightCampaign leftCampaign differs rightLooked leftBefore
    · rcases admitting_step permitted rightAdmits with ⟨rightBefore, -⟩ | ⟨rfl, -⟩
      · exact (looked right leftCampaign rightCampaign (Ne.symm differs) leftLooked rightBefore).symm
      · exact absurd rfl differs
  · intro left leftMember right rightMember contact
    rcases targets_step kept permitted performed leftMember with
      ⟨leftOld, leftPresent, leftContact, leftCampaign⟩ | ⟨-, leftChanging⟩
    · rcases targets_step kept permitted performed rightMember with
        ⟨rightOld, rightPresent, rightContact, rightCampaign⟩ | ⟨-, rightChanging⟩
      · rw [← leftCampaign, ← rightCampaign]
        exact inv.apart leftOld leftPresent rightOld rightPresent
          (leftContact.trans (contact.trans rightContact.symm))
      · rw [← leftCampaign]
        exact inv.searched pid _ _ (creating right rightChanging) leftOld leftPresent
          (leftContact.trans contact)
    · rcases targets_step kept permitted performed rightMember with
        ⟨rightOld, rightPresent, rightContact, rightCampaign⟩ | ⟨-, rightChanging⟩
      · rw [← rightCampaign]
        exact (inv.searched pid _ _ (creating left leftChanging) rightOld rightPresent
          (rightContact.trans contact.symm)).symm
      · cases (kept.2.single pid).same leftChanging rightChanging rfl rfl
        rfl

theorem targetsApart_preserves :
    PreservesBeside (dialerMachine host) admitsApart (dialerProtocol host) (RecordsKept host)
      fun world => TargetsApart world.store.db.tables world.history := by
  refine preservesBeside_made (fun (store : DialerStore) history _ =>
    TargetsApart store.db.tables history) (fun _ _ _ _ _ inv _ _ => inv) ?_ ?_
  · intro world pid call tick request reply store kept inv called permitted met performed
    exact targetsApart_performs kept inv permitted met performed
  · intro world label store kept inv met moved
    have same := elsewhere_alone moved
    constructor
    · cases label with
      | policies rows =>
          cases moved
          exact met
      | runtime step | campaigns rows =>
          cases moved
          exact inv.policies
      | reserved row =>
          change (if _ then _ else _) = _ at moved
          split at moved
          next => cases moved; exact inv.policies
          next => cases moved
    · exact inv.told
    · exact inv.pending
    · rw [same.targets]
      exact inv.searched
    · exact inv.alone
    · rw [same.targets]
      exact inv.apart

end Targets

/-! ## What is claimed of a run -/

def NoRivals (world : DialerWorld) : Prop :=
  ∀ left ∈ world.store.db.tables.callbacks, ∀ right ∈ world.store.db.tables.callbacks,
    left.contactId = right.contactId → left.state = .scheduled → right.state = .scheduled →
      world.store.now < left.expiresAt → world.store.now < right.expiresAt → left = right

instance (world : DialerWorld) : Decidable (NoRivals world) := by
  unfold NoRivals
  infer_instance

/-- The states of a target that its campaign may still call, or is calling. -/
def live : ObCampaignTargetState → Bool
  | .consumed | .cancelled | .superseded => false
  | _ => true

def OneCampaign (world : DialerWorld) : Prop :=
  ∀ left ∈ world.store.db.tables.targets, ∀ right ∈ world.store.db.tables.targets,
    left.contactId = right.contactId → live left.state = true → live right.state = true →
      left.campaignId = right.campaignId

instance (world : DialerWorld) : Decidable (OneCampaign world) := by
  unfold OneCampaign
  infer_instance

def Forbidding (store : DialerStore) : Prop :=
  store.Fresh ∧ forbids store.db.tables.policies = true

variable {workers : DialerWorkers}

theorem noRivals_of_returnsAlone {host : DialerHost}
    (reachable : (runs (dialerMachine host) DialerStore.Fresh returnsAlone).Reachable
      workers) : NoRivals workers.world := by
  have initially : ∀ store : DialerStore, store.Fresh → RecordsKept host
      (idle store : DialerWorkers).world ∧ CallbacksApart store fun _ => [] := by
    intro store fresh
    refine ⟨recordsKept_initially fresh, ?_, fun _ _ told => absurd told not_mem_nil,
      fun _ _ _ told => absurd told not_mem_nil, ?_⟩
    · rw [fresh.2.2.1]
      exact forall_mem_nil _
    · rintro pid row ⟨work, found, -⟩
      cases found
  obtain ⟨⟨kept, apart⟩, -⟩ := (recordsKept_preserves.and callbacksApart_preserves).kept
    (dialer_conforms host) initially reachable
  intro left leftMember right rightMember contact leftState rightState leftTime rightTime
  refine Table.eq_of_key_eq (kept.2.ids .callback) leftMember rightMember
    (apart.apart left leftMember right rightMember (rivals_iff.mpr ⟨?_, ?_⟩))
  · simp [pendingFor, leftState, leftTime]
  · simp [pendingFor, contact, rightState, rightTime]

theorem oneCampaign_of_admitsApart {host : DialerHost}
    (reachable : (runs (dialerMachine host) Forbidding admitsApart).Reachable workers) :
    OneCampaign workers.world := by
  have initially : ∀ store : DialerStore, Forbidding store → RecordsKept host
      (idle store : DialerWorkers).world ∧ TargetsApart store.db.tables fun _ => [] := by
    rintro store ⟨fresh, forbidding⟩
    refine ⟨recordsKept_initially fresh, forbidding, fun _ _ _ told => absurd told not_mem_nil, ?_,
      fun _ _ _ admitting => absurd admitting.1 not_mem_nil,
      fun _ _ _ _ _ _ admitting => absurd admitting.1 not_mem_nil, ?_⟩
    · rintro pid row ⟨work, found, -⟩
      cases found
    · rw [fresh.2.2.2.1]
      exact forall_mem_nil _
  obtain ⟨⟨-, apart⟩, -⟩ := (recordsKept_preserves.and targetsApart_preserves).kept
    (dialer_conforms host) initially reachable
  exact fun left leftMember right rightMember contact _ _ =>
    apart.apart left leftMember right rightMember contact

/-- No contact has two pending callbacks in a run whose returned callbacks are alone, and none is a
live target of two campaigns in a run whose admissions are apart. -/
theorem contacts_admitted_once (host : DialerHost) :
    (∀ workers, (runs (dialerMachine host) DialerStore.Fresh returnsAlone).Reachable
      workers → NoRivals workers.world) ∧
    ∀ workers, (runs (dialerMachine host) Forbidding admitsApart).Reachable workers →
      OneCampaign workers.world :=
  ⟨fun _ => noRivals_of_returnsAlone, fun _ => oneCampaign_of_admitsApart⟩

/-! ## Contacts that are admitted twice -/

/-- A step after which every policy still forbids targets in two campaigns. -/
def keepsForbidding : WorkerStep DialerTick DialerCall DialerElsewhere → Bool
  | .elsewhere (.policies rows) => forbids rows
  | _ => true

def scheduleRun (pid : Nat) (callbackId receiptId : String) :
    List (WorkerStep DialerTick DialerCall DialerElsewhere) :=
  [.start (.persist (pilotCommand receiptId receiptId "request"
    (.scheduleCallback "2026-01-01T00:00:00Z" "queue" none)))] ++
    pilotRequests pid 17 (pilotTick 1 callbackId) ++ pilotRequests pid 4 (pilotTick 1 receiptId)

/-- The barrier claims a callback; before its call is rejected, another one is scheduled. -/
def rejectedRun : List (WorkerStep DialerTick DialerCall DialerElsewhere) :=
  scheduleRun 0 "first" "first receipt" ++ [.start (.originateCallback "first" "correlation")] ++
    pilotRequests 1 8 (pilotTick 1 "") ++ scheduleRun 2 "second" "second receipt" ++
    [.elsewhere (.reserved (pilotReservation .callback "first")),
      .perform 1 (pilotTick 1 "delivery"), .perform 1 (pilotTick 1 "key")] ++
    pilotRequests 1 7 { pilotTick 1 "outcome" with response := .rejected "BUSY" }

/-- Admissions of one contact to two campaigns both look before either is committed. -/
def crossingRun : List (WorkerStep DialerTick DialerCall DialerElsewhere) :=
  [.start (.persist (pilotCommand "first" "first" "request" (.admitCampaignTarget "campaign"))),
    .start (.persist (pilotCommand "second" "second" "request"
      (.admitCampaignTarget "other campaign")))] ++
    pilotRequests 0 15 (pilotTick 1 "") ++ pilotRequests 1 15 (pilotTick 1 "") ++
    pilotRequests 0 2 (pilotTick 1 "first target") ++
    pilotRequests 0 4 (pilotTick 1 "first receipt") ++
    pilotRequests 1 2 (pilotTick 1 "second target") ++
    pilotRequests 1 3 (pilotTick 1 "second receipt")

/-- A rejected call leaves two pending callbacks of one contact, and two admissions that cross leave
one contact a live target of two campaigns. -/
theorem contacts_admitted_twice :
    (∃ workers, (system (dialerMachine pilotHost) DialerStore.Fresh).Reachable workers ∧
      ¬ NoRivals workers.world) ∧
    ∃ workers, ((system (dialerMachine pilotHost) Forbidding).restrict fun _ step =>
      keepsForbidding step = true).Reachable workers ∧ ¬ OneCampaign workers.world := by
  constructor
  · have ends : System.endsWith (next (dialerMachine pilotHost)) (idle pilotStore)
        rejectedRun (.perform 1 (pilotTick 1 "")) (fun _ after =>
          decide (¬ NoRivals after.world)) = true := by decide +kernel
    obtain ⟨before, after, reachable, taken, rivals⟩ := endsWith pilotStore_fresh ends
    exact ⟨after, reachable.step taken, of_decide_eq_true rivals⟩
  · have ends : System.endsWith (System.guardNext (fun _ step => keepsForbidding step)
        (next (dialerMachine pilotHost))) (idle pilotStore) crossingRun
        (.perform 1 (pilotTick 1 "")) (fun _ after =>
          decide (¬ OneCampaign after.world)) = true := by decide +kernel
    obtain ⟨before, after, reachable, taken, twice⟩ :=
      endsWithGuarded (show Forbidding pilotStore from ⟨pilotStore_fresh, rfl⟩) ends
    exact ⟨after, reachable.step taken, of_decide_eq_true twice⟩

end DContact.Dialer
